import StoreBridge.Text.Fold

/-!
# Backends

The kinds of store an adapter can talk to, how their placeholders are written, and what an adapter
or an open transaction can do. The scheme of a connection string decides the backend.
-/

namespace StoreBridge

/-- A kind of store. MariaDB counts as MySQL. -/
inductive Backend where
  | postgresql
  | mysql
  | sqlite
  | oracle
  | mongodb
  deriving DecidableEq, Repr, Inhabited

/-- How the parameters of a statement are marked: `?`, `$1` or `:1`. -/
inductive PlaceholderStyle where
  | question
  | dollar
  | colon
  deriving DecidableEq, Repr

/-- What an adapter or an open transaction can do. -/
structure Capabilities where
  /-- A transaction may be opened inside a transaction. -/
  nestedTransactions : Bool
  /-- Transactions run inside a client session instead of on a connection. -/
  sessions : Bool
  /-- The adapter keeps prepared statements. -/
  preparedStatementCache : Bool
  deriving DecidableEq, Repr

namespace Backend

def all : List Backend := [.postgresql, .mysql, .sqlite, .oracle, .mongodb]

/-- The spelling used inside data. -/
def tag : Backend → String
  | .postgresql => "postgresql"
  | .mysql => "mysql"
  | .sqlite => "sqlite"
  | .oracle => "oracle"
  | .mongodb => "mongodb"

/-- The product's name, for messages. -/
def displayName : Backend → String
  | .postgresql => "PostgreSQL"
  | .mysql => "MySQL"
  | .sqlite => "SQLite"
  | .oracle => "Oracle"
  | .mongodb => "MongoDB"

/-- The name in debugging output. -/
def debugName : Backend → String
  | .postgresql => "PostgreSQL"
  | .mysql => "MySql"
  | .sqlite => "Sqlite"
  | .oracle => "Oracle"
  | .mongodb => "MongoDb"

/-- Whether the store takes SQL text. -/
def isRelational (b : Backend) : Bool :=
  b != .mongodb

/-- How placeholders are written, for stores that take SQL text. -/
def placeholderStyle : Backend → Option PlaceholderStyle
  | .postgresql => some .dollar
  | .mysql => some .question
  | .sqlite => some .question
  | .oracle => some .colon
  | .mongodb => none

/-- The beginnings of a connection string and the backend each stands for. -/
def schemes : List (String × Backend) :=
  [("postgres://", .postgresql), ("postgresql://", .postgresql),
   ("mysql://", .mysql), ("mariadb://", .mysql),
   ("sqlite:", .sqlite), ("oracle://", .oracle),
   ("mongodb://", .mongodb), ("mongodb+srv://", .mongodb)]

/-- The backend that the beginning of a connection string names, in any letter case. -/
def ofConnectionString? (s : String) : Option Backend :=
  let cs := lower s.toList
  (schemes.find? fun (scheme, _) => scheme.toList.isPrefixOf cs).map Prod.snd

/-- What an adapter for this backend can do. -/
def capabilities : Backend → Capabilities
  | .postgresql => ⟨true, false, false⟩
  | .mysql => ⟨false, false, false⟩
  | .sqlite => ⟨false, false, true⟩
  | .oracle => ⟨false, false, false⟩
  | .mongodb => ⟨false, true, false⟩

end Backend

end StoreBridge
