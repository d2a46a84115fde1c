import StoreBridge.Sql.Cast
import StoreBridge.Sql.Server

/-!
# Dialects

How the SQL stores differ: how a statement is written for the server, how the answer to a write is
acknowledged, what is looked at first, and whether a transaction can begin inside another one. What
a store says of itself (`Backend.capabilities`) plays no part in what it does.
-/

namespace StoreBridge

/-- What it comes to to begin a transaction inside another one. -/
inductive NestedBegin where
  /-- It is refused, whatever has become of the outer one. -/
  | refused
  /-- A savepoint is set on the connection of the outer one. -/
  | savepoint
  deriving DecidableEq, Repr

/-- What is particular to a SQL store. -/
structure Dialect where
  backend : Backend
  /-- The query for the version of the server. -/
  versionText : String
  /-- The text of a statement as the server gets it. -/
  render : SqlRequest → String
  /-- The keys that the acknowledgement of a write names, by its text and the last key. -/
  keys : String → Int → List Json
  /-- Whether a request of the wrong kind is refused before a closed adapter is. -/
  requestFirst : Bool := false
  /-- How a transaction begins inside another one. A store that says nothing about it refuses. -/
  nestedBegin : NestedBegin := .refused
  /-- Whether an ended transaction is refused before a request of the wrong kind is. -/
  activeFirst : Bool := false
  /-- Whether a failure to close the pool is reported. -/
  reportsClose : Bool := false

namespace Dialect

/-- PostgreSQL numbers and casts placeholders and names no keys. It sets savepoints, which outlive
the mark that a transaction has ended, so it looks at the mark before anything else. -/
def postgresql : Dialect where
  backend := .postgresql
  versionText := "SELECT version()"
  render := SqlRequest.postgresText
  keys _ _ := []
  nestedBegin := .savepoint
  activeFirst := true

/-- MySQL names the last generated key, which is zero when there is none. -/
def mysql : Dialect where
  backend := .mysql
  versionText := "SELECT version()"
  render r := r.text
  keys _ last := if last = 0 then [] else [.int last]

/-- SQLite names the last row number after each statement that begins like an insert. -/
def sqlite : Dialect where
  backend := .sqlite
  versionText := "SELECT sqlite_version()"
  render r := r.text
  keys text last := if isInsert text then [.int last] else []

/-- Oracle numbers placeholders and has its own limit clause. Its pool may fail to close. -/
def oracle : Dialect where
  backend := .oracle
  versionText := "SELECT banner FROM v$version"
  render r := oracleText r.text
  keys _ _ := []
  requestFirst := true
  reportsClose := true

/-- The dialects of the stores. -/
def all : List Dialect := [postgresql, mysql, sqlite, oracle]

/-- The output of a statement: the rows of a read, the acknowledgement of anything else. -/
def output (d : Dialect) (text : String) (reply : Reply) : Output :=
  if isRead text then .rows reply.rows
  else .ack ⟨reply.affected, d.keys text reply.lastId⟩

end Dialect

end StoreBridge
