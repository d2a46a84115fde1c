import StoreBridge.Proofs.Sql.ServerInvariant
import StoreBridge.Proofs.Sqlite.InsertedRows
import StoreBridge.Proofs.Text.Opening
import StoreBridge.Sqlite.Connection

/-!
# The number that an insert is acknowledged with

A write through the SQLite store is acknowledged with a key if its text opens like an insert, and
the key is the number of the row that was inserted last. That number belongs to the connection, and
whatever statement inserted a row last has left it there. So what an acknowledgement names depends
on the statements before it, and the invariant has to hold of whole histories.

`Connection.recorded` is the connection next to the list of all rows that were inserted so far. What
it keeps is `Connection.Numbered`: the number is the one of the last row in the list. It follows
from what one text leaves behind (`Connection.runAll_inserted`), and that from
`Engine.run_inserted`. A reply names no number if its text has no statement, but a text that opens
like an insert has one (`parseNext_of_isInsert`): its first token begins with a letter, or with a
blank that is none to the engine.

`Connection.insert_acknowledged` says which row is named. It is a row of the statement itself only
if the statement inserted one. An insert that leaves out all its rows is acknowledged with an older
row (`Connection.ignoredInsert_acknowledged`), although it touched none.
-/

namespace StoreBridge

namespace Sqlite

/-! ### A text that opens like an insert -/

namespace Token

/-- A token begins with the character at which it was split off. -/
theorem splitFrom_of_gapRun {fuel start : Nat} {c : Char} {cs : List Char}
    (hgap : gapRun (c :: cs) = 0) (hc : c ≠ ';') :
    ∃ t ts, splitFrom (fuel + 1) start (c :: cs) = t :: ts ∧ t.isSymbol ";" = false := by
  unfold splitFrom
  rw [if_neg (not_not.mpr hgap)]
  refine ⟨_, _, rfl, Bool.and_eq_false_imp.mpr fun _ => beq_eq_false_iff_ne.mpr fun htext => hc ?_⟩
  have hchars := congrArg String.toList htext
  rw [String.toList_ofList, List.take_cons (by omega)] at hchars
  exact (List.cons.inj hchars).1

/-- Neither a blank nor a letter begins a comment. -/
theorem gapRun_of_ne {c : Char} (hdash : c ≠ '-') (hslash : c ≠ '/') (cs : List Char) :
    gapRun (c :: cs) = if isSpace c then 1 else 0 := by
  unfold gapRun
  split
  · next h => exact absurd (List.cons.inj h).1 hdash
  · next h => exact absurd (List.cons.inj h).1 hslash
  · next h => rw [(List.cons.inj h).1]
  · next h => exact absurd h nofun

/-- **The first token** of a text that opens with a letter, behind blanks of any kind, is no
semicolon. A blank that does not separate tokens is itself the beginning of the first one. -/
theorem splitFrom_of_trimStart {fuel : Nat} {c : Char} {cs rest : List Char} (start : Nat)
    (hfuel : cs.length < fuel) (hcs : trimStart cs = c :: rest) (hc : isWordStart c = true) :
    ∃ t ts, splitFrom fuel start cs = t :: ts ∧ t.isSymbol ";" = false := by
  -- On the blanks before the letter; the first that separates no tokens ends the argument.
  induction cs generalizing fuel start with
  | nil => exact absurd hcs nofun
  | cons b cs ih =>
    obtain ⟨fuel, rfl⟩ := Nat.exists_eq_succ_of_ne_zero (Nat.ne_zero_of_lt hfuel)
    have hb : isBlank b = true ∨ isWordStart b = true := by
      by_cases hblank : isBlank b = true
      · exact .inl hblank
      · rw [trimStart, List.dropWhile_cons_of_neg hblank] at hcs
        exact .inr ((List.cons.inj hcs).1 ▸ hc)
    -- It is a blank or a letter, so it begins no comment and is no semicolon.
    have hne : b ≠ ';' ∧ b ≠ '-' ∧ b ≠ '/' := by
      refine ⟨?_, ?_, ?_⟩ <;> rintro rfl <;> exact absurd hb (by decide)
    have hgap := gapRun_of_ne hne.2.1 hne.2.2 cs
    by_cases hspace : isSpace b = true
    · rw [if_pos hspace] at hgap
      have hblank : isBlank b = true := by
        simp only [isSpace, Bool.or_eq_true, decide_eq_true_eq] at hspace
        rcases hspace with (((rfl | rfl) | rfl) | rfl) | rfl <;> decide
      rw [trimStart, List.dropWhile_cons_of_pos hblank] at hcs
      have hskip : splitFrom (fuel + 1) start (b :: cs) = splitFrom fuel (start + 1) cs := by
        conv_lhs => unfold splitFrom
        rw [hgap]
        rfl
      rw [hskip]
      exact ih (start + 1) (by simpa using hfuel) hcs
    · rw [if_neg hspace] at hgap
      exact splitFrom_of_gapRun hgap hne.1

end Token

/-- A text that opens like an insert has a statement, or it is refused. -/
theorem parseNext_of_isInsert {text : String} (h : isInsert text = true) :
    parseNext text (Token.split text) ≠ .ok none := by
  -- The word that a text opens with begins with a letter, and blanks are all that stands before.
  obtain ⟨c, rest, htrim, hc⟩ : ∃ c rest, trimStart text.toList = c :: rest ∧
      isWordStart c = true := by
    unfold isInsert beginsWith at h
    have hletters := isWordStart_of_sameIgnoringCase h (List.all_eq_true.mp rfl)
    cases htrim : trimStart text.toList with
    | nil =>
      rw [htrim] at h
      exact absurd h (by decide)
    | cons c rest =>
      rw [htrim] at hletters
      exact ⟨c, rest, rfl, hletters c List.mem_cons_self⟩
  -- Such a letter begins the first token, which is a word and no semicolon.
  obtain ⟨t, ts, hsplit, ht⟩ := Token.splitFrom_of_trimStart 0
    (show text.toList.length < text.length + 1 by rw [String.length_toList]; omega) htrim hc
  -- No semicolon is skipped in front of the first token, so a statement is parsed from there.
  intro hnone
  have hdrop : (Token.split text).dropWhile (fun t => t.isSymbol ";") = t :: ts := by
    rw [Token.split, hsplit, List.dropWhile_cons_of_neg (by rw [ht]; decide)]
  unfold parseNext at hnone
  rw [hdrop] at hnone
  obtain ⟨parsed, -, hparsed⟩ := bind_eq_ok.mp hnone
  exact absurd (Except.ok.inj hparsed) nofun

/-! ### What a text inserts -/

namespace Connection

/-- The rows that the statements of a text insert, in order, up to the first that fails. It goes
through the statements as `runAll` does. -/
def insertedBy (source : String) (arguments : List Datum) :
    Nat → List Token → Nat → Engine → List StoredRow
  | 0, _, _, _ => []
  | fuel + 1, tokens, used, e =>
    match parseNext source tokens with
    | .ok (some parsed) =>
      match bindAll parsed.parameters arguments used with
      | .ok (bound, used) =>
        match Engine.run parsed.statement bound e with
        | (.ok _, after) =>
          e.inserted parsed.statement bound ++
            insertedBy source arguments fuel parsed.rest used after
        | (.error _, _) => e.inserted parsed.statement bound
      | .error _ => []
    | _ => []

/-- The rows that a command inserts. -/
def inserted (c : Connection) : Command → List StoredRow
  | .version text => ofText text []
  | .statement text arguments => ofText text arguments
  | _ => []
where
  /-- The rows that a text inserts. -/
  ofText (text : String) (arguments : List Argument) : List StoredRow :=
    let tokens := Token.split text
    insertedBy text (arguments.map Datum.ofArgument) (tokens.length + 1) tokens 0 c.engine

/-- The number of the row that was inserted last. -/
def lastNumber (c : Connection) : Int := c.engine.counters.lastNumber

/-- Work of the engine is work on the connection, with the failures of the driver. -/
theorem work_of_run {α : Type} {w : Work α} {c : Connection} {answer : Except Fault α} {e : Engine}
    (h : w c.engine = (answer, e)) :
    work w c = (answer.mapError Fault.toDriverError, { c with engine := e }) := by
  have hrun : w.run c.engine = (answer, e) := h
  unfold work
  rw [hrun]

/-- **What a text leaves behind.** The number of the last row that its statements insert is the one
that was inserted last. If it succeeds, each of these rows is counted in the reply, and the reply
names that number, unless the text has no statement at all. -/
theorem runAll_inserted (source : String) (arguments : List Datum) {fuel : Nat}
    {tokens : List Token}
    {used : Nat} {reply : Reply} {c c' : Connection} {answer : Except DriverError Reply}
    (h : runAll source arguments fuel tokens used reply c = (answer, c')) :
    c'.lastNumber = lastOf (insertedBy source arguments fuel tokens used c.engine) c.lastNumber ∧
      ∀ out, answer = .ok out →
        reply.affected + (insertedBy source arguments fuel tokens used c.engine).length
          ≤ out.affected ∧
        (reply.lastId = c.lastNumber ∨ 0 < fuel ∧ parseNext source tokens ≠ .ok none →
          out.lastId = c'.lastNumber) := by
  -- Along the statements. Each reports the number, so only a text without one keeps the reply's.
  induction fuel generalizing tokens used reply c with
  | zero =>
    obtain ⟨rfl, rfl⟩ := Prod.mk.inj h
    refine ⟨rfl, fun out hout => ⟨?_, fun hlast => ?_⟩⟩
    · rw [Except.ok.inj hout]
      exact Nat.le_refl _
    · rw [← Except.ok.inj hout]
      exact hlast.resolve_right fun hpos => absurd hpos.1 (Nat.lt_irrefl 0)
  | succ fuel ih =>
    unfold runAll at h
    unfold insertedBy
    rcases hparse : parseNext source tokens with text | (_ | parsed)
    · rw [hparse] at h
      obtain ⟨rfl, rfl⟩ := Prod.mk.inj h
      exact ⟨rfl, nofun⟩
    · rw [hparse] at h
      obtain ⟨rfl, rfl⟩ := Prod.mk.inj h
      refine ⟨rfl, fun out hout => ⟨?_, fun hlast => ?_⟩⟩
      · rw [Except.ok.inj hout]
        exact Nat.le_refl _
      · rw [← Except.ok.inj hout]
        exact hlast.resolve_right fun hsome => hsome.2 rfl
    rw [hparse] at h
    dsimp only at h ⊢
    -- With too few arguments the text ends before the statement runs.
    rcases hbind : bindAll parsed.parameters arguments used with e | ⟨bound, used'⟩
    · rw [hbind] at h
      obtain ⟨rfl, rfl⟩ := Prod.mk.inj h
      exact ⟨rfl, nofun⟩
    rw [hbind] at h
    dsimp only at h ⊢
    rcases hrun : Engine.run parsed.statement bound c.engine with ⟨f | r, after⟩
    · -- The text ends with the statement that fails.
      rw [step_of_error (work_of_run hrun)] at h
      obtain ⟨rfl, rfl⟩ := Prod.mk.inj h
      exact ⟨(Engine.run_inserted _ _ hrun).1, nofun⟩
    · rw [step_of_ok (work_of_run hrun)] at h
      obtain ⟨hnumber, hcount⟩ := Engine.run_inserted _ _ hrun
      -- The rest of the text starts from the number that this statement left.
      obtain ⟨hrest, hok⟩ := ih h
      dsimp only
      rw [lastOf_append, List.length_append]
      refine ⟨hrest.trans (congrArg _ hnumber), fun out hout => ?_⟩
      obtain ⟨haffected, hlast⟩ := hok out hout
      have hchanges := hcount r rfl
      dsimp only at haffected
      exact ⟨by omega, fun _ => hlast (.inl rfl)⟩

section KeepsNumber

variable {n : Int}

/-- Work on the connection keeps the last number if the engine does. -/
theorem work_keepsNumber {α : Type} {w : Work α} (hw : Engine.KeepsNumber n w) :
    StepMaintains (fun c => c.lastNumber = n) (work w) :=
  fun c => hw c.engine

/-- Ending a transaction by command numbers no row. -/
theorem finish_keepsNumber {w : Work Unit} (hw : Engine.KeepsNumber n w) :
    StepMaintains (fun c => c.lastNumber = n) (control.finish w) := by
  refine StepMaintains.get.bind fun c => ?_
  split
  · exact (work_keepsNumber hw).bind fun _ => .modify fun _ h => h
  · exact .pure ()

/-- Beginning and ending a transaction inserts nothing, and does not take back the number either. -/
theorem control_keepsNumber (command : Command) :
    StepMaintains (fun c => c.lastNumber = n) (control command) := by
  -- Three of the commands control a transaction, the others do nothing here.
  cases command with
  | begin => exact (work_keepsNumber Engine.begin_keepsNumber).bind fun _ => .modify fun _ h => h
  | commit => exact finish_keepsNumber Engine.commit_keepsNumber
  | rollback => exact finish_keepsNumber Engine.rollback_keepsNumber
  | version => exact .pure ()
  | statement => exact .pure ()
  | savepoint => exact .pure ()
  | release => exact .pure ()
  | rollbackTo => exact .pure ()

end KeepsNumber

/-- **What a command leaves behind** as the last number: that of the last row it inserted, or the
one from before. -/
theorem send_inserted {command : Command} {c c' : Connection} {answer : Except DriverError Reply}
    (h : send command c = (answer, c')) :
    c'.lastNumber = lastOf (c.inserted command) c.lastNumber := by
  -- A command that is no statement inserts nothing.
  have hcontrol (hsend : send command = (do control command; return .empty))
      (hnone : c.inserted command = []) :
      c'.lastNumber = lastOf (c.inserted command) c.lastNumber := by
    have hkeeps : (send command c).2.lastNumber = c.lastNumber := by
      rw [hsend]
      exact ((control_keepsNumber command).bind fun _ => .pure _) c rfl
    rw [h] at hkeeps
    rw [hnone]
    exact hkeeps
  -- A text inserts the rows of the statements in it, and every other command none.
  cases command with
  | version text => exact (runAll_inserted text _ h).1
  | statement text arguments => exact (runAll_inserted text _ h).1
  | begin => exact hcontrol rfl rfl
  | commit => exact hcontrol rfl rfl
  | rollback => exact hcontrol rfl rfl
  | savepoint => exact hcontrol rfl rfl
  | release => exact hcontrol rfl rfl
  | rollbackTo => exact hcontrol rfl rfl

/-- **The reply to a statement** counts the rows that it inserted, and if its text opens like an
insert it names the row that was inserted last, by whatever statement. -/
theorem send_statement {text : String} {arguments : List Argument} {c c' : Connection}
    {reply : Reply}
    (h : send (.statement text arguments) c = (.ok reply, c')) :
    (c.inserted (.statement text arguments)).length ≤ reply.affected ∧
      (isInsert text = true → reply.lastId = c'.lastNumber) := by
  obtain ⟨haffected, hlast⟩ := (runAll_inserted text _ h).2 reply rfl
  refine ⟨?_, fun hinsert => hlast (.inr ⟨Nat.succ_pos _, parseNext_of_isInsert hinsert⟩)⟩
  exact Nat.le_trans (Nat.le_add_left _ _) haffected

/-! ### The acknowledgement -/

/-- The connection as a server that also writes down the rows that are inserted. -/
def recorded : Server (Connection × List StoredRow) where
  dial state :=
    let (answer, after) := server.dial state.1
    (answer, after, state.2)
  send number command state :=
    let (answer, after) := server.send number command state.1
    (answer, after, state.2 ++ state.1.inserted command)
  close state :=
    let (answer, after) := server.close state.1
    (answer, after, state.2)

/-- SQLite over such a server. -/
def recordedDriver : SqlDriver (Connection × List StoredRow) := ⟨.sqlite, recorded⟩

/-- The number that was inserted last is the one of the last row that was written down. -/
def Numbered (before : Int) (state : Connection × List StoredRow) : Prop :=
  state.1.lastNumber = lastOf state.2 before

/-- Opening the connection does not change it. -/
theorem dial_snd (c : Connection) : (dial c).2 = c := by
  unfold dial
  rw [step_of_ok (show (get : Use Connection) c = (.ok c, c) from rfl)]
  split <;> rfl

/-- What the record and the connection say of the last number stays the same: a command adds to the
record what it inserts. -/
theorem recorded_maintains (before : Int) : recorded.Maintains (Numbered before) where
  dial state h := by
    obtain ⟨c, rows⟩ := state
    change (dial c).2.lastNumber = lastOf rows before
    rw [dial_snd]
    exact h
  send number command state h := by
    obtain ⟨c, rows⟩ := state
    change (send command c).2.lastNumber = lastOf (rows ++ c.inserted command) before
    -- The rows before the command are on the record, and the command adds its own.
    rw [lastOf_append, ← show c.lastNumber = lastOf rows before from h]
    exact send_inserted rfl
  close _ h := h

/-- The recorded server answers as the connection does, and adds the rows that the command
inserts. -/
theorem recorded_send {number : Nat} {command : Command} {c : Connection} {rows : List StoredRow}
    {answer : Except DriverError Reply} {after : Connection × List StoredRow}
    (h : recorded.send number command (c, rows) = (answer, after)) :
    send command c = (answer, after.1) ∧ after.2 = rows ++ c.inserted command := by
  obtain ⟨rfl, rfl⟩ := Prod.mk.inj h
  exact ⟨rfl, rfl⟩

/-- **One write.** The rows that it inserted are written down, and if its acknowledgement names a
key, then the number of the row that was inserted last. -/
theorem execute_recorded {h : Handle} {r : Request} {ack : WriteAck}
    {s s' : SqlStore (Connection × List StoredRow)}
    (hcall : recordedDriver.execute h r s = (.ok (.ack ack), s')) :
    ∃ rows, s'.server.2 = s.server.2 ++ rows ∧ rows.length ≤ ack.rowsAffected ∧
      (ack.insertedIds ≠ [] → ack.insertedIds = [.int s'.server.1.lastNumber]) := by
  -- An acknowledgement means that one statement was sent, on the state before or on a new
  -- connection.
  obtain ⟨sql, connection, state, reply, -, hstate, hsend, houtput⟩ := SqlDriver.execute_eq_ok hcall
  have hearlier : state.2 = s.server.2 := by
    rcases hstate with rfl | rfl <;> rfl
  obtain ⟨c, rows⟩ := state
  obtain ⟨hconnection, hrecord⟩ := recorded_send hsend
  obtain ⟨haffected, hlast⟩ := send_statement hconnection
  -- It is no output of rows, so it is made of the reply.
  unfold Dialect.output at houtput
  split at houtput
  · exact absurd houtput nofun
  · obtain rfl := Output.ack.inj houtput
    rw [show rows = s.server.2 from hearlier] at hrecord
    refine ⟨_, hrecord, haffected, fun hids => ?_⟩
    -- Keys are listed for a text that opens like an insert, and only for such a text.
    by_cases hinsert : isInsert sql.text = true
    · change (if isInsert sql.text then [Json.int reply.lastId] else []) = _
      rw [if_pos hinsert, hlast hinsert]
    · exact absurd (if_neg hinsert) hids

variable {log : List Occurrence} {s s' : SqlStore (Connection × List StoredRow)}

/-- **The number that an insert is acknowledged with.** In every history of calls, an
acknowledgement that names a key names one, the number of a row. It is the last row that the
statement itself inserted, if it inserted any, and then the statement touched that many rows at
least. A statement that inserted none is acknowledged with the row that was inserted last before
it. -/
theorem insert_acknowledged {o : PoolOptions} {conn : Connection} {h : Handle} {r : Request}
    {ack : WriteAck} (hran : recordedDriver.adapter.Ran (recordedDriver.start o (conn, [])) log s)
    (hcall : recordedDriver.adapter.execute h r s = (.ok (.ack ack), s'))
    (hids : ack.insertedIds ≠ []) :
    ∃ rows, s'.server.2 = s.server.2 ++ rows ∧ rows.length ≤ ack.rowsAffected ∧
      (∀ row, rows.getLast? = some row → ack.insertedIds = [.int row.number]) ∧
      (rows = [] → ack.insertedIds = [.int (lastOf s.server.2 conn.lastNumber)]) := by
  obtain ⟨rows, hrows, haffected, hnamed⟩ := execute_recorded hcall
  -- The record has the last number before the call, and after it.
  have hbefore : Numbered conn.lastNumber s.server :=
    SqlDriver.holds_of_ran (recorded_maintains conn.lastNumber) hran rfl
  have hafter : Numbered conn.lastNumber s'.server := by
    have hkeeps : Numbered conn.lastNumber (recordedDriver.execute h r s).2.server :=
      SqlDriver.execute_keepsServer (d := recordedDriver) (recorded_maintains conn.lastNumber) h r s
        hbefore
    rwa [show recordedDriver.execute h r s = _ from hcall] at hkeeps
  -- So the key is the last of the rows that were added, or else of the ones before.
  have hnumber : ack.insertedIds = [.int (lastOf rows (lastOf s.server.2 conn.lastNumber))] := by
    rw [hnamed hids, show s'.server.1.lastNumber = _ from hafter, hrows, lastOf_append]
  refine ⟨rows, hrows, haffected, fun row hrow => ?_, fun hnone => ?_⟩
  · rw [hnumber, lastOf, hrow]
    rfl
  · rw [hnumber, hnone, lastOf_nil]

/-- An empty database in memory. -/
def emptyConnection : Connection := { location := .memory, cache := ⟨100, []⟩ }

/-- The store after some texts were run on it. -/
def runTexts (texts : List String) (s : SqlStore (Connection × List StoredRow)) :
    SqlStore (Connection × List StoredRow) :=
  texts.foldl (fun s text => (recordedDriver.execute .root (.sql (.ofText text)) s).2) s

/-- Statements that are run one after the other continue a history. -/
theorem ran_runTexts {start : SqlStore (Connection × List StoredRow)} (texts : List String)
    (hran : recordedDriver.adapter.Ran start log s) :
    ∃ log', recordedDriver.adapter.Ran start log' (runTexts texts s) := by
  induction texts generalizing log s with
  | nil => exact ⟨log, hran⟩
  | cons text texts ih => exact ih (.execute .root (.sql (.ofText text)) hran trivial rfl)

/-- A table whose column is the row number, and a row in it. -/
def sevenKept : SqlStore (Connection × List StoredRow) :=
  runTexts ["CREATE TABLE t (id INTEGER PRIMARY KEY)", "INSERT INTO t VALUES (7)"]
    (recordedDriver.start {} (emptyConnection, []))

/-- The state with row seven is the end of a history. -/
theorem sevenKept_ran :
    ∃ log, recordedDriver.adapter.Ran
      (recordedDriver.start {} (emptyConnection, [])) log sevenKept :=
  ran_runTexts _ .start

/-- A row with a number that is free is inserted and acknowledged. -/
theorem freshInsert_acknowledged :
    ∃ ack s', recordedDriver.adapter.execute .root
        (.sql (.ofText "INSERT OR IGNORE INTO t VALUES (8)")) sevenKept = (.ok (.ack ack), s') ∧
      ack.insertedIds ≠ [] ∧
      ∃ rows, s'.server.2 = sevenKept.server.2 ++ rows ∧ rows.length ≤ ack.rowsAffected ∧
        (∀ row, rows.getLast? = some row → ack.insertedIds = [.int row.number]) ∧
        (rows = [] → ack.insertedIds
          = [.int (lastOf sevenKept.server.2 emptyConnection.lastNumber)]) := by
  -- The history of the state is known, and the answer is computed.
  obtain ⟨log, hran⟩ := sevenKept_ran
  have hanswer : (recordedDriver.adapter.execute .root
      (.sql (.ofText "INSERT OR IGNORE INTO t VALUES (8)")) sevenKept).1
        = .ok (.ack ⟨1, [.int 8]⟩) := by
    decide +kernel
  have hids : (⟨1, [.int 8]⟩ : WriteAck).insertedIds ≠ [] := by decide
  exact ⟨⟨1, [.int 8]⟩, _, Prod.ext hanswer rfl, hids,
    insert_acknowledged hran (Prod.ext hanswer rfl) hids⟩

/-- **A row that was not inserted is acknowledged.** The only row is left out, since its number is
taken: no row is touched, none is inserted, and the number of the row that was there is named. -/
theorem ignoredInsert_acknowledged :
    (recordedDriver.adapter.execute .root (.sql (.ofText "INSERT OR IGNORE INTO t VALUES (7)"))
        sevenKept).1 = .ok (.ack ⟨0, [.int 7]⟩) ∧
      (recordedDriver.adapter.execute .root (.sql (.ofText "INSERT OR IGNORE INTO t VALUES (7)"))
        sevenKept).2.server.2 = sevenKept.server.2 := by
  decide +kernel

end Connection

end Sqlite

end StoreBridge
