import VngDatabase.Bytes
import VngDatabase.Words

/-!
# The answer to a Postgres client

The listener of `services/voltnuerongridd/src/helpers/pg_listener.rs` takes the SQL of a client to
the engine, and writes what the engine answers as messages of the Postgres protocol.
-/

namespace VngDatabase.Daemon.Pg

open Text List

/-! ### Messages -/

inductive TransactionStatus
  | idle
  | inTransaction
  | failed
  deriving DecidableEq

structure FieldDescription where
  name : String
  typeOid : ℤ
  deriving DecidableEq

def FieldDescription.text (name : String) : FieldDescription := ⟨name, 25⟩

inductive BackendMessage
  | rowDescription (fields : List FieldDescription)
  | dataRow (cells : List (Option String))
  | commandComplete (tag : String)
  | errorResponse (sqlstate message : String)
  | emptyQueryResponse
  | readyForQuery (status : TransactionStatus)
  deriving DecidableEq

inductive Json
  | null
  | bool (b : Bool)
  | number (text : String)
  | string (s : String)
  | array (values : List Json)
  | object (fields : List (String × Json))

class JsonText where
  toText : Json → String

structure SqlExecuteResponse where
  status : String
  columns : Option (List Json)
  rows : Option (List Json)

structure AuthErrorResponse where
  status : String
  reason : String

abbrev SqlAnswer := Except (ℕ × AuthErrorResponse) (ℕ × SqlExecuteResponse)

namespace SqlAnswer

def code : SqlAnswer → ℕ
  | .error e => e.1
  | .ok r => r.1

def status : SqlAnswer → String
  | .error e => e.2.status
  | .ok r => r.2.status

def Failure (answer : SqlAnswer) : Prop :=
  ¬(200 ≤ code answer ∧ code answer < 300) ∨ status answer = "error"

instance (answer : SqlAnswer) : Decidable (Failure answer) :=
  inferInstanceAs (Decidable (_ ∨ _))

end SqlAnswer

/-! ### The listener -/

def nextTxStatus (current : TransactionStatus) (sql : String) (ok : Bool) : TransactionStatus :=
  let upper := toAsciiUppercase (String.ofList (trimStart sql.toList))
  if !ok then
    if current = .idle then .idle else .failed
  else if startsWith upper "BEGIN" || startsWith upper "START TRANSACTION" then .inTransaction
  else if startsWith upper "COMMIT" || startsWith upper "ROLLBACK" || startsWith upper "END" then
    .idle
  else current

def commandTag (sql : String) (rowCount : ℕ) : String :=
  let upper := toAsciiUppercase (String.ofList (trimStart sql.toList))
  if startsWith upper "SELECT" then "SELECT " ++ toString rowCount
  else if startsWith upper "INSERT" then "INSERT 0 " ++ toString rowCount
  else if startsWith upper "UPDATE" then "UPDATE " ++ toString rowCount
  else if startsWith upper "DELETE" then "DELETE " ++ toString rowCount
  else if startsWith upper "CREATE" then "CREATE"
  else if startsWith upper "DROP" then "DROP"
  else if startsWith upper "BEGIN" || startsWith upper "START" then "BEGIN"
  else if startsWith upper "COMMIT" then "COMMIT"
  else if startsWith upper "ROLLBACK" then "ROLLBACK"
  else (splitWhitespace upper).head?.getD "OK"

section

variable [JsonText] {sql : String}

def jsonCellToText : Json → Option String
  | .null => none
  | .string s => some s
  | other => some (JsonText.toText other)

def columnName : Json → String
  | .string s => s
  | .object fields =>
    match fields.lookup "name" with
    | some (.string s) => s
    | _ => "?column?"
  | _ => "?column?"

def pushRow (acc : List String × List (List (Option String))) (row : Json) :
    List String × List (List (Option String)) :=
  match row with
  | .array arr =>
    (if acc.1.isEmpty then (List.range arr.length).map fun i => "column" ++ toString i else acc.1,
      acc.2 ++ [arr.map jsonCellToText])
  | .object map =>
    let names := if acc.1.isEmpty then map.map Prod.fst else acc.1
    (names, acc.2 ++ [names.map fun k => jsonCellToText ((map.lookup k).getD .null)])
  | other =>
    (if acc.1.isEmpty then ["value"] else acc.1, acc.2 ++ [[jsonCellToText other]])

def extractColumnsAndRows (resp : SqlExecuteResponse) :
    List FieldDescription × List (List (Option String)) :=
  let found := (resp.rows.getD []).foldl pushRow ((resp.columns.getD []).map columnName, [])
  (found.1.map FieldDescription.text, found.2)

def encodeSuccess (sql : String) (resp : SqlExecuteResponse) (txStatus : TransactionStatus) :
    List BackendMessage :=
  let found := extractColumnsAndRows resp
  (if found.1.isEmpty then []
    else .rowDescription found.1 :: found.2.map BackendMessage.dataRow) ++
    [.commandComplete (commandTag sql found.2.length), .readyForQuery txStatus]

def runQuery (answer : SqlAnswer) (sql : String) (txStatus : TransactionStatus) :
    List BackendMessage × TransactionStatus :=
  if trim sql.toList = [] then ([.emptyQueryResponse, .readyForQuery txStatus], txStatus)
  else match answer with
    | .ok (_, resp) =>
      let next := nextTxStatus txStatus sql true
      (encodeSuccess sql resp next, next)
    | .error (code, err) =>
      let next := nextTxStatus txStatus sql false
      ([.errorResponse "42000" (toString code ++ ": " ++ err.reason), .readyForQuery next], next)

structure Reported (answer : SqlAnswer) (sql : String) (txStatus : TransactionStatus) : Prop where
  error : ∃ sqlstate message,
    .errorResponse sqlstate message ∈ (runQuery answer sql txStatus).1
  incomplete : ∀ tag, .commandComplete tag ∉ (runQuery answer sql txStatus).1
  block : txStatus ≠ .idle → (runQuery answer sql txStatus).2 = .failed

theorem reported_error (e : ℕ × AuthErrorResponse) (hsql : trim sql.toList ≠ [])
    (txStatus : TransactionStatus) : Reported (.error e) sql txStatus := by
  have hrun : runQuery (.error e) sql txStatus =
      ([.errorResponse "42000" (toString e.1 ++ ": " ++ e.2.reason),
        .readyForQuery (nextTxStatus txStatus sql false)], nextTxStatus txStatus sql false) :=
    if_neg hsql
  refine ⟨⟨"42000", toString e.1 ++ ": " ++ e.2.reason, ?_⟩, fun tag hmem => ?_, fun hblo => ?_⟩
  · rw [hrun]
    exact mem_cons_self
  · rw [hrun] at hmem
    simp at hmem
  · rw [hrun]
    exact if_neg hblo

/-- **Failures are reported iff** they come as `Err`. -/
theorem reported_iff (answer : SqlAnswer) (sql : String) (txStatus : TransactionStatus) :
    (trim sql.toList ≠ [] → SqlAnswer.Failure answer → Reported answer sql txStatus) ↔
      (trim sql.toList ≠ [] → SqlAnswer.Failure answer → answer.isOk = false) := by
  refine forall_congr' fun hsql => forall_congr' fun _ => ?_
  cases answer with
  | error e => exact iff_of_true (reported_error e hsql txStatus) rfl
  | ok r =>
    refine iff_of_false (fun h => ?_) nofun
    refine h.incomplete (commandTag sql (extractColumnsAndRows r.2).2.length) ?_
    rw [runQuery, if_neg hsql]
    exact mem_append_right _ mem_cons_self

end

/-- **A write that is not confirmed** is reported as complete. -/
theorem quorumTimeout_completes : let _ : JsonText := ⟨fun _ => ""⟩
    let answer : SqlAnswer := .ok (503, ⟨"error", none, none⟩)
    SqlAnswer.Failure answer ∧
      runQuery answer "INSERT INTO t VALUES (1)" .inTransaction =
        ([.commandComplete "INSERT 0 0", .readyForQuery .inTransaction], .inTransaction) := by
  decide +kernel

end VngDatabase.Daemon.Pg
