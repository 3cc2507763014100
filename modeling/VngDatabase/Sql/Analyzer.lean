import VngDatabase.Text

/-!
# What kind of statement a text is

The analyzer of `crates/voltnuerongrid-sql/src/lib.rs`, which sorts statements by their first words,
in upper case and without line comments (`normalizeSqlForMatch`), and the loop of `sql_transaction`
(`services/voltnuerongridd/src/handlers/sql.rs`) that leaves out what a savepoint has taken back.
-/

namespace VngDatabase.Sql

open Text

inductive SqlStatementKind
  | select | insert | update | delete
  | createTable | createView | createMaterializedView | createFunction | createTrigger
  | createEvent | alterTable | createIndex | dropIndex | dropTable | dropView | dropFunction
  | dropTrigger | dropEvent
  | begin | commit | rollback | savepoint | releaseSavepoint | rollbackToSavepoint
  | grant | revoke | createRole | dropRole | createDatabase | dropDatabase | createSchema
  | dropSchema
  | unknown
  deriving DecidableEq

def beforeComment (line : List Char) : List Char :=
  match splitAtText ['-', '-'] line with
  | some (content, _) => content
  | none => line

def normalizeSqlForMatch (sql : String) : String :=
  let stripped := trim (sql.toList.dropWhile (· = Char.ofNat 0xfeff))
  let contents := (linesFrom [] stripped).map beforeComment
  let kept := contents.filter fun content => trim content ≠ []
  toAsciiUppercase (String.ofList (trim (kept.flatMap (· ++ [' ']))))

def leadingKinds : List (String × SqlStatementKind) :=
  [("SELECT", .select), ("INSERT", .insert), ("UPDATE", .update), ("DELETE", .delete),
    ("BEGIN", .begin), ("COMMIT", .commit), ("SAVEPOINT", .savepoint), ("GRANT", .grant),
    ("REVOKE", .revoke)]

def createKinds : List (String × SqlStatementKind) :=
  [("TABLE", .createTable), ("VIEW", .createView), ("FUNCTION", .createFunction),
    ("TRIGGER", .createTrigger), ("EVENT", .createEvent), ("INDEX", .createIndex),
    ("UNIQUE", .createIndex), ("ROLE", .createRole), ("DATABASE", .createDatabase),
    ("SCHEMA", .createSchema)]

def dropKinds : List (String × SqlStatementKind) :=
  [("INDEX", .dropIndex), ("TABLE", .dropTable), ("VIEW", .dropView),
    ("FUNCTION", .dropFunction), ("TRIGGER", .dropTrigger), ("EVENT", .dropEvent),
    ("ROLE", .dropRole), ("DATABASE", .dropDatabase), ("SCHEMA", .dropSchema)]

def classifyWords (first : String) (rest : List String) : SqlStatementKind :=
  let second := rest.head?.getD ""
  if first = "CREATE" then
    if second = "MATERIALIZED" ∧ rest[1]? = some "VIEW" then .createMaterializedView
    else (createKinds.lookup second).getD .unknown
  else if first = "DROP" then (dropKinds.lookup second).getD .unknown
  else if first = "ALTER" then if second = "TABLE" then .alterTable else .unknown
  else if first = "ROLLBACK" then if second = "TO" then .rollbackToSavepoint else .rollback
  else if first = "RELEASE" then if second = "SAVEPOINT" then .releaseSavepoint else .unknown
  else (leadingKinds.lookup first).getD .unknown

def classifyStatement (sql : String) : SqlStatementKind :=
  match splitWhitespace (normalizeSqlForMatch sql) with
  | [] => .unknown
  | first :: rest => classifyWords first rest

def parseBatch (sqlBatch : String) : List String :=
  (((split [';'] sqlBatch.toList).map trim).filter (· ≠ [])).map String.ofList
    |>.filter fun stmt => normalizeSqlForMatch stmt ≠ ""

structure SavepointScan where
  applied : List String := []
  savepoints : List (String × ℕ) := []

namespace SavepointScan

variable (scan : SavepointScan)

def position (name : String) : Option ℕ :=
  ((scan.savepoints.zipIdx.filter fun p => p.1.1 = name).getLast?).map Prod.snd

def rollbackTo (name : String) : SavepointScan :=
  match scan.position name with
  | some pos =>
    { applied := scan.applied.take ((scan.savepoints[pos]?.map Prod.snd).getD 0)
      savepoints := scan.savepoints.take (pos + 1) }
  | none => scan

def release (name : String) : SavepointScan :=
  match scan.position name with
  | some pos => { scan with savepoints := scan.savepoints.eraseIdx pos }
  | none => scan

def rollbackTarget (words : List String) : Option String :=
  if (words[2]?.map fun w => eqIgnoreAsciiCase w "SAVEPOINT").getD false then words[3]?
  else words[2]?

def step (stmt : String) : SavepointScan :=
  let words := splitAsciiWhitespace stmt
  match classifyStatement stmt with
  | .savepoint =>
    match words[1]? with
    | some name => { scan with
        savepoints := scan.savepoints ++ [(toAsciiLowercase name, scan.applied.length)] }
    | none => scan
  | .releaseSavepoint => (words[2]?.map fun name => scan.release (toAsciiLowercase name)).getD scan
  | .rollbackToSavepoint =>
    ((rollbackTarget words).map fun name => scan.rollbackTo (toAsciiLowercase name)).getD scan
  | .begin | .commit | .rollback => scan
  | _ => { scan with applied := scan.applied ++ [stmt] }

end SavepointScan

def effectiveStatementsAfterSavepoints (statements : List String) : List String :=
  (statements.foldl SavepointScan.step {}).applied

example : effectiveStatementsAfterSavepoints
    ["BEGIN", "DELETE FROM t WHERE id = 1", "savepoint s", "DELETE FROM t WHERE id = 2",
      "ROLLBACK TO s", "DELETE FROM t WHERE id = 3", "COMMIT"] =
    ["DELETE FROM t WHERE id = 1", "DELETE FROM t WHERE id = 3"] := by decide +kernel

end VngDatabase.Sql
