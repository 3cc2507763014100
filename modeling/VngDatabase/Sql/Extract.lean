import VngDatabase.Sql.Ast
import VngDatabase.Store.Mvcc

/-!
# From a statement to keys and rows

The helpers of `services/voltnuerongridd/src/helpers/sql_parse.rs` that say which row a statement is
about. A row of table `t` whose first value is `v` is stored under `t:v`, and in database `db` under
`db.t:v` (`dbPrefixKey`).
-/

namespace VngDatabase.Sql

open Text List

/-! ### Keys -/

variable (sql : String)

def dbPrefixKey (db rawKey : String) : String :=
  if db = "" then rawKey else db ++ "." ++ rawKey

@[simp]
theorem dbPrefixKey_empty (rawKey : String) : dbPrefixKey "" rawKey = rawKey := if_pos rfl

theorem toList_dbPrefixKey {db : String} (h : db ≠ "") (raw : String) :
    (dbPrefixKey db raw).toList = db.toList ++ '.' :: raw.toList := by
  rw [dbPrefixKey, if_neg h]
  simp

theorem dbPrefixKey_injective (db : String) : Function.Injective (dbPrefixKey db) := by
  rcases eq_or_ne db "" with rfl | h
  · intro k k' hk
    simpa using hk
  · intro k k' hk
    have := congrArg String.toList hk
    rw [toList_dbPrefixKey h, toList_dbPrefixKey h] at this
    exact String.toList_inj.mp (by simpa using this)

theorem dbPrefixKey_ne {db : String} (h : db ≠ "") (rawKey : String) :
    dbPrefixKey db rawKey ≠ rawKey := by
  intro hk
  have := congrArg (length ∘ String.toList) hk
  simp only [Function.comp_apply, toList_dbPrefixKey h, length_append, length_cons] at this
  omega

/-- Without a database every row is. -/
def isUnder (db key : String) : Bool := db = "" || startsWith key (db ++ ".")

theorem isUnder_empty (key : String) : isUnder "" key = true := rfl

theorem isUnder_iff {db key : String} : isUnder db key ↔ ∃ rawKey, key = dbPrefixKey db rawKey := by
  rcases eq_or_ne db "" with rfl | hdb
  · simp [isUnder]
  · have hlist : (db ++ ".").toList = db.toList ++ ['.'] := by simp
    rw [isUnder, startsWith, hlist]
    simp only [hdb, decide_false, Bool.false_or, isPrefixOf_iff_prefix]
    constructor
    · rintro ⟨rest, hrest⟩
      refine ⟨String.ofList rest, String.toList_inj.mp ?_⟩
      rw [toList_dbPrefixKey hdb, ← hrest]
      simp
    · rintro ⟨rawKey, rfl⟩
      rw [toList_dbPrefixKey hdb]
      exact ⟨rawKey.toList, by simp⟩

def whereLiteral : (afterWhere pastEq : Bool) → List Token → Option String
  | _, _, [] => none
  | afterWhere, pastEq, t :: ts =>
    match t with
    | .keyword k => whereLiteral (afterWhere || eqIgnoreAsciiCase k "WHERE") pastEq ts
    | .symbol s => whereLiteral afterWhere (pastEq || (s = "=" && afterWhere)) ts
    | .stringLiteral s => if pastEq then some s else whereLiteral afterWhere pastEq ts
    | .number n => if pastEq then some n else whereLiteral afterWhere pastEq ts
    | _ => whereLiteral afterWhere pastEq ts

structure WhereScan where
  afterWhere : Bool := false
  whereCol : Option String := none
  pastEq : Bool := false
  whereVal : Option String := none

/-- Only an identifier is a column, and only an `=` behind it counts. -/
def WhereScan.step (st : WhereScan) : Token → WhereScan
  | .keyword k => if eqIgnoreAsciiCase k "WHERE" then { st with afterWhere := true } else st
  | .identifier id =>
    if st.afterWhere ∧ st.whereCol = none then { st with whereCol := some (toAsciiLowercase id) }
    else st
  | .symbol s =>
    if s = "=" ∧ st.afterWhere ∧ st.whereCol.isSome ∧ ¬st.pastEq then { st with pastEq := true }
    else st
  | .stringLiteral s =>
    if st.pastEq ∧ st.whereVal = none then { st with whereVal := some s } else st
  | .number n => if st.pastEq ∧ st.whereVal = none then { st with whereVal := some n } else st
  | _ => st

structure UpdateTarget where
  table : String
  setCol : String
  setVal : String
  whereCol : String
  whereVal : String

def insertColumns (data : RowData) (columns : List (String × String)) : RowData :=
  columns.foldl (fun data c => data.insert c.1 c.2) data

def parseOneUpdate [Unicode] : Option UpdateStatement :=
  match parseOne sql with
  | .ok (.update upd) => some upd
  | _ => none

/-- Without a literal the key is the table name twice. -/
def extractUpdateRowFromSql [Unicode] : Option (String × RowData) :=
  (parseOneUpdate sql).map fun upd =>
    let key := (whereLiteral false false (semanticTokens sql)).getD upd.table
    (upd.table ++ ":" ++ key,
      insertColumns (Finmap.insert "__table" upd.table ∅) upd.assignments)

def extractBulkUpdateTarget [Unicode] : Option UpdateTarget :=
  (parseOneUpdate sql).bind fun upd =>
    match upd.assignments with
    | [] => none
    | (setCol, setVal) :: _ =>
      let scan := (semanticTokens sql).foldl WhereScan.step {}
      scan.whereCol.bind fun whereCol => scan.whereVal.map fun whereVal =>
        ⟨toAsciiLowercase upd.table, setCol, setVal, whereCol, whereVal⟩

def tableAfterFrom : (pastFrom : Bool) → List Token → Option String
  | _, [] => none
  | pastFrom, t :: ts =>
    if isKeywordToken "FROM" t then tableAfterFrom true ts
    else match tokenAsName t with
      | some name =>
        if pastFrom then some (toAsciiLowercase (afterLast '.' name))
        else tableAfterFrom pastFrom ts
      | none => tableAfterFrom pastFrom ts

def extractDeleteKeyFromSql [Unicode] : Option String :=
  if startsWith (toAsciiUppercase (String.ofList (trimStart sql.toList))) "DELETE" then
    let tokens := semanticTokens sql
    (whereLiteral false false tokens).map fun v =>
      match tableAfterFrom false tokens with
      | some t => t ++ ":" ++ v
      | none => v
  else none

structure DeleteTarget where
  table : String
  whereCol : String
  whereVal : String
  deriving DecidableEq

structure DeleteScan where
  pastFrom : Bool := false
  table : Option String := none
  cond : WhereScan := {}

/-- The first word after `FROM` is the table. -/
def DeleteScan.step (st : DeleteScan) (t : Token) : DeleteScan :=
  if isKeywordToken "FROM" t ∧ ¬st.pastFrom then { st with pastFrom := true }
  else match tokenAsName t, st.pastFrom, st.table with
    | some name, true, none =>
      { st with table := some (toAsciiLowercase (afterLast '.' name)) }
    | _, _, _ => { st with cond := st.cond.step t }

/-- Unless the column is `id`. -/
def extractBulkDeleteTarget [Unicode] : Option DeleteTarget :=
  if startsWith (toAsciiUppercase (String.ofList (trimStart sql.toList))) "DELETE" then
    let scan := (semanticTokens sql).foldl DeleteScan.step {}
    scan.table.bind fun table => scan.cond.whereCol.bind fun whereCol =>
      scan.cond.whereVal.bind fun whereVal =>
        if eqIgnoreAsciiCase whereCol "id" then none else some ⟨table, whereCol, whereVal⟩
  else none

def endsTableName (c : Char) : Bool := c = ' ' || c = '\n' || c = '\t' || c = '('

def splitAtTable (sql : List Char) : Option (List Char × List Char × List Char × List Char) :=
  (splitAtText "INTO".toList (sql.map Char.toUpper)).map fun (before, _) =>
    let after := sql.drop (before.length + 4)
    let text := trimStart after
    (sql.take (before.length + 4), after.takeWhile isWhitespace,
      text.takeWhile (!endsTableName ·), text.dropWhile (!endsTableName ·))

def stripSchemaQualifierFromInsert : String :=
  match splitAtTable sql.toList with
  | some (intro, blanks, name, rest) =>
    if '.' ∈ name then
      String.ofList (intro ++ blanks ++ (name.dropWhile (· ≠ '.')).tail ++ rest)
    else sql
  | none => sql

def isDecimal (cs : List Char) : Bool :=
  let int := cs.takeWhile Char.isDigit
  let (frac, rest) := match cs.dropWhile Char.isDigit with
    | '.' :: r => (r.takeWhile Char.isDigit, r.dropWhile Char.isDigit)
    | r => ([], r)
  (int ++ frac ≠ []) && match rest with
    | [] => true
    | e :: r =>
      let digits := match r with
        | s :: ds => if s = '+' ∨ s = '-' then ds else s :: ds
        | [] => []
      (e = 'e' || e = 'E') && digits ≠ [] && digits.all Char.isDigit

def parsesAsF64 (cs : List Char) : Bool :=
  let unsigned := match cs with
    | s :: ds => if s = '+' ∨ s = '-' then ds else s :: ds
    | [] => []
  String.ofList (unsigned.map Char.toLower) ∈ ["inf", "infinity", "nan"] || isDecimal unsigned

/-- Numbers as they are, everything else quoted. -/
def quoteValue (v : String) : String :=
  let trimmed := trim v.toList
  if parsesAsF64 trimmed then String.ofList trimmed
  else "'" ++ String.ofList (trimmed.flatMap fun c => if c = '\'' then ['\'', '\''] else [c]) ++ "'"

structure InsertRow where
  rowKey : String
  data : RowData
  singleSql : String

def insertColumn (columns : List String) (i : ℕ) : String :=
  (columns[i]?.map toAsciiLowercase).getD ("col_" ++ toString i)

def insertRows (origTable : String) (ins : InsertStatement) : List InsertRow :=
  let table := afterLast '.' origTable
  let colList :=
    if ins.columns = [] then "" else " (" ++ String.intercalate ", " ins.columns ++ ")"
  ins.values.filterMap fun
    | [] => none
    | v :: vs => some
      { rowKey := table ++ ":" ++ v
        data := insertColumns (Finmap.insert "__table" table ∅)
          ((v :: vs).zipIdx.map fun (val, i) => (insertColumn ins.columns i, val))
        singleSql := "INSERT INTO " ++ origTable ++ colList ++ " VALUES (" ++
          String.intercalate ", " ((v :: vs).map quoteValue) ++ ");" }

def extractAllInsertRows [Unicode] : List InsertRow :=
  match parseOne (stripSchemaQualifierFromInsert sql) with
  | .ok (.insert ins) =>
    let origTable := match splitAtTable sql.toList with
      | some (_, _, name, _) => String.ofList name
      | none => ins.table
    insertRows origTable ins
  | _ => []

def extractInsertRowFromSql [Unicode] : Option (String × RowData) :=
  match parseOne sql with
  | .ok (.insert ins) =>
    (insertRows ins.table { ins with values := ins.values.take 1 }).head?.map fun row =>
      (row.rowKey, row.data)
  | _ => none

end VngDatabase.Sql
