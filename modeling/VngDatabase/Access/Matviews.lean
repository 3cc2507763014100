import VngDatabase.Access.Databases
import VngDatabase.Dml.Retention
import VngDatabase.Query.Select

/-!
# Materialized views

The rows of a materialized view are kept in the row store under keys that start with `__matview:`
and the name of the view, the changes of tables under keys that start with `__delta:`. This file has
the branches of `sql_execute` (`services/voltnuerongridd/src/handlers/sql.rs`) that write such rows.
-/

namespace VngDatabase.Access

open Text Sql Store Dml Query DurabilityEngine List

variable {a : Action} (view : String)

inductive MatviewCommand
  | drop (view : String)
  | refresh (view : String)
  | refreshIncrementally (view : String)

def dropMatview : String := "DROP MATERIALIZED VIEW "

def refreshMatview : String := "REFRESH MATERIALIZED VIEW "

def afterWords (words upper : String) : List Char :=
  trimEndMatches (· = ';')
    (trim (trimStartMatches words.toList upper.toList.length upper.toList))

def lowerText (cs : List Char) : String := toAsciiLowercase (String.ofList cs)

def matviewCommand (stmt : String) : Option MatviewCommand :=
  let upper := toAsciiUppercase (String.ofList (trimStart stmt.toList))
  if startsWith upper dropMatview then some (.drop (lowerText (afterWords dropMatview upper)))
  else if startsWith upper refreshMatview then
    let tail := afterWords refreshMatview upper
    match tail.dropSuffix? " CONCURRENTLY".toList with
    | some name => some (.refresh (lowerText (trim name)))
    | none =>
      match tail.dropSuffix? " INCREMENTALLY".toList with
      | some name => some (.refreshIncrementally (lowerText (trim name)))
      | none => some (.refresh (lowerText tail))
  else none

@[irreducible]
def earlyMatviewCommand (sqlBatch : String) (parsed : List String) : Option MatviewCommand :=
  let upper := toAsciiUppercase (String.ofList (trim sqlBatch.toList))
  if startsWith upper dropMatview || startsWith upper refreshMatview then
    (if parsed = [] then parseBatch sqlBatch else parsed).findSome? matviewCommand
  else none

def matviewPrefix : String := "__matview:" ++ view ++ ":"

def deltaPrefix (table : String) : String := "__delta:" ++ table ++ ":"

def rowsWhere (rs : PagedRowStore) (p : String → Bool) : List (String × RowData) :=
  let (rs, xid) := rs.beginXid
  (rs.scanAtSnapshot xid).filter fun row => p row.1

def fillActions (rows : List ResultRow) : List Action :=
  rows.zipIdx.map fun row =>
    .put (matviewPrefix view ++ toString row.2) (row.1.data.insert "__table" view)

def applyDeltaActions (delta : String × RowData) : List Action :=
  let key := matviewPrefix view ++ (delta.2.lookup "__delta_row_key").getD ""
  let data := (delta.2.erase "__delta_op").erase "__delta_row_key"
  [if (delta.2.lookup "__delta_op").getD "INSERT" = "DELETE" then .remove key
    else .put key (data.insert "__table" view), .remove delta.1]

def definingSql [Unicode] (originalStatement : String) : String × String :=
  let cs := originalStatement.toList
  let isWordChar := fun ch => Unicode.isAlphabetic ch || Unicode.isNumeric ch || ch = '_'
  (((afterIgnoreCase " AS ".toList cs).map fun select => String.ofList (trim select)).getD
      originalStatement,
    ((afterIgnoreCase " FROM ".toList cs).map fun tail =>
      lowerText (trim (tail.takeWhile isWordChar))).getD "")

@[irreducible]
def createWithData [Unicode] (stmt : String) : Option (String × String) :=
  let create := "CREATE MATERIALIZED VIEW "
  let upper := toAsciiUppercase (String.ofList (trimStart stmt.toList))
  if startsWith upper create && contains upper " WITH DATA" && !contains upper "WITH NO DATA" then
    let afterCreate := trimStartMatches create.toList upper.toList.length upper.toList
    let view := toAsciiLowercase ((splitWhitespace (String.ofList afterCreate)).head?.getD "")
    let isWordChar := fun ch => Unicode.isAlphabetic ch || Unicode.isNumeric ch || ch = '_'
    let select := ((afterIgnoreCase " AS ".toList stmt.toList).map fun cs =>
      trimEndMatches (fun ch => !isWordChar ch)
        (trimEndMatches (fun ch => ch = ';' || isWhitespace ch) (trim cs))).getD []
    let kept := trimEndMatches isWhitespace (trimEndText "WITH INCREMENTAL".toList
      (trimEndText "WITH DATA".toList (select.map Char.toUpper)))
    let query := String.ofList (trim (select.take kept.length))
    if view = "" ∨ query = "" then none else some (view, query)
  else none

section

variable {E : Type} [BootEngine E] [F64] [QueryParser] (engine : QueryEngine)
  (indexes : IndexManager)

def viewRows (db query : String) (s : Server E) : List ResultRow :=
  let xid := s.rowStore.currentXid
  let rocksdbRows :=
    if persistsRows s.walEngine then some (scanRowsForDb s.walEngine db xid) else none
  executeOltpSelect engine [query] s.rowStore 100000 db (some xid) rocksdbRows (some indexes)

variable [Unicode]

def MatviewCommand.actions (db : String)
    (originalStatement : String) (s : Server E) : MatviewCommand → List Action
  | .drop view =>
    (rowsWhere s.rowStore fun k =>
      startsWith k (matviewPrefix view) || startsWith k (deltaPrefix view)).map
        fun row => .remove row.1
  | .refresh view =>
    (rowsWhere s.rowStore (startsWith · (matviewPrefix view))).map (fun row => .remove row.1) ++
      fillActions view (viewRows engine indexes db (definingSql originalStatement).1 s)
  | .refreshIncrementally view =>
    (rowsWhere s.rowStore (startsWith · (deltaPrefix (definingSql originalStatement).2))).flatMap
      (applyDeltaActions view)

def populate (db : String) (s : Server E) (stmt : String) : Server E :=
  match createWithData stmt with
  | some (view, query) => s.perform (fillActions view (viewRows engine indexes db query s))
  | none => s

end

section

variable {rs : PagedRowStore} {p : String → Bool}

theorem mem_rowsWhere (h : rs.Stamped) {row : String × RowData} :
    row ∈ rowsWhere rs p ↔ p row.1 ∧ rs.readLatest row.1 = some row.2 := by
  rw [rowsWhere, mem_filter, PagedRowStore.mem_scanAtSnapshot_iff, ← h.readLatest_beginXid,
    and_comm]
  rfl

theorem nodup_rowsWhere (rs : PagedRowStore) (p : String → Bool) :
    ((rowsWhere rs p).map Prod.fst).Nodup :=
  (PagedRowStore.nodup_scanAtSnapshot _ _).sublist (filter_sublist.map _)

end

def isInternal : Action → Bool
  | .put k _ | .remove k => startsWith k "__matview:" || startsWith k "__delta:"
  | _ => false

theorem startsWith_of_matviewPrefix {k view : String} (h : startsWith k (matviewPrefix view)) :
    startsWith k "__matview:" := by
  rw [matviewPrefix, String.append_assoc] at h
  exact startsWith_of_append h

theorem startsWith_of_deltaPrefix {k table : String} (h : startsWith k (deltaPrefix table)) :
    startsWith k "__delta:" := by
  rw [deltaPrefix, String.append_assoc] at h
  exact startsWith_of_append h

theorem isInternal_put (rest : String) (data : RowData) :
    isInternal (.put (matviewPrefix view ++ rest) data) := by
  rw [isInternal, startsWith_of_matviewPrefix (startsWith_append _ rest), Bool.true_or]

theorem isInternal_of_mem_fillActions {view : String} {rows : List ResultRow}
    (h : a ∈ fillActions view rows) : isInternal a := by
  obtain ⟨row, -, rfl⟩ := mem_map.mp h
  exact isInternal_put view _ _

theorem isInternal_of_mem_applyDeltaActions {view table : String}
    {delta : String × RowData} (hdelt : startsWith delta.1 (deltaPrefix table))
    (h : a ∈ applyDeltaActions view delta) : isInternal a := by
  rw [applyDeltaActions, mem_cons, mem_singleton] at h
  rcases h with rfl | rfl
  · split_ifs
    · exact isInternal_put view _ ∅
    · exact isInternal_put view _ _
  · rw [isInternal, startsWith_of_deltaPrefix hdelt, Bool.or_true]

section

variable {E : Type} [BootEngine E] {d : DatabaseName} {s : Server E}

theorem keeps_of_isInternal {as : List Action} (hcap : s.rowStore.maxRowsCap = 0)
    (has : ∀ a ∈ as, isInternal a) :
    Keeps (isUnder d.text ·) d.text s.state (s.perform as).state := by
  refine Server.keeps_perform hcap ?_ ?_
  · intro k hk hmem
    obtain ⟨a, ha, hwri⟩ := mem_filterMap.mp hmem
    obtain rfl : a = .remove k := by
      cases a <;> simp_all [Action.rowWrite]
    have hint := has _ ha
    rw [isInternal, Bool.or_eq_true] at hint
    rcases hint with hst0 | hst0
    · exact DatabaseName.not_isUnder "__matview" (by decide) hst0 hk
    · exact DatabaseName.not_isUnder "__delta" (by decide) hst0 hk
  · rw [storedRows, filterMap_eq_nil_iff]
    intro a ha
    have hint := has a ha
    cases a <;> simp_all [isInternal, Action.stored]

variable [F64] [QueryParser] [Unicode] {engine : QueryEngine} {indexes : IndexManager}
  {db : String}

theorem MatviewCommand.isInternal_of_mem_actions {cmd : MatviewCommand} {stmt : String}
    (h : a ∈ cmd.actions engine indexes db stmt s) : isInternal a := by
  cases cmd with
  | drop view =>
    obtain ⟨row, hrow, rfl⟩ := mem_map.mp h
    have hkey := (mem_filter.mp hrow).2
    rw [isInternal, Bool.or_eq_true]
    rw [Bool.or_eq_true] at hkey
    exact hkey.imp startsWith_of_matviewPrefix startsWith_of_deltaPrefix
  | refresh view =>
    rw [actions, mem_append] at h
    rcases h with h | h
    · obtain ⟨row, hrow, rfl⟩ := mem_map.mp h
      rw [isInternal, startsWith_of_matviewPrefix (mem_filter.mp hrow).2, Bool.true_or]
    · exact isInternal_of_mem_fillActions h
  | refreshIncrementally view =>
    obtain ⟨delta, hdelt, ha⟩ := mem_flatMap.mp h
    exact isInternal_of_mem_applyDeltaActions (mem_filter.mp hdelt).2 ha

theorem keeps_foldl_populate {stmts : List String} (hcap : s.rowStore.maxRowsCap = 0) :
    Keeps (isUnder d.text ·) d.text s.state
      (stmts.foldl (populate engine indexes db) s).state := by
  induction stmts generalizing s with
  | nil => exact Keeps.refl _ _ _
  | cons stmt stmts ih =>
    have hstep : Keeps (isUnder d.text ·) d.text s.state
        (populate engine indexes db s stmt).state := by
      rw [populate]
      cases createWithData stmt with
      | none => exact Keeps.refl _ _ _
      | some p => exact keeps_of_isInternal hcap fun _ => isInternal_of_mem_fillActions
    rw [foldl_cons]
    exact hstep.trans (ih (hstep.maxRowsCap_eq_zero hcap))

end

end VngDatabase.Access
