import VngDatabase.Dml.Scan
import VngDatabase.Tx.Conflicts

/-!
# Transactions that declare no key

The keys that a transaction declares are read off the texts of its statements. If there are none,
the statements do nothing (`flushStatements_eq_self`). If there is one, there are rows that the
statements write (`exists_target`).
-/

namespace VngDatabase.Tx

open Store Sql Text Overlay Dml DurabilityEngine BootEngine List

section

variable {E : Type} [DurabilityEngine E] [CheckPredicate] [ColumnOrder] [Unicode]
  {db stmt : String} {stmts : List String}

theorem flushStatement_eq_self (h : declaredKeys db stmt = []) (xid : Xid) (st : Guarded E) :
    flushStatement db xid stmt st = (st, none) := by
  unfold declaredKeys at h
  unfold flushStatement
  cases hkind : dmlKind stmt with
  | none => rfl
  | some kind =>
    rw [hkind] at h
    cases kind with
    | insert =>
      have hrows : extractAllInsertRows stmt = [] := map_eq_nil_iff.mp h
      simp only [hrows]
      rfl
    | update =>
      cases hrow : extractUpdateRowFromSql stmt with
      | none => rfl
      | some row => simp [hrow] at h
    | delete =>
      cases hkey : extractDeleteKeyFromSql stmt with
      | none => rfl
      | some rawKey => simp [hkey] at h

theorem flushStatementActions_eq_nil (h : declaredKeys db stmt = []) (st : Guarded E) :
    flushStatementActions db stmt st = [] := by
  unfold declaredKeys at h
  unfold flushStatementActions
  cases hkind : dmlKind stmt with
  | none => rfl
  | some kind =>
    rw [hkind] at h
    cases kind with
    | insert =>
      have hrows : extractAllInsertRows stmt = [] := map_eq_nil_iff.mp h
      simp only [flushRows, hkind, hrows]
      rfl
    | update =>
      cases hrow : extractUpdateRowFromSql stmt with
      | none => rfl
      | some row => simp [hrow] at h
    | delete =>
      cases hkey : extractDeleteKeyFromSql stmt with
      | none => rfl
      | some rawKey => simp [hkey] at h

theorem flushStatements_eq_self (h : commitWriteKeys db stmts = []) (xid : Xid) (st : Guarded E) :
    flushStatements db xid stmts st = (st, none) := by
  induction stmts with
  | nil => rfl
  | cons stmt stmts ih =>
    rw [commitWriteKeys, flatMap_cons, append_eq_nil_iff] at h
    rw [flushStatements, flushStatement_eq_self h.1]
    exact ih h.2

end

section

variable {E : Type} [DurabilityEngine E] [CheckPredicate] [ColumnOrder] [Unicode]
  {db stmt : String} {stmts : List String}

omit [DurabilityEngine E] [Unicode] in
theorem acceptedRows_eq {mgr : ConstraintManager} (h : mgr.constraints = [])
    (rows : List InsertRow) : acceptedRows flushRefusal mgr rows = rows := by
  induction rows with
  | nil => rfl
  | cons row rows ih =>
    have hpass : flushRefusal mgr row.data = none := by
      rw [flushRefusal]
      split_ifs
      · rfl
      · simp [rowViolation, ConstraintManager.validate, ConstraintManager.constraintsOn, h]
    rw [acceptedRows, hpass, recordRow_eq_self h, ih]
    simp

theorem exists_target_of_declaredKeys (h : declaredKeys db stmt ≠ []) :
    ∃ rawKey data, ∀ st : Guarded E, st.constraints.constraints = [] →
      (dbPrefixKey db rawKey, data) ∈ st.scanRows db →
        ∃ w ∈ rowWrites (flushStatementActions db stmt st), w.1 = dbPrefixKey db rawKey := by
  unfold declaredKeys at h
  cases hkind : dmlKind stmt with
  | none => simp [hkind] at h
  | some kind =>
    rw [hkind] at h
    cases kind with
    | insert =>
      obtain ⟨row, rows, hrows⟩ := exists_cons_of_ne_nil (mt map_eq_nil_iff.mpr h)
      refine ⟨row.rowKey, ∅, fun st hst _ => ⟨(dbPrefixKey db row.rowKey, some row.data), ?_, rfl⟩⟩
      simp only [flushStatementActions, flushRows, hkind, acceptedRows_eq hst, hrows,
        flatMap_cons, rowWrites_append]
      exact mem_append_left _ (by simp [flushInsertActions, rowWrites, Action.rowWrite])
    | delete =>
      cases hkey : extractDeleteKeyFromSql stmt with
      | none => simp [hkey] at h
      | some rawKey =>
        refine ⟨rawKey, ∅, fun st _ _ => ⟨(dbPrefixKey db rawKey, none), ?_, rfl⟩⟩
        simp [flushStatementActions, hkind, hkey, flushDeleteActions, rowWrites, Action.rowWrite]
    | update =>
      cases hrow : extractUpdateRowFromSql stmt with
      | none => simp [hrow] at h
      | some row =>
        obtain ⟨rawKey, columns⟩ := row
        cases htgt : scanUpdateTarget stmt with
        | none =>
          refine ⟨rawKey, ∅, fun st _ _ =>
            ⟨(dbPrefixKey db rawKey, some (mergedRow db rawKey columns st.toState)), ?_, rfl⟩⟩
          simp [flushStatementActions, hkind, hrow, htgt, keyedUpdateActions, rowWrites,
            Action.rowWrite]
        | some t =>
          -- a row of the table with the value that is looked for
          refine ⟨t.table ++ ":", Finmap.insert t.whereCol t.whereVal ∅, fun st _ hmem => ?_⟩
          have hmt : matchesUpdate t db
              (dbPrefixKey db (t.table ++ ":"), Finmap.insert t.whereCol t.whereVal ∅) := by
            rw [matchesUpdate, localKey_dbPrefixKey]
            simp [startsWith]
          refine ⟨(dbPrefixKey db (t.table ++ ":"),
            some ((Finmap.insert t.whereCol t.whereVal ∅).insert t.setCol t.setVal)), ?_, rfl⟩
          simp only [flushStatementActions, hkind, hrow, htgt, rowWrites_append,
            rowWrites_flatMap_scanUpdateActions]
          exact mem_append_left _
            (mem_map.mpr ⟨_, mem_filter.mpr ⟨hmem, hmt⟩, rfl⟩)

theorem exists_target (h : commitWriteKeys db stmts ≠ []) :
    ∃ rawKey data, ∀ (xid : Xid) (st : Guarded E), st.constraints.constraints = [] →
      (dbPrefixKey db rawKey, data) ∈ st.scanRows db →
        ∃ w ∈ rowWrites (flushActions db xid stmts st), w.1 = dbPrefixKey db rawKey := by
  induction stmts with
  | nil => exact absurd rfl h
  | cons stmt stmts ih =>
    by_cases hstmt : declaredKeys db stmt = []
    · -- the statement does nothing, so the others start from the same state
      obtain ⟨rawKey, data, hwr⟩ := ih fun hnil => h (by
        rw [commitWriteKeys, flatMap_cons, hstmt, nil_append]
        exact hnil)
      refine ⟨rawKey, data, fun xid st hst hmem => ?_⟩
      have hself := flushStatement_eq_self hstmt xid st
      have href : flushRefused st.constraints stmt = false := by
        rw [← flushStatement_isSome db xid stmt st, hself]
        rfl
      rw [flushActions, flushStatementActions_eq_nil hstmt, href, hself]
      exact hwr xid st hst hmem
    · obtain ⟨rawKey, data, hwr⟩ := exists_target_of_declaredKeys (E := E) hstmt
      refine ⟨rawKey, data, fun xid st hst hmem => ?_⟩
      obtain ⟨w, hw, hkey⟩ := hwr st hst hmem
      exact ⟨w, by rw [flushActions, rowWrites_append]; exact mem_append_left _ hw, hkey⟩

end

end VngDatabase.Tx
