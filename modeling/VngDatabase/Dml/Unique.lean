import VngDatabase.Dml.Rollback

/-!
# Key columns

A key column is kept unique through the set of values that the constraint manager has seen, as long
as it holds the values of the visible rows and nothing else (`Indexed`). Only an `INSERT` tells the
manager anything.
-/

namespace VngDatabase.Dml

open Store Sql Text Overlay ConstraintManager List Option Function

variable (validate : String → RowData → Except String Unit)

section

variable {κ α : Type*}

/-- **The set holds the values of the column**, each once. -/
structure Indexes (seen : Finset α) (values : κ → Option α) : Prop where
  mem_iff : ∀ v, v ∈ seen ↔ ∃ k, values k = some v
  injective : ∀ {k k' v}, values k = some v → values k' = some v → k = k'

theorem indexes_empty : Indexes (∅ : Finset α) fun _ : κ => none :=
  ⟨by simp, by simp⟩

theorem Indexes.update [DecidableEq κ] {seen seen' : Finset α} {values : κ → Option α} {k : κ}
    {new : Option α} (h : Indexes seen values) (hk : values k = none)
    (hseen : ∀ v, v ∈ seen' ↔ v ∈ seen ∨ new = some v) (hnew : ∀ v, new = some v → v ∉ seen) :
    Indexes seen' (Function.update values k new) where
  mem_iff v := by
    rw [hseen, h.mem_iff]
    constructor
    · rintro (⟨k', hk'⟩ | hv)
      · have hne : k' ≠ k := by
          rintro rfl
          simp [hk] at hk'
        exact ⟨k', by rwa [update_of_ne hne]⟩
      · exact ⟨k, by rwa [update_self]⟩
    · rintro ⟨k', hk'⟩
      rcases eq_or_ne k' k with rfl | hne
      · rw [update_self] at hk'
        exact Or.inr hk'
      · rw [update_of_ne hne] at hk'
        exact Or.inl ⟨k', hk'⟩
  injective := by
    -- two places with one value: the new place is not among them, its value has not been seen
    have hnot {k' : κ} {v : α} (hv : new = some v) (hk' : values k' = some v) : False :=
      hnew v hv ((h.mem_iff v).mpr ⟨k', hk'⟩)
    intro k₁ k₂ v h₁ h₂
    rw [update_apply] at h₁ h₂
    split_ifs at h₁ h₂ with hk₁ hk₂ hk₂
    · rw [hk₁, hk₂]
    · exact (hnot h₁ h₂).elim
    · exact (hnot h₂ h₁).elim
    · exact h.injective h₁ h₂

end

section

variable (table column : String)

def heldValue (row : Option RowData) : Option String :=
  row.bind fun data => if tableOf data = table then data.lookup column else none

def columnValues (read : String → Option RowData) (k : String) : Option String :=
  if isUserKey k then heldValue table column (read k) else none

def LeavesValue (read : String → Option RowData) (k : String) (row : Option RowData) : Prop :=
  isUserKey k → heldValue table column row = heldValue table column (read k)

variable {table column} {read : String → Option RowData} {ws : List (String × Option RowData)}

theorem columnValues_overlay
    (h : ∀ k v, lastWrite ws k = some v → LeavesValue table column read k v) :
    columnValues table column (overlay ws read) = columnValues table column read := by
  funext k
  unfold columnValues
  split_ifs with hk
  · rcases overlay_apply_eq_iff.mp (rfl : overlay ws read k = _) with hw | ⟨-, heq⟩
    · exact h k _ hw hk
    · rw [heq]
  · rfl

theorem columnValues_insert {db : String} {row : InsertRow}
    (hkey : isUserKey (dbPrefixKey db row.rowKey) ∨ heldValue table column (some row.data) = none) :
    columnValues table column (overlay (insertRowWrites db row) read) =
      Function.update (columnValues table column read) (dbPrefixKey db row.rowKey)
        (heldValue table column (some row.data)) := by
  funext k
  rw [update_apply]
  by_cases hk : isUserKey k
  · have hlast := lastWrite_insertRowWrites hk db row
    rw [columnValues, if_pos hk, overlay, hlast, ← overlay, overlay_singleton, update_apply]
    split_ifs with hrow
    · rfl
    · rw [columnValues, if_pos hk]
  · rw [columnValues, if_neg hk]
    split_ifs with hrow
    · subst hrow
      exact (hkey.resolve_left hk).symm
    · rw [columnValues, if_neg hk]

end

section

variable [ColumnOrder] {mgr : ConstraintManager} {c : ConstraintDescriptor} {data : RowData}
  {v : String}

theorem mem_userColumns {col : String × String} :
    col ∈ userColumns data ↔ data.lookup col.1 = some col.2 ∧ ¬startsWith col.1 "__" := by
  rw [userColumns, mem_filter, ColumnOrder.mem_columns, Bool.not_eq_true', Bool.not_eq_true]

omit [ColumnOrder] in
theorem constraints_foldl_recordCommittedValue (table : String) (cols : List (String × String))
    (mgr : ConstraintManager) :
    (cols.foldl (fun mgr c => mgr.recordCommittedValue table c.1 c.2) mgr).constraints =
      mgr.constraints := by
  induction cols generalizing mgr with
  | nil => rfl
  | cons col cols ih => exact ih _

@[simp]
theorem constraints_recordRow (mgr : ConstraintManager) (data : RowData) :
    (recordRow mgr data).constraints = mgr.constraints := by
  rw [recordRow]
  split_ifs
  · rfl
  · exact constraints_foldl_recordCommittedValue _ _ mgr

omit [ColumnOrder] in
theorem mem_seen_foldl_recordCommittedValue (hc : c ∈ mgr.constraints) (hkey : c.kind.isKey)
    (table : String) (cols : List (String × String)) :
    v ∈ (cols.foldl (fun mgr c => mgr.recordCommittedValue table c.1 c.2) mgr).seen c.name ↔
      v ∈ mgr.seen c.name ∨ (c.table = table ∧ (c.column, v) ∈ cols) := by
  induction cols generalizing mgr with
  | nil => simp
  | cons col cols ih =>
    have hc' : c ∈ (mgr.recordCommittedValue table col.1 col.2).constraints := hc
    rw [foldl_cons, ih hc', mem_seen_recordCommittedValue hc hkey, mem_cons, Prod.ext_iff]
    tauto

theorem mem_seen_recordRow (hc : c ∈ mgr.constraints) (hkey : c.kind.isKey)
    (htabl : c.table ≠ "") (hcol : ¬startsWith c.column "__") :
    v ∈ (recordRow mgr data).seen c.name ↔
      v ∈ mgr.seen c.name ∨ heldValue c.table c.column (some data) = some v := by
  rw [recordRow, heldValue, bind_some]
  split_ifs with hnone htab htab
  · exact absurd (htab.symm.trans hnone) htabl
  · simp
  · simp [mem_seen_foldl_recordCommittedValue hc hkey, mem_userColumns, htab, hcol]
  · simp [mem_seen_foldl_recordCommittedValue hc hkey, Ne.symm htab]

variable [CheckPredicate] {validate : String → RowData → Except String Unit}

theorem notMem_seen_of_insertRefusal (hrfs : insertRefusal validate mgr data = none)
    (hc : c ∈ mgr.constraints) (hkey : c.kind.isKey) (htabl : c.table ≠ "")
    (hcolu : ¬startsWith c.column "__")
    (hv : heldValue c.table c.column (some data) = some v) : v ∉ mgr.seen c.name := by
  rw [heldValue, bind_some, ite_none_right_eq_some] at hv
  obtain ⟨htab, hv⟩ := hv
  rw [insertRefusal, htab, if_neg htabl] at hrfs
  split at hrfs
  · contradiction
  · split at hrfs
    · contradiction
    · rw [map_eq_none_iff, rowViolation, findSome?_eq_none_iff] at hrfs
      have hcol := hrfs (c.column, v) (mem_userColumns.mpr ⟨hv, hcolu⟩)
      exact notMem_seen_of_validate (by simpa using hcol)
        (mem_constraintsOn.mpr ⟨hc, rfl, rfl⟩) hkey

end

section

variable {E : Type} [DurabilityEngine E] [ColumnOrder]

def Indexed (table column : String) (st : Guarded E) : Prop :=
  ∀ c ∈ st.constraints.constraintsOn table column, c.kind.isKey →
    Indexes (st.constraints.seen c.name) (columnValues table column st.rowStore.readLatest)

/-- **A row goes to a key without a value** in the column. -/
structure TidyRow (table column db : String) (row : InsertRow) (st : Guarded E) : Prop where
  free : columnValues table column st.rowStore.readLatest (dbPrefixKey db row.rowKey) = none
  visible : isUserKey (dbPrefixKey db row.rowKey) ∨
    heldValue table column (some row.data) = none

def insertNext (db : String) (xid : Xid) (row : InsertRow) (st : Guarded E) : Guarded E where
  toState := directInsertRow db xid st.toState row
  constraints := recordRow st.constraints row.data

variable [CheckPredicate]

def TidyRows (validate : String → RowData → Except String Unit)
    (table column db : String) (xid : Xid) : List InsertRow → Guarded E → Prop
  | [], _ => True
  | row :: rows, st => insertRefusal validate st.constraints row.data = none →
      TidyRow table column db row st ∧
        TidyRows validate table column db xid rows (insertNext db xid row st)

def insertChecks (validate : String → RowData → Except String Unit) (db : String)
    (xid : Xid) : List InsertRow → Guarded E → List (Guarded E × RowData)
  | [], _ => []
  | row :: rows, st => (st, row.data) ::
      if (insertRefusal validate st.constraints row.data).isSome then []
      else insertChecks validate db xid rows (insertNext db xid row st)

variable [Unicode]

/-- **Only an `INSERT` changes the values in the column.** -/
def Tidy (table column db : String)
    (xid : Xid) (stmt : String) (st : Guarded E) : Prop :=
  match plan stmt with
  | .insert rows => TidyRows validate table column db xid rows st
  | _ => ∀ w ∈ userWrites db stmt st.toState,
      LeavesValue table column st.rowStore.readLatest w.1 w.2

def TidyAll (validate : String → RowData → Except String Unit)
    (table column db : String) (xid : Xid) : List String → Guarded E → Prop
  | [], _ => True
  | stmt :: stmts, st => Tidy validate table column db xid stmt st ∧
      (isRefused validate db xid stmt st = false →
        TidyAll validate table column db xid stmts
          (checkedStatement validate db xid stmt st).1)

def statementChecks (db : String)
    (xid : Xid) (stmt : String) (st : Guarded E) : List (Guarded E × RowData) :=
  match plan stmt with
  | .insert rows => insertChecks validate db xid rows st
  | _ => []

def batchChecks (validate : String → RowData → Except String Unit) (db : String)
    (xid : Xid) : List String → Guarded E → List (Guarded E × RowData)
  | [], _ => []
  | stmt :: stmts, st =>
    statementChecks validate db xid stmt st ++
      if isRefused validate db xid stmt st then []
      else batchChecks validate db xid stmts
        (checkedStatement validate db xid stmt st).1

variable {validate : String → RowData → Except String Unit} {table column db stmt : String}
  {xid : Xid} {st st' : Guarded E}

omit [DurabilityEngine E] [ColumnOrder] [CheckPredicate] [Unicode] in
theorem Indexed.of_eq (h : Indexed table column st)
    (hvals : columnValues table column st'.rowStore.readLatest =
      columnValues table column st.rowStore.readLatest)
    (hmgr : st'.constraints = st.constraints) : Indexed table column st' := by
  intro c hc hkey
  rw [hmgr] at hc ⊢
  rw [hvals]
  exact h c hc hkey

omit [CheckPredicate] [Unicode] in
theorem insertNext_shows (hnew : st.rowStore.Newest xid) (db : String) (row : InsertRow) :
    Shows xid st.toState (insertNext db xid row st).toState (insertRowWrites db row) := by
  rw [insertNext, directInsertRow_performs, ← rowWrites_insertActions]
  exact performAll_shows hnew _

omit [Unicode] in
theorem Indexed.insertNext {row : InsertRow} (h : Indexed table column st) (htab : table ≠ "")
    (hcol : ¬startsWith column "__")
    (hrfs : insertRefusal validate st.constraints row.data = none)
    (htidy : TidyRow table column db row st) (hnew : st.rowStore.Newest xid)
    (hcap : st.rowStore.maxRowsCap = 0) : Indexed table column (insertNext db xid row st) := by
  intro c hc hkey
  obtain ⟨hmem, rfl, rfl⟩ := mem_constraintsOn.mp hc
  replace hmem : c ∈ st.constraints.constraints := by
    rwa [Dml.insertNext, constraints_recordRow] at hmem
  rw [(insertNext_shows hnew db row).readLatest_eq_overlay hcap, columnValues_insert htidy.visible]
  refine (h c (mem_constraintsOn.mpr ⟨hmem, rfl, rfl⟩) hkey).update htidy.free
    (fun v => mem_seen_recordRow hmem hkey htab hcol) fun v hv => ?_
  exact notMem_seen_of_insertRefusal hrfs hmem hkey htab hcol hv

omit [Unicode] in
theorem Indexed.checkedInsert {rows : List InsertRow} (h : Indexed table column st)
    (htab : table ≠ "") (hcol : ¬startsWith column "__")
    (htidy : TidyRows validate table column db xid rows st) (hnew : st.rowStore.Newest xid)
    (hcap : st.rowStore.maxRowsCap = 0) :
    (∀ x ∈ insertChecks validate db xid rows st, Indexed table column x.1) ∧
      Indexed table column (checkedInsert validate db xid rows st).1 := by
  induction rows generalizing st with
  | nil => exact ⟨by simp [insertChecks], h⟩
  | cons row rows ih =>
    rw [Dml.checkedInsert, insertLoop, insertChecks]
    cases hrfs : insertRefusal validate st.constraints row.data with
    | some reason => exact ⟨by simpa using h, h⟩
    | none =>
      obtain ⟨hrow, hrows⟩ := htidy hrfs
      have hshw := insertNext_shows hnew db row
      obtain ⟨hche, hlast⟩ := ih (h.insertNext htab hcol hrfs hrow hnew hcap) hrows
        hshw.newest (hshw.maxRowsCap.trans hcap)
      refine ⟨?_, hlast⟩
      rw [if_neg (by simp), forall_mem_cons]
      exact ⟨h, hche⟩

theorem mem_userWrites (hplan : ∀ rows, plan stmt ≠ .insert rows) {k : String}
    {v : Option RowData} (hk : isUserKey k)
    (hv : lastWrite (rowWrites (checkedActions validate db xid stmt st)) k = some v) :
    (k, v) ∈ userWrites db stmt st.toState := by
  cases href : isRefused validate db xid stmt st with
  | false =>
    rw [checkedActions_eq_directActions href, rowWrites_directActions,
      lastWrite_directWrites hk] at hv
    exact mem_of_lastWrite hv
  | true =>
    have hmem := mem_of_lastWrite hv
    unfold checkedActions at hmem
    rw [userWrites_eq]
    cases hstmt : plan stmt with
    | insert rows => exact absurd hstmt (hplan rows)
    | scanUpdate t =>
      simp only [hstmt, href, if_true, append_nil, rowWrites_flatMap_scanUpdateActions] at hmem
      exact map_subset _ (acceptedUpdates_subset _ _ _ _ _ _) hmem
    | keyedUpdate rawKey columns => simp [hstmt, href, rowWrites] at hmem
    | _ => simp [isRefused, hstmt] at href

theorem Indexed.of_leaves (h : Indexed table column st) (hplan : ∀ rows, plan stmt ≠ .insert rows)
    (hlea : ∀ w ∈ userWrites db stmt st.toState,
      LeavesValue table column st.rowStore.readLatest w.1 w.2) (hnew : st.rowStore.Newest xid)
    (hcap : st.rowStore.maxRowsCap = 0) :
    Indexed table column (checkedStatement validate db xid stmt st).1 := by
  have hmgr : recordedRows validate stmt st.constraints = [] := by
    unfold recordedRows
    split
    · exact absurd ‹_› (hplan _)
    · rfl
  rw [checkedStatement_performs, hmgr, recordRows_nil]
  refine h.of_eq ?_ rfl
  rw [(performAll_shows hnew _).readLatest_eq_overlay hcap]
  exact columnValues_overlay fun k v hv hk => hlea _ (mem_userWrites hplan hk hv) hk

theorem Indexed.checkedStatement (h : Indexed table column st) (htab : table ≠ "")
    (hcol : ¬startsWith column "__") (htidy : Tidy validate table column db xid stmt st)
    (hnew : st.rowStore.Newest xid) (hcap : st.rowStore.maxRowsCap = 0) :
    (∀ x ∈ statementChecks validate db xid stmt st, Indexed table column x.1) ∧
      Indexed table column (checkedStatement validate db xid stmt st).1 := by
  unfold Tidy at htidy
  unfold statementChecks
  cases hplan : plan stmt with
  | insert rows =>
    simp only [hplan] at htidy
    unfold Dml.checkedStatement
    rw [hplan]
    exact h.checkedInsert htab hcol htidy hnew hcap
  | _ =>
    simp only [hplan] at htidy
    exact ⟨by simp, h.of_leaves (by simp [hplan]) htidy hnew hcap⟩

theorem Indexed.checkedStatements {stmts : List String} (h : Indexed table column st)
    (htab : table ≠ "") (hcol : ¬startsWith column "__")
    (htidy : TidyAll validate table column db xid stmts st) (hnew : st.rowStore.Newest xid)
    (hcap : st.rowStore.maxRowsCap = 0) :
    (∀ x ∈ batchChecks validate db xid stmts st, Indexed table column x.1) ∧
      Indexed table column (checkedStatements validate db xid stmts st).1 := by
  induction stmts generalizing st with
  | nil => exact ⟨by simp [batchChecks], h⟩
  | cons stmt stmts ih =>
    obtain ⟨hche, hlast⟩ := h.checkedStatement htab hcol htidy.1 hnew hcap
    rw [Dml.checkedStatements, batchChecks]
    simp only [checkedStatement_isSome, forall_mem_append]
    split_ifs with href
    · exact ⟨⟨hche, by simp⟩, hlast⟩
    · have hshw : Shows xid st.toState (Dml.checkedStatement validate db xid stmt st).1.toState
          (rowWrites (checkedActions validate db xid stmt st)) := by
        rw [checkedStatement_performs]
        exact performAll_shows hnew _
      obtain ⟨hche', hlast'⟩ := ih hlast (htidy.2 (Bool.eq_false_iff.mpr href))
        hshw.newest (hshw.maxRowsCap.trans hcap)
      exact ⟨⟨hche, hche'⟩, hlast'⟩

end

section

variable {E : Type} [BootEngine E] [CheckPredicate] [ColumnOrder] [Unicode]
  {validate : String → RowData → Except String Unit} {table column : String} {st : Guarded E}
  {req : Request}

def Restores (table column : String) (st : State E) : Prop :=
  ∀ k v, lastWrite st.txUndoLog.reverse k = some v →
    LeavesValue table column st.rowStore.readLatest k v

def TidyRequest (validate : String → RowData → Except String Unit)
    (table column : String) (st : Guarded E) (req : Request) : Prop :=
  req.hasUnknown = false →
    TidyAll validate table column req.db st.rowStore.nextXid req.statements st.begin ∧
      (req.hasRollback → Restores table column (executeDml validate req st).1.toState)

def requestChecks (validate : String → RowData → Except String Unit) (req : Request)
    (st : Guarded E) : List (Guarded E × RowData) :=
  if req.hasUnknown then []
  else batchChecks validate req.db st.rowStore.nextXid req.statements st.begin

omit [CheckPredicate] [ColumnOrder] [Unicode] in
theorem Indexed.finish (h : Indexed table column st) (hsnd : st.Sound)
    (hcap : st.rowStore.maxRowsCap = 0)
    (hres : req.hasRollback → Restores table column st.toState) :
    Indexed table column (st.finish req) := by
  rw [Guarded.finish]
  split_ifs with hrb
  · refine h.of_eq ?_ rfl
    rw [State.readLatest_rollback hsnd hcap]
    exact columnValues_overlay (hres hrb)
  · exact h
  · exact h

theorem Indexed.respond (h : Indexed table column st) (htab : table ≠ "")
    (hcol : ¬startsWith column "__") (htidy : TidyRequest validate table column st req)
    (hsnd : st.Sound) (hcap : st.rowStore.maxRowsCap = 0) :
    (∀ x ∈ requestChecks validate req st, Indexed table column x.1) ∧
      Indexed table column (st.respond validate req).1 := by
  unfold requestChecks
  cases hunk : req.hasUnknown with
  | true =>
    rw [Guarded.respond, if_pos hunk]
    exact ⟨by simp, h⟩
  | false =>
    obtain ⟨hall, hres⟩ := htidy hunk
    have hbeg : Indexed table column st.begin := by
      refine h.of_eq ?_ rfl
      exact congrArg (columnValues table column) hsnd.stamped.readLatest_beginXid
    obtain ⟨hche, hlast⟩ := hbeg.checkedStatements htab hcol hall
      st.rowStore.newest_beginXid hcap
    have hdml : Indexed table column (sqlExecuteChecked validate req.db req.statements st).1 :=
      hlast
    have hsnd' : (sqlExecuteChecked validate req.db req.statements st).1.Sound := by
      rw [sqlExecuteChecked_fst]
      exact hsnd.transact _
    have hcap' : (sqlExecuteChecked validate req.db req.statements st).1.rowStore.maxRowsCap =
        0 := by
      rw [sqlExecuteChecked_fst]
      exact (State.transact_writes hsnd.stamped _).maxRowsCap.trans hcap
    refine ⟨hche, ?_⟩
    rcases st.respond_cases validate req with
      he | ⟨reason, -, he⟩ | ⟨hhas, -, he⟩ | ⟨hno, he⟩ <;> rw [he]
    · exact h
    · exact hdml
    · rw [executeDml, if_pos hhas] at hres
      exact hdml.finish hsnd' hcap' hres
    · rw [executeDml, hno, if_neg Bool.false_ne_true] at hres
      exact h.finish hsnd hcap hres

/-- **A row is called a duplicate only if its value is there.** -/
def FairCheck (table column : String) (st : Guarded E) (data : RowData) : Prop :=
  ∀ v violation, heldValue table column (some data) = some v →
    st.constraints.validate table column (some v) = some violation → violation.isDuplicate →
    ∃ k, columnValues table column st.rowStore.readLatest k = some v

omit [BootEngine E] [ColumnOrder] [Unicode] in
theorem Indexed.fairCheck (h : Indexed table column st) (data : RowData) :
    FairCheck table column st data := by
  intro v violation _ hvio hdup
  obtain ⟨c, hc, hv⟩ := exists_of_findSome?_eq_some hvio
  obtain ⟨hkey, hseen⟩ := exists_isDuplicate_iff.mp ⟨violation, hv, hdup⟩
  exact ((h c hc hkey).mem_iff v).mp hseen

theorem constraints_respond (val : String → RowData → Except String Unit) (req : Request)
    (st : Guarded E) :
    (st.respond val req).1.constraints.constraints = st.constraints.constraints := by
  have hrec (rows : List RowData) (mgr : ConstraintManager) :
      (recordRows mgr rows).constraints = mgr.constraints := by
    induction rows generalizing mgr with
    | nil => rfl
    | cons data rows ih => exact (ih _).trans (constraints_recordRow mgr data)
  have hfin (st : Guarded E) : (st.finish req).constraints = st.constraints := by
    rw [Guarded.finish]
    split_ifs <;> rfl
  rcases st.respond_cases val req with
    he | ⟨reason, -, he⟩ | ⟨-, -, he⟩ | ⟨-, he⟩ <;> rw [he]
  · rw [sqlExecuteChecked_fst]
    exact hrec _ _
  · rw [hfin, sqlExecuteChecked_fst]
    exact hrec _ _
  · rw [hfin]

/-- **A key column stays unique** in every run of tidy requests. -/
theorem keyColumn_stays_unique {s₀ s : Server E} (htable : table ≠ "")
    (hcolumn : ¬startsWith column "__")
    (hkey : ∃ c ∈ s₀.constraints.constraintsOn table column, c.kind.isKey)
    (hseen : ∀ c ∈ s₀.constraints.constraintsOn table column, s₀.constraints.seen c.name = ∅)
    (hrows : ∀ k, s₀.rowStore.readLatest k = none) (hcap : s₀.rowStore.maxRowsCap = 0)
    (hrun : Transition.ReachableIf (Server.step validate)
      (fun s req => TidyRequest validate table column (s.session req.connectionId) req) s₀ s)
    (htidy : TidyRequest validate table column (s.session req.connectionId) req) :
    (∀ k k' v, columnValues table column s.rowStore.readLatest k = some v →
      columnValues table column s.rowStore.readLatest k' = some v → k = k') ∧
      ∀ x ∈ requestChecks validate req (s.session req.connectionId),
        FairCheck table column x.1 x.2 := by
  have hst0 : Indexed table column (s₀.session "") := by
    intro c hc _
    have hnone : columnValues table column s₀.rowStore.readLatest = fun _ => none := by
      funext k
      rw [columnValues, hrows k]
      exact ite_self _
    have hemp : s₀.constraints.seen c.name = ∅ := hseen c hc
    exact hemp ▸ hnone ▸ indexes_empty
  obtain ⟨hcap, ⟨c, hc, hkey⟩, hind⟩ := hrun.invariant
    (P := fun s => s.rowStore.maxRowsCap = 0 ∧
      (∃ c ∈ s.constraints.constraintsOn table column, c.kind.isKey) ∧
      Indexed table column (s.session "")) ⟨hcap, hkey, hst0⟩ <| by
      rintro s _ req ⟨hcap, ⟨c, hc, hkey⟩, hind⟩ hgood ⟨⟩
      have hind' : Indexed table column (s.session req.connectionId) := hind
      have hmgr := constraints_respond validate req (s.session req.connectionId)
      refine ⟨(maxRowsCap_respond (s.sound _) req).trans hcap, ⟨c, ?_, hkey⟩,
        (hind'.respond htable hcolumn hgood (s.sound _) hcap).2⟩
      rw [mem_constraintsOn] at hc ⊢
      exact ⟨hmgr.symm ▸ hc.1, hc.2⟩
  have hind' : Indexed table column (s.session req.connectionId) := hind
  refine ⟨fun k k' v => (hind c hc hkey).injective, fun x hx => ?_⟩
  exact ((hind'.respond htable hcolumn htidy (s.sound _) hcap).1 x hx).fairCheck x.2

end

section

open scoped Sample

def uniqueServer : Server InMemoryEngine where
  __ := Server.empty {} maxRowXid_memory
  constraints := (new.addConstraint
    ⟨"uq_t_email", "t", "email", .unique, none, none⟩).toOption.getD .new

def insertFirst : Request := onSharedConnection ["INSERT INTO t (id, email) VALUES (1, 'a')"]

def insertSecond : Request := onSharedConnection ["INSERT INTO t (id, email) VALUES (2, 'b')"]

def insertThird : Request := onSharedConnection ["INSERT INTO t (id, email) VALUES (3, 'a')"]

def updateFirst : Request := onSharedConnection ["UPDATE t SET email = 'b' WHERE id = 1"]

def firstRow : Server InMemoryEngine := (uniqueServer.sqlExecute anyRow insertFirst).1

def firstRowChanged : Server InMemoryEngine := (firstRow.sqlExecute anyRow updateFirst).1

theorem forall_columnValues_ne {rs : PagedRowStore} {v : String} :
    (∀ k, columnValues "t" "email" rs.readLatest k ≠ some v) ↔
      ∀ k ∈ rs.shelf.flatten, columnValues "t" "email" rs.readLatest k ≠ some v := by
  refine ⟨fun h k _ => h k, fun h k => ?_⟩
  by_cases hk : k ∈ rs.shelf.flatten
  · exact h k hk
  · rw [columnValues, PagedRowStore.readLatest_eq_none hk]
    simp [heldValue]

/-- **After an `UPDATE` both directions fail.** -/
theorem update_is_not_noticed :
    ((uniqueServer.sqlExecute anyRow insertFirst).2 = .done ∧
      (firstRow.sqlExecute anyRow updateFirst).2 = .done) ∧
      ((firstRowChanged.sqlExecute anyRow insertSecond).2 = .done ∧ columnValues "t" "email"
          (firstRowChanged.sqlExecute anyRow insertSecond).1.rowStore.readLatest "t:1" = some "b" ∧
        columnValues "t" "email"
          (firstRowChanged.sqlExecute anyRow insertSecond).1.rowStore.readLatest "t:2" = some "b") ∧
      (firstRowChanged.sqlExecute anyRow insertThird).2 =
        .refused "constraint_violation: unique constraint 'uq_t_email' violation for value 'a'" ∧
      ∀ k, columnValues "t" "email" firstRowChanged.rowStore.readLatest k ≠ some "a" := by
  rw [forall_columnValues_ne]
  decide +kernel

theorem tidyRequest_insert {s : Server InMemoryEngine} {stmt : String}
    (h : dmlKind stmt = some .insert ∧ (onSharedConnection [stmt]).hasRollback = false ∧
      (extractAllInsertRows stmt).length = 1 ∧ ∀ row ∈ extractAllInsertRows stmt,
        columnValues "t" "email" (s.session "conn-6").begin.rowStore.readLatest
            (dbPrefixKey "" row.rowKey) = none ∧
          isUserKey (dbPrefixKey "" row.rowKey)) :
    TidyRequest anyRow "t" "email" (s.session "conn-6") (onSharedConnection [stmt]) := by
  obtain ⟨hkind, hroll, hlen, hrows⟩ := h
  obtain ⟨row, hrow⟩ := length_eq_one_iff.mp hlen
  obtain ⟨hfree, huser⟩ := hrows row (by simp [hrow])
  refine fun _ => ⟨⟨?_, fun _ => trivial⟩, fun h => absurd h (by simp [hroll])⟩
  unfold Tidy plan
  rw [hkind]
  dsimp only
  rw [hrow]
  exact fun _ => ⟨⟨hfree, Or.inl huser⟩, trivial⟩

theorem oneRow_unique :
    (∀ k k' v, columnValues "t" "email" firstRow.rowStore.readLatest k = some v →
      columnValues "t" "email" firstRow.rowStore.readLatest k' = some v → k = k') ∧
      ∀ x ∈ requestChecks anyRow insertSecond (firstRow.session insertSecond.connectionId),
        FairCheck "t" "email" x.1 x.2 :=
  keyColumn_stays_unique (by decide) (by decide) (by decide) (by decide)
    (fun _ => PagedRowStore.readLatest_eq_none not_mem_nil) rfl
    (.single ⟨insertFirst, tidyRequest_insert (by decide +kernel), rfl⟩)
    (tidyRequest_insert (by decide +kernel))

end

end VngDatabase.Dml
