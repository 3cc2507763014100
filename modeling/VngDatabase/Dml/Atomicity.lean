import VngDatabase.Dml.Session

/-!
# What a refused request leaves behind

A request that does not pass a check is answered with an error after the rows before the refused one
have been written, and nothing takes them back.
-/

namespace VngDatabase.Dml

open Store Sql Text Overlay BootEngine DurabilityEngine List Option

section

variable [Unicode]

def isSilent (stmt : String) : Bool :=
  match plan stmt with
  | .nothing => true
  | .insert rows => rows.isEmpty
  | _ => false

theorem plan_of_isSilent {stmt : String} (h : isSilent stmt) :
    plan stmt = .nothing ∨ plan stmt = .insert [] := by
  unfold isSilent at h
  cases hplan : plan stmt <;> simp_all

def firstStatement (stmts : List String) : Option String := stmts.find? fun stmt => !isSilent stmt

variable {E : Type} [DurabilityEngine E] [CheckPredicate] [ColumnOrder]
  {validate : String → RowData → Except String Unit} {db stmt : String} {xid : Xid}
  {st : Guarded E} {stmts : List String}

variable (validate db xid st) in
theorem checkedStatement_of_isSilent (h : isSilent stmt) :
    checkedStatement validate db xid stmt st = (st, none) ∧
      checkedActions validate db xid stmt st = [] ∧
      recordedRows validate stmt st.constraints = [] ∧
      isRefused validate db xid stmt st = false := by
  unfold checkedStatement checkedActions recordedRows isRefused directActions
  rcases plan_of_isSilent h with h | h <;> rw [h] <;> exact ⟨rfl, rfl, rfl, rfl⟩

theorem loggedSql_ne_nil (h : isSilent stmt = false)
    (hok : isRefused validate db xid stmt st = false) :
    loggedSql (checkedActions validate db xid stmt st) ≠ [] := by
  unfold checkedActions
  simp only [hok]
  unfold directActions
  unfold isSilent at h
  unfold isRefused at hok
  cases hplan : plan stmt with
  | nothing => simp [hplan] at h
  | insert rows =>
    simp only [hplan, decide_eq_false_iff_not, not_lt] at h hok ⊢
    have hpos : 0 < rows.length := length_pos_iff.mpr (by simpa using h)
    rw [loggedSql_flatMap_insertActions, Ne, map_eq_nil_iff]
    exact ne_nil_of_length_pos (hpos.trans_le hok)
  | scanUpdate t => simp [loggedSql, Action.logged]
  | keyedUpdate rawKey columns => simp [loggedSql, Action.logged, keyedUpdateActions]
  | scanDelete t => simp [loggedSql, Action.logged]
  | keyedDelete rawKey => simp [loggedSql_keyedDeleteActions]

theorem batch_of_firstStatement (hfst : firstStatement stmts = some stmt)
    (href : isRefused validate db xid stmt st) :
    batchActions validate db xid stmts st = checkedActions validate db xid stmt st ∧
      batchRows validate db xid stmts st = recordedRows validate stmt st.constraints := by
  induction stmts with
  | nil => simp [firstStatement] at hfst
  | cons s stmts ih =>
    rw [firstStatement, find?_cons] at hfst
    rw [batchActions, batchRows]
    cases hs : isSilent s with
    | true =>
      obtain ⟨hstmt, has, hrows, hok⟩ := checkedStatement_of_isSilent validate db xid st hs
      simp only [hs, Bool.not_true] at hfst
      simpa [hstmt, has, hrows, hok] using ih hfst
    | false =>
      simp only [hs, Bool.not_false, some.injEq] at hfst
      subst hfst
      simp [href]

theorem firstStatement_of_loggedSql
    (href : (checkedStatements validate db xid stmts st).2.isSome)
    (hlog : loggedSql (batchActions validate db xid stmts st) = []) :
    ∃ stmt, firstStatement stmts = some stmt ∧ isRefused validate db xid stmt st := by
  induction stmts with
  | nil => simp [checkedStatements] at href
  | cons s stmts ih =>
    rw [firstStatement, find?_cons]
    rw [checkedStatements] at href
    rw [batchActions, loggedSql_append, append_eq_nil_iff] at hlog
    cases hs : isSilent s with
    | true =>
      obtain ⟨hstmt, -, -, hok⟩ := checkedStatement_of_isSilent validate db xid st hs
      simp only [hstmt, isSome_none, Bool.false_eq_true, if_false] at href
      simp only [hok, hstmt, Bool.false_eq_true, if_false] at hlog
      exact ih href hlog.2
    | false =>
      refine ⟨s, rfl, ?_⟩
      by_contra hok
      exact loggedSql_ne_nil hs (by simpa using hok) hlog.1

end

section

variable {E : Type} [BootEngine E]

structure Unchanged (st st' : Guarded E) : Prop where
  visible : ∀ k, st'.rowStore.readLatest k = st.rowStore.readLatest k
  durable : ∀ db k, getRow st'.walEngine db k = getRow st.walEngine db k
  logged : iterSql st'.walEngine = iterSql st.walEngine
  values : st'.constraints.uniqueSets = st.constraints.uniqueSets

def LeavesDurable (e : E) (rows : List PersistedRow) : Prop :=
  persistsRows e → ∀ id v, lastWrite rows id = some v → getRow e id.1 id.2 = v

theorem getRow_transact_iff {st : State E} (h : st.Sound) (as : List Action) :
    (∀ db k, getRow (st.transact as).walEngine db k = getRow st.walEngine db k) ↔
      LeavesDurable st.walEngine (storedRows as) := by
  have hp := st.persistsRows_transact as
  cases hrows : persistsRows st.walEngine with
  | false => simp [getRow_eq, hp, hrows, LeavesDurable]
  | true =>
    have hget (id : String × String) : getRow (st.transact as).walEngine id.1 id.2 =
        (lastWrite (storedRows as) id).getD (getRow st.walEngine id.1 id.2) :=
      getRow_of_supersede hrows (hp.trans hrows) (h.scanPersistedRows_transact hrows as) id.1 id.2
    constructor
    · intro heq _ id v hv
      rw [← heq, hget, hv, getD_some]
    · intro hlea db k
      rw [hget (db, k)]
      cases hv : lastWrite (storedRows as) (db, k) with
      | none => rfl
      | some v => exact (hlea hrows (db, k) v hv).symm

variable [CheckPredicate] [ColumnOrder] [Unicode]
  {validate : String → RowData → Except String Unit} {db stmt : String} {stmts : List String}
  {st : Guarded E}

theorem unchanged_iff (h : st.Sound) :
    Unchanged st (sqlExecuteChecked validate db stmts st).1 ↔
      st.rowStore.Leaves (fun _ => True) (rowWrites (requestActions validate db stmts st)) ∧
      LeavesDurable st.walEngine (storedRows (requestActions validate db stmts st)) ∧
      loggedSql (requestActions validate db stmts st) = [] ∧
      (recordRows st.constraints (requestRows validate db stmts st)).uniqueSets =
        st.constraints.uniqueSets := by
  rw [sqlExecuteChecked_fst]
  generalize requestActions validate db stmts st = as
  have hlog := st.iterSql_transact as
  rw [← (State.transact_writes h.stamped as).readLatest_eq_iff, ← getRow_transact_iff h]
  constructor
  · rintro ⟨hvis, hdur, hlogg, hvals⟩
    exact ⟨fun k _ => hvis k, hdur, by simpa [hlog] using hlogg, hvals⟩
  · rintro ⟨hvis, hdur, hlogg, hvals⟩
    exact ⟨fun k => hvis k trivial, hdur, by simpa [hlog] using hlogg, hvals⟩

/-- **Refused before anything has changed.** -/
def StopsAtOnce (validate : String → RowData → Except String Unit) (db : String)
    (xid : Xid) (stmt : String) (st : Guarded E) : Prop :=
  match plan stmt with
  | .insert rows =>
    rows.head?.any fun row => (insertRefusal validate st.constraints row.data).isSome
  | .scanUpdate t =>
    let rows := (st.scanRows db).filter (matchesUpdate t db)
    let accepted := acceptedUpdates st.constraints t db xid rows st.toState
    accepted.length < rows.length ∧
      st.rowStore.Leaves (fun _ => True)
        (accepted.map fun r => (r.1, some (r.2.insert t.setCol t.setVal))) ∧
      LeavesDurable st.walEngine
        (accepted.map fun r => ((db, localKey db r.1), some (r.2.insert t.setCol t.setVal)))
  | .keyedUpdate rawKey columns =>
    (keyedUpdateRefusal st.constraints db rawKey columns st.toState).isSome
  | _ => False

omit [CheckPredicate] [Unicode] in
theorem acceptedRows_eq_nil_iff {refusal : ConstraintManager → RowData → Option String}
    {mgr : ConstraintManager} {rows : List InsertRow} :
    acceptedRows refusal mgr rows = [] ↔
      rows = [] ∨ rows.head?.any fun row => (refusal mgr row.data).isSome := by
  cases rows with
  | nil => simp [acceptedRows]
  | cons row rows =>
    rw [acceptedRows]
    split_ifs with href <;> simp [href]

theorem stopsAtOnce_iff {xid : Xid} :
    StopsAtOnce validate db xid stmt st ↔
      isRefused validate db xid stmt st ∧
      st.rowStore.Leaves (fun _ => True) (rowWrites (checkedActions validate db xid stmt st)) ∧
      LeavesDurable st.walEngine (storedRows (checkedActions validate db xid stmt st)) ∧
      loggedSql (checkedActions validate db xid stmt st) = [] := by
  have hnone : st.rowStore.Leaves (fun _ => True) (rowWrites []) ∧
      LeavesDurable st.walEngine (storedRows []) ∧ loggedSql [] = [] :=
    ⟨PagedRowStore.leaves_nil _, fun _ _ _ hv => by simp [storedRows, lastWrite] at hv, rfl⟩
  unfold StopsAtOnce checkedActions
  cases hplan : plan stmt with
  | insert rows =>
    simp only [isRefused, hplan, decide_eq_true_iff]
    constructor
    · intro hfst
      rw [acceptedRows_eq_nil_iff.mpr (Or.inr hfst)]
      refine ⟨length_pos_iff.mpr ?_, hnone⟩
      rintro rfl
      simp at hfst
    · rintro ⟨hlt, -, -, hlog⟩
      rw [loggedSql_flatMap_insertActions, map_eq_nil_iff] at hlog
      refine (acceptedRows_eq_nil_iff.mp hlog).resolve_left ?_
      rintro rfl
      simp at hlt
  | scanUpdate t =>
    simp only [isRefused, hplan, decide_eq_true_iff]
    refine and_congr_right fun hlt => ?_
    simp only [hlt, if_true, append_nil, rowWrites_flatMap_scanUpdateActions,
      storedRows_flatMap_scanUpdateActions, loggedSql_flatMap_scanUpdateActions, and_true]
  | keyedUpdate rawKey columns =>
    simp only [isRefused, hplan]
    refine ⟨fun h => ⟨h, ?_⟩, And.left⟩
    rw [if_pos h]
    exact hnone
  | _ => simp [isRefused, hplan]

theorem recordedRows_eq_nil {xid : Xid}
    (hlog : loggedSql (checkedActions validate db xid stmt st) = []) :
    recordedRows validate stmt st.constraints = [] := by
  unfold checkedActions at hlog
  unfold recordedRows
  cases hplan : plan stmt with
  | insert rows =>
    simp only [hplan, loggedSql_flatMap_insertActions, map_eq_nil_iff] at hlog
    exact map_eq_nil_iff.mpr hlog
  | _ => rfl

theorem sqlExecuteChecked_unchanged_iff (h : st.Sound)
    (href : (sqlExecuteChecked validate db stmts st).2.isSome) :
    Unchanged st (sqlExecuteChecked validate db stmts st).1 ↔
      ∃ stmt, firstStatement stmts = some stmt ∧
        StopsAtOnce validate db st.rowStore.nextXid stmt st.begin := by
  rw [sqlExecuteChecked_snd] at href
  rw [unchanged_iff h, requestActions, requestRows, PagedRowStore.Leaves,
    ← h.stamped.readLatest_beginXid]
  constructor
  · rintro ⟨hvis, hdur, hlog, -⟩
    obtain ⟨stmt, hfst, hstmt⟩ := firstStatement_of_loggedSql href hlog
    rw [(batch_of_firstStatement hfst hstmt).1] at hvis hdur hlog
    refine ⟨stmt, hfst, ?_⟩
    rw [stopsAtOnce_iff]
    exact ⟨hstmt, hvis, hdur, hlog⟩
  · rintro ⟨stmt, hfst, hsto⟩
    rw [stopsAtOnce_iff] at hsto
    obtain ⟨hstmt, hvis, hdur, hlog⟩ := hsto
    obtain ⟨has, hrows⟩ := batch_of_firstStatement hfst hstmt
    rw [has, hrows, recordedRows_eq_nil hlog]
    exact ⟨hvis, hdur, hlog, rfl⟩

/-- **A refused request has changed nothing** iff the first statement with a row is refused at once.
-/
theorem unchanged_of_refused_iff (s : Server E) (req : Request) {reason : String}
    (h : (s.sqlExecute validate req).2 = .refused reason) :
    Unchanged (s.session req.connectionId)
        ((s.sqlExecute validate req).1.session req.connectionId) ↔
      ∃ stmt, firstStatement req.statements = some stmt ∧
        StopsAtOnce validate req.db s.rowStore.nextXid stmt
          (s.session req.connectionId).begin := by
  have hans : ((s.session req.connectionId).respond validate req).2 = .refused reason := h
  rw [s.session_sqlExecute]
  rcases (s.session req.connectionId).respond_cases validate req with
    he | ⟨reason', hrs, he⟩ | ⟨-, -, he⟩ | ⟨-, he⟩ <;> rw [he] at hans ⊢
  · simp at hans
  · exact sqlExecuteChecked_unchanged_iff (s.sound _) (hrs ▸ rfl)
  · simp at hans
  · simp at hans

end

section

open scoped Sample

def keyedServer : Server InMemoryEngine where
  __ := Server.empty {} maxRowXid_memory
  constraints := (ConstraintManager.new.addConstraint
    ⟨"pk_t_id", "t", "id", .primaryKey, none, none⟩).toOption.getD .new

def insertTwice : Request where
  connectionId := "conn-6"
  db := ""
  statements := ["INSERT INTO t (id, name) VALUES (1, 'a'), (1, 'b')"]

/-- **The first row stays** when the second one is refused. -/
theorem insertTwice_leaves_a_row :
    (keyedServer.sqlExecute anyRow insertTwice).2 =
        .refused "constraint_violation: primary key 'pk_t_id' duplicate for value '1'" ∧
      ¬Unchanged (keyedServer.session "conn-6")
        ((keyedServer.sqlExecute anyRow insertTwice).1.session "conn-6") := by
  refine And.imp_right (mt fun h => h.visible "t:1") ?_
  decide +kernel

def insertWithoutKey : Request where
  connectionId := "conn-6"
  db := ""
  statements := ["INSERT INTO t (name) VALUES ('a'), ('b')"]

theorem insertWithoutKey_unchanged :
    (keyedServer.sqlExecute anyRow insertWithoutKey).2 =
        .refused "constraint_violation: not-null column 'id' missing" ∧
      Unchanged (keyedServer.session "conn-6")
        ((keyedServer.sqlExecute anyRow insertWithoutKey).1.session "conn-6") := by
  have href : (keyedServer.sqlExecute anyRow insertWithoutKey).2 =
      .refused "constraint_violation: not-null column 'id' missing" := by decide +kernel
  have hkind : dmlKind "INSERT INTO t (name) VALUES ('a'), ('b')" = some .insert := by
    decide +kernel
  refine ⟨href, (unchanged_of_refused_iff keyedServer insertWithoutKey href).mpr
    ⟨"INSERT INTO t (name) VALUES ('a'), ('b')", by decide +kernel, ?_⟩⟩
  unfold StopsAtOnce plan
  rw [hkind]
  decide +kernel

end

end VngDatabase.Dml
