import VngDatabase.Dml.Rollback

/-!
# Which rows a request leaves

A request may delete rows of other databases: a `DELETE` by a column takes every row whose key
contains the name of the table, one by a key may give the whole key, and a `ROLLBACK` takes back
what earlier requests have written.
-/

namespace VngDatabase.Dml

open Store Sql Text Overlay DurabilityEngine BootEngine List Option

variable {as : List Action}

section

variable [Unicode] {stmt : String}

def mayDelete (db stmt k : String) : Bool :=
  match plan stmt with
  | .scanDelete t => contains k (dbPrefixKey db (t.table ++ ":"))
  | .keyedDelete rawKey => dbPrefixKey db rawKey = k
  | _ => false

theorem mayDelete_eq_false (h : dmlKind stmt ≠ some .delete) (db k : String) :
    mayDelete db stmt k = false := by
  unfold mayDelete plan
  rcases hkind : dmlKind stmt with _ | _ | _ | _
  · rfl
  · rfl
  · cases extractUpdateRowFromSql stmt with
    | none => rfl
    | some row => cases scanUpdateTarget stmt <;> rfl
  · exact absurd hkind h

omit [Unicode] in
theorem none_notMem_deltaWrites (table raw : String) (data : RowData) (k : String) :
    (k, none) ∉ deltaWrites table raw data := by
  rw [deltaWrites]
  split_ifs <;> simp

variable {E : Type} [DurabilityEngine E] [CheckPredicate] [ColumnOrder]
  {validate : String → RowData → Except String Unit} {db : String} {xid : Xid} {k : String}
  {w : (String × String) × Option RowData} {st : Guarded E} {stmts : List String}

theorem mayDelete_of_mem_checkedActions
    (h : (k, none) ∈ rowWrites (checkedActions validate db xid stmt st)) : mayDelete db stmt k := by
  unfold checkedActions directActions at h
  unfold mayDelete
  cases hplan : plan stmt with
  | nothing => simp [hplan, rowWrites] at h
  | insert rows =>
    simp only [hplan, rowWrites_flatMap, rowWrites_insertActions, mem_flatMap,
      insertRowWrites, mem_cons, none_notMem_deltaWrites] at h
    simp at h
  | scanUpdate t =>
    simp only [hplan, rowWrites_append, rowWrites_flatMap_scanUpdateActions, mem_append] at h
    rcases h with h | h
    · simp at h
    · split_ifs at h <;> simp [rowWrites, Action.rowWrite] at h
  | keyedUpdate rawKey columns =>
    simp only [hplan] at h
    split_ifs at h <;> simp [rowWrites, keyedUpdateActions, Action.rowWrite] at h
  | scanDelete t =>
    simp only [hplan, rowWrites_append, rowWrites_flatMap_scanDeleteActions, mem_append] at h
    rcases h with h | h
    · obtain ⟨row, hrow, heq⟩ := mem_map.mp h
      obtain rfl : row.1 = k := congrArg Prod.fst heq
      exact (Bool.and_eq_true_iff.mp (mem_filter.mp hrow).2).1
    · simp [rowWrites, Action.rowWrite] at h
  | keyedDelete rawKey =>
    simp only [hplan, rowWrites_keyedDeleteActions, keyedDeleteWrites, mem_cons,
      none_notMem_deltaWrites, or_false, Prod.mk.injEq, and_true] at h
    simp [h]

theorem db_of_mem_checkedActions
    (h : w ∈ storedRows (checkedActions validate db xid stmt st)) : w.1.1 = db := by
  unfold checkedActions directActions at h
  cases hplan : plan stmt with
  | nothing => simp [hplan, storedRows] at h
  | insert rows =>
    simp only [hplan, storedRows_flatMap, storedRows_insertActions, mem_flatMap, mem_singleton] at h
    obtain ⟨row, -, rfl⟩ := h
    rfl
  | scanUpdate t =>
    simp only [hplan, storedRows_append, storedRows_flatMap_scanUpdateActions, mem_append] at h
    rcases h with h | h
    · obtain ⟨row, -, rfl⟩ := mem_map.mp h
      rfl
    · split_ifs at h <;> simp [storedRows, Action.stored] at h
  | keyedUpdate rawKey columns =>
    simp only [hplan] at h
    split_ifs at h
    · simp [storedRows] at h
    · have hw : w ∈ [((db, rawKey), some _)] := h
      rw [mem_singleton.mp hw]
  | scanDelete t =>
    simp only [hplan, storedRows_append, storedRows_flatMap, mem_append, mem_flatMap] at h
    rcases h with ⟨row, -, h⟩ | h
    · have hw : w ∈ [((db, String.ofList _), none)] := h
      rw [mem_singleton.mp hw]
    · simp [storedRows, Action.stored] at h
  | keyedDelete rawKey =>
    simp only [hplan, storedRows_keyedDeleteActions, mem_singleton] at h
    rw [h]

theorem exists_mayDelete_of_mem_batchActions
    (h : (k, none) ∈ rowWrites (batchActions validate db xid stmts st)) :
    ∃ stmt ∈ stmts, mayDelete db stmt k := by
  induction stmts generalizing st with
  | nil => simp [batchActions, rowWrites] at h
  | cons stmt stmts ih =>
    rw [batchActions, rowWrites_append, mem_append] at h
    rcases h with h | h
    · exact ⟨stmt, mem_cons_self, mayDelete_of_mem_checkedActions h⟩
    · split_ifs at h
      · simp [rowWrites] at h
      · obtain ⟨stmt', hmem, hstmt'⟩ := ih h
        exact ⟨stmt', mem_cons_of_mem _ hmem, hstmt'⟩

theorem db_of_mem_batchActions
    (h : w ∈ storedRows (batchActions validate db xid stmts st)) : w.1.1 = db := by
  induction stmts generalizing st with
  | nil => simp [batchActions, storedRows] at h
  | cons stmt stmts ih =>
    rw [batchActions, storedRows_append, mem_append] at h
    rcases h with h | h
    · exact db_of_mem_checkedActions h
    · split_ifs at h
      · simp [storedRows] at h
      · exact ih h

end

section

variable {E : Type} [BootEngine E] {U : String → Prop} {d : String} {st st' st'' : State E}

structure Keeps (U : String → Prop) (d : String) (st st' : State E) : Prop where
  maxRowsCap : st'.rowStore.maxRowsCap = st.rowStore.maxRowsCap
  rows : ∀ k, U k → (st.rowStore.readLatest k).isSome → (st'.rowStore.readLatest k).isSome
  durable : ∀ k, (getRow st.walEngine d k).isSome → (getRow st'.walEngine d k).isSome

namespace Keeps

theorem refl (U : String → Prop) (d : String) (st : State E) : Keeps U d st st :=
  ⟨rfl, fun _ _ => id, fun _ => id⟩

theorem trans (h : Keeps U d st st') (h' : Keeps U d st' st'') : Keeps U d st st'' where
  maxRowsCap := h'.maxRowsCap.trans h.maxRowsCap
  rows k hk hvis := h'.rows k hk (h.rows k hk hvis)
  durable k hrow := h'.durable k (h.durable k hrow)

theorem maxRowsCap_eq_zero {s s' : Server E} (h : Keeps U d s.state s'.state)
    (hcap : s.rowStore.maxRowsCap = 0) : s'.rowStore.maxRowsCap = 0 := h.maxRowsCap.trans hcap

theorem of_visible (h : Keeps (fun k => U k ∧ (st.rowStore.readLatest k).isSome) d st st') :
    Keeps U d st st' := ⟨h.maxRowsCap, fun k hk hvis => h.rows k ⟨hk, hvis⟩ hvis, h.durable⟩

end Keeps

theorem State.Sound.getRow_transact (h : st.Sound) (hsto : ∀ w ∈ storedRows as, w.1.1 ≠ d)
    (k : String) : getRow (st.transact as).walEngine d k = getRow st.walEngine d k := by
  rw [getRow_eq, getRow_eq, State.persistsRows_transact]
  split_ifs with hp
  · have hnone : lastWrite (storedRows as) (d, k) = none := by
      refine lastWrite_eq_none ?_
      intro w hw hkey
      exact hsto w hw (congrArg Prod.fst hkey)
    rw [h.scanPersistedRows_transact hp, lastWrite_foldl_supersede, lastWrite_append, hnone,
      none_or]
  · rfl

theorem Keeps.transact (h : st.Sound) (hcap : st.rowStore.maxRowsCap = 0)
    (hrows : ∀ k, U k → (k, none) ∉ rowWrites as) (hsto : ∀ w ∈ storedRows as, w.1.1 ≠ d) :
    Keeps U d st (st.transact as) where
  maxRowsCap := (State.transact_writes h.stamped as).maxRowsCap
  rows k hk hvis := by
    rw [(State.transact_writes h.stamped as).readLatest_eq_overlay hcap]
    exact isSome_overlay (hrows k hk) hvis
  durable k hrow := by rwa [h.getRow_transact hsto]

theorem Keeps.rollback (h : st.Sound) (hcap : st.rowStore.maxRowsCap = 0)
    (hlog : ∀ k, U k → (k, none) ∉ st.txUndoLog) : Keeps U d st st.rollback := by
  rw [State.rollback]
  split_ifs
  · exact refl U d st
  · have hkp : Keeps U d st (st.transact (undoActions st.txUndoLog)) := by
      refine Keeps.transact h hcap ?_ ?_
      · intro k hk
        rw [rowWrites_undoActions, mem_reverse]
        exact hlog k hk
      · simp [storedRows_undoActions]
    exact ⟨hkp.maxRowsCap, hkp.rows, hkp.durable⟩

end

section

variable {E : Type} [DurabilityEngine E] {st : State E} {k : String} {v : Option RowData}

theorem isSome_of_image_eq {a : Action} (hvis : (st.rowStore.readLatest k).isSome)
    (h : a.image st = some (k, v)) : v.isSome := by
  match a with
  | .undo key none =>
    obtain ⟨rfl, rfl⟩ := Prod.mk.inj (some.inj h)
    exact hvis
  | .undo key (some (db, rawKey)) =>
    obtain ⟨rfl, rfl⟩ := Prod.mk.inj (some.inj h)
    obtain ⟨data, hdata⟩ := isSome_iff_exists.mp hvis
    rw [State.readLatestWithRocksdbFallback, hdata]
    rfl
  | .intent _ | .store _ _ _ | .put _ _ | .remove _ | .log _ => cases h

theorem isSome_of_mem_images {xid : Xid} (hxid : st.rowStore.Newest xid)
    (hcap : st.rowStore.maxRowsCap = 0) (hvis : (st.rowStore.readLatest k).isSome)
    (has : (k, none) ∉ rowWrites as) (h : (k, v) ∈ images xid as st) : v.isSome := by
  induction as generalizing st with
  | nil => cases h
  | cons a as ih =>
    rw [rowWrites_cons, mem_append, not_or] at has
    rw [images, mem_append, mem_toList] at h
    rcases h with h | h
    · exact isSome_of_image_eq hvis h
    · have ha := perform_shows hxid a
      refine ih ha.newest (ha.maxRowsCap.trans hcap) ?_ has.2 h
      rw [ha.readLatest_eq_overlay hcap]
      exact isSome_overlay has.1 hvis

end

section

variable {E : Type} [BootEngine E] {U : String → Prop} {d : String} {st : Guarded E}
  {req : Request}

theorem Keeps.finish (h : st.Sound) (hcap : st.rowStore.maxRowsCap = 0)
    (hlog : req.hasRollback → ∀ k, U k → (k, none) ∉ st.txUndoLog) :
    Keeps U d st.toState (st.finish req).toState := by
  rw [Guarded.finish]
  split_ifs with hrb hcom
  · exact Keeps.rollback h hcap (hlog hrb)
  · exact ⟨rfl, fun _ _ => id, fun _ => id⟩
  · exact refl U d _

theorem Server.keeps_perform {s : Server E} (hcap : s.rowStore.maxRowsCap = 0) (hrows : ∀ k, U k →
    (k, none) ∉ rowWrites as)
    (hsto : storedRows as = []) : Keeps U d s.state (s.perform as).state := by
  have hkp : Keeps U d s.state (s.state.transact as) :=
    Keeps.transact ⟨s.stamped, s.durable⟩ hcap hrows (by simp [hsto])
  exact ⟨hkp.maxRowsCap, hkp.rows, hkp.durable⟩

variable [CheckPredicate] [ColumnOrder] [Unicode]
  {validate : String → RowData → Except String Unit}

theorem Keeps.respond (h : st.Sound) (hcap : st.rowStore.maxRowsCap = 0) (hdb : req.db ≠ d)
    (hvis : ∀ k, U k → (st.rowStore.readLatest k).isSome)
    (hdele : ∀ stmt ∈ req.statements, ∀ k, U k → ¬mayDelete req.db stmt k)
    (hlog : req.hasRollback → ∀ k, U k → (k, none) ∉ st.txUndoLog) :
    Keeps U d st.toState (st.respond validate req).1.toState := by
  have hrows : ∀ k, U k →
      (k, none) ∉ rowWrites (requestActions validate req.db req.statements st) := by
    intro k hk hmem
    obtain ⟨stmt, hstmt, hmay⟩ := exists_mayDelete_of_mem_batchActions hmem
    exact hdele stmt hstmt k hk hmay
  have hdml : Keeps U d st.toState
      (sqlExecuteChecked validate req.db req.statements st).1.toState := by
    rw [sqlExecuteChecked_fst]
    refine Keeps.transact h hcap hrows ?_
    intro w hw
    rw [db_of_mem_batchActions hw]
    exact hdb
  rcases st.respond_cases validate req with
    he | ⟨reason, -, he⟩ | ⟨-, -, he⟩ | ⟨-, he⟩ <;> rw [he]
  · exact refl U d _
  · exact hdml
  · refine hdml.trans (Keeps.finish ?_ (hdml.maxRowsCap.trans hcap) ?_)
    · rw [sqlExecuteChecked_fst]
      exact h.transact _
    · -- what the request itself has noted of these rows is that they are there
      intro hrb k hk hmem
      rw [sqlExecuteChecked_fst, State.txUndoLog_transact, mem_append] at hmem
      rcases hmem with hmem | hmem
      · exact hlog hrb k hk hmem
      · have hsta : (st.toState.started.rowStore.readLatest k).isSome := by
          have hsame := congrFun h.stamped.readLatest_beginXid k
          rw [State.started, hsame]
          exact hvis k hk
        have hcap' : st.toState.started.rowStore.maxRowsCap = 0 := hcap
        simpa using isSome_of_mem_images st.rowStore.newest_beginXid hcap' hsta
          (hrows k hk) hmem
  · exact Keeps.finish h hcap hlog

theorem Server.keeps_sqlExecute {s : Server E} (hcap : s.rowStore.maxRowsCap = 0) (hdb : req.db ≠ d)
    (hdele : ∀ stmt ∈ req.statements, ∀ k, U k → (s.rowStore.readLatest k).isSome →
      ¬mayDelete req.db stmt k)
    (hlog : req.hasRollback → ∀ k, U k → (s.rowStore.readLatest k).isSome →
      (k, none) ∉ s.txUndoLog req.connectionId) :
    Keeps U d s.state (s.sqlExecute validate req).1.state := by
  have hkp : Keeps (fun k => U k ∧ (s.rowStore.readLatest k).isSome) d
      (s.session req.connectionId).toState
      ((s.session req.connectionId).respond validate req).1.toState :=
    Keeps.respond (s.sound req.connectionId) hcap hdb (fun _ hk => hk.2)
      (fun stmt hstmt k hk => hdele stmt hstmt k hk.1 hk.2)
      fun hrb k hk => hlog hrb k hk.1 hk.2
  exact Keeps.of_visible ⟨hkp.maxRowsCap, hkp.rows, hkp.durable⟩

end

end VngDatabase.Dml
