import VngDatabase.Dml.Boot

/-!
# Replaying the log of statements

With an engine that keeps no rows, a restart replays the statements that were logged. It finds the
rows that were there if each statement did what its replay will do (`Replays`).
-/

namespace VngDatabase.Dml

open Store Sql Text Overlay BootEngine DurabilityEngine List

variable {stmt : String}

section

variable {E : Type} [BootEngine E] [Unicode]

def Replays (stmt : String) (st : State E) : Prop :=
  match plan stmt with
  | .nothing => True
  | .insert rows => ∀ row ∈ rows, replicaWrites row.singleSql = [(row.rowKey, some row.data)]
  | _ => WritesConcur (isUserKey ·) "" stmt st

/-- **The log mirrors the rows**: a restart shows what users see. -/
def Mirrors (st : State E) : Prop :=
  ∀ k, isUserKey k → st.rowStore.readLatest k = overlay (bootWrites st.walEngine) (fun _ => none) k

theorem Replays.overlay_eq {st : State E} (h : Replays stmt st) {k : String} (hk : isUserKey k) :
    overlay (userWrites "" stmt st) st.rowStore.readLatest k =
      overlay ((loggedSql (directActions "" stmt st)).flatMap replicaWrites)
        st.rowStore.readLatest k := by
  have hcon : WritesConcur (isUserKey ·) "" stmt st →
      overlay (userWrites "" stmt st) st.rowStore.readLatest k =
        overlay (replicaWrites stmt) st.rowStore.readLatest k := fun hc =>
    ((overlay_eq_iff (isUserKey ·) "" stmt st).mpr hc k hk).symm
  have hlog : loggedSql [Action.log stmt] = [stmt] := rfl
  unfold Replays at h
  unfold directActions
  cases hplan : plan stmt with
  | nothing =>
    rw [userWrites_eq, hplan]
    rfl
  | insert rows =>
    simp only [hplan] at h
    rw [userWrites_eq, hplan]
    simp only [loggedSql_flatMap_insertActions, dbPrefixKey_empty, flatMap_map]
    rw [map_eq_flatMap, flatMap_congr h]
  | scanUpdate t =>
    simp only [hplan] at h
    simp only [loggedSql_append, loggedSql_flatMap_scanUpdateActions, hlog, nil_append,
      flatMap_singleton]
    exact hcon h
  | keyedUpdate rawKey columns =>
    simp only [hplan] at h
    refine (hcon h).trans ?_
    rw [← flatMap_singleton replicaWrites stmt]
    rfl
  | scanDelete t =>
    simp only [hplan] at h
    simp only [loggedSql_append, loggedSql_flatMap_scanDeleteActions, hlog, nil_append,
      flatMap_singleton]
    exact hcon h
  | keyedDelete rawKey =>
    simp only [hplan] at h
    simp only [loggedSql_keyedDeleteActions, flatMap_singleton]
    exact hcon h

theorem Mirrors.performAll {xid : Xid} {st : State E} (h : Mirrors st)
    (hrep : Replays stmt st) (hnew : st.rowStore.Newest xid)
    (hcap : st.rowStore.maxRowsCap = 0) (hp : persistsRows st.walEngine = false) :
    Mirrors (performAll xid (directActions "" stmt st) st) := by
  intro k hk
  have hshw : Shows xid st _ _ := performAll_shows hnew (directActions "" stmt st)
  have hp' := persistsRows_performAll xid (directActions "" stmt st) st
  have hlog := iterSql_performAll xid (directActions "" stmt st) st
  have hwr := lastWrite_directWrites hk "" stmt st
  have hboot : bootWrites (Dml.performAll xid (directActions "" stmt st) st).walEngine =
      bootWrites st.walEngine ++ (loggedSql (directActions "" stmt st)).flatMap replicaWrites := by
    simp only [bootWrites, hp', hp, hlog, Bool.false_eq_true, if_false, flatMap_append]
  rw [hshw.readLatest_eq_overlay hcap, rowWrites_directActions, overlay, hwr, ← overlay,
    hrep.overlay_eq hk, hboot, overlay_append, overlay, overlay.eq_def _ (overlay _ _), h k hk]

end

section

theorem head?_of_isVerb {verb : String} (h : isVerb verb stmt) (hne : verb ≠ "") :
    (toAsciiUppercase (String.ofList (trimStart stmt.toList))).toList.head? =
      verb.toList.head? := by
  have hhead (tail : String) : (verb ++ tail).toList.head? = verb.toList.head? := by
    rw [String.toList_append, head?_append hne]
  simp only [isVerb, Bool.or_eq_true, decide_eq_true_iff] at h
  rcases h with (h | h) | h
  · rw [h]
  · exact (head?_of_startsWith h (by simp)).trans (hhead ";")
  · exact (head?_of_startsWith h (by simp)).trans (hhead " ")

theorem isVerb_rollback_eq_false (h : (dmlKind stmt).isSome) : isVerb "ROLLBACK" stmt = false := by
  rw [Bool.eq_false_iff]
  intro hverb
  have hhead := head?_of_isVerb hverb (by decide)
  delta dmlKind at h
  dsimp only at h
  split_ifs at h with hins hupd hdele
  · exact absurd ((head?_of_startsWith hins (by decide)).symm.trans hhead) (by decide)
  · exact absurd ((head?_of_startsWith hupd (by decide)).symm.trans hhead) (by decide)
  · exact absurd ((head?_of_startsWith hdele (by decide)).symm.trans hhead) (by decide)
  · simp at h

end

section

variable {E : Type} [BootEngine E] [Unicode] [CheckPredicate] [ColumnOrder]
  {validate : String → RowData → Except String Unit}

def ReplaysAll (validate : String → RowData → Except String Unit) (xid : Xid) :
    List String → Guarded E → Prop
  | [], _ => True
  | stmt :: stmts, st => Replays stmt st.toState ∧
      ReplaysAll validate xid stmts
        (checkedStatement validate "" xid stmt st).1

theorem Mirrors.checkedStatements {xid : Xid} {stmts : List String} {st : Guarded E}
    (h : Mirrors st.toState) (hrep : ReplaysAll validate xid stmts st)
    (hok : (checkedStatements validate "" xid stmts st).2 = none) (hnew : st.rowStore.Newest xid)
    (hcap : st.rowStore.maxRowsCap = 0) (hp : persistsRows st.walEngine = false) :
    Mirrors (checkedStatements validate "" xid stmts st).1.toState := by
  induction stmts generalizing st with
  | nil => exact h
  | cons stmt stmts ih =>
    have hstmt := checkedStatement_performs validate "" xid stmt st
    rw [Dml.checkedStatements] at hok ⊢
    simp only [checkedStatement_isSome] at hok ⊢
    split_ifs at hok ⊢ with href
    · rw [← checkedStatement_isSome, hok] at href
      contradiction
    · have hdir := checkedActions_eq_directActions (Bool.eq_false_iff.mpr href)
      have hshw : Shows xid st.toState _ _ :=
        performAll_shows hnew (directActions "" stmt st.toState)
      rw [hdir] at hstmt
      refine ih ?_ hrep.2 hok ?_ ?_ ?_ <;> rw [hstmt]
      · exact h.performAll hrep.1 hnew hcap hp
      · exact hshw.newest
      · exact hshw.maxRowsCap.trans hcap
      · exact (persistsRows_performAll xid _ st.toState).trans hp

structure Accepted (validate : String → RowData → Except String Unit)
    (s : Server E) (req : Request) : Prop where
  db : req.db = ""
  rows : ∀ stmt ∈ req.statements, (dmlKind stmt).isSome
  done : (s.sqlExecute validate req).2 = .done

/-- **Each statement does what its replay will do.** -/
structure Replayable (validate : String → RowData → Except String Unit)
    (s : Server E) (req : Request) : Prop extends Accepted validate s req where
  replays : ReplaysAll validate s.rowStore.nextXid req.statements
    (s.session req.connectionId).begin

variable {s s₀ : Server E} {req : Request}

instance decidableAccepted : Decidable (Accepted validate s req) :=
  decidable_of_iff (req.db = "" ∧ (∀ stmt ∈ req.statements, (dmlKind stmt).isSome) ∧
    (s.sqlExecute validate req).2 = .done)
    ⟨fun h => ⟨h.1, h.2.1, h.2.2⟩, fun h => ⟨h.db, h.rows, h.done⟩⟩

theorem Accepted.hasRollback (h : Accepted validate s req) : req.hasRollback = false := by
  rw [Request.hasRollback, any_eq_false]
  intro stmt hstmt
  rw [isVerb_rollback_eq_false (h.rows stmt hstmt)]
  exact Bool.false_ne_true

def Server.Mirrors (s : Server E) : Prop := Dml.Mirrors (s.session "").toState

theorem Replayable.mirrors (h : Replayable validate s req) (hcap : s.rowStore.maxRowsCap = 0)
    (hp : persistsRows s.walEngine = false) (hs : s.Mirrors) :
    (s.sqlExecute validate req).1.Mirrors := by
  have hfin (st : Guarded E) : (st.finish req).rowStore = st.rowStore ∧
      (st.finish req).walEngine = st.walEngine := by
    rw [Guarded.finish, h.hasRollback, if_neg Bool.false_ne_true]
    split_ifs <;> exact ⟨rfl, rfl⟩
  have hst : Dml.Mirrors (s.session req.connectionId).toState := hs
  have hbeg : Dml.Mirrors (s.session req.connectionId).begin.toState := fun k hk =>
    (congrFun s.stamped.readLatest_beginXid k).trans (hst k hk)
  have hdone : ((s.session req.connectionId).respond validate req).2 = .done := h.done
  change Dml.Mirrors ((s.session req.connectionId).respond validate req).1.toState
  rcases (s.session req.connectionId).respond_cases validate req with
    he | ⟨reason, -, he⟩ | ⟨-, hok, he⟩ | ⟨-, he⟩ <;> rw [he] at hdone ⊢
  · simp at hdone
  · simp at hdone
  · have hbat := hbeg.checkedStatements h.replays (h.db ▸ hok)
      s.rowStore.newest_beginXid hcap hp
    intro k hk
    rw [(hfin _).1, (hfin _).2, h.db]
    exact hbat k hk
  · intro k hk
    rw [(hfin _).1, (hfin _).2]
    exact hst k hk

theorem persistsRows_sqlExecute (s : Server E) (req : Request) :
    persistsRows (s.sqlExecute validate req).1.walEngine = persistsRows s.walEngine := by
  have heng := walEngine_respond validate req (s.session req.connectionId)
  exact (congrArg persistsRows heng).trans (State.persistsRows_transact _ _)

/-- **A restart finds the rows that were there**, if the requests can be replayed. -/
theorem replay_finds_rows (hrows : ∀ k, s₀.rowStore.readLatest k = none)
    (hlog : iterSql s₀.walEngine = []) (hp : persistsRows s₀.walEngine = false)
    (hcap : s₀.rowStore.maxRowsCap = 0)
    (hrun : Transition.ReachableIf (Server.step validate) (Replayable validate) s₀ s) (k : String)
    (hk : isUserKey k) : (bootStore 0 s.walEngine).readLatest k = s.rowStore.readLatest k := by
  have hst0 : s₀.Mirrors := by
    intro k _
    have hboot : bootWrites s₀.walEngine = [] := by simp [bootWrites, hp, hlog]
    exact (hrows k).trans (by rw [Server.session, hboot]; rfl)
  obtain ⟨-, -, hmir⟩ := hrun.invariant
    (P := fun s => s.rowStore.maxRowsCap = 0 ∧ persistsRows s.walEngine = false ∧ s.Mirrors)
    ⟨hcap, hp, hst0⟩ <| by
      rintro s _ req ⟨hcap, hp, hmir⟩ hgood ⟨⟩
      exact ⟨(maxRowsCap_respond (s.sound _) req).trans hcap,
        (persistsRows_sqlExecute s req).trans hp, hgood.mirrors hcap hp hmir⟩
  rw [readLatest_bootStore, restored_zero]
  exact (hmir k hk).symm

end

section

open scoped Sample

def serverWithRow : Server InMemoryEngine := (emptyServer.sqlExecute anyRow plainInsert).1

def renameRow : Request := onSharedConnection ["UPDATE t SET name = 'b' WHERE id = 1"]

/-- **A restart loses a column.** -/
theorem replay_loses_column :
    Accepted anyRow emptyServer plainInsert ∧ Accepted anyRow serverWithRow renameRow ∧
      isUserKey "t:1" ∧
      (bootStore 0 (serverWithRow.sqlExecute anyRow renameRow).1.walEngine).readLatest "t:1" ≠
        (serverWithRow.sqlExecute anyRow renameRow).1.rowStore.readLatest "t:1" := by
  decide +kernel

theorem plainInsert_replayable : Replayable anyRow emptyServer plainInsert where
  toAccepted := by decide +kernel
  replays := by
    have hkind : dmlKind "INSERT INTO t (id, name) VALUES (1, 'a')" = some .insert := by
      decide +kernel
    refine ⟨?_, trivial⟩
    unfold Replays plan
    rw [hkind]
    decide +kernel

theorem plainInsert_found :
    (bootStore 0 (emptyServer.sqlExecute anyRow plainInsert).1.walEngine).readLatest "t:1" =
      (emptyServer.sqlExecute anyRow plainInsert).1.rowStore.readLatest "t:1" :=
  replay_finds_rows (fun _ => readLatest_eq_none_of_shelf 0 rfl _) rfl rfl rfl
    (.single ⟨plainInsert, plainInsert_replayable, rfl⟩) "t:1" (by decide)

end

end VngDatabase.Dml
