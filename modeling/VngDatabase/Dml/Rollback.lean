import VngDatabase.Dml.Atomicity
import VngDatabase.Transition

/-!
# What a rollback puts back

A `ROLLBACK` puts back, in reverse order, what the undo log of its connection holds.
-/

namespace VngDatabase.Dml

open Store Sql Text Overlay BootEngine DurabilityEngine List Option

variable {a : Action}

section

variable (U : String → Prop) (persists : Bool) (db : String)

def Action.notes : Action → List String
  | .undo key _ => [key]
  | _ => []

def Action.Noted (noted : List String) : Action → Prop
  | .undo key durable => ∀ row ∈ durable, row.1 = db ∧ key = dbPrefixKey db row.2
  | .store db' rowKey (some _) =>
    persists → U (dbPrefixKey db' rowKey) → dbPrefixKey db' rowKey ∈ noted
  | .put key _ => U key → key ∈ noted
  | .remove key => U key → key ∈ noted
  | _ => True

/-- **Every write comes after a note of what the key held.** -/
def NotesFirst : (noted : List String) → List Action → Prop
  | _, [] => True
  | noted, a :: as => a.Noted U persists db noted ∧ NotesFirst (a.notes ++ noted) as

variable {U persists db} {noted noted' : List String} {as as' : List Action}

theorem Action.Noted.mono (h : a.Noted U persists db noted) (hsub : noted ⊆ noted') :
    a.Noted U persists db noted' := by
  match a with
  | .undo _ _ => exact h
  | .intent _ | .log _ | .store _ _ none => trivial
  | .store _ _ (some _) => exact fun hp hU => hsub (h hp hU)
  | .put _ _ | .remove _ => exact fun hU => hsub (h hU)

theorem NotesFirst.mono (h : NotesFirst U persists db noted as) (hsub : noted ⊆ noted') :
    NotesFirst U persists db noted' as := by
  induction as generalizing noted noted' with
  | nil => trivial
  | cons a as ih =>
    exact ⟨h.1.mono hsub, ih h.2 (append_subset.mpr
      ⟨subset_append_left _ _, List.Subset.trans hsub (subset_append_right _ _)⟩)⟩

theorem NotesFirst.append (h : NotesFirst U persists db noted as)
    (h' : NotesFirst U persists db [] as') : NotesFirst U persists db noted (as ++ as') := by
  induction as generalizing noted with
  | nil => exact h'.mono (nil_subset _)
  | cons a as ih => exact ⟨h.1, ih h.2⟩

theorem NotesFirst.flatMap {ι : Type*} {g : ι → List Action} {is : List ι}
    (h : ∀ i ∈ is, NotesFirst U persists db [] (g i)) :
    NotesFirst U persists db [] (is.flatMap g) := by
  induction is with
  | nil => trivial
  | cons i is ih =>
    rw [flatMap_cons]
    exact (h i mem_cons_self).append (ih fun j hj => h j (mem_cons_of_mem _ hj))

end

section

variable {E : Type} [BootEngine E] {U : String → Prop} {db : String} {noted : List String}
  {xid : Xid} {st : State E} {as : List Action} {k : String}

/-- **What is not in memory is nowhere**, for keys not noted. -/
def Synced (U : String → Prop) (db : String) (noted : List String) (st : State E) : Prop :=
  persistsRows st.walEngine → ∀ rawKey, U (dbPrefixKey db rawKey) → dbPrefixKey db rawKey ∉ noted →
    st.rowStore.readLatest (dbPrefixKey db rawKey) = none → getRow st.walEngine db rawKey = none

theorem image_undo (hsync : Synced U db noted st) {durable : Option (String × String)}
    (h : (Action.undo k durable).Noted U (persistsRows st.walEngine) db noted) (hU : U k)
    (hk : k ∉ noted) : (Action.undo k durable).image st = some (k, st.rowStore.readLatest k) := by
  cases durable with
  | none => rfl
  | some row =>
    obtain ⟨hdb, hkey⟩ := h row rfl
    rw [Action.image, State.readLatestWithRocksdbFallback]
    cases hread : st.rowStore.readLatest k with
    | some data => rfl
    | none =>
      split_ifs with hp
      · subst hdb hkey
        rw [hsync hp row.2 hU hk hread]
      · rfl

theorem lastWrite_rowWrite (h : a.Noted U (persistsRows st.walEngine) db noted)
    (hU : U k) (hk : k ∉ noted) : lastWrite a.rowWrite.toList k = none := by
  refine lastWrite_eq_none ?_
  intro w hw hkey
  subst hkey
  match a with
  | .put key data =>
    obtain rfl := mem_singleton.mp hw
    exact hk (h hU)
  | .remove key =>
    obtain rfl := mem_singleton.mp hw
    exact hk (h hU)
  | .undo _ _ | .intent _ | .store _ _ _ | .log _ => simp [Action.rowWrite] at hw

theorem Synced.perform (hsync : Synced U db noted st) (hnew : st.rowStore.Newest xid)
    (hcap : st.rowStore.maxRowsCap = 0) (hmax : maxRowXid st.walEngine ≤ xid)
    (h : a.Noted U (persistsRows st.walEngine) db noted) :
    Synced U db (a.notes ++ noted) (a.perform xid st) := by
  intro hp rawKey hU hk hread
  have hk' : dbPrefixKey db rawKey ∉ noted := fun hn => hk (mem_append_right _ hn)
  have hshw := perform_shows hnew a
  rw [hshw.readLatest_eq_overlay hcap, overlay, lastWrite_rowWrite h hU hk', getD_none] at hread
  cases a with
  | undo _ durable => cases durable <;> exact hsync hp rawKey hU hk' hread
  | intent | put | remove => exact hsync hp rawKey hU hk' hread
  | log sql =>
    rw [Action.perform, State.persistSqlStatement] at hp ⊢
    rw [persistsRows_appendSql] at hp
    rw [getRow_appendSql]
    exact hsync hp rawKey hU hk' hread
  | store db' rowKey data =>
    rw [Action.perform, State.storeRow] at hp ⊢
    rw [persistsRows_storeRow] at hp
    rw [getRow_storeRow hp hmax]
    split_ifs with hrow
    · cases data with
      | none => rfl
      | some data =>
        obtain ⟨rfl, rfl⟩ := Prod.mk.inj hrow
        exact absurd (h hp hU) hk'
    · exact hsync hp rawKey hU hk' hread

theorem overlay_images (h : NotesFirst U (persistsRows st.walEngine) db noted as)
    (hsync : Synced U db noted st) (hnew : st.rowStore.Newest xid)
    (hcap : st.rowStore.maxRowsCap = 0) (hmax : maxRowXid st.walEngine ≤ xid) (hU : U k)
    (hk : k ∉ noted) :
    overlay (images xid as st).reverse (overlay (rowWrites as) st.rowStore.readLatest) k =
      st.rowStore.readLatest k := by
  induction as generalizing noted st with
  | nil => rfl
  | cons a as ih =>
    have hshw := perform_shows hnew a
    have hread := hshw.readLatest_eq_overlay hcap
    have hp : persistsRows (a.perform xid st).walEngine = persistsRows st.walEngine :=
      persistsRows_performAll xid [a] st
    have hrest (hk' : k ∉ a.notes ++ noted) : overlay (images xid as (a.perform xid st)).reverse
        (overlay (rowWrites (a :: as)) st.rowStore.readLatest) k = st.rowStore.readLatest k := by
      rw [rowWrites_cons, overlay_append, ← hread, ih (hp ▸ h.2) (hsync.perform hnew hcap hmax h.1)
        hshw.newest (hshw.maxRowsCap.trans hcap) (maxRowXid_performAll_le hmax [a]) hk',
        hread, overlay, lastWrite_rowWrite h.1 hU hk, getD_none]
    rw [images, reverse_append, overlay_append]
    cases a with
    | undo key durable =>
      rcases eq_or_ne key k with rfl | hkey
      · rw [image_undo hsync h.1 hU hk]
        exact overlay_of_lastWrite (by simp [lastWrite])
      · have hk' : k ∉ (Action.undo key durable).notes ++ noted := by
          simpa [Action.notes, hkey.symm] using hk
        refine Eq.trans ?_ (hrest hk')
        cases durable <;> simp [overlay, lastWrite, Action.image, hkey]
    | intent | store | put | remove | log => exact hrest hk

end

section

variable {persists : Bool} {db : String}

theorem deltaActions_notesFirst (table raw : String) (data : RowData) :
    NotesFirst (isUserKey ·) persists db [] (deltaActions table raw data) := by
  rw [deltaActions]
  split_ifs
  · refine ⟨fun hU => ?_, trivial⟩
    simp [isUserKey_deltaKey] at hU
  · trivial

theorem insertActions_notesFirst (row : InsertRow) :
    NotesFirst (isUserKey ·) persists db [] (insertActions db row) := by
  refine NotesFirst.append (NotesFirst.append ?_ (deltaActions_notesFirst _ _ _)) ?_ <;>
    simp [NotesFirst, Action.Noted, Action.notes]

theorem scanUpdateActions_notesFirst (t : UpdateTarget) {row : String × RowData}
    (h : persists → ∃ rawKey, row.1 = dbPrefixKey db rawKey) :
    NotesFirst (isUserKey ·) persists db [] (scanUpdateActions t db row) := by
  have hkey (hp : persists) : dbPrefixKey db (localKey db row.1) = row.1 := by
    obtain ⟨rawKey, hraw⟩ := h hp
    rw [hraw, localKey_dbPrefixKey]
  simp only [scanUpdateActions, NotesFirst, Action.Noted, Action.notes]
  simp +contextual [hkey]

variable {E : Type} [BootEngine E] [CheckPredicate] [ColumnOrder]

variable [Unicode] (validate : String → RowData → Except String Unit)

theorem checkedActions_notesFirst (xid : Xid) (stmt : String) (st : Guarded E) :
    NotesFirst (isUserKey ·) (persistsRows st.walEngine) db []
      (checkedActions validate db xid stmt st) := by
  unfold checkedActions directActions
  cases plan stmt with
  | nothing => trivial
  | insert rows => exact .flatMap fun row _ => insertActions_notesFirst row
  | scanUpdate t =>
    refine NotesFirst.append (.flatMap fun row hrow => ?_) ?_
    · refine scanUpdateActions_notesFirst t fun hp => ?_
      exact State.exists_of_mem_scanRows hp
        (mem_of_mem_filter (acceptedUpdates_subset _ _ _ _ _ _ hrow))
    · split_ifs
      · trivial
      · exact ⟨trivial, trivial⟩
  | keyedUpdate rawKey columns =>
    dsimp only
    split_ifs
    · trivial
    · simp [keyedUpdateActions, NotesFirst, Action.Noted, Action.notes]
  | scanDelete t =>
    refine NotesFirst.append (.flatMap fun row _ => ?_) ⟨trivial, trivial⟩
    simp [scanDeleteActions, NotesFirst, Action.Noted, Action.notes]
  | keyedDelete rawKey =>
    refine NotesFirst.append (NotesFirst.append ?_ (deltaActions_notesFirst _ _ _)) ?_ <;>
      simp [NotesFirst, Action.Noted, Action.notes]

theorem batchActions_notesFirst (xid : Xid) (stmts : List String) (st : Guarded E) :
    NotesFirst (isUserKey ·) (persistsRows st.walEngine) db []
      (batchActions validate db xid stmts st) := by
  induction stmts generalizing st with
  | nil => trivial
  | cons stmt stmts ih =>
    rw [batchActions]
    refine NotesFirst.append (checkedActions_notesFirst validate xid stmt st) ?_
    split_ifs
    · trivial
    · have hp : persistsRows (checkedStatement validate db xid stmt st).1.walEngine =
          persistsRows st.walEngine := by
        rw [checkedStatement_performs]
        exact persistsRows_performAll xid _ st.toState
      exact hp ▸ ih _

end

section

variable {E : Type} [BootEngine E] {st : State E}

theorem State.txUndoLog_transact (as : List Action) (st : State E) :
    (st.transact as).txUndoLog = st.txUndoLog ++ images st.rowStore.nextXid as st.started :=
  txUndoLog_performAll as st.started

theorem State.txUndoLog_rollback (st : State E) : st.rollback.txUndoLog = [] := by
  rw [State.rollback]
  split_ifs with hlog
  · exact hlog
  · rfl

theorem State.maxRowsCap_rollback (h : st.Sound) :
    st.rollback.rowStore.maxRowsCap = st.rowStore.maxRowsCap := by
  rw [State.rollback]
  split_ifs
  · rfl
  · exact (State.transact_writes h.stamped _).maxRowsCap

theorem State.readLatest_rollback (h : st.Sound) (hcap : st.rowStore.maxRowsCap = 0) :
    st.rollback.rowStore.readLatest = overlay st.txUndoLog.reverse st.rowStore.readLatest := by
  rw [State.rollback]
  split_ifs with hlog
  · rw [hlog]
    rfl
  · rw [← rowWrites_undoActions]
    exact (State.transact_writes h.stamped _).readLatest_eq_overlay hcap

theorem readLatest_transact_rollback {db : String} {as : List Action} {k : String} (h : st.Sound)
    (hcap : st.rowStore.maxRowsCap = 0)
    (hsta : ∀ v, lastWrite st.txUndoLog.reverse k = some v → st.rowStore.readLatest k = v)
    (hnot : NotesFirst (isUserKey ·) (persistsRows st.walEngine) db [] as)
    (hsync : Synced (isUserKey ·) db [] st) (hk : isUserKey k) :
    (st.transact as).rollback.rowStore.readLatest k = st.rowStore.readLatest k := by
  have hwr := State.transact_writes h.stamped as
  have hstar : st.started.rowStore.readLatest = st.rowStore.readLatest :=
    h.stamped.readLatest_beginXid
  have hsync' : Synced (isUserKey ·) db [] st.started := by
    intro hp rawKey hU hn hread
    exact hsync hp rawKey hU hn (hstar ▸ hread)
  have hnot' : NotesFirst (isUserKey ·) (persistsRows st.started.walEngine) db [] as := hnot
  have hima := overlay_images hnot' hsync' st.rowStore.newest_beginXid hcap h.durable.le hk
    not_mem_nil
  rw [State.readLatest_rollback (h.transact as) (hwr.maxRowsCap.trans hcap),
    State.txUndoLog_transact, reverse_append, overlay_append,
    hwr.readLatest_eq_overlay hcap]
  rw [hstar] at hima
  cases hv : lastWrite st.txUndoLog.reverse k with
  | some v => rw [overlay_of_lastWrite hv, hsta v hv]
  | none => rw [overlay, hv, getD_none, hima]

end

section

variable {E : Type} [BootEngine E] [CheckPredicate] [ColumnOrder] [Unicode]
  {validate : String → RowData → Except String Unit} {st : Guarded E}

def Request.closesItsLog (req : Request) : Bool :=
  !req.hasDml || req.hasCommit || req.hasRollback

structure SelfContained (validate : String → RowData → Except String Unit)
    (s : Server E) (req : Request) : Prop where
  closes : req.closesItsLog
  passes : Passes validate req.db s.rowStore.nextXid req.statements
      (s.session req.connectionId).begin ∨
    requestActions validate req.db req.statements (s.session req.connectionId) = []
  synced : Synced (isUserKey ·) req.db [] (s.session req.connectionId).toState

omit [CheckPredicate] [ColumnOrder] [Unicode] in
theorem maxRowsCap_finish (h : st.Sound) (req : Request) :
    (st.finish req).rowStore.maxRowsCap = st.rowStore.maxRowsCap := by
  rw [Guarded.finish]
  split_ifs
  · exact State.maxRowsCap_rollback h
  · rfl
  · rfl

theorem maxRowsCap_respond (h : st.Sound) (req : Request) :
    (st.respond validate req).1.rowStore.maxRowsCap = st.rowStore.maxRowsCap := by
  have hdml : (sqlExecuteChecked validate req.db req.statements st).1.rowStore.maxRowsCap =
      st.rowStore.maxRowsCap := by
    rw [sqlExecuteChecked_fst]
    exact (State.transact_writes h.stamped _).maxRowsCap
  have hsnd : (sqlExecuteChecked validate req.db req.statements st).1.Sound := by
    rw [sqlExecuteChecked_fst]
    exact h.transact _
  rcases st.respond_cases validate req with
    he | ⟨reason, -, he⟩ | ⟨-, -, he⟩ | ⟨-, he⟩ <;> rw [he]
  · exact hdml
  · exact (maxRowsCap_finish hsnd req).trans hdml
  · exact maxRowsCap_finish h req

omit [CheckPredicate] [ColumnOrder] [Unicode] in
theorem txUndoLog_finish {req : Request} (hclo : req.closesItsLog)
    (hlog : req.hasDml = false → st.txUndoLog = []) : (st.finish req).txUndoLog = [] := by
  rw [Guarded.finish]
  split_ifs with hrb hcom
  · exact st.txUndoLog_rollback
  · rfl
  · refine hlog ?_
    simpa [Request.closesItsLog, hrb, hcom] using hclo

variable {s : Server E} {req : Request}

theorem SelfContained.refused (h : SelfContained validate s req) {reason : String}
    (hrs : (sqlExecuteChecked validate req.db req.statements
      (s.session req.connectionId)).2 = some reason) :
    requestActions validate req.db req.statements (s.session req.connectionId) = [] := by
  refine h.passes.resolve_left fun hpas => ?_
  have hnone := checkedStatements_eq_none_iff.mpr hpas
  rw [sqlExecuteChecked_snd] at hrs
  exact some_ne_none reason (hrs.symm.trans hnone)

theorem SelfContained.txUndoLog_sqlExecute (h : SelfContained validate s req)
    (hlog : ∀ conn, s.txUndoLog conn = []) (conn : String) :
    (s.sqlExecute validate req).1.txUndoLog conn = [] := by
  rcases eq_or_ne conn req.connectionId with rfl | hconn
  · have hses := s.session_sqlExecute validate req
    have hst : (s.session req.connectionId).txUndoLog = [] := hlog req.connectionId
    suffices ((s.session req.connectionId).respond validate req).1.txUndoLog = [] by
      rw [← hses] at this
      exact this
    rcases (s.session req.connectionId).respond_cases validate req with
      he | ⟨reason, hrs, he⟩ | ⟨hdml, -, he⟩ | ⟨-, he⟩ <;> rw [he]
    · exact hst
    · rw [sqlExecuteChecked_fst, h.refused hrs]
      exact hst
    · exact txUndoLog_finish h.closes fun hno => by simp [hdml] at hno
    · exact txUndoLog_finish h.closes fun _ => hst
  · exact (Function.update_of_ne hconn _ _).trans (hlog conn)

theorem SelfContained.readLatest_sqlExecute (h : SelfContained validate s req)
    (hcap : s.rowStore.maxRowsCap = 0) (hlog : s.txUndoLog req.connectionId = [])
    (hrb : req.hasRollback) {k : String} (hk : isUserKey k) :
    (s.sqlExecute validate req).1.rowStore.readLatest k = s.rowStore.readLatest k := by
  have hsnd := s.sound req.connectionId
  have hst : (s.session req.connectionId).txUndoLog = [] := hlog
  have hfin (st : Guarded E) : (st.finish req).toState = st.rollback := by
    rw [Guarded.finish, if_pos hrb]
  change ((s.session req.connectionId).respond validate req).1.rowStore.readLatest k = _
  rcases (s.session req.connectionId).respond_cases validate req with
    he | ⟨reason, hrs, he⟩ | ⟨-, -, he⟩ | ⟨-, he⟩ <;> rw [he]
  · rfl
  · rw [sqlExecuteChecked_fst, h.refused hrs]
    exact congrFun ((State.transact_writes hsnd.stamped []).readLatest_eq_overlay hcap) k
  · have hnot : NotesFirst (isUserKey ·) (persistsRows (s.session req.connectionId).walEngine)
        req.db [] (requestActions validate req.db req.statements (s.session req.connectionId)) :=
      batchActions_notesFirst validate _ req.statements (s.session req.connectionId).begin
    rw [hfin, sqlExecuteChecked_fst]
    refine readLatest_transact_rollback hsnd hcap ?_ hnot h.synced hk
    rw [hst]
    simp [lastWrite]
  · rw [hfin, State.rollback, if_pos hst]
    rfl

def Server.step (validate : String → RowData → Except String Unit) (s : Server E)
    (req : Request) : Option (Server E) := some (s.sqlExecute validate req).1

end

section

open scoped Sample

def onSharedConnection (statements : List String) : Request := ⟨"conn-6", "", statements⟩

def plainInsert : Request := onSharedConnection ["INSERT INTO t (id, name) VALUES (1, 'a')"]

def committedInsert : Request :=
  onSharedConnection ["BEGIN", "INSERT INTO t (id, name) VALUES (1, 'a')", "COMMIT"]

def undoneInsert : Request :=
  onSharedConnection ["BEGIN", "INSERT INTO t (id, name) VALUES (2, 'b')", "ROLLBACK"]

def emptyServer : Server InMemoryEngine := Server.empty {} maxRowXid_memory

theorem selfContained_of_passes {s : Server InMemoryEngine} {req : Request}
    (hclo : req.closesItsLog)
    (hpas : (sqlExecuteChecked anyRow req.db req.statements
      (s.session req.connectionId)).2 = none) :
    SelfContained anyRow s req where
  closes := hclo
  passes := Or.inl (checkedStatements_eq_none_iff.mp hpas)
  synced hp := by cases hp

end

end VngDatabase.Dml
