import VngDatabase.Daemon.Connections
import VngDatabase.Tx.Declared

/-!
# Which entry points ask for a grant

`sql_execute` asks whether the caller may use the database before it does anything else.
`sql_transaction` reads the same header and writes under the name it finds there, and does not ask.
-/

namespace VngDatabase.Daemon

open Text Sql Store Dml Tx Query DurabilityEngine BootEngine List Access
open Access (HeaderMap RuntimeAccessPrincipal SessionSigner)

/-! ### Rows of a database -/

section

variable {E : Type} [BootEngine E]

structure SameRows (d : String) (s s' : Server E) : Prop where
  versions : ∀ k, isUnder d k → s'.rowStore.versions k = s.rowStore.versions k
  durable : ∀ k, getRow s'.walEngine d k = getRow s.walEngine d k

structure AgreeOutside (d : String) (s s' : Server E) : Prop where
  versions : ∀ k, ¬isUnder d k → s'.rowStore.versions k = s.rowStore.versions k
  durable : ∀ d' k, d' ≠ d → getRow s'.walEngine d' k = getRow s.walEngine d' k
  nextXid : s'.rowStore.nextXid = s.rowStore.nextXid
  constraints : s'.constraints = s.constraints
  txUndoLog : s'.txUndoLog = s.txUndoLog

theorem versions_transact_ne {st : State E} (h : st.Sound) (hcap : st.rowStore.maxRowsCap = 0)
    {as : List Action} {k : String} (hk : k ∈ st.rowStore.shelf.flatten)
    (hw : ∃ w ∈ rowWrites as, w.1 = k) :
    (st.transact as).rowStore.versions k ≠ st.rowStore.versions k := by
  intro heq
  have hheld : k ∈ (st.transact as).rowStore.shelf.flatten := by
    rw [(State.transact_writes h.stamped as).shelf, hcap,
      Paging.mem_placeAll_iff st.rowStore.shelf_ne_nil]
    exact Or.inr hk
  have hpus : k ∈ pushedKeys st.rowStore.nextXid as st.started :=
    (mem_pushedKeys_iff st.rowStore.newest_beginXid as hheld).mpr hw
  have hmod := (h.wasModifiedAfter_transact as k).mpr ⟨hpus, hheld⟩
  rw [PagedRowStore.wasModifiedAfter_iff, heq, ← PagedRowStore.wasModifiedAfter_iff,
    h.stamped.wasModifiedAfter_currentXid] at hmod
  cases hmod

end

/-! ### Stores with one row and with none -/

section

def emptyStore (nextXid : Xid) : PagedRowStore := { PagedRowStore.new 256 with nextXid := nextXid }

def oneRowStore (k : String) (data : RowData) (xid : Xid) : PagedRowStore where
  pages := [⟨0, [⟨k, [⟨xid, false, data⟩]⟩]⟩]
  pageSize := 256
  nextPageId := 1
  nextXid := xid + 1
  writeIntents := fun _ => none
  maxRowsCap := 0
  nonempty := by simp
  distinct := by simp [StorePage.keys]

variable {k k' : String} {data : RowData} {xid : Xid}

theorem versions_emptyStore : (emptyStore xid).versions k = [] := rfl

theorem versions_oneRowStore :
    (oneRowStore k data xid).versions k' = if k = k' then [⟨xid, false, data⟩] else [] := by
  have hrows : (oneRowStore k data xid).rows = [⟨k, [⟨xid, false, data⟩]⟩] := rfl
  rw [PagedRowStore.versions, hrows, find?_singleton]
  by_cases hk : k = k' <;> simp [hk]

theorem mem_shelf_oneRowStore : k ∈ (oneRowStore k data xid).shelf.flatten := by
  simp [oneRowStore, PagedRowStore.shelf, StorePage.keys]

theorem stamped_oneRowStore : (oneRowStore k data xid).Stamped := by
  intro k' v hv
  rw [versions_oneRowStore] at hv
  split_ifs at hv
  · rw [mem_singleton.mp hv]
    exact Nat.lt_succ_self xid
  · cases hv

theorem mem_scanAtSnapshot_oneRowStore {snapshotXid : Xid} (h : xid ≤ snapshotXid) :
    (k, data) ∈ (oneRowStore k data xid).scanAtSnapshot snapshotXid := by
  have hrows : (oneRowStore k data xid).rows = [⟨k, [⟨xid, false, data⟩]⟩] := rfl
  rw [PagedRowStore.scanAtSnapshot_eq, hrows]
  simp [PagedRowStore.listed, MvccRow.visibleAt, Versions.lastAtMost, RowVersion.value, h]

end

section

variable {E : Type} [SnapshotEngine E] (e : E) {xid : Xid} (h : maxRowXid e ≤ xid)
  (log : List (String × Option RowData)) (d rawKey : String) (data : RowData)

def blankServer : Server E where
  rowStore := emptyStore (xid + 1)
  walEngine := e
  constraints := .new
  txUndoLog := fun _ => log
  stamped := fun k v hv => by
    rw [versions_emptyStore] at hv
    cases hv
  durable := Nat.lt_succ_of_le h

def oneRowServer : Server E where
  rowStore := oneRowStore (dbPrefixKey d rawKey) data xid
  walEngine := storeRow e d rawKey xid (some data)
  constraints := .new
  txUndoLog := fun _ => log
  stamped := stamped_oneRowStore
  durable := Nat.lt_succ_of_le ((maxRowXid_storeRow e d rawKey xid _).trans (max_le h le_rfl))

theorem agreeOutside_oneRowServer :
    AgreeOutside d (oneRowServer e h log d rawKey data) (blankServer e h log) where
  versions k hk := by
    have hne : dbPrefixKey d rawKey ≠ k := by
      rintro rfl
      exact hk (isUnder_iff.mpr ⟨rawKey, rfl⟩)
    exact (versions_oneRowStore.trans (if_neg hne)).symm
  durable d' k hd := by
    have hne : (d, rawKey) ≠ (d', k) := fun heq => hd (congrArg Prod.fst heq).symm
    by_cases hp : persistsRows e
    · exact ((getRow_storeRow hp h d rawKey d' k _).trans (if_neg hne)).symm
    · rw [oneRowServer, blankServer, getRow_eq, getRow_eq, persistsRows_storeRow, if_neg hp,
        if_neg hp]
  nextXid := rfl
  constraints := rfl
  txUndoLog := rfl

theorem mem_scanRows_oneRowServer (conn : String) :
    (dbPrefixKey d rawKey, data) ∈
      ((oneRowServer e h log d rawKey data).session conn).begin.scanRows d := by
  unfold State.scanRows
  dsimp only
  split_ifs with hp
  · refine mem_map.mpr ⟨(rawKey, data), ?_, rfl⟩
    refine (SnapshotEngine.mem_scanRowsForDb_storeRow e d rawKey xid _ _ data ?_ h ?_).mpr rfl
    · rwa [← persistsRows_storeRow e d rawKey xid (some data)]
    · exact Nat.le_succ xid
  · exact mem_scanAtSnapshot_oneRowStore (Nat.le_succ xid)

end

section

variable {E : Type} [BootEngine E] [CheckPredicate] [ColumnOrder] [Unicode] {tx : TxRequest}

def TouchesNoRow (tx : TxRequest) : Prop :=
  if tx.hasCommit then tx.writeKeys = [] else tx.hasRollback = false

theorem commit_of_writeKeys_eq_nil (h : tx.writeKeys = []) (acid : AcidTransactionRegistry)
    (s : TxServer E) (d : String) :
    SameRows d s.toServer (s.commit tx acid).1.toServer ∧
      (s.commit tx acid).2 = executeTransactionStatements tx.statements := by
  have hself := flushStatements_eq_self h s.rowStore.nextXid (s.session tx.connectionId).begin
  have hfl : flush tx.db tx.effectiveStatements (s.session tx.connectionId) =
      ({ (s.session tx.connectionId).begin with
        toState := (s.session tx.connectionId).begin.releaseWriteIntents s.rowStore.nextXid },
        none) := by
    rw [flush]
    exact congrArg (fun r : Guarded E × Option String =>
      ({ r.1 with toState := r.1.toState.releaseWriteIntents s.rowStore.nextXid }, r.2)) hself
  unfold TxServer.commit
  dsimp only
  split
  · rename_i reason hrs
    cases (congrArg Prod.snd hfl).symm.trans hrs
  · refine ⟨⟨fun k _ => ?_, fun k => ?_⟩, rfl⟩
    · exact congrArg (fun r : Guarded E × Option String => r.1.rowStore.versions k) hfl
    · exact congrArg (fun r : Guarded E × Option String => getRow r.1.walEngine d k) hfl

theorem sqlTransaction_of_touchesNoRow (h : TouchesNoRow tx) (s : TxServer E) (d : String) :
    SameRows d s.toServer (s.sqlTransaction tx).1.toServer ∧
      ∀ s', AgreeOutside d s.toServer s' →
        ({ s with toServer := s' }.sqlTransaction tx).2 = (s.sqlTransaction tx).2 := by
  unfold TouchesNoRow at h
  unfold TxServer.sqlTransaction TxServer.runTransaction
  by_cases hcom : tx.hasCommit
  · rw [if_pos hcom] at h
    simp only [hcom, if_true, h]
    constructor
    · split
      · exact ⟨fun _ _ => rfl, fun _ => rfl⟩
      · exact (commit_of_writeKeys_eq_nil h _ s d).1
    · -- the snapshot is the same, and without keys the checks look at no row
      intro s' hagr
      have hsnap : tx.beginSnapshotXid s'.rowStore = tx.beginSnapshotXid s.rowStore := by
        rw [TxRequest.beginSnapshotXid, PagedRowStore.currentXid, hagr.nextXid]
        rfl
      rw [hsnap]
      generalize tx.registered s.acid (tx.beginSnapshotXid s.rowStore) = acid
      have hsame : commitConflict acid s'.rowStore tx.txId tx.isoLevel [] =
          commitConflict acid s.rowStore tx.txId tx.isoLevel [] := rfl
      rw [hsame]
      cases commitConflict acid s.rowStore tx.txId tx.isoLevel [] with
      | some reason => rfl
      | none =>
        exact (commit_of_writeKeys_eq_nil h acid _ d).2.trans
          (commit_of_writeKeys_eq_nil h acid s d).2.symm
  · rw [if_neg hcom] at h
    simp only [if_neg hcom, h, Bool.false_eq_true, if_false]
    exact ⟨⟨fun _ _ => rfl, fun _ => rfl⟩, fun _ _ => trivial⟩

end

section

variable {E : Type} [SnapshotEngine E] [CheckPredicate] [ColumnOrder] [Unicode] {tx : TxRequest}

omit [SnapshotEngine E] in
theorem insertsPass_of_constraints_eq_nil {mgr : ConstraintManager} (h : mgr.constraints = [])
    (stmts : List String) : insertsPass mgr stmts := by
  induction stmts with
  | nil => rfl
  | cons stmt stmts ih =>
    have href : flushRefused mgr stmt = false := by
      unfold flushRefused flushRows
      rcases dmlKind stmt with _ | _ | _ | _ <;> simp [acceptedRows_eq h]
    have hrec : ∀ rows : List RowData, recordRows mgr rows = mgr := by
      intro rows
      induction rows with
      | nil => rfl
      | cons row rows ih => rw [recordRows, foldl_cons, recordRow_eq_self h, ← recordRows, ih]
    rw [insertsPass, href, hrec, ih]
    rfl

omit [CheckPredicate] [ColumnOrder] in
theorem conflict_blankServer (e : E) {xid : Xid} (h : maxRowXid e ≤ xid)
    (log : List (String × Option RowData)) (x : Option Xid) :
    TxServer.conflict ⟨blankServer e h log, .empty, []⟩ tx x = none := by
  have hpeer : ∀ level conflict, (tx.registered .empty x).peerConflict tx.txId level
      conflict = none := by
    intro level conflict
    rw [← Option.not_isSome_iff_eq_none, AcidTransactionRegistry.peerConflict_isSome_iff]
    rintro ⟨entry, ⟨id, hid, hent, -⟩, -⟩
    rw [entryOf_registered_of_ne hid] at hent
    cases hent
  have hver : ∀ keys since,
      optimisticVersionConflict (emptyStore (xid + 1)) keys since = none := by
    intro keys since
    rw [optimisticVersionConflict, find?_eq_none]
    intro k _ hmod
    obtain ⟨v, hv, -⟩ := PagedRowStore.wasModifiedAfter_iff.mp hmod
    cases hv
  rw [TxServer.conflict, commitConflict]
  simp only [blankServer, hver, AcidTransactionRegistry.checkOptimisticConflict,
    AcidTransactionRegistry.checkSerializableConflictRowLevel,
    AcidTransactionRegistry.checkSerializableRwConflict, hpeer]
  split_ifs <;> rfl

theorem commit_ne_conflict {s : TxServer E} (h : s.constraints.constraints = []) (tx : TxRequest)
    (acid : AcidTransactionRegistry) (reason : String) :
    (s.commit tx acid).2 ≠ .conflict reason := by
  have hfl := flush_snd_isSome tx.db tx.effectiveStatements (s.session tx.connectionId)
  have hpass : insertsPass (s.session tx.connectionId).constraints tx.effectiveStatements :=
    insertsPass_of_constraints_eq_nil h _
  rw [hpass] at hfl
  unfold TxServer.commit
  dsimp only
  split
  · rename_i why hwhy
    rw [hwhy] at hfl
    cases hfl
  · exact Node.executeTransactionStatements_ne_conflict _ _

theorem rowStore_of_rollback (hcom : ¬tx.hasCommit) (hrb : tx.hasRollback)
    (s : TxServer E) (hlog : (s.session tx.connectionId).txUndoLog ≠ []) :
    (s.sqlTransaction tx).1.rowStore = ((s.session tx.connectionId).transact
      (undoActions (s.txUndoLog tx.connectionId))).rowStore := by
  have hundo : (s.session tx.connectionId).toState.rollback.rowStore =
      ((s.session tx.connectionId).transact
        (undoActions (s.txUndoLog tx.connectionId))).rowStore := by
    rw [State.rollback, if_neg hlog]
    rfl
  rw [TxServer.sqlTransaction, TxServer.runTransaction, if_neg hcom, if_pos hrb]
  exact hundo

theorem exists_harm (hharm : ¬TouchesNoRow tx) (e : E) {xid : Xid} (h : maxRowXid e ≤ xid) :
    ∃ log rawKey data,
      let s : TxServer E := ⟨oneRowServer e h log tx.db rawKey data, .empty, []⟩
      SameRows tx.db s.toServer (s.sqlTransaction tx).1.toServer →
        ({ s with toServer := blankServer e h log }.sqlTransaction tx).2 ≠
          (s.sqlTransaction tx).2 := by
  unfold TouchesNoRow at hharm
  split_ifs at hharm with hcom
  · obtain ⟨rawKey, data, hwr⟩ := exists_target (E := E) hharm
    refine ⟨[], rawKey, data, fun hsame => ?_⟩
    set s : TxServer E := ⟨oneRowServer e h [] tx.db rawKey data, .empty, []⟩
    -- nothing speaks against the transaction if the row is not there
    have hbl : ∀ reason, ({ s with toServer := blankServer e h [] }.sqlTransaction tx).2 ≠
        .conflict reason := by
      intro reason
      rw [TxServer.sqlTransaction, runTransaction_of_pass hcom (conflict_blankServer e h [] _)]
      exact commit_ne_conflict rfl _ _ reason
    cases hcf : s.conflict tx (tx.beginSnapshotXid s.rowStore) with
    | some reason =>
      have hans : (s.sqlTransaction tx).2 = .conflict reason := by
        rw [TxServer.sqlTransaction, runTransaction_of_conflict hcom hcf]
      rw [hans]
      exact hbl reason
    | none =>
      rw [TxServer.sqlTransaction, runTransaction_of_pass hcom hcf] at hsame
      have hver := hsame.versions _ (isUnder_iff.mpr ⟨rawKey, rfl⟩)
      rw [rowStore_commit] at hver
      refine absurd hver (versions_transact_ne (s.sound tx.connectionId) rfl
        mem_shelf_oneRowStore ?_)
      exact hwr _ _ rfl (mem_scanRows_oneRowServer e h [] tx.db rawKey data tx.connectionId)
  · -- what is to be taken back is the row
    refine ⟨[(dbPrefixKey tx.db "", none)], "", ∅, fun hsame => ?_⟩
    set s : TxServer E := ⟨oneRowServer e h [(dbPrefixKey tx.db "", none)] tx.db "" ∅, .empty, []⟩
    have hver := hsame.versions _ (isUnder_iff.mpr ⟨"", rfl⟩)
    rw [rowStore_of_rollback hcom (by simpa using hharm) s (cons_ne_nil _ _)] at hver
    refine absurd hver (versions_transact_ne (s.sound tx.connectionId) rfl
      mem_shelf_oneRowStore ⟨(dbPrefixKey tx.db "", none), ?_, rfl⟩)
    rw [rowWrites_undoActions]
    simp [s, oneRowServer]

end

/-! ### The entry points -/

def SqlRequest.Names (d : String) : SqlRequest → Prop
  | .execute req => databaseHeader req.headers = d
  | .transaction req => databaseHeader req.headers = d
  | .route _ | .explain _ _ => False

def SqlRequest.WithoutHarm [Unicode] : SqlRequest → Prop
  | .transaction req => TouchesNoRow (req.onConnection "" "")
  | .execute _ | .route _ | .explain _ _ => True

namespace Node

section

variable {E C : Type} [SnapshotEngine E]

def KeptAway {α : Type} (d : String) (n : Node E C) (handler : Node E C → Node E C × α) : Prop :=
  Daemon.SameRows d n.toServer (handler n).1.toServer ∧
    ∀ s, AgreeOutside d n.toServer s → (handler (n.withServer s)).2 = (handler n).2

variable [CheckPredicate] [ColumnOrder] [Unicode] [SessionSigner]

def principalFor (n : Node E C) (w : Circumstances) :
    SqlRequest → Except AuthError RuntimeAccessPrincipal
  | .execute req =>
    requireSqlRuntimePrincipal n.auth req.headers w.nowSecs .execute "sql/execute"
  | .transaction req =>
    requireSqlRuntimePrincipal n.auth req.headers w.nowSecs .execute "sql/transaction"
  | .route headers =>
    requireSqlRuntimePrincipal n.auth headers w.nowSecs .read "sql/route"
  | .explain headers _ =>
    requireSqlRuntimePrincipal n.auth headers w.nowSecs .read "sql/explain"

variable {w : Circumstances} {d : String} {principal : RuntimeAccessPrincipal} {n : Node E C}
  {req : TransactionRequest}

theorem sqlTransaction_of_acquire {pool : ConnectionPoolManager} {conn : String}
    (hpr : n.principalFor w (.transaction req) = .ok principal)
    (hacq : n.pool.acquire w.nowMs = (pool, .ok conn)) :
    n.sqlTransaction w req = { n with pool := pool }.runTransactionOn w
      (req.onConnection (freshTxId w principal) conn) := by
  have hok : requireSqlRuntimePrincipal n.auth req.headers w.nowSecs .execute
      "sql/transaction" = .ok principal := hpr
  unfold sqlTransaction
  simp only [hok, hacq]

theorem sqlTransaction_withServer (n : Node E C) (w : Circumstances) (req : TransactionRequest) :
    (∃ pool answer, ∀ s, (n.withServer s).sqlTransaction w req =
      ({ n.withServer s with pool := pool }, answer)) ∨
    ∃ txId pool conn, ∀ s, (n.withServer s).sqlTransaction w req =
      { n.withServer s with pool := pool }.runTransactionOn w (req.onConnection txId conn) := by
  cases hpr : n.principalFor w (.transaction req) with
  | error e =>
    have herr : requireSqlRuntimePrincipal n.auth req.headers w.nowSecs .execute
        "sql/transaction" = .error e := hpr
    refine Or.inl ⟨n.pool, .denied e, fun s => ?_⟩
    have hsame : (n.withServer s).auth = n.auth := rfl
    unfold sqlTransaction
    rw [hsame, herr]
    rfl
  | ok principal =>
    rcases hacq : n.pool.acquire w.nowMs with ⟨pool, e | conn⟩
    · have hok : requireSqlRuntimePrincipal n.auth req.headers w.nowSecs .execute
          "sql/transaction" = .ok principal := hpr
      refine Or.inl ⟨pool, .unavailable "driver_pool_unavailable", fun s => ?_⟩
      have hsame : (n.withServer s).auth = n.auth ∧ (n.withServer s).pool = n.pool := ⟨rfl, rfl⟩
      unfold sqlTransaction
      simp only [hsame.1, hsame.2, hok, hacq]
    · exact Or.inr ⟨freshTxId w principal, pool, conn, fun s =>
        sqlTransaction_of_acquire hpr hacq⟩

theorem keptAway_sqlTransaction (h : TouchesNoRow (req.onConnection "" "")) (d : String) :
    n.KeptAway d (sqlTransaction w req) := by
  have hself : n.withServer n.toServer = n := rfl
  rcases n.sqlTransaction_withServer w req with ⟨pool, answer, heq⟩ | ⟨txId, pool, conn, heq⟩
  · have hn := hself ▸ heq n.toServer
    constructor
    · rw [hn]
      exact ⟨fun _ _ => rfl, fun _ => rfl⟩
    · intro s _
      rw [heq, hn]
  · have htx : TouchesNoRow (req.onConnection txId conn) := h
    have hn := hself ▸ heq n.toServer
    constructor
    · rw [hn, toTxServer_runTransactionOn]
      exact (sqlTransaction_of_touchesNoRow htx n.toTxServer d).1
    · intro s hagr
      rw [heq, hn, runTransactionOn_snd, runTransactionOn_snd]
      exact congrArg _ ((sqlTransaction_of_touchesNoRow htx n.toTxServer d).2 s hagr)

def fresh (n : Node E C) (s : Server E) : Node E C :=
  { n with
    toTxServer := ⟨s, .empty, []⟩
    pool := .withDefaultPolicy
    connectionTxActive := fun _ => none }

theorem exists_not_keptAway {n₀ : Node E C}
    (hpr : n₀.principalFor w (.transaction req) = .ok principal)
    (h : ¬TouchesNoRow (req.onConnection "" "")) :
    ∃ s, ¬(n₀.fresh s).KeptAway (databaseHeader req.headers) (sqlTransaction w req) := by
  obtain ⟨pool, conn, hacq⟩ := ConnectionPoolManager.exists_acquire_withDefaultPolicy w.nowMs
  set tx := req.onConnection (freshTxId w principal) conn with htx
  have hharm : ¬TouchesNoRow tx := h
  obtain ⟨log, rawKey, data, hdif⟩ := exists_harm hharm n₀.walEngine le_rfl
  refine ⟨oneRowServer n₀.walEngine le_rfl log tx.db rawKey data, ?_⟩
  rintro ⟨hsame, hansw⟩
  have hans := hansw _ (agreeOutside_oneRowServer n₀.walEngine le_rfl log tx.db rawKey data)
  have hrun : ∀ s, (n₀.fresh s).sqlTransaction w req =
      { n₀.fresh s with pool := pool }.runTransactionOn w tx := fun s =>
    sqlTransaction_of_acquire (n := n₀.fresh s) hpr hacq
  have hbl : ((n₀.fresh (oneRowServer n₀.walEngine le_rfl log tx.db rawKey data)).withServer
      (blankServer n₀.walEngine le_rfl log)).sqlTransaction w req =
      { n₀.fresh (blankServer n₀.walEngine le_rfl log) with pool := pool }.runTransactionOn w tx :=
    hrun (blankServer n₀.walEngine le_rfl log)
  rw [hrun, toTxServer_runTransactionOn] at hsame
  rw [hbl, hrun, runTransactionOn_snd, runTransactionOn_snd] at hans
  exact hdif hsame (TransactionAnswer.answered.inj hans)

variable [SchemaCatalog C] [F64] [QueryParser] [SqlRuntime]

def Guarded (d : String) (n : Node E C) (w : Circumstances) : SqlRequest → Prop
  | .execute req => n.KeptAway d (sqlExecute w req)
  | .transaction req => n.KeptAway d (sqlTransaction w req)
  | .route _ | .explain _ _ => True

theorem sqlExecute_of_no_access {req : ExecuteRequest} (hd : d ≠ "")
    (hnms : databaseHeader req.headers = d)
    (hpr : n.principalFor w (.execute req) = .ok principal)
    (hno : principalHasDatabaseAccess principal d n.auth.rbacPrivilegeMatrix
      n.dbGrants = false) : n.sqlExecute w req = (n, .accessDenied d) := by
  have huse : n.mayUse principal d = false := by simp [mayUse, hd, hno]
  have hok : requireSqlRuntimePrincipal n.auth req.headers w.nowSecs .execute
      "sql/execute" = .ok principal := hpr
  unfold sqlExecute
  simp only [hok, hnms, huse, Bool.false_eq_true, if_false]

/-- **The database is guarded** exactly against the requests without harm. -/
theorem guarded_iff {n₀ : Node E C} {r : SqlRequest} (hd : d ≠ "") (hnames : r.Names d)
    (hprincipal : n₀.principalFor w r = .ok principal)
    (hno : principalHasDatabaseAccess principal d n₀.auth.rbacPrivilegeMatrix n₀.dbGrants = false) :
    (∀ n : Node E C, n.auth = n₀.auth → n.dbGrants = n₀.dbGrants → n.Guarded d w r) ↔
      r.WithoutHarm := by
  cases r with
  | execute req =>
    refine iff_of_true (fun n hauth hgra => ?_) trivial
    have htur : ∀ m : Node E C, m.auth = n₀.auth → m.dbGrants = n₀.dbGrants →
        m.sqlExecute w req = (m, .accessDenied d) := by
      intro m hauth hgra
      have hsame : m.principalFor w (.execute req) = .ok principal := by
        rw [← hprincipal, principalFor, principalFor, hauth]
      refine sqlExecute_of_no_access hd hnames hsame ?_
      rw [hauth, hgra, hno]
    constructor
    · rw [htur n hauth hgra]
      exact ⟨fun _ _ => rfl, fun _ => rfl⟩
    · intro s _
      rw [htur (n.withServer s) hauth hgra, htur n hauth hgra]
  | transaction req =>
    constructor
    · intro hall
      by_contra hharm
      obtain ⟨s, hs⟩ := exists_not_keptAway hprincipal hharm
      have hgua := hall (n₀.fresh s) rfl rfl
      rw [← hnames] at hgua
      exact hs hgua
    · intro h n _ _
      exact keptAway_sqlTransaction h d
  | route headers => cases hnames
  | explain headers sqlBatch => cases hnames

end

section

open Daemon.Sample
open scoped Dml.Sample

def insertOne : TransactionRequest :=
  ⟨headers (some "sales"), ["BEGIN", "INSERT INTO t (id) VALUES (1)", "COMMIT"], none⟩

/-- **A row is written without a grant.** -/
theorem row_written_without_grant :
    principalHasDatabaseAccess (principalOf "ann") "sales"
        (node noRows).auth.rbacPrivilegeMatrix (node noRows).dbGrants = false ∧
      (node noRows).principalFor calm (.transaction insertOne) = .ok (principalOf "ann") ∧
      (node noRows).rowStore.readLatest "sales.t:1" = none ∧
      ((node noRows).sqlTransaction calm insertOne).2 = .answered .ok ∧
      ((node noRows).sqlTransaction calm insertOne).1.rowStore.readLatest "sales.t:1" = some row ∧
      ¬(node noRows).Guarded "sales" calm (.transaction insertOne) ∧
      (node noRows).sqlExecute calm
          { headers := headers (some "sales"), sqlBatch := "INSERT INTO t (id) VALUES (1)" } =
        (node noRows, .accessDenied "sales") := by
  have hno : principalHasDatabaseAccess (principalOf "ann") "sales"
      (node noRows).auth.rbacPrivilegeMatrix (node noRows).dbGrants = false := by decide +kernel
  have hrun : ((node noRows).sqlTransaction calm insertOne).2 = .answered .ok ∧
      ((node noRows).sqlTransaction calm insertOne).1.rowStore.readLatest "sales.t:1" =
        some row ∧
      ((node noRows).sqlTransaction calm insertOne).1.rowStore.versions "sales.t:1" ≠ [] := by
    decide +kernel
  refine ⟨hno, principal_ann _ _ _, rfl, hrun.1, hrun.2.1, ?_, ?_⟩
  · intro hgua
    exact hrun.2.2 (hgua.1.versions "sales.t:1" (by decide))
  · exact sqlExecute_of_no_access (by decide) (by decide +kernel) (principal_ann _ _ _) hno

def beginOnly : TransactionRequest := ⟨headers (some "sales"), ["BEGIN"], none⟩

theorem guarded_against_begin : (node noRows).Guarded "sales" calm (.transaction beginOnly) := by
  have hnms : SqlRequest.Names "sales" (.transaction beginOnly) :=
    (by decide +kernel : databaseHeader beginOnly.headers = "sales")
  have hpr : (node noRows).principalFor calm (.transaction beginOnly) =
      .ok (principalOf "ann") := principal_ann _ _ _
  have hno : principalHasDatabaseAccess (principalOf "ann") "sales"
      (node noRows).auth.rbacPrivilegeMatrix (node noRows).dbGrants = false := by decide +kernel
  have hharm : (SqlRequest.transaction beginOnly).WithoutHarm := by
    have hnev : (beginOnly.onConnection "" "").hasCommit = false ∧
        (beginOnly.onConnection "" "").hasRollback = false := by decide +kernel
    change TouchesNoRow (beginOnly.onConnection "" "")
    rw [TouchesNoRow, hnev.1, if_neg Bool.false_ne_true]
    exact hnev.2
  exact (guarded_iff (by decide) hnms hpr hno).mpr hharm (node noRows) rfl rfl

end

end Node

end VngDatabase.Daemon
