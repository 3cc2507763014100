import VngDatabase.Daemon.Connections

/-!
# Snapshots that stay with a connection

A transaction at the level `repeatable_read` is put down under the identifier of its connection, and
queries on the connection read from its snapshot.
-/

namespace VngDatabase.Daemon

open Text Sql Store Dml Tx Query Option Function
open Access (HeaderMap RuntimeAccessPrincipal SessionSigner)

structure Sessions where
  acid : AcidTransactionRegistry
  active : (connectionId : String) → Option String

namespace Sessions

variable (t : Sessions) (conn txId : String)

def recordReads (keys : List String) : Sessions :=
  match t.active conn with
  | some txId => { t with acid := t.acid.recordReadRowKeys txId keys }
  | none => t

def began (level : String) (snapshotXid : Option Xid) : Sessions where
  acid := t.acid.begin txId level snapshotXid
  active := Function.update t.active conn (some txId)

def ended (hasRollback : Bool) : Sessions where
  acid := if hasRollback then t.acid.rollback txId else t.acid.commit txId
  active := Function.update t.active conn none

end Sessions

namespace Node

section

variable {E C : Type} [DatabaseEngine E]

def sessions (n : Node E C) : Sessions := ⟨n.acid, n.connectionTxActive⟩

variable (w : Circumstances) (req : ExecuteRequest) (db conn : String) (n : Node E C)

theorem sessions_recordReads (rows : List ResultRow) :
    (n.recordReads db conn rows).sessions =
      n.sessions.recordReads conn (rows.map fun row => dbPrefixKey db row.key) := by
  cases hc : n.connectionTxActive conn with
  | none => simp only [recordReads, Sessions.recordReads, sessions, hc]
  | some txId => simp only [recordReads, Sessions.recordReads, sessions, hc]

variable [SchemaCatalog C] [CheckPredicate] [ColumnOrder] [Unicode] (stmts : List String)

def StatementsPass : Prop :=
  ∀ conn, (n.toServer.sqlExecute (SchemaCatalog.validateRowAgainstDdl n.catalog)
    ⟨conn, db, stmts⟩).2 = .done

theorem statementsPass_pool (pool : ConnectionPoolManager) :
    { n with pool := pool }.StatementsPass db stmts ↔ n.StatementsPass db stmts := Iff.rfl

variable {P : Sessions → Prop}

theorem RowOutcome.sessions {m : Node E C} (hm : RowOutcome w req db conn stmts n m)
    (hrd : ∀ t keys, P t → P (t.recordReads conn keys))
    (hbat : ∀ t txId level snapshotXid hasRollback, directTxId w req db conn stmts = some txId →
      P t → P ((t.began conn txId level snapshotXid).ended conn txId hasRollback))
    (href : ∀ t txId level snapshotXid, directTxId w req db conn stmts = some txId →
      ¬n.StatementsPass db stmts → P t → P (t.began conn txId level snapshotXid))
    (h : P n.sessions) : P m.sessions := by
  induction hm with
  | forwarded | replicated _ => exact h
  | done _ =>
    cases htx : directTxId w req db conn stmts with
    | none => exact h
    | some txId => exact hbat n.sessions txId _ _ _ htx h
  | refused hne =>
    cases htx : directTxId w req db conn stmts with
    | none => exact h
    | some txId => exact href n.sessions txId _ _ htx (fun hpass => hne (hpass conn)) h
  | reads _ rows ih =>
    rw [sessions_recordReads]
    exact hrd _ _ ih

variable [F64] [QueryParser] [SqlRuntime]

theorem sessions_onConnection (hrd : ∀ t keys, P t → P (t.recordReads conn keys))
    (hbat : ∀ t txId level snapshotXid hasRollback,
      directTxId w req db conn (n.statementsOf req) = some txId →
      P t → P ((t.began conn txId level snapshotXid).ended conn txId hasRollback))
    (href : ∀ t txId level snapshotXid, directTxId w req db conn (n.statementsOf req) = some txId →
      ¬(n.updateCatalog w db (n.statementsOf req)).1.StatementsPass db (n.statementsOf req) →
      P t → P (t.began conn txId level snapshotXid))
    (h : P n.sessions) : P (n.onConnection w req db conn).1.sessions := by
  obtain ⟨m, hm, he⟩ := n.outcome_onConnection w req db conn
  rw [he]
  cases hm with
  | unchanged | procedures _ | matview _ _ _ => exact h
  | @database _ ddl _ _ =>
    obtain ⟨s, catalog, databases, he⟩ := n.exists_eq_runDatabaseDdl ddl
    exact he ▸ h
  | rows hrows =>
    obtain ⟨s, catalog, he⟩ := n.exists_eq_updateCatalog w db (n.statementsOf req)
    refine hrows.sessions (P := P) w req db conn _ _ hrd hbat href ?_
    exact he ▸ h

variable [SessionSigner]

theorem sessions_sqlExecute (hrd : ∀ t conn keys, P t → P (t.recordReads conn keys))
    (hbat : ∀ t conn txId level snapshotXid hasRollback,
      directTxId w req (databaseHeader req.headers) conn (n.statementsOf req) = some txId →
      P t → P ((t.began conn txId level snapshotXid).ended conn txId hasRollback))
    (href : ∀ t conn txId level snapshotXid,
      directTxId w req (databaseHeader req.headers) conn (n.statementsOf req) = some txId →
      ¬(n.updateCatalog w (databaseHeader req.headers) (n.statementsOf req)).1.StatementsPass
        (databaseHeader req.headers) (n.statementsOf req) →
      P t → P (t.began conn txId level snapshotXid))
    (h : P n.sessions) : P (n.sqlExecute w req).1.sessions := by
  rcases n.sqlExecute_cases w req with
    ⟨answer, he⟩ | ⟨pool, e, answer, -, he⟩ | ⟨principal, pool, conn, -, -, -, he⟩ <;> rw [he]
  · exact h
  · exact h
  · refine sessions_onConnection w req _ conn { n with pool := pool } (fun t => hrd t conn)
      (fun t => hbat t conn) ?_ h
    intro t txId level snapshotXid htx hnot
    rw [updateCatalog_pool, statementsPass_pool] at hnot
    exact href t conn txId level snapshotXid htx hnot

end

section

variable {E C : Type} [DatabaseEngine E] [SchemaCatalog C] {w : Circumstances}
  {req : ExecuteRequest} {n : Node E C} {sqlBatch db conn : String} {rows : List ResultRow}
  {shown : List (String × RowData)} [F64] [QueryParser]

structure AsksQueries (n : Node E C) (req : ExecuteRequest) : Prop where
  selects : othersOf (parseBatch req.sqlBatch) = []
  carriedOut : n.procedures.dispatch req.sqlBatch = .carryOut req.sqlBatch
  noDdl : Access.parseDbDdlStatement req.sqlBatch = none
  notVirtual : isVirtualCatalogQuery req.sqlBatch = false
  noCommand : Access.earlyMatviewCommand req.sqlBatch (parseBatch req.sqlBatch) = none

variable [SqlRuntime]

def PlansRows (n : Node E C) (queries : List String) : Prop :=
  SqlRuntime.plannerPath (SchemaCatalog.indexManager n.catalog) queries = some .oltp

instance (n : Node E C) (queries : List String) : Decidable (n.PlansRows queries) :=
  inferInstanceAs (Decidable (_ = _))

theorem runQueries_eq_ok {queries : List String}
    (h : (n.runQueries w req db conn queries).2 = .ok rows shown) :
    rows = (if n.PlansRows queries then n.oltpRows w req db conn queries else []) ∧
      shown = n.shownRows req db queries := by
  unfold runQueries at h
  dsimp only at h
  split_ifs at h with hnone _ _ hplan <;> obtain ⟨rfl, rfl⟩ := ExecuteAnswer.ok.inj h
  · subst hnone
    exact ⟨by split_ifs <;> rfl, rfl⟩
  · refine ⟨(if_pos hplan).symm, ?_⟩
    unfold recordReads
    split <;> rfl
  · exact ⟨(if_neg hplan).symm, rfl⟩

variable [CheckPredicate] [ColumnOrder] [Unicode]

omit [F64] [QueryParser] [SqlRuntime] in
theorem sqlExecute_nil (val : String → RowData → Except String Unit) (s : Server E)
    (conn db : String) : s.sqlExecute val ⟨conn, db, []⟩ = (s, .done) := by
  have hlog : update s.txUndoLog conn (s.txUndoLog conn) = s.txUndoLog :=
    update_eq_self conn s.txUndoLog
  refine Prod.ext ?_ rfl
  obtain ⟨rowStore, walEngine, constraints, txUndoLog, stamped, durable⟩ := s
  exact congrArg (fun log => Server.mk rowStore walEngine constraints log stamped durable) hlog

theorem runStatements_of_selects (h : othersOf (parseBatch req.sqlBatch) = [])
    (htime : w.timedOut .statements = false) :
    n.runStatements w req sqlBatch db conn = n.runQueries w req db conn (n.queriesOf req) := by
  have hcat : n.updateCatalog w db [] = (n, none) := rfl
  unfold runStatements
  simp only [h, htime, List.map_nil, List.any_nil, hcat, Bool.false_eq_true, if_false]
  rw [← queriesOf, runRowStatements, if_neg (fun hand => Bool.false_ne_true hand.1)]
  unfold runDirect
  dsimp only
  rw [sqlExecute_nil]
  rfl

theorem onConnection_of_asksQueries (hasks : n.AsksQueries req)
    (h : (n.onConnection w req db conn).2 = .ok rows shown) :
    rows = (if n.PlansRows (n.queriesOf req) then
        n.oltpRows w req db conn (n.queriesOf req) else []) ∧
      shown = n.shownRows req db (n.queriesOf req) := by
  unfold onConnection at h
  split at h
  · cases h
  simp only [hasks.carriedOut, runBatch, hasks.noDdl, hasks.notVirtual, hasks.noCommand,
    Bool.false_eq_true, if_false] at h
  cases hudf : SqlRuntime.udfError req.sqlBatch with
  | some reason =>
    rw [hudf] at h
    cases h
  | none =>
    rw [hudf] at h
    cases htime : w.timedOut .statements with
    | true =>
      simp only [runStatements, htime, if_true] at h
      split at h <;> cases h
    | false =>
      simp only [runStatements_of_selects hasks.selects htime] at h
      split at h
      · cases h
      · exact runQueries_eq_ok h

variable [SessionSigner]

theorem sqlExecute_of_asksQueries (hasks : n.AsksQueries req)
    (h : (n.sqlExecute w req).2 = .ok rows shown) :
    ∃ pool conn, n.pool.acquire w.nowMs = (pool, .ok conn) ∧
      rows = (if n.PlansRows (n.queriesOf req) then
        n.oltpRows w req (databaseHeader req.headers) conn (n.queriesOf req) else []) ∧
      shown = n.shownRows req (databaseHeader req.headers) (n.queriesOf req) := by
  unfold sqlExecute at h
  dsimp only at h
  split at h
  · cases h
  split at h
  swap
  · cases h
  cases hpool : n.pool.acquire w.nowMs with
  | mk pool result =>
    rw [hpool] at h
    cases result with
    | error e => cases h
    | ok conn =>
      -- the pool is of no matter to what is found and shown
      have hasks' : { n with pool := pool }.AsksQueries req :=
        ⟨hasks.selects, hasks.carriedOut, hasks.noDdl, hasks.notVirtual, hasks.noCommand⟩
      obtain ⟨hrows, hshn⟩ := onConnection_of_asksQueries hasks' h
      exact ⟨pool, conn, rfl, hrows, hshn⟩

end

section

variable {E C : Type} [DatabaseEngine E] [CheckPredicate] [ColumnOrder] [Unicode] {n : Node E C}

/-- **A transaction at `repeatable_read` ends in its request.** -/
def EndsSnapshot (tx : TxRequest) (n : Node E C) : Prop :=
  tx.hasBegin → tx.isoLevel = "repeatable_read" →
    if tx.hasCommit then n.refusal tx = none else tx.hasRollback

omit [CheckPredicate] [ColumnOrder] in
theorem connectionTxAfter_eq {tx : TxRequest} (h : n.EndsSnapshot tx)
    (hact : n.connectionTxActive = fun _ => none) : n.connectionTxAfter tx = fun _ => none := by
  have hcle : ∀ txId : Option String,
      update (update (fun _ : String => (none : Option String))
        tx.connectionId txId) tx.connectionId none = fun _ => none := by
    intro txId
    rw [update_idem, update_eq_self_iff]
  have hend : update (fun _ : String => (none : Option String)) tx.connectionId none =
      fun _ => none := update_eq_self_iff.mpr rfl
  unfold connectionTxAfter
  rw [hact]
  by_cases hbeg : tx.hasBegin ∧ tx.isoLevel = "repeatable_read"
  · have hdone := h hbeg.1 hbeg.2
    simp only [if_pos hbeg]
    by_cases hcom : tx.hasCommit
    · rw [if_pos hcom] at hdone ⊢
      rw [hdone]
      exact hcle _
    · rw [if_neg hcom] at hdone ⊢
      rw [if_pos hdone]
      exact hcle _
  · simp only [if_neg hbeg]
    split_ifs <;> first | rfl | exact hend

variable [SchemaCatalog C] [F64] [QueryParser] [SqlRuntime] [SessionSigner]

def LeavesNoSnapshot (n : Node E C) (r : Circumstances × SqlRequest) : Prop :=
  match r.2 with
  | .execute req =>
    (∀ conn, directTxId r.1 req (databaseHeader req.headers) conn (n.statementsOf req) = none) ∨
      (n.updateCatalog r.1 (databaseHeader req.headers) (n.statementsOf req)).1.StatementsPass
        (databaseHeader req.headers) (n.statementsOf req)
  | .transaction req => ∀ principal pool conn, n.caller r = some principal →
      n.pool.acquire r.1.nowMs = (pool, .ok conn) →
        n.EndsSnapshot (req.onConnection (freshTxId r.1 principal) conn)
  | .route _ | .explain _ _ => True

theorem connectionTxActive_handle {r : Circumstances × SqlRequest}
    (h : n.LeavesNoSnapshot r) (hact : n.connectionTxActive = fun _ => none) :
    (n.handle r).connectionTxActive = fun _ => none := by
  refine n.handle_rule (P := fun m => m.connectionTxActive = fun _ => none) r (fun _ => hact)
    ?_ ?_
  · intro req hreq
    rw [LeavesNoSnapshot, hreq] at h
    refine sessions_sqlExecute r.1 req n (P := fun t => t.active = fun _ => none) ?_ ?_ ?_ hact
    · intro t conn keys ht
      unfold Sessions.recordReads
      split
      · exact ht
      · exact ht
    · intro t conn txId level snapshotXid hasRollback _ ht
      simp only [Sessions.began, Sessions.ended, ht]
      rw [update_idem, update_eq_self_iff]
    · intro t conn txId level snapshotXid htx hnot
      rcases h with hnone | hpass
      · rw [hnone conn] at htx
        cases htx
      · exact absurd hpass hnot
  · intro req principal pool conn hreq hpr hpool
    have hcal : n.caller r = some principal := by
      rw [caller, hreq]
      exact congrArg Except.toOption hpr
    rw [LeavesNoSnapshot, hreq] at h
    rw [connectionTxActive_runTransactionOn]
    exact connectionTxAfter_eq (h principal pool conn hcal hpool) hact

def latestRows (w : Circumstances) (req : ExecuteRequest) (n : Node E C) : List ResultRow :=
  executeOltpSelect w.queryEngine (n.queriesOf req) n.rowStore req.limit
    (databaseHeader req.headers) none
    (n.rocksdbRows (databaseHeader req.headers) n.rowStore.currentXid)
    (some (SchemaCatalog.indexManager n.catalog))

def ReadsLatest (n : Node E C) : Prop :=
  ∀ w req rows shown, n.AsksQueries req → (n.sqlExecute w req).2 = .ok rows shown →
    rows = (if n.PlansRows (n.queriesOf req) then n.latestRows w req else []) ∧
      shown = n.shownRows req (databaseHeader req.headers) (n.queriesOf req)

theorem readsLatest_of_connectionTxActive
    (h : n.connectionTxActive = fun _ => none) : n.ReadsLatest := by
  intro w req rows shown hasks hans
  obtain ⟨pool, conn, -, hrows, hshn⟩ := sqlExecute_of_asksQueries hasks hans
  have hsnap : n.rrSnapshotXid conn = none := by rw [rrSnapshotXid, h, bind_none]
  refine ⟨?_, hshn⟩
  rw [hrows, oltpRows, hsnap]
  rfl

end

section

open Daemon.Sample
open scoped Dml.Sample

def answered : ExecuteAnswer → Option (List ResultRow × List (String × RowData))
  | .ok rows shown => some (rows, shown)
  | _ => none

theorem eq_ok_of_answered {answer : ExecuteAnswer} {rows : List ResultRow}
    {shown : List (String × RowData)} (h : answered answer = some (rows, shown)) :
    answer = .ok rows shown := by
  cases answer <;> cases h
  rfl

def keptRows : Server VersionedEngine := Server.empty {} maxRowXid_versioned

def begun : Circumstances × SqlRequest :=
  (calm, .transaction ⟨headers none, ["BEGIN"], some "repeatable_read"⟩)

def inserted : Circumstances × SqlRequest :=
  (calm, .execute { headers := bobHeaders, sqlBatch := "INSERT INTO t (id) VALUES (1)" })

def asked : ExecuteRequest := { headers := bobHeaders, sqlBatch := "SELECT * FROM t" }

def staleNode : Node VersionedEngine Unit := ((node keptRows).handle begun).handle inserted

end

end Node

end VngDatabase.Daemon
