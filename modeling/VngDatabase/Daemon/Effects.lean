import VngDatabase.Dml.Past
import VngDatabase.Daemon.Handlers

/-!
# What a request can do to the rows

All that a batch can do to the rows of a node is one of a few things (`Node.BatchEffect`): nothing,
a command for a view, to drop a database, to fill new views, and then row statements, which the node
carries out itself or applies from the replicated log (`Node.toServer_sqlExecute`).
-/

namespace VngDatabase.Daemon

open Text Sql Store Dml Tx Query DurabilityEngine BootEngine Access
open Access (HeaderMap MatviewCommand SessionSigner)

namespace Node

/-! ### Batches -/

section

variable {E C : Type} [DatabaseEngine E] [SchemaCatalog C] [CheckPredicate] [ColumnOrder]
  [Unicode] [F64] [QueryParser] [SqlRuntime]

@[irreducible]
def cataloged (w : Circumstances) (req : ExecuteRequest) (n : Node E C) : Node E C :=
  (n.updateCatalog w (databaseHeader req.headers) (n.statementsOf req)).1

section

omit [CheckPredicate] [ColumnOrder]

theorem cataloged_eq (w : Circumstances) (req : ExecuteRequest) (n : Node E C) :
    n.cataloged w req =
      (n.updateCatalog w (databaseHeader req.headers) (n.statementsOf req)).1 := by
  unfold cataloged
  rfl

theorem cataloged_pool (w : Circumstances) (req : ExecuteRequest) (n : Node E C)
    (pool : ConnectionPoolManager) : ({ n with pool := pool } : Node E C).cataloged w req =
      { n.cataloged w req with pool := pool } := by
  rw [cataloged_eq, cataloged_eq]
  exact updateCatalog_pool w (databaseHeader req.headers) (n.statementsOf req) n pool

end

def DropsDatabase (n : Node E C) (req : ExecuteRequest) (name : String) : Prop :=
  ∃ sqlBatch ifExists, n.procedures.dispatch req.sqlBatch = .carryOut sqlBatch ∧
    parseDbDdlStatement sqlBatch = some (.dropDatabase name ifExists)

omit [SchemaCatalog C] [CheckPredicate] [ColumnOrder] [Unicode] [F64] [QueryParser]
  [SqlRuntime] in
theorem not_dropsDatabase {n : Node E C} {req : ExecuteRequest}
    (hproc : ProcedureRegistry.isAboutProcedures req.sqlBatch = false)
    (hddl : parseDbDdlStatement req.sqlBatch = none) (name : String) :
    ¬n.DropsDatabase req name := by
  rintro ⟨sqlBatch, ifExists, hbat, hdrop⟩
  rw [ProcedureRegistry.dispatch_of_not_isAboutProcedures _ hproc] at hbat
  obtain rfl := ProcedureRegistry.Dispatch.carryOut.inj hbat
  cases hddl.symm.trans hdrop

inductive BatchEffect (w : Circumstances) (req : ExecuteRequest) (conn : String) (n : Node E C) :
    Server E → Prop
  | unchanged : BatchEffect w req conn n n.toServer
  | matview (cmd : MatviewCommand) (originalStatement : String) :
    BatchEffect w req conn n (n.toServer.perform (cmd.actions w.queryEngine
      (SchemaCatalog.indexManager n.catalog) (databaseHeader req.headers) originalStatement
      n.toServer))
  | dropDatabase (name : String) (h : n.DropsDatabase req name) (hname : '.' ∉ name.toList) :
    BatchEffect w req conn n (purgeDatabaseRows n.toServer name)
  | catalog : BatchEffect w req conn n (n.cataloged w req).toServer
  | direct :
    BatchEffect w req conn n ((n.cataloged w req).toServer.sqlExecute
      (SchemaCatalog.validateRowAgainstDdl (n.cataloged w req).catalog)
      ⟨conn, databaseHeader req.headers, n.statementsOf req⟩).1
  | replicated (h : n.cluster.raftPeers ≠ []) :
    BatchEffect w req conn n ((n.cataloged w req).replicatedServer w (databaseHeader req.headers)
      conn (n.statementsOf req))

section

variable (w : Circumstances) (req : ExecuteRequest) (db conn : String) (stmts queries : List String)
  (n : Node E C)

omit [CheckPredicate] [ColumnOrder] [Unicode] in
theorem toServer_runQueries : (n.runQueries w req db conn queries).1.toServer = n.toServer := by
  unfold runQueries recordReads
  split_ifs <;> first | rfl | split <;> rfl

theorem toServer_runDirect :
    (n.runDirect w req db conn stmts queries).1.toServer = (n.executed db conn stmts).1 := by
  have hbeg : (n.beginImplicit req conn (directTxId w req db conn stmts)).toServer.sqlExecute
      (SchemaCatalog.validateRowAgainstDdl
        (n.beginImplicit req conn (directTxId w req db conn stmts)).catalog) ⟨conn, db, stmts⟩ =
      n.executed db conn stmts := by
    cases directTxId w req db conn stmts <;> rfl
  unfold runDirect
  dsimp only
  rw [← directTxId, hbeg]
  split <;> rename_i hres <;> rw [hres]
  · rw [toServer_runQueries]
    cases directTxId w req db conn stmts <;> rfl
  · rfl
  · rfl

omit [CheckPredicate] [ColumnOrder] [Unicode] [F64] [QueryParser] [SqlRuntime] in
theorem toServer_runDatabaseDdl (ddl : DbDdlStatement) :
    (n.runDatabaseDdl ddl).1.toServer = n.toServer ∨
      ∃ name ifExists, ddl = .dropDatabase name ifExists ∧ '.' ∉ name.toList ∧
        (n.runDatabaseDdl ddl).1.toServer = purgeDatabaseRows n.toServer name := by
  unfold runDatabaseDdl
  cases ddl with
  | createDatabase name ifNotExists =>
    dsimp only
    split <;> exact Or.inl rfl
  | dropDatabase name ifExists =>
    dsimp only
    split
    · rename_i hdrop
      exact Or.inr ⟨name, ifExists, rfl, DatabaseCatalog.point_notMem_of_dropDatabase hdrop, rfl⟩
    · exact Or.inl rfl
    · exact Or.inl rfl

end

variable {w : Circumstances} {req : ExecuteRequest} {conn : String} {n m : Node E C}

omit [F64] [QueryParser] [SqlRuntime] in
theorem RowOutcome.toServer_cases {db : String} {stmts : List String}
    (h : RowOutcome w req db conn stmts n m) :
    m.toServer = n.toServer ∨ m.toServer = (n.executed db conn stmts).1 ∨
      n.cluster.raftPeers ≠ [] ∧ m.toServer = n.replicatedServer w db conn stmts := by
  induction h with
  | forwarded => exact Or.inl rfl
  | done _ | refused _ =>
    refine Or.inr (Or.inl ?_)
    cases directTxId w req db conn stmts <;> rfl
  | replicated hpee => exact Or.inr (Or.inr ⟨hpee, rfl⟩)
  | reads _ rows ih =>
    unfold recordReads
    split <;> exact ih

theorem toServer_onConnection :
    BatchEffect w req conn n
      (n.onConnection w req (databaseHeader req.headers) conn).1.toServer := by
  obtain ⟨m, hm, h⟩ := n.outcome_onConnection w req (databaseHeader req.headers) conn
  rw [h]
  cases hm with
  | unchanged | procedures _ => exact .unchanged
  | @database batch ddl hbat hddl =>
    rcases toServer_runDatabaseDdl n ddl with h | ⟨name, ifExists, rfl, hname, h⟩
    · exact h ▸ .unchanged
    · exact h ▸ .dropDatabase name ⟨batch, ifExists, hbat, hddl⟩ hname
  | matview cmd originalStatement catalog => exact .matview cmd originalStatement
  | rows hrows =>
    obtain ⟨s, catalog, hcat⟩ :=
      n.exists_eq_updateCatalog w (databaseHeader req.headers) (n.statementsOf req)
    have hclu : (n.cataloged w req).cluster = n.cluster := by rw [cataloged_eq, hcat]; rfl
    rw [← cataloged_eq] at hrows
    rcases hrows.toServer_cases with h | h | ⟨hpee, h⟩
    · exact h ▸ .catalog
    · exact h ▸ .direct
    · exact h ▸ .replicated (hclu ▸ hpee)

theorem BatchEffect.of_pool {pool : ConnectionPoolManager} {s : Server E}
    (h : BatchEffect w req conn { n with pool := pool } s) : BatchEffect w req conn n s := by
  cases h with
  | unchanged => exact .unchanged
  | matview cmd originalStatement => exact .matview cmd originalStatement
  | dropDatabase name h hname => exact .dropDatabase name h hname
  | catalog =>
    rw [cataloged_pool]
    exact .catalog
  | direct =>
    rw [cataloged_pool]
    exact .direct
  | replicated h =>
    rw [cataloged_pool]
    exact .replicated h

variable [SessionSigner]

theorem toServer_sqlExecute (w : Circumstances) (req : ExecuteRequest) (n : Node E C) :
    (n.sqlExecute w req).1.toServer = n.toServer ∨
      ∃ pool conn, n.pool.acquire w.nowMs = (pool, .ok conn) ∧
        BatchEffect w req conn n (n.sqlExecute w req).1.toServer := by
  rcases n.sqlExecute_cases w req with
    ⟨answer, h⟩ | ⟨pool, e, answer, -, h⟩ | ⟨principal, pool, conn, -, -, hconn, h⟩ <;> rw [h]
  · exact Or.inl rfl
  · exact Or.inl rfl
  · exact Or.inr ⟨pool, conn, hconn, toServer_onConnection.of_pool⟩

end

end Node

/-! ### The past -/

section

variable {E : Type} [SnapshotEngine E] {d : String} {s s' s'' : Server E}

def KeepsPast (d : String) (s s' : Server E) : Prop :=
  SamePast s.rowStore.nextXid d s.state s'.state

theorem KeepsPast.refl (d : String) (s : Server E) : KeepsPast d s s := SamePast.refl _ d _

theorem KeepsPast.trans (h : KeepsPast d s s') (h' : KeepsPast d s' s'') : KeepsPast d s s'' :=
  SamePast.trans h h' (SamePast.nextXid h)

theorem KeepsPast.maxRowsCap_eq_zero (h : KeepsPast d s s') (hcap : s.rowStore.maxRowsCap = 0) :
    s'.rowStore.maxRowsCap = 0 := (SamePast.maxRowsCap h).trans hcap

theorem keepsPast_logStatements (d : String) (s : Server E) (sqls : List String) :
    KeepsPast d s (logStatements s sqls) := by
  refine ⟨rfl, le_rfl, fun _ _ => rfl, foldl_appendSql persistsRows_appendSql sqls _, fun x _ => ?_⟩
  exact foldl_appendSql (f := fun e => scanRowsForDb e d x)
    (fun e sql => SnapshotEngine.scanRowsForDb_appendSql e sql d x) sqls _

theorem keepsPast_applyCommitted [Unicode] (hcap : s.rowStore.maxRowsCap = 0) (d db : String)
    (stmts : List String) : KeepsPast d s (applyCommitted s db stmts) :=
  SamePast.undoLogs (SamePast.transact d s.state hcap _) [] []

theorem keepsPast_finish (hcap : s.rowStore.maxRowsCap = 0) (d conn : String) (req : Request) :
    KeepsPast d s (s.resume conn ((s.session conn).finish req) (finish_sound (s.sound conn))) :=
  (SamePast.finish d (s.session conn) hcap).undoLogs [] []

theorem keepsPast_purgeDatabaseRows (hcap : s.rowStore.maxRowsCap = 0) {name : String}
    (h : d ≠ name) : KeepsPast d s (purgeDatabaseRows s name) := by
  have hper : KeepsPast d s (s.perform (purgeActions name s.rowStore)) :=
    Server.samePast_perform d hcap _
  refine hper.trans ⟨rfl, le_rfl, fun _ _ => rfl, ?_, fun x _ => ?_⟩
  · exact DatabaseEngine.persistsRows_dropDbColumnFamily _ name
  · exact SnapshotEngine.scanRowsForDb_dropDbColumnFamily_of_ne _ name d x h

theorem keepsPast_populate [F64] [QueryParser] [Unicode] (hcap : s.rowStore.maxRowsCap = 0)
    (d : String) (eng : QueryEngine) (indexes : IndexManager) (db : String)
    (stmts : List String) : KeepsPast d s (stmts.foldl (populate eng indexes db) s) := by
  induction stmts generalizing s with
  | nil => exact .refl d s
  | cons stmt stmts ih =>
    have hstep : KeepsPast d s (populate eng indexes db s stmt) := by
      unfold populate
      split
      · exact Server.samePast_perform d hcap _
      · exact .refl d s
    rw [List.foldl_cons]
    exact hstep.trans (ih (hstep.maxRowsCap_eq_zero hcap))

end

namespace Node

section

variable {E C : Type} [SnapshotEngine E] [CheckPredicate] [ColumnOrder] [Unicode] {n : Node E C}
  (d : String)

section

theorem keepsPast_commit {s : TxServer E} (hcap : s.rowStore.maxRowsCap = 0)
    (tx : TxRequest) (acid : AcidTransactionRegistry) :
    KeepsPast d s.toServer (s.commit tx acid).1.toServer := by
  have hfl : SamePast s.rowStore.nextXid d (s.session tx.connectionId).toState
      (flush tx.db tx.effectiveStatements (s.session tx.connectionId)).1.toState := by
    rw [flush_fst]
    exact SamePast.transact d (s.session tx.connectionId).toState hcap _
  unfold TxServer.commit
  dsimp only
  split <;> exact hfl.undoLogs [] []

theorem keepsPast_sqlTransaction {s : TxServer E} (hcap : s.rowStore.maxRowsCap = 0)
    (tx : TxRequest) : KeepsPast d s.toServer (s.sqlTransaction tx).1.toServer := by
  unfold TxServer.sqlTransaction TxServer.runTransaction
  dsimp only
  split
  · split
    · exact .refl d _
    · exact keepsPast_commit d hcap tx _
  · split
    · exact SamePast.undoLogs
        (SamePast.rollback d (s.session tx.connectionId).toState hcap) [] []
    · exact .refl d _

end

omit [CheckPredicate] [ColumnOrder] in
theorem keepsPast_replicatedServer (hcap : n.rowStore.maxRowsCap = 0)
    (w : Circumstances) (db conn : String) (stmts : List String) :
    KeepsPast d n.toServer (n.replicatedServer w db conn stmts) := by
  have hlog := keepsPast_logStatements d n.toServer (stmts.flatMap loggedFor)
  unfold replicatedServer
  dsimp only
  split_ifs
  · have happ := hlog.trans (keepsPast_applyCommitted (hlog.maxRowsCap_eq_zero hcap) d db stmts)
    exact happ.trans (keepsPast_finish (happ.maxRowsCap_eq_zero hcap) d conn _)
  · exact hlog

variable [SchemaCatalog C] [F64] [QueryParser] [SqlRuntime]

omit [CheckPredicate] [ColumnOrder] in
theorem keepsPast_cataloged (hcap : n.rowStore.maxRowsCap = 0) (w : Circumstances)
    (req : ExecuteRequest) : KeepsPast d n.toServer (n.cataloged w req).toServer := by
  rw [cataloged_eq]
  unfold updateCatalog
  split_ifs
  · have hcons (mgr : ConstraintManager) :
        KeepsPast d n.toServer { n.toServer with constraints := mgr } := .refl d n.toServer
    refine (hcons _).trans (keepsPast_populate ?_ d _ _ _ _)
    exact hcap
  · exact .refl d _

theorem BatchEffect.keepsPast {w : Circumstances} {req : ExecuteRequest} {conn : String}
    {s : Server E} (h : BatchEffect w req conn n s) {d : String} (hdrop : ¬n.DropsDatabase req d)
    (hcap : n.rowStore.maxRowsCap = 0) : KeepsPast d n.toServer s := by
  have hcat := keepsPast_cataloged d hcap w req
  cases h with
  | unchanged => exact .refl d _
  | matview cmd originalStatement => exact Server.samePast_perform d hcap _
  | dropDatabase name h _ =>
    refine keepsPast_purgeDatabaseRows hcap ?_
    rintro rfl
    exact hdrop h
  | catalog => exact hcat
  | direct =>
    exact hcat.trans (Server.samePast_sqlExecute d (hcat.maxRowsCap_eq_zero hcap))
  | replicated h =>
    exact hcat.trans (keepsPast_replicatedServer d (hcat.maxRowsCap_eq_zero hcap) w _ _ _)

variable [SessionSigner]

def Spares (d : String) (n : Node E C) (r : Circumstances × SqlRequest) : Prop :=
  match r.2 with
  | .execute req => ¬n.DropsDatabase req d
  | .transaction _ | .route _ | .explain _ _ => True

theorem keepsPast_handle {d : String} {r : Circumstances × SqlRequest} (h : n.Spares d r)
    (hcap : n.rowStore.maxRowsCap = 0) : KeepsPast d n.toServer (n.handle r).toServer := by
  refine n.handle_rule (P := fun m => KeepsPast d n.toServer m.toServer) r ?_ ?_ ?_
  · exact fun _ => .refl d _
  · intro req hreq
    rw [Spares, hreq] at h
    rcases n.toServer_sqlExecute r.1 req with he | ⟨pool, conn, -, heff⟩
    · exact he ▸ .refl d _
    · exact heff.keepsPast h hcap
  · intro req principal pool conn _ _ _
    rw [toTxServer_runTransactionOn]
    exact keepsPast_sqlTransaction d hcap _

end

end Node

end VngDatabase.Daemon
