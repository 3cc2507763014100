import VngDatabase.Daemon.Effects

/-!
# Getting at another database

A user of a tenant can get at a database that their role was not granted: by a `GRANT` of their own,
by a `DROP DATABASE`, by a `DELETE` without a database or, on a leader, of a whole key, and by a
`ROLLBACK` that takes back what another client has inserted.
-/

namespace VngDatabase.Daemon

open Text Sql Store Dml Tx Query DurabilityEngine BootEngine List Option Access
open Access (MatviewCommand RuntimeAccessPrincipal SessionSigner TenantUserIdentity)

section

variable {E : Type} {U : String → Prop} {d : String}

theorem keeps_logStatements [BootEngine E] (s : Server E) (sqls : List String) :
    Keeps U d s.state (logStatements s sqls).state := by
  refine ⟨rfl, fun _ _ => id, fun k hrow => ?_⟩
  have hlog := foldl_appendSql (f := fun e => getRow e d k)
    (fun e sql => getRow_appendSql e sql d k) sqls s.walEngine
  exact (congrArg isSome hlog).trans hrow

theorem keeps_applyCommitted [BootEngine E] [Unicode] {s : Server E}
    (hcap : s.rowStore.maxRowsCap = 0) {db : String} (hdb : db ≠ d) {stmts : List String}
    (hrows : ∀ stmt ∈ stmts, ∀ k, U k → (k, none) ∉ replicaWrites stmt) :
    Keeps U d s.state (applyCommitted s db stmts).state := by
  have hsnd : s.state.Sound := ⟨s.stamped, s.durable⟩
  have hkp : Keeps U d s.state (s.state.transact (stmts.flatMap (replicaActions db))) := by
    refine Keeps.transact hsnd hcap ?_ ?_
    · intro k hk hmem
      rw [rowWrites_flatMap, mem_flatMap] at hmem
      obtain ⟨stmt, hstmt, hmem⟩ := hmem
      rw [rowWrites_replicaActions] at hmem
      exact hrows stmt hstmt k hk hmem
    · intro w hw
      rw [storedRows_flatMap, mem_flatMap] at hw
      obtain ⟨stmt, -, hw⟩ := hw
      rw [db_of_mem_replicaActions hw]
      exact hdb
  exact ⟨hkp.maxRowsCap, hkp.rows, hkp.durable⟩

theorem keeps_purgeDatabaseRows [DatabaseEngine E] {s : Server E} {d : Access.DatabaseName}
    (hcap : s.rowStore.maxRowsCap = 0) {name : String} (hne : name ≠ d.text)
    (hname : '.' ∉ name.toList) :
    Keeps (isUnder d.text ·) d.text s.state (purgeDatabaseRows s name).state := by
  have hper : Keeps (isUnder d.text ·) d.text s.state
      (s.perform (purgeActions name s.rowStore)).state := by
    refine Server.keeps_perform hcap ?_ ?_
    · intro k hk hmem
      rw [purgeActions, rowWrites, filterMap_map] at hmem
      obtain ⟨row, hrow, heq⟩ := mem_filterMap.mp hmem
      obtain rfl : row.1 = k := congrArg Prod.fst (some.inj heq)
      exact hne (Access.DatabaseName.eq_of_startsWith hk hname (mem_filter.mp hrow).2)
    · rw [purgeActions, storedRows, filterMap_map, filterMap_eq_nil_iff]
      exact fun _ _ => rfl
  refine hper.trans ⟨rfl, fun _ _ => id, fun k hrow => ?_⟩
  have hget := DatabaseEngine.getRow_dropDbColumnFamily
    (s.perform (purgeActions name s.rowStore)).walEngine name d.text k
  rw [if_neg hne.symm] at hget
  exact (congrArg isSome hget).trans hrow

end

namespace Node

section

variable {E C : Type} [DatabaseEngine E] [SchemaCatalog C] [CheckPredicate] [ColumnOrder]
  [Unicode] [F64] [QueryParser] [SqlRuntime] {n : Node E C} {d : Access.DatabaseName}
  {w : Circumstances} {req : ExecuteRequest}

def Holds (n : Node E C) (d : Access.DatabaseName) (k : String) : Prop :=
  isUnder d.text k ∧ (n.rowStore.readLatest k).isSome

/-- **A request without harm** to a database. -/
structure Harmless (role : String) (d : Access.DatabaseName) (n : Node E C) (w : Circumstances)
    (req : ExecuteRequest) : Prop where
  grants : ∀ stmt ∈ n.statementsOf req, ¬grants role d.text stmt
  drops : ¬n.DropsDatabase req d.text
  deletes : ∀ stmt ∈ n.statementsOf req, ∀ k, n.Holds d k →
    ¬mayDelete (databaseHeader req.headers) stmt k
  replicates : n.cluster.raftPeers ≠ [] →
    ∀ stmt ∈ n.statementsOf req, ∀ k, n.Holds d k → (k, none) ∉ replicaWrites stmt
  rollsBack : (n.statementsOf req).any (isVerb "ROLLBACK") → ∀ pool conn,
    n.pool.acquire w.nowMs = (pool, .ok conn) →
      ∀ k, n.Holds d k → (k, none) ∉ n.txUndoLog conn

section

omit [CheckPredicate] [ColumnOrder]

theorem keeps_cataloged (hcap : n.rowStore.maxRowsCap = 0) :
    Keeps (isUnder d.text ·) d.text n.toServer.state (n.cataloged w req).toServer.state := by
  rw [cataloged_eq]
  unfold updateCatalog
  split_ifs
  · have hcons (mgr : ConstraintManager) : Keeps (isUnder d.text ·) d.text n.toServer.state
        { n.toServer with constraints := mgr }.state := .refl _ _ _
    refine (hcons _).trans (Access.keeps_foldl_populate ?_)
    exact hcap
  · exact .refl _ _ _

theorem txUndoLog_cataloged : (n.cataloged w req).txUndoLog = n.txUndoLog := by
  have hpop : ∀ (indexes : IndexManager) (db : String) (stmts : List String) (s : Server E),
      (stmts.foldl (populate w.queryEngine indexes db) s).txUndoLog = s.txUndoLog := by
    intro indexes db stmts
    induction stmts with
    | nil => exact fun _ => rfl
    | cons stmt stmts ih =>
      intro s
      rw [foldl_cons, ih]
      unfold populate
      split <;> rfl
  rw [cataloged_eq]
  unfold updateCatalog
  split_ifs
  · exact hpop _ _ _ _
  · rfl

end

omit [SchemaCatalog C] [CheckPredicate] [ColumnOrder] [F64] [QueryParser] [SqlRuntime] in
theorem keeps_replicatedServer {U : String → Prop} {d db conn : String} {stmts : List String}
    (hcap : n.rowStore.maxRowsCap = 0) (hdb : db ≠ d)
    (hrows : ∀ stmt ∈ stmts, ∀ k, U k → (k, none) ∉ replicaWrites stmt)
    (hlog : stmts.any (isVerb "ROLLBACK") → ∀ k, U k → (k, none) ∉ n.txUndoLog conn) :
    Keeps U d n.toServer.state (n.replicatedServer w db conn stmts).state := by
  have hlogg : Keeps U d n.toServer.state
    (logStatements n.toServer (stmts.flatMap loggedFor)).state := keeps_logStatements _ _
  unfold replicatedServer
  dsimp only
  split_ifs
  · have happ := hlogg.trans
      (keeps_applyCommitted (hlogg.maxRowsCap_eq_zero hcap) hdb hrows)
    let s := applyCommitted (logStatements n.toServer (stmts.flatMap loggedFor)) db stmts
    have hfin : Keeps U d (s.session conn).toState
        ((s.session conn).finish ⟨conn, db, stmts⟩).toState :=
      Keeps.finish (s.sound conn) (happ.maxRowsCap_eq_zero hcap) hlog
    exact happ.trans ⟨hfin.maxRowsCap, hfin.rows, hfin.durable⟩
  · exact hlogg

theorem BatchEffect.keeps {role conn : String} {s : Server E}
    (h : BatchEffect w req conn n s) (hharm : n.Harmless role d w req)
    (hcap : n.rowStore.maxRowsCap = 0) (hdb : databaseHeader req.headers ≠ d.text)
    (hconn : ∃ pool, n.pool.acquire w.nowMs = (pool, .ok conn)) :
    Keeps (isUnder d.text ·) d.text n.toServer.state s.state := by
  have hcat : Keeps (isUnder d.text ·) d.text n.toServer.state
    (n.cataloged w req).toServer.state := keeps_cataloged hcap
  have hcap' := hcat.maxRowsCap_eq_zero hcap
  -- of the rows of the database those matter that are there before the batch
  have hheld : Keeps (n.Holds d) d.text n.toServer.state (n.cataloged w req).toServer.state :=
    ⟨hcat.maxRowsCap, fun k hk => hcat.rows k hk.1, hcat.durable⟩
  obtain ⟨pool, hpool⟩ := hconn
  have hlog : (n.statementsOf req).any (isVerb "ROLLBACK") → ∀ k, n.Holds d k →
      (k, none) ∉ (n.cataloged w req).txUndoLog conn := by
    rw [txUndoLog_cataloged]
    exact fun hrb => hharm.rollsBack hrb pool conn hpool
  cases h with
  | unchanged => exact .refl _ _ _
  | matview cmd originalStatement => 
    exact keeps_of_isInternal hcap fun _ => MatviewCommand.isInternal_of_mem_actions
  | dropDatabase name h hname =>
    refine keeps_purgeDatabaseRows hcap ?_ hname
    rintro rfl
    exact hharm.drops h
  | catalog => exact hcat
  | direct =>
    refine Keeps.of_visible (hheld.trans (Server.keeps_sqlExecute hcap' hdb ?_ ?_))
    · exact fun stmt hstmt k hk _ => hharm.deletes stmt hstmt k hk
    · exact fun hrb k hk _ => hlog hrb k hk
  | replicated hpee =>
    refine Keeps.of_visible (hheld.trans (keeps_replicatedServer hcap' hdb ?_ hlog))
    exact hharm.replicates hpee

variable [SessionSigner]

def SentBy (user : TenantUserIdentity) (d : Access.DatabaseName) (n : Node E C)
    (r : Circumstances × ExecuteRequest) : Prop :=
  requireSqlRuntimePrincipal n.auth r.2.headers r.1.nowSecs .execute "sql/execute" =
      .ok (.tenantUser user) ∧
    databaseHeader r.2.headers ≠ d.text

def HasAccess (n : Node E C) (user : TenantUserIdentity) (d : Access.DatabaseName) : Bool :=
  principalHasDatabaseAccess (.tenantUser user) d.text n.auth.rbacPrivilegeMatrix n.dbGrants

theorem hasAccess_sqlExecute {user : TenantUserIdentity} (h : n.Harmless user.role d w req)
    (hno : n.HasAccess user d = false) : (n.sqlExecute w req).1.HasAccess user d = false := by
  rw [HasAccess, Access.principalHasDatabaseAccess, decide_eq_false_iff_not] at hno ⊢
  rcases standing_sqlExecute w req n with hs | hs
  · exact (congrArg (fun standing => user.role ∉ standing.2.1 d.text) hs).mpr hno
  · refine (congrArg (fun standing => user.role ∉ standing.2.1 d.text) hs).mpr ?_
    exact Access.notMem_foldl_applyPrivilege hno h.grants

theorem keeps_sqlExecute {role : String} (h : n.Harmless role d w req)
    (hcap : n.rowStore.maxRowsCap = 0) (hdb : databaseHeader req.headers ≠ d.text) :
    Keeps (isUnder d.text ·) d.text n.toServer.state (n.sqlExecute w req).1.toServer.state := by
  rcases n.toServer_sqlExecute w req with hsame | ⟨pool, conn, hconn, heff⟩
  · rw [hsame]
    exact .refl _ _ _
  · exact heff.keeps h hcap hdb ⟨pool, hconn⟩

open Transition in
/-- **Nobody gets at a database without access** in a run without harm. -/
theorem no_escalation {user : TenantUserIdentity} {n n' : Node E C}
    (hcap : n.rowStore.maxRowsCap = 0) (hno : n.HasAccess user d = false)
    (hrun : ReachableIf (fun n r => some (n.sqlExecute r.1 r.2).1)
      (fun n r => n.SentBy user d r ∧ n.Harmless user.role d r.1 r.2) n n') :
    n'.HasAccess user d = false ∧
      Keeps (isUnder d.text ·) d.text n.toServer.state n'.toServer.state := by
  refine hrun.invariant (P := fun m => m.HasAccess user d = false ∧
    Keeps (isUnder d.text ·) d.text n.toServer.state m.toServer.state) ⟨hno, .refl _ _ _⟩ ?_
  rintro s t r ⟨hacc, hkp⟩ ⟨hsent, hharm⟩ hstep
  rw [← some.inj hstep]
  exact ⟨hasAccess_sqlExecute hharm hacc,
    hkp.trans (keeps_sqlExecute hharm (hkp.maxRowsCap_eq_zero hcap) hsent.2)⟩

end

section

open Daemon.Sample
open scoped Dml.Sample

def sales : Access.DatabaseName := ⟨"sales", by decide +kernel⟩

def salesNode : Node InMemoryEngine Unit :=
  { node (noRows.perform [.put "sales.t:1" row]) with databases := insert sales ∅ }

def ann : TenantUserIdentity := ⟨"ann", "acme", "analyst"⟩

def batch (sqlBatch : String) : Circumstances × ExecuteRequest :=
  (calm, { headers := headers none, sqlBatch := sqlBatch })

/-- **A user grants themselves access and drops the database.** -/
theorem access_without_grant :
    salesNode.HasAccess ann sales = false ∧
      (∀ sqlBatch, salesNode.SentBy ann sales (batch sqlBatch)) ∧
      (salesNode.sqlExecute calm (batch "GRANT analyst ON DATABASE sales TO ann").2).1.HasAccess
        ann sales = true ∧
      (salesNode.rowStore.readLatest "sales.t:1").isSome ∧
      (salesNode.sqlExecute calm (batch "DROP DATABASE sales").2).1.rowStore.readLatest
        "sales.t:1" = none ∧
      (salesNode.sqlExecute calm
        (batch "DELETE FROM t WHERE __table = 't'").2).1.rowStore.readLatest "sales.t:1" =
          none := by
  have hhea : databaseHeader (headers none) ≠ sales.text := by decide +kernel
  have hsent (sqlBatch : String) : salesNode.SentBy ann sales (batch sqlBatch) :=
    ⟨principal_ann none .execute "sql/execute", hhea⟩
  refine ⟨?_, hsent, ?_⟩
  · decide +kernel
  · decide +kernel

theorem sales_kept :
    Keeps (isUnder sales.text ·) sales.text salesNode.toServer.state
      (salesNode.sqlExecute calm (batch "INSERT INTO t (id) VALUES (1)").2).1.toServer.state := by
  have hbat : salesNode.rowStore.maxRowsCap = 0 ∧ salesNode.cluster.raftPeers = [] ∧
      databaseHeader (headers none) ≠ sales.text ∧ salesNode.HasAccess ann sales = false ∧
      Access.ProcedureRegistry.isAboutProcedures
        (batch "INSERT INTO t (id) VALUES (1)").2.sqlBatch = false ∧
      Access.parseDbDdlStatement (batch "INSERT INTO t (id) VALUES (1)").2.sqlBatch = none ∧
      ∀ stmt ∈ salesNode.statementsOf (batch "INSERT INTO t (id) VALUES (1)").2,
        ¬Access.grants ann.role sales.text stmt ∧ dmlKind stmt ≠ some .delete ∧
          isVerb "ROLLBACK" stmt = false := by decide +kernel
  obtain ⟨hcap, hpee, hhea, hno, hproc, hddl, hstm⟩ := hbat
  have hsent : salesNode.SentBy ann sales (batch "INSERT INTO t (id) VALUES (1)") :=
    ⟨principal_ann none .execute "sql/execute", hhea⟩
  have hharm : salesNode.Harmless ann.role sales calm
      (batch "INSERT INTO t (id) VALUES (1)").2 := by
    refine ⟨fun stmt hstmt => (hstm stmt hstmt).1, not_dropsDatabase hproc hddl _, ?_, ?_, ?_⟩
    · intro stmt hstmt k _
      rw [mayDelete_eq_false (hstm stmt hstmt).2.1]
      exact Bool.false_ne_true
    · exact fun h => absurd hpee h
    · intro hrb
      obtain ⟨stmt, hstmt, hverb⟩ := any_eq_true.mp hrb
      rw [(hstm stmt hstmt).2.2] at hverb
      exact absurd hverb Bool.false_ne_true
  exact (no_escalation hcap hno (.single ⟨_, ⟨hsent, hharm⟩, rfl⟩)).2

end

end Node

end VngDatabase.Daemon
