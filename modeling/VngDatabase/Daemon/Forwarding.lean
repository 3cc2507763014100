import VngDatabase.Daemon.Writes
import VngDatabase.Dml.Boot

/-!
# Passing batches on to the leader

A node that is not the leader of its cluster passes on what has row statements in it
(`services/voltnuerongridd/src/handlers/sql.rs`), with five of the headers (`forwardedHeaders`).
-/

namespace VngDatabase.Daemon

open Text Sql Store Dml Query Overlay DurabilityEngine BootEngine
open Access (HeaderMap MatviewCommand SessionSigner)

namespace Node

section

variable {E C : Type} [DatabaseEngine E] [SchemaCatalog C] [CheckPredicate] [ColumnOrder]
  [Unicode] [F64] [QueryParser] [SqlRuntime]

section

variable {w : Circumstances} {req fwd : ExecuteRequest} {sqlBatch db conn url : String}
  {stmts queries : List String} {n : Node E C}

omit [CheckPredicate] [ColumnOrder] [Unicode] in
theorem runQueries_ne_forwarded : (n.runQueries w req db conn queries).2 ≠ .forwarded url fwd := by
  unfold runQueries
  split_ifs <;> exact nofun

theorem runDirect_ne_forwarded :
    (n.runDirect w req db conn stmts queries).2 ≠ .forwarded url fwd := by
  unfold runDirect
  dsimp only
  split
  · exact runQueries_ne_forwarded
  · exact nofun
  · exact nofun

theorem eq_of_runRowStatements_forwarded
    (h : (n.runRowStatements w req sqlBatch db conn stmts queries).2 = .forwarded url fwd) :
    (n.runRowStatements w req sqlBatch db conn stmts queries).1 = n.release w conn ∧
      fwd = req.forward sqlBatch := by
  unfold runRowStatements at h ⊢
  split_ifs at h ⊢
  · unfold runReplicated at h
    dsimp only at h
    split at h
    · exact absurd h runQueries_ne_forwarded
    · cases h
  · refine ⟨rfl, ?_⟩
    dsimp only at h
    split at h
    · exact (ExecuteAnswer.forwarded.inj h).2.symm
    · cases h
  · exact absurd h runDirect_ne_forwarded

theorem eq_of_runStatements_forwarded
    (h : (n.runStatements w req sqlBatch db conn).2 = .forwarded url fwd) :
    (n.runStatements w req sqlBatch db conn).1 =
        (n.updateCatalog w db (n.statementsOf req)).1.release w conn ∧
      fwd = req.forward sqlBatch := by
  unfold runStatements at h ⊢
  dsimp only at h ⊢
  rw [← statementsOf, ← queriesOf] at h ⊢
  by_cases htime : w.timedOut .statements
  · rw [if_pos htime] at h
    cases h
  by_cases hunk : (n.statementsOf req).any fun stmt => classifyStatement stmt = .unknown
  · rw [if_neg htime, if_pos hunk] at h
    cases h
  rw [if_neg htime, if_neg hunk] at h ⊢
  generalize n.updateCatalog w db (n.statementsOf req) = updated at h ⊢
  obtain ⟨m, _ | reason⟩ := updated
  · exact eq_of_runRowStatements_forwarded h
  · dsimp only at h ⊢
    by_cases hrd : (n.statementsOf req).any fun stmt => (dmlKind stmt).isSome ∨ readsRows stmt
    · rw [if_pos hrd] at h ⊢
      exact eq_of_runRowStatements_forwarded h
    · rw [if_neg hrd] at h
      cases h

omit [CheckPredicate] [ColumnOrder] [Unicode] [F64] [QueryParser] [SqlRuntime] in
theorem runDatabaseDdl_ne_forwarded (ddl : Access.DbDdlStatement) :
    (n.runDatabaseDdl ddl).2 ≠ .forwarded url fwd := by
  unfold runDatabaseDdl
  split
  · split
    · exact nofun
    · dsimp only
      split_ifs <;> exact nofun
    · exact nofun
  · split <;> exact nofun

omit [CheckPredicate] [ColumnOrder] [SqlRuntime] in
theorem runMatviewCommand_ne_forwarded (cmd : MatviewCommand) :
    (n.runMatviewCommand w db conn cmd).2 ≠ .forwarded url fwd := by
  unfold runMatviewCommand
  dsimp only
  split
  · exact nofun
  · split <;> exact nofun
  · split <;> exact nofun

theorem eq_of_runBatch_forwarded (h : (n.runBatch w req sqlBatch db conn).2 = .forwarded url fwd) :
    (n.runBatch w req sqlBatch db conn).1 =
        (n.updateCatalog w db (n.statementsOf req)).1.release w conn ∧
      fwd = req.forward sqlBatch := by
  unfold runBatch at h ⊢
  cases hddl : Access.parseDbDdlStatement sqlBatch with
  | some ddl =>
    rw [hddl] at h
    exact absurd h (runDatabaseDdl_ne_forwarded ddl)
  | none =>
    simp only [hddl] at h
    by_cases hvir : isVirtualCatalogQuery sqlBatch
    · rw [if_pos hvir] at h
      cases h
    simp only [if_neg hvir] at h ⊢
    cases hudf : SqlRuntime.udfError sqlBatch with
    | some reason =>
      rw [hudf] at h
      cases h
    | none =>
      simp only [hudf] at h
      cases hcmd : Access.earlyMatviewCommand sqlBatch (parseBatch req.sqlBatch) with
      | some cmd =>
        rw [hcmd] at h
        exact absurd h (runMatviewCommand_ne_forwarded cmd)
      | none =>
        simp only [hcmd] at h
        by_cases hrou : routesNowhere (parseBatch req.sqlBatch)
        · rw [if_pos hrou] at h
          cases h
        · rw [if_neg hrou] at h
          rw [if_neg hrou]
          exact eq_of_runStatements_forwarded h

theorem exists_of_onConnection_forwarded
    (h : (n.onConnection w req db conn).2 = .forwarded url fwd) :
    ∃ sqlBatch, fwd = req.forward sqlBatch ∧ (n.onConnection w req db conn).1 =
      (n.updateCatalog w db (n.statementsOf req)).1.release w conn := by
  unfold onConnection at h ⊢
  by_cases hpmt : db ≠ "" ∧ ¬w.permit
  · rw [if_pos hpmt] at h
    cases h
  rw [if_neg hpmt] at h ⊢
  cases hdis : n.procedures.dispatch req.sqlBatch with
  | answered procedures reason =>
    rw [hdis] at h
    cases h
  | refused reason =>
    rw [hdis] at h
    cases h
  | carryOut sqlBatch =>
    rw [hdis] at h
    obtain ⟨hnode, hfwd⟩ := eq_of_runBatch_forwarded h
    exact ⟨sqlBatch, hfwd, hnode⟩

variable [SessionSigner]

theorem exists_of_forwarded (h : (n.sqlExecute w req).2 = .forwarded url fwd) :
    ∃ pool sqlBatch, fwd = req.forward sqlBatch ∧
      (n.sqlExecute w req).1 =
        { (n.updateCatalog w (databaseHeader req.headers) (n.statementsOf req)).1 with pool } := by
  unfold sqlExecute at h ⊢
  dsimp only at h ⊢
  cases hpr :
    Access.requireSqlRuntimePrincipal n.auth req.headers w.nowSecs .execute "sql/execute" with
  | error e =>
    rw [hpr] at h
    cases h
  | ok principal =>
    simp only [hpr] at h
    by_cases huse : n.mayUse principal (databaseHeader req.headers)
    · simp only [if_pos huse] at h ⊢
      generalize n.pool.acquire w.nowMs = acquired at h ⊢
      obtain ⟨pool, _ | conn⟩ := acquired
      · cases h
      · obtain ⟨sqlBatch, hfwd, hnode⟩ := exists_of_onConnection_forwarded h
        refine ⟨pool.release conn w.releaseMs, sqlBatch, hfwd, hnode.trans ?_⟩
        have hstm : ({ n with pool := pool } : Node E C).statementsOf req =
            n.statementsOf req := rfl
        rw [updateCatalog_pool, hstm]
        generalize (n.updateCatalog w (databaseHeader req.headers) (n.statementsOf req)).1 = m
        rfl
    · rw [if_neg huse] at h
      cases h

end

variable [SessionSigner] {req : ExecuteRequest} (w : Circumstances)

structure Transparent (w : Circumstances) (req fwd : ExecuteRequest)
    (leader follower follower' : Node E C) : Prop where
  leader : SameVisible (leader.sqlExecute w req).1.toServer (leader.sqlExecute w fwd).1.toServer
  rows : SameVisible follower.toServer follower'.toServer
  catalog : follower'.catalog = follower.catalog
  constraints : follower'.constraints = follower.constraints
  grants : follower'.dbGrants = follower.dbGrants

structure CatalogStands (w : Circumstances) (req : ExecuteRequest) (n : Node E C) : Prop where
  rows : Concur n.toServer {}
    { actions := n.catalogActions w (databaseHeader req.headers) (n.statementsOf req) }
  catalog : (n.statementsOf req).any touchesCatalog →
    (SchemaCatalog.recordDdl n.catalog (databaseHeader req.headers) n.rowStore
      (n.statementsOf req)).1 = n.catalog
  constraints : (n.statementsOf req).any touchesCatalog →
    (n.statementsOf req).foldl (fun mgr stmt => SqlRuntime.declareConstraints stmt mgr)
      n.constraints = n.constraints
  grants : (n.statementsOf req).any touchesCatalog →
    (n.statementsOf req).foldl Access.applyPrivilege n.dbGrants = n.dbGrants

omit [SchemaCatalog C] [CheckPredicate] [ColumnOrder] [SqlRuntime] [SessionSigner] in
theorem constraints_populate (eng : QueryEngine) (indexes : IndexManager) (db : String)
    (stmts : List String) (s : Server E) :
    (stmts.foldl (Access.populate eng indexes db) s).constraints = s.constraints := by
  induction stmts generalizing s with
  | nil => rfl
  | cons stmt stmts ih =>
    rw [List.foldl_cons, ih, Access.populate]
    cases Access.createWithData stmt <;> rfl

omit [CheckPredicate] [ColumnOrder] [SessionSigner] in
theorem catalogStands_iff (req : ExecuteRequest) (n : Node E C) :
    n.CatalogStands w req ↔
      SameVisible n.toServer
        (n.updateCatalog w (databaseHeader req.headers) (n.statementsOf req)).1.toServer ∧
      (n.updateCatalog w (databaseHeader req.headers) (n.statementsOf req)).1.catalog =
        n.catalog ∧
      (n.updateCatalog w (databaseHeader req.headers) (n.statementsOf req)).1.constraints =
        n.constraints ∧
      (n.updateCatalog w (databaseHeader req.headers) (n.statementsOf req)).1.dbGrants =
        n.dbGrants := by
  rw [(made_refl n.toServer).sameVisible_iff (n.made_updateCatalog w _ _)]
  by_cases htch : (n.statementsOf req).any touchesCatalog
  · have hcons : (n.updateCatalog w (databaseHeader req.headers)
        (n.statementsOf req)).1.constraints = (n.statementsOf req).foldl
          (fun mgr stmt => SqlRuntime.declareConstraints stmt mgr) n.constraints := by
      rw [updateCatalog, if_pos htch]
      exact constraints_populate _ _ _ _ _
    rw [hcons, updateCatalog, if_pos htch]
    constructor
    · intro h
      exact ⟨h.rows, h.catalog htch, h.constraints htch, h.grants htch⟩
    · rintro ⟨hrows, hcat, hmgr, hgra⟩
      exact ⟨hrows, fun _ => hcat, fun _ => hmgr, fun _ => hgra⟩
  · rw [updateCatalog, if_neg htch]
    constructor
    · intro h
      exact ⟨h.rows, rfl, rfl, rfl⟩
    · rintro ⟨hrows, -, -, -⟩
      exact ⟨hrows, fun h => absurd h htch, fun h => absurd h htch, fun h => absurd h htch⟩

omit [DatabaseEngine E] [SchemaCatalog C] [CheckPredicate] [ColumnOrder] [Unicode] [F64]
  [QueryParser] [SqlRuntime] [SessionSigner] in
theorem headers_forward {sql : String} (h : ∀ name value, req.headers name = some value →
      name ∈ forwardedHeaders ∧ ∃ s, value = .text s) :
    (req.forward sql).headers = req.headers := by
  funext name
  cases hval : req.headers name with
  | none => simp [ExecuteRequest.forward, HeaderMap.text, hval]
  | some value =>
    obtain ⟨hname, s, rfl⟩ := h name value hval
    simp [ExecuteRequest.forward, HeaderMap.text, hval, hname]

omit [CheckPredicate] [ColumnOrder] [SessionSigner] in
theorem catalogStands_of_any_eq_false {w : Circumstances} {n : Node E C}
    (h : (n.statementsOf req).any touchesCatalog = false) : n.CatalogStands w req := by
  have hnot : ¬(n.statementsOf req).any touchesCatalog := by simp [h]
  have hact : n.catalogActions w (databaseHeader req.headers) (n.statementsOf req) = [] := by
    rw [catalogActions, if_neg hnot]
  refine ⟨?_, fun ht => absurd ht hnot, fun ht => absurd ht hnot, fun ht => absurd ht hnot⟩
  rw [hact]
  exact ⟨fun _ => rfl, fun _ _ _ => rfl⟩

theorem change_congr {req' : ExecuteRequest}
    (hhea : req'.headers = req.headers) (hbat : req'.sqlBatch = req.sqlBatch)
    (n : Node E C) : n.change w req' = n.change w req := by
  have hsta (db conn : String) :
      n.statementsActions w req' db conn = n.statementsActions w req db conn := by
    have hstm : n.statementsOf req' = n.statementsOf req := by
      rw [statementsOf, statementsOf, hbat]
    rw [statementsActions, statementsActions]
    dsimp only
    rw [hstm]
  have hcon (conn : String) :
      n.connectionChange w req' conn = n.connectionChange w req conn := by
    rw [connectionChange, connectionChange, hhea, hbat]
    cases n.procedures.dispatch req.sqlBatch with
    | answered procedures reason => rfl
    | refused reason => rfl
    | carryOut sqlBatch =>
      dsimp only
      rw [batchChange, batchChange, hbat, hsta]
  rw [change, change, hhea]
  cases n.admitted w req.headers with
  | none => rfl
  | some conn => exact hcon conn

end

end Node

namespace Pair

open Daemon.Sample
open scoped Dml.Sample

def forwardedTo : ExecuteAnswer → Option (String × String)
  | .forwarded url fwd => some (url, fwd.sqlBatch)
  | _ => none

theorem exists_forwarded {answer : ExecuteAnswer} {url sqlBatch : String}
    (h : forwardedTo answer = some (url, sqlBatch)) :
    ∃ fwd, answer = .forwarded url fwd ∧ fwd.sqlBatch = sqlBatch := by
  cases answer with
  | forwarded url' fwd =>
    obtain ⟨rfl, rfl⟩ := Prod.mk.inj (Option.some.inj h)
    exact ⟨fwd, rfl, rfl⟩
  | _ => cases h

def member (isLeader : Bool) : Node VersionedEngine Unit :=
  { node emptyVersionedServer with
    dbGrants := fun _ => {"analyst"}
    cluster :=
      { raftPeers := ["other"]
        isLeader := isLeader
        currentLeaderUrl := some "http://leader:8080" } }

def insertFor (database : Option String) : ExecuteRequest where
  headers := headers database
  sqlBatch := "INSERT INTO t (id) VALUES (1)"

theorem forwarded_insert (d : Option String)
    (h : forwardedTo ((member false).sqlExecute calm (insertFor d)).2 =
      some ("http://leader:8080", "INSERT INTO t (id) VALUES (1)")) :
    ((member false).sqlExecute calm (insertFor d)).2 = .forwarded "http://leader:8080"
      ((insertFor d).forward "INSERT INTO t (id) VALUES (1)") := by
  obtain ⟨fwd, hfwd, hbat⟩ := exists_forwarded h
  obtain ⟨-, sqlBatch, rfl, -⟩ := Node.exists_of_forwarded hfwd
  obtain rfl : sqlBatch = "INSERT INTO t (id) VALUES (1)" := hbat
  exact hfwd

end Pair

end VngDatabase.Daemon
