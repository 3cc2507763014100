import VngDatabase.Daemon.Effects

/-!
# The writes of a request

What a batch asks for, as one list of actions (`Node.change`), with the database that the engine
forgets, if there is one (`RowChange`).
-/

namespace VngDatabase.Daemon

open Text Sql Store Dml Query Overlay DurabilityEngine BootEngine List
open Access (HeaderMap MatviewCommand SessionSigner)

/-- **What becomes of rows**: a database that is forgotten, and actions. -/
structure RowChange where
  actions : List Action := []
  dropped : Option String := none

section

variable {E : Type} [BootEngine E] {c c' : RowChange} {as as' : List Action}
  {rs rs' rs'' : PagedRowStore} {e e' e'' : E}

def RowChange.memory (c : RowChange) (rs : PagedRowStore) (k : String) : Option RowData :=
  if k ∈ rs.held (rowWrites c.actions) then overlay (rowWrites c.actions) rs.readLatest k else none

def RowChange.engine (c : RowChange) (e : E) (db k : String) : Option RowData :=
  (lastWrite (storedRows c.actions) (db, k)).getD
    (if c.dropped = some db then none else getRow e db k)

structure Makes (c : RowChange) (rs : PagedRowStore) (e : E) (rs' : PagedRowStore) (e' : E) :
    Prop where
  memory : ∃ xid, PagedRowStore.Writes xid rs rs' (rowWrites c.actions)
  persists : persistsRows e' = persistsRows e
  engine : persistsRows e → ∀ db k, getRow e' db k = c.engine e db k

namespace Makes

theorem of_same (hpos : 0 < rs.nextXid) (hp : persistsRows e' = persistsRows e)
    (hget : ∀ db k, getRow e' db k = getRow e db k) : Makes {} rs e rs e' where
  memory := ⟨rs.nextXid - 1, .refl (Nat.succ_pred_eq_of_pos hpos).symm⟩
  persists := hp
  engine _ := hget

theorem transact {st : State E} (h : st.Sound) (as : List Action) :
    Makes { actions := as } st.rowStore st.walEngine (st.transact as).rowStore
      (st.transact as).walEngine where
  memory := ⟨_, State.transact_writes h.stamped as⟩
  persists := st.persistsRows_transact as
  engine hp db k := getRow_of_supersede hp ((st.persistsRows_transact as).trans hp)
    (h.scanPersistedRows_transact hp as) db k

theorem trans (h : Makes c rs e rs' e') (h' : Makes { actions := as } rs' e' rs'' e'') :
    Makes { c with actions := c.actions ++ as } rs e rs'' e'' where
  memory := by
    obtain ⟨_, hw⟩ := h.memory
    obtain ⟨xid, hw'⟩ := h'.memory
    refine ⟨xid, ?_⟩
    rw [rowWrites_append]
    exact hw.trans hw'
  persists := h'.persists.trans h.persists
  engine hp db k := by
    rw [h'.engine (h.persists.trans hp), RowChange.engine, RowChange.engine, storedRows_append,
      lastWrite_append, if_neg nofun, h.engine hp, RowChange.engine]
    cases lastWrite (storedRows as) (db, k) <;> rfl

theorem readLatest_eq (h : Makes c rs e rs' e') (k : String) :
    rs'.readLatest k = c.memory rs k := by
  obtain ⟨_, hw⟩ := h.memory
  exact hw.readLatest_eq_ite k

end Makes

def RowChange.Made (c : RowChange) (s s' : Server E) : Prop :=
  Makes c s.rowStore s.walEngine s'.rowStore s'.walEngine

theorem RowChange.Made.append {s s' s'' : Server E} {as' : List Action}
    (h : RowChange.Made { actions := as } s s') (h' : RowChange.Made { actions := as' } s' s'') :
    RowChange.Made { actions := as ++ as' } s s'' :=
  Makes.trans h h'

structure SameVisible (s s' : Server E) : Prop where
  memory : ∀ k, s'.rowStore.readLatest k = s.rowStore.readLatest k
  engine : ∀ db k, getRow s'.walEngine db k = getRow s.walEngine db k

structure Concur (s : Server E) (c c' : RowChange) : Prop where
  memory : ∀ k, c'.memory s.rowStore k = c.memory s.rowStore k
  engine : persistsRows s.walEngine → ∀ db k, c'.engine s.walEngine db k = c.engine s.walEngine db k

theorem RowChange.Made.sameVisible_iff {s s' s'' : Server E}
    (h : c.Made s s') (h' : c'.Made s s'') :
    SameVisible s' s'' ↔ Concur s c c' := by
  constructor
  · intro hsame
    refine ⟨fun k => ?_, fun hp db k => ?_⟩
    · rw [← h.readLatest_eq, ← h'.readLatest_eq, hsame.memory]
    · rw [← h.engine hp, ← h'.engine hp, hsame.engine]
  · intro hcon
    refine ⟨fun k => ?_, fun db k => ?_⟩
    · rw [h.readLatest_eq, h'.readLatest_eq, hcon.memory]
    · cases hp : persistsRows s.walEngine with
      | true => rw [h.engine hp, h'.engine hp, hcon.engine hp]
      | false =>
        rw [getRow_eq, getRow_eq, h.persists, h'.persists, hp]
        rfl

end

section

variable {E : Type} [BootEngine E]

def finishActions (req : Request) (log : List (String × Option RowData)) : List Action :=
  if req.hasRollback then undoActions log else []

theorem makes_finish {st : Guarded E} (h : st.Sound) (req : Request) :
    Makes { actions := finishActions req st.txUndoLog } st.rowStore st.walEngine
      (st.finish req).rowStore (st.finish req).walEngine := by
  have hpos : 0 < st.rowStore.nextXid := Nat.zero_lt_of_lt h.durable
  rw [finishActions, Guarded.finish]
  split_ifs
  · rw [State.rollback]
    split_ifs with hlog
    · rw [hlog]
      exact .of_same hpos rfl fun _ _ => rfl
    · exact .transact h _
  · exact .of_same hpos rfl fun _ _ => rfl
  · exact .of_same hpos rfl fun _ _ => rfl

variable [CheckPredicate] [ColumnOrder] [Unicode]

def respondActions (validate : String → RowData → Except String Unit) (req : Request)
    (st : Guarded E) : List Action :=
  if req.hasUnknown then []
  else if req.hasDml then
    let result := sqlExecuteChecked validate req.db req.statements st
    requestActions validate req.db req.statements st ++
      if result.2.isSome then [] else finishActions req result.1.txUndoLog
  else finishActions req st.txUndoLog

theorem makes_respond (val : String → RowData → Except String Unit) (req : Request)
    {st : Guarded E} (h : st.Sound) :
    Makes { actions := respondActions val req st } st.rowStore st.walEngine
      (st.respond val req).1.rowStore (st.respond val req).1.walEngine := by
  have hpos : 0 < st.rowStore.nextXid := Nat.zero_lt_of_lt h.durable
  have hdml : Makes { actions := requestActions val req.db req.statements st } st.rowStore
      st.walEngine (sqlExecuteChecked val req.db req.statements st).1.rowStore
      (sqlExecuteChecked val req.db req.statements st).1.walEngine := by
    rw [sqlExecuteChecked_fst]
    exact .transact h _
  have hsnd : (sqlExecuteChecked val req.db req.statements st).1.Sound := by
    rw [sqlExecuteChecked_fst]
    exact h.transact _
  rw [respondActions, Guarded.respond, executeDml]
  split_ifs
  · exact .of_same hpos rfl fun _ _ => rfl
  · dsimp only
    generalize sqlExecuteChecked val req.db req.statements st = result at hdml hsnd
    obtain ⟨st', _ | reason⟩ := result
    · exact hdml.trans (makes_finish hsnd req)
    · simpa using hdml
  · exact makes_finish h req

end

namespace Node

section

variable {E : Type} [DatabaseEngine E] (s : Server E)

theorem made_refl : RowChange.Made {} s s :=
  .of_same (Nat.zero_lt_of_lt s.durable) rfl fun _ _ => rfl

theorem made_perform (as : List Action) : RowChange.Made { actions := as } s (s.perform as) := by
  have hsnd : s.state.Sound := ⟨s.stamped, s.durable⟩
  have h := Makes.transact hsnd as
  exact ⟨⟨_, s.writes_perform as⟩, h.persists, h.engine⟩

theorem made_logStatements (sqls : List String) : RowChange.Made {} s (logStatements s sqls) := by
  refine .of_same (Nat.zero_lt_of_lt s.durable) (foldl_appendSql persistsRows_appendSql sqls _) ?_
  intro db k
  exact foldl_appendSql (f := fun e => getRow e db k) (fun e sql => getRow_appendSql e sql db k)
    sqls _

theorem made_purgeDatabaseRows (name : String) :
    RowChange.Made ⟨purgeActions name s.rowStore, some name⟩ s (purgeDatabaseRows s name) := by
  have hper := made_perform s (purgeActions name s.rowStore)
  refine ⟨hper.memory, (DatabaseEngine.persistsRows_dropDbColumnFamily _ _).trans hper.persists, ?_⟩
  intro hp db k
  have hsto : storedRows (purgeActions name s.rowStore) = [] := by
    rw [storedRows, purgeActions, filterMap_map, filterMap_eq_nil_iff]
    exact fun _ _ => rfl
  have hget := hper.engine hp db k
  rw [RowChange.engine, hsto, if_neg (by simp)] at hget
  rw [RowChange.engine, hsto]
  refine (DatabaseEngine.getRow_dropDbColumnFamily _ name db k).trans ?_
  rw [hget]
  simp only [Option.some.injEq, eq_comm (a := name)]
  rfl

end

section

variable {E C : Type} [DatabaseEngine E] [SchemaCatalog C] [CheckPredicate] [ColumnOrder]
  [Unicode] [F64] [QueryParser] [SqlRuntime]

def rowStatementsActions (w : Circumstances) (db conn : String) (stmts : List String)
    (n : Node E C) : List Action :=
  if (stmts.any fun stmt => (dmlKind stmt).isSome) ∧ n.cluster.raftPeers ≠ [] then
    if n.cluster.isLeader ∧ w.quorum then
      stmts.flatMap (replicaActions db) ++ finishActions ⟨conn, db, stmts⟩ (n.txUndoLog conn)
    else []
  else respondActions (SchemaCatalog.validateRowAgainstDdl n.catalog) ⟨conn, db, stmts⟩
    (n.session conn)

def populateActions (engine : QueryEngine) (indexes : IndexManager) (db : String) :
    List String → Server E → List Action
  | [], _ => []
  | stmt :: stmts, s =>
    (match Access.createWithData stmt with
      | some (view, query) =>
        Access.fillActions view (Access.viewRows engine indexes db query s)
      | none => []) ++
      populateActions engine indexes db stmts (Access.populate engine indexes db s stmt)

/-- The server with the constraints the statements declare. -/
abbrev declaring (s : Server E) (stmts : List String) : Server E :=
  { s with constraints :=
      stmts.foldl (fun mgr stmt => SqlRuntime.declareConstraints stmt mgr) s.constraints }

def catalogActions (w : Circumstances) (db : String) (stmts : List String) (n : Node E C) :
    List Action :=
  if stmts.any touchesCatalog then
    populateActions w.queryEngine
      (SchemaCatalog.indexManager (SchemaCatalog.recordDdl n.catalog db n.rowStore stmts).1) db
      stmts (declaring n.toServer stmts)
  else []

def statementsActions (w : Circumstances) (req : ExecuteRequest) (db conn : String)
    (n : Node E C) : List Action :=
  let stmts := n.statementsOf req
  if w.timedOut .statements then []
  else if stmts.any fun stmt => classifyStatement stmt = .unknown then []
  else
    let updated := n.updateCatalog w db stmts
    n.catalogActions w db stmts ++
      if updated.2.isSome ∧ ¬stmts.any fun stmt => (dmlKind stmt).isSome ∨ readsRows stmt then []
      else updated.1.rowStatementsActions w db conn stmts

def matviewActions (w : Circumstances) (db : String) (cmd : MatviewCommand) (n : Node E C) :
    List Action :=
  let actions := fun originalStatement : String => cmd.actions w.queryEngine
    (SchemaCatalog.indexManager n.catalog) db originalStatement n.toServer
  match cmd with
  | .drop _ => actions ""
  | .refresh view | .refreshIncrementally view =>
    ((SchemaCatalog.materializedView n.catalog view).map actions).getD []

def ddlChange (ddl : Access.DbDdlStatement) (n : Node E C) : RowChange :=
  match ddl with
  | .createDatabase _ _ => {}
  | .dropDatabase name ifExists =>
    match n.databases.dropDatabase name ifExists with
    | .ok (_, some _) => ⟨purgeActions name n.rowStore, some name⟩
    | _ => {}

def batchChange (w : Circumstances) (req : ExecuteRequest) (sqlBatch db conn : String)
    (n : Node E C) : RowChange :=
  match Access.parseDbDdlStatement sqlBatch with
  | some ddl => n.ddlChange ddl
  | none =>
    if isVirtualCatalogQuery sqlBatch ∨ (SqlRuntime.udfError sqlBatch).isSome then {}
    else match Access.earlyMatviewCommand sqlBatch (parseBatch req.sqlBatch) with
      | some cmd => { actions := n.matviewActions w db cmd }
      | none =>
        if routesNowhere (parseBatch req.sqlBatch) then {}
        else { actions := n.statementsActions w req db conn }

def connectionChange (w : Circumstances) (req : ExecuteRequest) (conn : String) (n : Node E C) :
    RowChange :=
  if databaseHeader req.headers ≠ "" ∧ ¬w.permit then {}
  else match n.procedures.dispatch req.sqlBatch with
    | .carryOut sqlBatch => n.batchChange w req sqlBatch (databaseHeader req.headers) conn
    | _ => {}

def admitted [SessionSigner] (w : Circumstances) (headers : HeaderMap) (n : Node E C) :
    Option String :=
  match Access.requireSqlRuntimePrincipal n.auth headers w.nowSecs .execute "sql/execute" with
  | .error _ => none
  | .ok principal =>
    if n.mayUse principal (databaseHeader headers) then (n.pool.acquire w.nowMs).2.toOption
    else none

def change [SessionSigner] (w : Circumstances) (req : ExecuteRequest) (n : Node E C) : RowChange :=
  match n.admitted w req.headers with
  | some conn => n.connectionChange w req conn
  | none => {}

variable (w : Circumstances) (req : ExecuteRequest) (sqlBatch db conn : String)
  (stmts queries : List String) (n : Node E C) (pool : ConnectionPoolManager)

omit [SchemaCatalog C] [CheckPredicate] [ColumnOrder] [F64] [QueryParser] [SqlRuntime] in
theorem made_replicatedServer :
    RowChange.Made { actions := if w.quorum then stmts.flatMap (replicaActions db) ++
        finishActions ⟨conn, db, stmts⟩ (n.txUndoLog conn) else [] }
      n.toServer (n.replicatedServer w db conn stmts) := by
  have hlog := made_logStatements n.toServer (stmts.flatMap loggedFor)
  have happ (s : Server E) : RowChange.Made
      ⟨stmts.flatMap (replicaActions db) ++ finishActions ⟨conn, db, stmts⟩ (s.txUndoLog conn),
        none⟩ s
      ((applyCommitted s db stmts).resume conn
        (((applyCommitted s db stmts).session conn).finish ⟨conn, db, stmts⟩)
        (finish_sound ((applyCommitted s db stmts).sound conn))) := by
    have hsnd : s.state.Sound := ⟨s.stamped, s.durable⟩
    exact (Makes.transact hsnd (stmts.flatMap (replicaActions db))).trans
      (makes_finish ((applyCommitted s db stmts).sound conn) ⟨conn, db, stmts⟩)
  rw [replicatedServer]
  split_ifs
  · exact hlog.trans (happ (logStatements n.toServer (stmts.flatMap loggedFor)))
  · exact hlog

theorem made_runRowStatements :
    RowChange.Made { actions := n.rowStatementsActions w db conn stmts } n.toServer
      (n.runRowStatements w req sqlBatch db conn stmts queries).1.toServer := by
  rw [rowStatementsActions, runRowStatements]
  by_cases hdml : (stmts.any fun stmt => (dmlKind stmt).isSome) ∧ n.cluster.raftPeers ≠ []
  · rw [if_pos hdml, if_pos hdml]
    by_cases hldr : n.cluster.isLeader
    · have hmade := n.made_replicatedServer w db conn stmts
      have hser : (n.runReplicated w req db conn stmts queries).1.toServer =
          n.replicatedServer w db conn stmts := by
        rw [runReplicated, replicatedServer]
        split_ifs
        · exact toServer_runQueries w req db conn queries _
        · rfl
      rw [if_pos hldr, hser]
      simpa only [hldr, true_and] using hmade
    · rw [if_neg hldr, if_neg fun h => hldr h.1]
      exact made_refl _
  · rw [if_neg hdml, if_neg hdml, toServer_runDirect]
    exact makes_respond _ ⟨conn, db, stmts⟩ (n.toServer.sound conn)

omit [SchemaCatalog C] [CheckPredicate] [ColumnOrder] [SqlRuntime] in
theorem made_populate (eng : QueryEngine) (indexes : IndexManager) (db : String)
    (stmts : List String) (s : Server E) :
    RowChange.Made { actions := populateActions eng indexes db stmts s } s
      (stmts.foldl (Access.populate eng indexes db) s) := by
  induction stmts generalizing s with
  | nil => exact made_refl s
  | cons stmt stmts ih =>
    rw [populateActions, foldl_cons]
    refine Makes.trans (c := { actions := _ }) ?_ (ih (Access.populate eng indexes db s stmt))
    rw [Access.populate]
    cases Access.createWithData stmt with
    | none => exact made_refl s
    | some target => exact made_perform s _

omit [CheckPredicate] [ColumnOrder] in
theorem made_updateCatalog :
    RowChange.Made { actions := n.catalogActions w db stmts } n.toServer
      (n.updateCatalog w db stmts).1.toServer := by
  rw [catalogActions, updateCatalog]
  split_ifs
  · exact made_populate _ _ db stmts _
  · exact made_refl _

theorem made_runStatements :
    RowChange.Made { actions := n.statementsActions w req db conn } n.toServer
      (n.runStatements w req sqlBatch db conn).1.toServer := by
  rw [statementsActions, runStatements, ← queriesOf, ← statementsOf]
  have hcat := n.made_updateCatalog w db (n.statementsOf req)
  have hrows (m : Node E C) := m.made_runRowStatements w req sqlBatch db conn (n.statementsOf req)
    (n.queriesOf req)
  dsimp only
  by_cases htime : w.timedOut .statements
  · rw [if_pos htime, if_pos htime]
    exact made_refl _
  by_cases hunk : (n.statementsOf req).any fun stmt => classifyStatement stmt = .unknown
  · rw [if_neg htime, if_pos hunk, if_neg htime, if_pos hunk]
    exact made_refl _
  rw [if_neg htime, if_neg hunk, if_neg htime, if_neg hunk]
  generalize n.updateCatalog w db (n.statementsOf req) = updated at hcat
  obtain ⟨m, _ | reason⟩ := updated
  · dsimp only
    rw [if_neg fun h => Bool.false_ne_true h.1]
    exact hcat.append (hrows m)
  · dsimp only
    by_cases hrd : (n.statementsOf req).any fun stmt => (dmlKind stmt).isSome ∨ readsRows stmt
    · rw [if_pos hrd, if_neg fun h => h.2 hrd]
      exact hcat.append (hrows m)
    · rw [if_neg hrd, if_pos ⟨rfl, hrd⟩, append_nil]
      exact hcat

omit [CheckPredicate] [ColumnOrder] [SqlRuntime] in
theorem made_runMatviewCommand (cmd : MatviewCommand) :
    RowChange.Made { actions := n.matviewActions w db cmd } n.toServer
      (n.runMatviewCommand w db conn cmd).1.toServer := by
  cases cmd with
  | drop view => exact made_perform _ _
  | refresh view | refreshIncrementally view =>
    simp only [matviewActions, runMatviewCommand]
    cases SchemaCatalog.materializedView n.catalog view with
    | none => exact made_refl _
    | some originalStatement => exact made_perform _ _

omit [CheckPredicate] [ColumnOrder] [Unicode] [F64] [QueryParser] [SqlRuntime] in
theorem made_runDatabaseDdl (ddl : Access.DbDdlStatement) :
    (n.ddlChange ddl).Made n.toServer (n.runDatabaseDdl ddl).1.toServer := by
  cases ddl with
  | createDatabase name ifNotExists =>
    simp only [ddlChange, runDatabaseDdl]
    split
    · exact made_refl _
    · exact made_refl _
    · exact made_refl _
  | dropDatabase name ifExists =>
    simp only [ddlChange, runDatabaseDdl]
    rcases n.databases.dropDatabase name ifExists with _ | ⟨databases, _ | dropped⟩
    · exact made_refl _
    · exact made_refl _
    · exact made_purgeDatabaseRows n.toServer name

theorem made_runBatch :
    (n.batchChange w req sqlBatch db conn).Made n.toServer
      (n.runBatch w req sqlBatch db conn).1.toServer := by
  rw [batchChange, runBatch]
  cases Access.parseDbDdlStatement sqlBatch with
  | some ddl => exact (n.release w conn).made_runDatabaseDdl ddl
  | none =>
    dsimp only
    by_cases hvir : isVirtualCatalogQuery sqlBatch
    · rw [if_pos hvir, if_pos (Or.inl hvir)]
      exact made_refl _
    rw [if_neg hvir]
    cases hudf : SqlRuntime.udfError sqlBatch with
    | some reason =>
      rw [if_pos (Or.inr Option.isSome_some)]
      exact made_refl _
    | none =>
      rw [if_neg (by simp [hvir])]
      cases Access.earlyMatviewCommand sqlBatch (parseBatch req.sqlBatch) with
      | some cmd => exact n.made_runMatviewCommand w db conn cmd
      | none =>
        dsimp only
        split_ifs
        · exact made_refl _
        · exact n.made_runStatements w req sqlBatch db conn

theorem made_onConnection :
    (n.connectionChange w req conn).Made n.toServer
      (n.onConnection w req (databaseHeader req.headers) conn).1.toServer := by
  rw [connectionChange, onConnection]
  by_cases hpmt : databaseHeader req.headers ≠ "" ∧ ¬w.permit
  · rw [if_pos hpmt, if_pos hpmt]
    exact made_refl _
  rw [if_neg hpmt, if_neg hpmt]
  cases n.procedures.dispatch req.sqlBatch with
  | answered procedures reason => exact made_refl _
  | refused reason => exact made_refl _
  | carryOut sqlBatch => exact n.made_runBatch w req sqlBatch (databaseHeader req.headers) conn

theorem statementsActions_pool :
    ({ n with pool := pool } : Node E C).statementsActions w req db conn =
      n.statementsActions w req db conn := by
  have hstm : ({ n with pool := pool } : Node E C).statementsOf req = n.statementsOf req := rfl
  have hwar : (({ n with pool := pool } : Node E C).updateCatalog w db
      (n.statementsOf req)).2 = (n.updateCatalog w db (n.statementsOf req)).2 := by
    unfold updateCatalog
    split_ifs <;> rfl
  have hcat : ({ n with pool := pool } : Node E C).catalogActions w db (n.statementsOf req) =
      n.catalogActions w db (n.statementsOf req) := rfl
  have hrow (m : Node E C) : ({ m with pool := pool } : Node E C).rowStatementsActions w db conn
      (n.statementsOf req) = m.rowStatementsActions w db conn (n.statementsOf req) := rfl
  rw [statementsActions, statementsActions]
  dsimp only
  rw [hstm, hcat, updateCatalog_pool, hwar, hrow]

theorem connectionChange_pool : ({ n with pool := pool } : Node E C).connectionChange w req conn =
      n.connectionChange w req conn := by
  rw [connectionChange, connectionChange]
  dsimp only
  split_ifs
  · rfl
  · cases n.procedures.dispatch req.sqlBatch with
    | answered procedures reason => rfl
    | refused reason => rfl
    | carryOut sqlBatch =>
      dsimp only [batchChange]
      rw [statementsActions_pool]
      rfl

variable [SessionSigner]

theorem made_sqlExecute (w : Circumstances) (req : ExecuteRequest) (n : Node E C) :
    (n.change w req).Made n.toServer (n.sqlExecute w req).1.toServer := by
  rw [change, admitted, sqlExecute]
  cases Access.requireSqlRuntimePrincipal n.auth req.headers w.nowSecs .execute "sql/execute" with
  | error e => exact made_refl _
  | ok principal =>
    dsimp only
    by_cases huse : n.mayUse principal (databaseHeader req.headers)
    · rw [if_pos huse, if_pos huse]
      generalize n.pool.acquire w.nowMs = acquired
      obtain ⟨pool, _ | conn⟩ := acquired
      · exact made_refl _
      · have hmade := made_onConnection w req conn
          ({ n with pool := pool } : Node E C)
        rw [connectionChange_pool] at hmade
        exact hmade
    · rw [if_neg huse, if_neg huse]
      exact made_refl _

end

end Node

end VngDatabase.Daemon
