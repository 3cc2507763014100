import VngDatabase.Daemon.Handlers

/-!
# Connections that are handed back

A request takes a connection from the pool and has to hand it back before it is answered. Two ways
out have been missed: a transaction whose `COMMIT` is refused, and a query to be explained that
cannot be parsed.
-/

namespace VngDatabase.Daemon

open Text Sql Store Dml Tx Query Option Access
open Access (AuthError HeaderMap RuntimeAccessPrincipal SessionSigner)

namespace Node

section

variable {E C : Type} [DatabaseEngine E] [CheckPredicate] [ColumnOrder] [Unicode]
  {w : Circumstances}

def CommitPasses (tx : TxRequest) (n : Node E C) : Prop :=
  tx.hasCommit → n.refusal tx = none ∧ insertsPass n.constraints tx.effectiveStatements

omit [CheckPredicate] [ColumnOrder] [Unicode] in
theorem executeTransactionStatements_ne_conflict (stmts : List String) (reason : String) :
    executeTransactionStatements stmts ≠ .conflict reason := by
  unfold executeTransactionStatements
  split_ifs <;> exact nofun

theorem conflict_iff (tx : TxRequest) (n : Node E C) :
    (∃ reason, (n.toTxServer.sqlTransaction tx).2 = .conflict reason) ↔ ¬n.CommitPasses tx := by
  have hfl := flush_snd_isSome tx.db tx.effectiveStatements (n.toServer.session tx.connectionId)
  have hcons : (n.toServer.session tx.connectionId).constraints = n.constraints := rfl
  rw [hcons] at hfl
  unfold TxServer.sqlTransaction TxServer.runTransaction CommitPasses refusal
  dsimp only
  split_ifs with hcom hrb
  · cases commitConflict _ n.rowStore tx.txId tx.isoLevel tx.writeKeys with
    | some reason => simp [hcom]
    | none =>
      unfold TxServer.commit
      dsimp only
      cases hres :
          (flush tx.db tx.effectiveStatements (n.toServer.session tx.connectionId)).2 with
      | some reason =>
        rw [hres] at hfl
        simp_all
      | none =>
        rw [hres] at hfl
        simp_all [executeTransactionStatements_ne_conflict]
  · simp [hcom, executeTransactionStatements_ne_conflict]
  · simp [hcom, executeTransactionStatements_ne_conflict]

theorem pool_runTransactionOn_of_passes {tx : TxRequest} {n : Node E C} (h : n.CommitPasses tx) :
    (n.runTransactionOn w tx).1.pool = n.pool.release tx.connectionId w.releaseMs := by
  have hnot : ¬∃ reason, (n.toTxServer.sqlTransaction tx).2 = .conflict reason :=
    fun hcf => (conflict_iff tx n).mp hcf h
  unfold runTransactionOn
  dsimp only
  split
  · rename_i reason hrs
    exact absurd ⟨reason, hrs⟩ hnot
  · rfl
  · rfl

end

section

variable {E C : Type} [DatabaseEngine E] [SchemaCatalog C] [CheckPredicate] [ColumnOrder]
  [Unicode] [F64] [QueryParser] [SqlRuntime] [SessionSigner] {n : Node E C}
  {r : Circumstances × SqlRequest} {principal : RuntimeAccessPrincipal}
  {pool : ConnectionPoolManager}

def caller (n : Node E C) (r : Circumstances × SqlRequest) : Option RuntimeAccessPrincipal :=
  let principal (headers : HeaderMap) (action : PrivilegeAction) (scope : String) :=
    (requireSqlRuntimePrincipal n.auth headers r.1.nowSecs action scope).toOption
  match r.2 with
  | .execute req => (principal req.headers .execute "sql/execute").filter
      fun p => n.mayUse p (databaseHeader req.headers)
  | .transaction req => principal req.headers .execute "sql/transaction"
  | .route headers => principal headers .read "sql/route"
  | .explain headers _ => principal headers .read "sql/explain"

def handedOut (n : Node E C) (r : Circumstances × SqlRequest) :
    Option (ConnectionPoolManager × String) :=
  (n.caller r).bind fun _ =>
    match n.pool.acquire r.1.nowMs with
    | (pool, .ok conn) => some (pool, conn)
    | (_, .error _) => none

/-- **The connection is handed back exactly once.** -/
def HandsBack (n : Node E C) (r : Circumstances × SqlRequest) : Prop :=
  ∀ pool conn, n.handedOut r = some (pool, conn) →
    (n.handle r).pool = pool.release conn r.1.releaseMs

def Completes (n : Node E C) (r : Circumstances × SqlRequest) (principal : RuntimeAccessPrincipal)
    (conn : String) : Prop :=
  match r.2 with
  | .execute _ | .route _ => True
  | .transaction req => n.CommitPasses (req.onConnection (freshTxId r.1 principal) conn)
  | .explain _ sqlBatch => ∃ stmt, QueryParser.parseOne (explainTarget sqlBatch) = .ok stmt

/-- **The request comes to its end**, if it is given a connection. -/
def WillComplete (n : Node E C) (r : Circumstances × SqlRequest) : Prop :=
  ∀ principal pool conn, n.caller r = some principal →
    n.pool.acquire r.1.nowMs = (pool, .ok conn) → n.Completes r principal conn

theorem pool_of_caller_eq_none (h : n.caller r = none) : (n.handle r).pool = n.pool := by
  obtain ⟨w, req⟩ := r
  cases req with
  | execute req =>
    rw [handle_execute, sqlExecute]
    cases hp : requireSqlRuntimePrincipal n.auth req.headers w.nowSecs .execute
        "sql/execute" with
    | error e => rfl
    | ok principal =>
      have huse : ¬n.mayUse principal (databaseHeader req.headers) := by
        simpa [caller, hp, Except.toOption] using h
      simp only [if_neg huse]
  | transaction req =>
    rw [handle_transaction, sqlTransaction]
    cases hp : requireSqlRuntimePrincipal n.auth req.headers w.nowSecs .execute
        "sql/transaction" with
    | error e => rfl
    | ok principal => simp [caller, hp, Except.toOption] at h
  | route headers =>
    rw [handle_route, sqlRoute]
    cases hp : requireSqlRuntimePrincipal n.auth headers w.nowSecs .read "sql/route" with
    | error e => rfl
    | ok principal => simp [caller, hp, Except.toOption] at h
  | explain headers sqlBatch =>
    rw [handle_explain, sqlExplain]
    cases hp : requireSqlRuntimePrincipal n.auth headers w.nowSecs .read "sql/explain" with
    | error e => rfl
    | ok principal => simp [caller, hp, Except.toOption] at h

omit [CheckPredicate] [ColumnOrder] [Unicode] [F64] [QueryParser] [SqlRuntime]
  [SchemaCatalog C] [SessionSigner] in
theorem eq_ok_of_toOption {e : Except AuthError RuntimeAccessPrincipal}
    (h : e.toOption = some principal) : e = .ok principal := by
  cases e with
  | error e => cases h
  | ok p => rw [some.inj h]

theorem pool_of_acquire_eq_error {e : PoolAcquireError}
    (h : n.caller r = some principal) (hpool : n.pool.acquire r.1.nowMs = (pool, .error e)) :
    (n.handle r).pool = pool := by
  obtain ⟨w, req⟩ := r
  cases req with
  | execute req =>
    obtain ⟨hp, huse⟩ := filter_eq_some_iff.mp h
    rw [handle_execute, sqlExecute, eq_ok_of_toOption hp]
    simp only [if_pos huse, hpool]
  | transaction req =>
    rw [handle_transaction, sqlTransaction, eq_ok_of_toOption h]
    simp only [hpool]
  | route headers =>
    rw [handle_route, sqlRoute, eq_ok_of_toOption h]
    simp only [hpool]
  | explain headers sqlBatch =>
    rw [handle_explain, sqlExplain, eq_ok_of_toOption h]
    simp only [hpool]

theorem pool_of_acquire_eq_ok {conn : String}
    (h : n.caller r = some principal) (hpool : n.pool.acquire r.1.nowMs = (pool, .ok conn)) :
    (n.Completes r principal conn ∧ (n.handle r).pool = pool.release conn r.1.releaseMs) ∨
      (¬n.Completes r principal conn ∧ (n.handle r).pool = pool) := by
  obtain ⟨w, req⟩ := r
  cases req with
  | execute req =>
    obtain ⟨hp, huse⟩ := filter_eq_some_iff.mp h
    refine Or.inl ⟨trivial, ?_⟩
    rw [handle_execute, sqlExecute, eq_ok_of_toOption hp]
    simp only [if_pos huse, hpool]
    obtain ⟨m, hm, h⟩ :=
      { n with pool := pool }.outcome_onConnection w req (databaseHeader req.headers) conn
    rw [h, release, hm.pool_eq]
  | transaction req =>
    rw [handle_transaction, sqlTransaction, eq_ok_of_toOption h]
    simp only [hpool]
    by_cases hpass : n.CommitPasses (req.onConnection (freshTxId w principal) conn)
    · exact Or.inl ⟨hpass, pool_runTransactionOn_of_passes hpass⟩
    · obtain ⟨reason, hrs⟩ := (conflict_iff _ n).mpr hpass
      exact Or.inr ⟨hpass, by rw [runTransactionOn, hrs]⟩
  | route headers =>
    refine Or.inl ⟨trivial, ?_⟩
    rw [handle_route, sqlRoute, eq_ok_of_toOption h]
    simp only [hpool, release]
  | explain headers sqlBatch =>
    rw [handle_explain, sqlExplain, eq_ok_of_toOption h]
    simp only [hpool, Completes]
    cases QueryParser.parseOne (explainTarget sqlBatch) with
    | error why => exact Or.inr ⟨nofun, rfl⟩
    | ok stmt => exact Or.inl ⟨⟨stmt, rfl⟩, rfl⟩

omit [SchemaCatalog C] [CheckPredicate] [ColumnOrder] [Unicode] [F64] [QueryParser]
  [SqlRuntime] in
theorem handedOut_eq_some_iff {conn : String} :
    n.handedOut r = some (pool, conn) ↔
      ∃ principal, n.caller r = some principal ∧ n.pool.acquire r.1.nowMs = (pool, .ok conn) := by
  rw [handedOut, bind_eq_some_iff]
  refine exists_congr fun principal => and_congr_right fun _ => ?_
  generalize n.pool.acquire r.1.nowMs = acquired
  obtain ⟨pool', _ | conn'⟩ := acquired <;> simp

theorem handsBack_iff (n : Node E C) (r : Circumstances × SqlRequest) :
    n.HandsBack r ↔ n.WillComplete r := by
  constructor
  · intro h principal pool conn hcal hpool
    have hback := h pool conn (handedOut_eq_some_iff.mpr ⟨principal, hcal, hpool⟩)
    rcases pool_of_acquire_eq_ok hcal hpool with ⟨hdone, -⟩ | ⟨-, hkept⟩
    · exact hdone
    · exact absurd (hkept.symm.trans hback) (ConnectionPoolManager.ne_release hpool _)
  · intro h pool conn hout
    obtain ⟨principal, hcal, hpool⟩ := handedOut_eq_some_iff.mp hout
    rcases pool_of_acquire_eq_ok hcal hpool with ⟨-, hback⟩ | ⟨hnot, -⟩
    · exact hback
    · exact absurd (h principal pool conn hcal hpool) hnot

theorem activeCount_handle
    (h : n.WillComplete r) : (n.handle r).pool.activeCount = n.pool.activeCount := by
  have hacq := n.pool.activeCount_acquire r.1.nowMs
  cases hcal : n.caller r with
  | none => rw [pool_of_caller_eq_none hcal]
  | some principal =>
    cases hpool : n.pool.acquire r.1.nowMs with
    | mk pool result =>
      rw [hpool] at hacq
      have hcnt := hacq.activeCount
      cases result with
      | error e =>
        rw [pool_of_acquire_eq_error hcal hpool]
        exact hcnt
      | ok conn =>
        have hback := (handsBack_iff n r).mpr h pool conn
          (handedOut_eq_some_iff.mpr ⟨principal, hcal, hpool⟩)
        have hrel := (ConnectionPoolManager.activeCount_release (hacq.inUse conn rfl)
          r.1.releaseMs).1
        rw [hback]
        exact Nat.add_right_cancel (hrel.trans hcnt)

end

section

open Daemon.Sample
open scoped Dml.Sample

variable (s : Server InMemoryEngine)

def misspelt : Circumstances × SqlRequest := (calm, .explain (headers none) "SELEC 1")

def refused : Circumstances × SqlRequest :=
  (calm, .transaction ⟨headers none, ["INSERT INTO t (id) VALUES (1)", "COMMIT"], none⟩)

theorem caller_misspelt : (node s).caller misspelt = some (principalOf "ann") :=
  congrArg Except.toOption (principal_ann none .read "sql/explain")

theorem caller_refused : (node s).caller refused = some (principalOf "ann") :=
  congrArg Except.toOption (principal_ann none .execute "sql/transaction")

theorem activeCount_of_not_completes {s : Server InMemoryEngine} {r : SqlRequest}
    (hcal : (node s).caller (calm, r) = some (principalOf "ann"))
    (h : ¬(node s).Completes (calm, r) (principalOf "ann") "conn-1") :
    ¬(node s).HandsBack (calm, r) ∧ ((node s).handle (calm, r)).pool.activeCount = 1 := by
  constructor
  · rw [handsBack_iff]
    exact fun hdone => h (hdone _ _ "conn-1" hcal acquire_eq)
  · rcases pool_of_acquire_eq_ok hcal acquire_eq with ⟨hdone, -⟩ | ⟨-, hpool⟩
    · exact absurd hdone h
    · rw [hpool]
      decide +kernel

end

end Node

end VngDatabase.Daemon
