import VngDatabase.Text
import VngDatabase.Transition

/-!
# Pessimistic locks

The locks of `services/voltnuerongridd/src/helpers/execution.rs`: records in a table with the time
at which they expire, when the next transaction that asks for the resource takes their place.
-/

namespace VngDatabase.Tx

open Text Option Function

/-! ### Records and answers -/

structure PessimisticLockRecord where
  lockId : String
  transactionId : String
  resource : String
  owner : String
  acquiredUnixMs : ℕ
  expiresUnixMs : ℕ
  deriving DecidableEq

inductive LockStatus
  | ok
  | blocked
  | error
  deriving DecidableEq

inductive LockState
  | acquired
  | renewed
  | released
  | invalidRequest
  | deadlockRisk
  | waitTimeout
  | heldByOtherTransaction
  | notFound
  | ownershipMismatch
  deriving DecidableEq

structure PessimisticLockResponse where
  statusCode : ℕ
  status : LockStatus
  lockState : LockState
  reason : String
  lock : Option PessimisticLockRecord

structure PessimisticLockRequest where
  transactionId : String
  resource : String
  owner : String := "runtime-transaction-manager"
  ttlMs : ℕ := 30000
  waitTimeoutMs : ℕ := 0

@[irreducible] def trimmed (id : String) : String := String.ofList (trim id.toList)

structure Locks where
  lockTable : String → Option PessimisticLockRecord
  waitGraph : String → Option String
  lockCounter : ℕ

inductive DeadlockScanOutcome
  | noCycle
  | cycleDetected
  | scanCapReached

namespace Locks

variable (s : Locks) (maxHops : ℕ)

def scanFrom (s : Locks) (waitingTx : String) :
    (hops : ℕ) → (visitedTxs : List String) → (currentHolder : String) → DeadlockScanOutcome
  | 0, _, _ => .scanCapReached
  | hops + 1, visitedTxs, currentHolder =>
    if currentHolder ∈ visitedTxs then .cycleDetected
    else match (s.waitGraph currentHolder).bind s.lockTable with
      | none => .noCycle
      | some currentBlocker =>
        if currentBlocker.transactionId = waitingTx then .cycleDetected
        else scanFrom s waitingTx hops (currentHolder :: visitedTxs) currentBlocker.transactionId

def evaluateDeadlockScanOutcome (waitingTx holderTx : String) : DeadlockScanOutcome :=
  s.scanFrom waitingTx maxHops [] holderTx

def removeWait (tx : String) : Locks :=
  { s with waitGraph := Function.update s.waitGraph tx none }

def cleanupWaitEdgesForResource (resourceKey : String) : Locks :=
  { s with waitGraph := fun tx => (s.waitGraph tx).filter (· ≠ resourceKey) }

def removeLock (resourceKey : String) : Locks :=
  cleanupWaitEdgesForResource
    { s with lockTable := Function.update s.lockTable resourceKey none } resourceKey

def invalidRequest : PessimisticLockResponse :=
  ⟨400, .error, .invalidRequest, "transaction_id_and_resource_are_required", none⟩

def grant (tx resourceKey : String) (req : PessimisticLockRequest) (nowMs : ℕ) :
    Locks × PessimisticLockResponse :=
  let lock : PessimisticLockRecord :=
    { lockId := "plock-" ++ toString s.lockCounter
      transactionId := tx
      resource := resourceKey
      owner := trimmed req.owner
      acquiredUnixMs := nowMs
      expiresUnixMs := nowMs + req.ttlMs }
  let lockState := if (s.lockTable resourceKey).isSome then LockState.renewed else .acquired
  let s := s.removeWait tx
  ({ s with
      lockTable := Function.update s.lockTable resourceKey (some lock)
      lockCounter := s.lockCounter + 1 },
    ⟨200, .ok, lockState, "pessimistic_lock_granted", some lock⟩)

def refuse (tx resourceKey : String) (waitTimeoutMs : ℕ)
    (existing : PessimisticLockRecord) : Locks × PessimisticLockResponse :=
  if waitTimeoutMs > 0 then
    let s := { s with waitGraph := Function.update s.waitGraph tx (some resourceKey) }
    match s.evaluateDeadlockScanOutcome maxHops tx existing.transactionId with
    | .cycleDetected =>
      (s, ⟨409, .blocked, .deadlockRisk, "pessimistic_lock_deadlock_risk", some existing⟩)
    | .scanCapReached =>
      (s, ⟨408, .blocked, .waitTimeout, "pessimistic_lock_wait_timeout_scan_cap_reached",
        some existing⟩)
    | .noCycle =>
      (s, ⟨408, .blocked, .waitTimeout, "pessimistic_lock_wait_timeout", some existing⟩)
  else
    (s, ⟨409, .blocked, .heldByOtherTransaction, "pessimistic_lock_conflict", some existing⟩)

def acquirePessimisticLock (req : PessimisticLockRequest) (nowMs : ℕ) :
    Locks × PessimisticLockResponse :=
  let tx := trimmed req.transactionId
  let resourceKey := trimmed req.resource
  if tx = "" ∨ resourceKey = "" then (s, invalidRequest)
  else
    let s := s.removeWait tx
    match s.lockTable resourceKey with
    | some existing =>
      if existing.expiresUnixMs ≤ nowMs then
        (s.removeLock resourceKey).grant tx resourceKey req nowMs
      else if existing.transactionId ≠ tx then
        s.refuse maxHops tx resourceKey req.waitTimeoutMs existing
      else s.grant tx resourceKey req nowMs
    | none => s.grant tx resourceKey req nowMs

def releasePessimisticLock (transactionId resource : String) : Locks × PessimisticLockResponse :=
  let tx := trimmed transactionId
  let resourceKey := trimmed resource
  if tx = "" ∨ resourceKey = "" then (s, invalidRequest)
  else match s.lockTable resourceKey with
    | none => (s, ⟨404, .error, .notFound, "no_lock_for_resource", none⟩)
    | some existing =>
      if existing.transactionId ≠ tx then
        (s, ⟨409, .blocked, .ownershipMismatch, "lock_owned_by_different_transaction",
          some existing⟩)
      else
        ((s.removeLock resourceKey).removeWait tx,
          ⟨200, .ok, .released, "pessimistic_lock_released", some existing⟩)

def InTable (tx resourceKey : String) (expires : ℕ) : Prop :=
  ∃ lock, s.lockTable resourceKey = some lock ∧ lock.transactionId = tx ∧
    lock.expiresUnixMs = expires

structure Granted (s s' : Locks) (tx resourceKey : String) (nowMs expires : ℕ) : Prop where
  free : ∀ lock, s.lockTable resourceKey = some lock →
    lock.transactionId = tx ∨ lock.expiresUnixMs ≤ nowMs
  inTable : s'.InTable tx resourceKey expires
  others : ∀ r ≠ resourceKey, s'.lockTable r = s.lockTable r

structure Released (s s' : Locks) (tx resourceKey : String) : Prop where
  own : ∀ lock, s.lockTable resourceKey = some lock → lock.transactionId = tx
  others : ∀ r ≠ resourceKey, s'.lockTable r = s.lockTable r

theorem granted_grant {s s' : Locks} {tx res : String} {now : ℕ}
    (hfree : ∀ lock, s.lockTable res = some lock →
      lock.transactionId = tx ∨ lock.expiresUnixMs ≤ now)
    (hoths : ∀ r ≠ res, s'.lockTable r = s.lockTable r) (req : PessimisticLockRequest) :
    Granted s (s'.grant tx res req now).1 tx res now (now + req.ttlMs) where
  free := hfree
  inTable := ⟨_, update_self res _ s'.lockTable, rfl, rfl⟩
  others r hr := (update_of_ne hr _ s'.lockTable).trans (hoths r hr)

theorem refuse_spec (tx res : String) (wait : ℕ)
    (existing : PessimisticLockRecord) :
    (s.refuse maxHops tx res wait existing).2.status = .blocked ∧
      (s.refuse maxHops tx res wait existing).1.lockTable = s.lockTable := by
  unfold refuse
  split
  · dsimp only
    split <;> exact ⟨rfl, rfl⟩
  · exact ⟨rfl, rfl⟩

theorem acquirePessimisticLock_cases (req : PessimisticLockRequest) (now : ℕ) :
    (s.acquirePessimisticLock maxHops req now).2.status ≠ .ok ∧
        (s.acquirePessimisticLock maxHops req now).1.lockTable = s.lockTable ∨
      (s.acquirePessimisticLock maxHops req now).2.status = .ok ∧
        Granted s (s.acquirePessimisticLock maxHops req now).1 (trimmed req.transactionId)
          (trimmed req.resource) now (now + req.ttlMs) := by
  unfold acquirePessimisticLock
  dsimp only
  split
  · exact Or.inl ⟨nofun, rfl⟩
  cases htab : s.lockTable (trimmed req.resource) with
  | none =>
    simp only [removeWait, htab]
    refine Or.inr ⟨rfl, granted_grant (fun lock hlock => ?_) (fun _ _ => ?_) req⟩
    · cases htab.symm.trans hlock
    · rfl
  | some existing =>
    simp only [removeWait, htab]
    split_ifs with hexp hoth
    · refine Or.inr ⟨rfl, granted_grant (fun lock hlock => ?_) (fun r hr => ?_) req⟩
      · obtain rfl := some.inj (htab.symm.trans hlock)
        exact Or.inr hexp
      · exact update_of_ne hr _ s.lockTable
    · obtain ⟨hsta, hsame⟩ := refuse_spec (s.removeWait (trimmed req.transactionId)) maxHops
        (trimmed req.transactionId) (trimmed req.resource) req.waitTimeoutMs existing
      refine Or.inl ⟨?_, hsame⟩
      rw [← removeWait, hsta]
      exact nofun
    · refine Or.inr ⟨rfl, granted_grant (fun lock hlock => ?_) (fun _ _ => ?_) req⟩
      · obtain rfl := some.inj (htab.symm.trans hlock)
        exact Or.inl (not_not.mp hoth)
      · rfl

theorem releasePessimisticLock_cases (tx resource : String) :
    (s.releasePessimisticLock tx resource).1.lockTable = s.lockTable ∨
      (s.releasePessimisticLock tx resource).2.status = .ok ∧
        Released s (s.releasePessimisticLock tx resource).1 (trimmed tx)
          (trimmed resource) := by
  unfold releasePessimisticLock
  dsimp only
  split
  · exact Or.inl rfl
  cases htab : s.lockTable (trimmed resource) with
  | none => exact Or.inl rfl
  | some existing =>
    dsimp only
    split_ifs with hoth
    · exact Or.inl rfl
    · refine Or.inr ⟨rfl, fun lock hlock => ?_, fun r hr => update_of_ne hr _ s.lockTable⟩
      obtain rfl := some.inj (htab.symm.trans hlock)
      exact not_not.mp hoth

end Locks

/-! ### Runs -/

inductive LockCall
  | acquire (maxHops : ℕ) (req : PessimisticLockRequest) (nowMs : ℕ)
  | release (transactionId resource : String)

def LockCall.names : LockCall → String × String
  | .acquire _ req _ => (trimmed req.transactionId, trimmed req.resource)
  | .release transactionId resource => (trimmed transactionId, trimmed resource)

structure LockServer extends Locks where
  nowMs : ℕ

namespace LockServer

def answer (s : LockServer) : LockCall → Locks × PessimisticLockResponse
  | .acquire maxHops req nowMs => s.acquirePessimisticLock maxHops req nowMs
  | .release transactionId resource => s.releasePessimisticLock transactionId resource

def step (s : LockServer) (call : LockCall) : Option LockServer :=
  match call with
  | .acquire _ _ nowMs => if s.nowMs ≤ nowMs then some ⟨(s.answer call).1, nowMs⟩ else none
  | .release _ _ => some ⟨(s.answer call).1, s.nowMs⟩

def LeavesLock (tx resourceKey : String) (s : LockServer) (call : LockCall) : Prop :=
  call.names = (tx, resourceKey) → (s.answer call).2.status ≠ .ok

open Transition in
/-- **Granted, and not given back or renewed since.** -/
def HeldUntil (tx resourceKey : String) (expires : ℕ) (s : LockServer) : Prop :=
  ∃ (s₀ s₁ : LockServer) (maxHops : ℕ) (req : PessimisticLockRequest) (nowMs : ℕ),
    (LockCall.acquire maxHops req nowMs).names = (tx, resourceKey) ∧
      nowMs + req.ttlMs = expires ∧
      (s₀.acquirePessimisticLock maxHops req nowMs).2.status = .ok ∧
      s₀.step (.acquire maxHops req nowMs) = some s₁ ∧
      ReachableIf step (LeavesLock tx resourceKey) s₁ s

variable {tx resourceKey : String} {expires : ℕ} {s t : LockServer}

theorem of_step_acquire {hops now : ℕ} {req : PessimisticLockRequest}
    (h : s.step (.acquire hops req now) = some t) :
    s.nowMs ≤ now ∧ t.nowMs = now ∧
      t.toLocks = (s.acquirePessimisticLock hops req now).1 := by
  obtain ⟨hle, h⟩ := ite_none_right_eq_some.mp h
  rw [← some.inj h]
  exact ⟨hle, rfl, rfl⟩

theorem of_step_release {tx resource : String}
    (h : s.step (.release tx resource) = some t) :
    t.nowMs = s.nowMs ∧ t.toLocks = (s.releasePessimisticLock tx resource).1 := by
  rw [← some.inj h]
  exact ⟨rfl, rfl⟩

theorem nowMs_le_of_step {call : LockCall} (hstep : s.step call = some t) : s.nowMs ≤ t.nowMs := by
  cases call with
  | acquire maxHops req nowMs =>
    obtain ⟨hle, hnow, -⟩ := of_step_acquire hstep
    rw [hnow]
    exact hle
  | release transactionId resource => exact Nat.le_of_eq (of_step_release hstep).1.symm

theorem inTable_step {call : LockCall} (h : s.InTable tx resourceKey expires)
    (hlea : s.LeavesLock tx resourceKey call) (hstep : s.step call = some t) :
    t.InTable tx resourceKey expires ∨ expires ≤ t.nowMs := by
  obtain ⟨lock, hlock, rfl, rfl⟩ := h
  cases call with
  | acquire maxHops req nowMs =>
    obtain ⟨-, hnow, hloc⟩ := of_step_acquire hstep
    rw [hloc, hnow]
    rcases s.acquirePessimisticLock_cases maxHops req nowMs with
      ⟨-, hsame⟩ | ⟨hok, hfree, -, hoths⟩
    · exact Or.inl ⟨lock, (congrFun hsame _).trans hlock, rfl, rfl⟩
    · by_cases hres : resourceKey = trimmed req.resource
      · subst hres
        rcases hfree lock hlock with htx | hexp
        · exact absurd hok (hlea (Prod.ext htx.symm rfl))
        · exact Or.inr hexp
      · exact Or.inl ⟨lock, (hoths _ hres).trans hlock, rfl, rfl⟩
  | release transactionId resource =>
    rw [(of_step_release hstep).2]
    rcases s.releasePessimisticLock_cases transactionId resource with
      hsame | ⟨hok, hown, hoths⟩
    · exact Or.inl ⟨lock, (congrFun hsame _).trans hlock, rfl, rfl⟩
    · by_cases hres : resourceKey = trimmed resource
      · subst hres
        exact absurd hok (hlea (Prod.ext (hown lock hlock).symm rfl))
      · exact Or.inl ⟨lock, (hoths _ hres).trans hlock, rfl, rfl⟩

theorem HeldUntil.inTable (h : HeldUntil tx resourceKey expires s) (hnow : s.nowMs < expires) :
    s.InTable tx resourceKey expires := by
  obtain ⟨s₀, s₁, maxHops, req, nowMs, hnms, rfl, hok, hstep, hrun⟩ := h
  obtain ⟨rfl, rfl⟩ := Prod.mk.inj hnms
  have hst0 : s₁.InTable (trimmed req.transactionId) (trimmed req.resource)
      (nowMs + req.ttlMs) := by
    rw [(of_step_acquire hstep).2.2]
    rcases s₀.acquirePessimisticLock_cases maxHops req nowMs with ⟨href, -⟩ | ⟨-, hgra⟩
    · exact absurd hok href
    · exact hgra.inTable
  -- once the lock has expired, the clock stays behind the time it expired at
  have hinv := hrun.invariant (P := fun u => u.InTable (trimmed req.transactionId)
    (trimmed req.resource) (nowMs + req.ttlMs) ∨ nowMs + req.ttlMs ≤ u.nowMs) (Or.inl hst0)
    fun hkept hlea hstep => hkept.elim (inTable_step · hlea hstep)
      fun hexp => Or.inr (Nat.le_trans hexp (nowMs_le_of_step hstep))
  exact hinv.resolve_right (Nat.not_le.mpr hnow)

/-- **While a transaction has a lock, requests of others are refused.** -/
theorem mutual_exclusion (h : HeldUntil tx resourceKey expires s) :
    (∀ maxHops req nowMs, s.nowMs ≤ nowMs → nowMs < expires →
      trimmed req.resource = resourceKey → trimmed req.transactionId ≠ tx →
        (s.acquirePessimisticLock maxHops req nowMs).2.status ≠ .ok ∧
          (s.acquirePessimisticLock maxHops req nowMs).1.lockTable = s.lockTable) ∧
    ∀ tx' expires', HeldUntil tx' resourceKey expires' s → s.nowMs < expires →
      s.nowMs < expires' → tx' = tx := by
  constructor
  · rintro maxHops req nowMs hle hlt rfl hoth
    obtain ⟨lock, hlock, rfl, rfl⟩ := h.inTable (Nat.lt_of_le_of_lt hle hlt)
    rcases s.acquirePessimisticLock_cases maxHops req nowMs with href | ⟨-, hgra⟩
    · exact href
    · rcases hgra.free lock hlock with htx | hexp
      · exact absurd htx.symm hoth
      · exact absurd hexp (Nat.not_le.mpr hlt)
  · intro tx' expires' h' hnow hnow'
    obtain ⟨lock, hlock, rfl, -⟩ := h.inTable hnow
    obtain ⟨lock', hlock', rfl, -⟩ := h'.inTable hnow'
    rw [some.inj (hlock'.symm.trans hlock)]

def unlocked : LockServer := ⟨⟨fun _ => none, fun _ => none, 1⟩, 0⟩

def lockedByT : LockServer :=
  ⟨(unlocked.acquirePessimisticLock 8 ⟨"t", "r", "ann", 1000, 0⟩ 5).1, 5⟩

theorem second_refused :
    (lockedByT.acquirePessimisticLock 8 ⟨"u", " r ", "bob", 1000, 20⟩ 1004).2.status ≠ .ok := by
  have hheld : HeldUntil "t" "r" 1005 lockedByT :=
    ⟨unlocked, lockedByT, 8, ⟨"t", "r", "ann", 1000, 0⟩, 5, by decide +kernel, rfl,
      by decide +kernel, rfl, .refl⟩
  exact ((mutual_exclusion hheld).1 8 ⟨"u", " r ", "bob", 1000, 20⟩ 1004 (by decide) (by decide)
    (by decide +kernel) (by decide +kernel)).1

end LockServer

end VngDatabase.Tx
