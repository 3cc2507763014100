import VngDatabase.Tx.Locks
import VngDatabase.Walks

/-!
# Reports of deadlocks

`evaluate_deadlock_scan_outcome` of `services/voltnuerongridd/src/helpers/execution.rs` follows the
locks of the table without looking at the time, and a lock that has expired stays in the table
until somebody asks for it.
-/

namespace VngDatabase.Tx.Locks

open Relation Walks

variable (s : Locks) (held : PessimisticLockRecord → Prop)

def WaitsFor (a b : String) : Prop :=
  ∃ lock ∈ (s.waitGraph a).bind s.lockTable, held lock ∧ lock.transactionId = b

/-- **The walk from the holder** closes, on the transaction or in a cycle. -/
def Deadlocked (waitingTx holderTx : String) : Prop :=
  TransGen (s.WaitsFor held) holderTx waitingTx ∨ Closes (s.WaitsFor held) holderTx

theorem rightUnique_waitsFor : Relator.RightUnique (s.WaitsFor held) := by
  rintro a b c ⟨lock, hlock, -, rfl⟩ ⟨lock', hlock', -, rfl⟩
  rw [Option.mem_unique hlock hlock']

variable {s held} {waitingTx holderTx : String}

/-! ### The scan -/

/-- **The scan finds a cycle iff there is one.** -/
theorem scanFrom_eq_cycleDetected_iff {txs : Finset String}
    (hhol : ∀ r lock, s.lockTable r = some lock → lock.transactionId ∈ txs)
    (hwai : s.WaitsFor (fun _ => True) waitingTx holderTx) (hops : ℕ) :
    ∀ (visited : List String) (cur : String), visited.Nodup → (∀ v ∈ visited, v ∈ txs) →
      (∀ v ∈ visited, TransGen (s.WaitsFor fun _ => True) v cur) →
      ReflTransGen (s.WaitsFor fun _ => True) holderTx cur → cur ∈ txs →
      txs.card < visited.length + hops →
      (s.scanFrom waitingTx hops visited cur = .cycleDetected ↔
        Closes (s.WaitsFor fun _ => True) cur) := by
  induction hops with
  | zero =>
    intro visited cur hnd hsub _ _ _ hcard
    have := Finset.card_le_card (s := visited.toFinset) (t := txs) fun v hv =>
      hsub v (List.mem_toFinset.mp hv)
    rw [List.toFinset_card_of_nodup hnd] at this
    omega
  | succ hops ih =>
    intro visited cur hnd hsub hback hrch hcur hcard
    rw [scanFrom]
    split_ifs with hseen
    · exact iff_of_true rfl ⟨cur, .refl, hback cur hseen⟩
    cases hlock : (s.waitGraph cur).bind s.lockTable with
    | none =>
      refine iff_of_false nofun fun hclo => ?_
      obtain ⟨_, lock, hlock', -⟩ := hclo.exists_step
      cases hlock.symm.trans hlock'
    | some lock =>
      have hstep : s.WaitsFor (fun _ => True) cur lock.transactionId := ⟨lock, hlock, trivial, rfl⟩
      dsimp only
      split_ifs with hself
      · rw [hself] at hstep
        exact iff_of_true rfl ⟨cur, .refl, .head hstep (.head' hwai hrch)⟩
      obtain ⟨r, -, hr⟩ := Option.bind_eq_some_iff.mp hlock
      rw [ih (cur :: visited) lock.transactionId (List.nodup_cons.mpr ⟨hseen, hnd⟩)
        (List.forall_mem_cons.mpr ⟨hcur, hsub⟩)
        (List.forall_mem_cons.mpr ⟨.single hstep, fun v hv => (hback v hv).tail hstep⟩)
        (hrch.tail hstep) (hhol r lock hr) (by rw [List.length_cons]; omega)]
      exact ⟨.head hstep, .of_step (s.rightUnique_waitsFor _) hstep⟩

theorem refuse_of_wait (hops : ℕ) {wait : ℕ} (hwait : 0 < wait)
    (tx res : String) (existing : PessimisticLockRecord) :
    let t := (s.refuse hops tx res wait existing).1
    t.lockTable = s.lockTable ∧ t.waitGraph tx = some res ∧
      ((s.refuse hops tx res wait existing).2.lockState = .deadlockRisk ↔
        t.scanFrom tx hops [] existing.transactionId = .cycleDetected) := by
  rw [refuse, if_pos hwait]
  dsimp only [evaluateDeadlockScanOutcome]
  split <;> simp_all

theorem acquirePessimisticLock_blocked {hops now : ℕ} {req : PessimisticLockRequest}
    {lock : PessimisticLockRecord}
    (hblk : (s.acquirePessimisticLock hops req now).2.status = .blocked)
    (hlock : (s.acquirePessimisticLock hops req now).2.lock = some lock) :
    s.lockTable (trimmed req.resource) = some lock ∧ now < lock.expiresUnixMs ∧
      s.acquirePessimisticLock hops req now =
        (s.removeWait (trimmed req.transactionId)).refuse hops (trimmed req.transactionId)
          (trimmed req.resource) req.waitTimeoutMs lock := by
  unfold acquirePessimisticLock at hblk hlock ⊢
  dsimp only at hblk hlock ⊢
  split_ifs at hblk hlock ⊢ with hemp
  · cases hblk
  have htab (tx : String) : (s.removeWait tx).lockTable = s.lockTable := rfl
  rw [htab] at hblk hlock ⊢
  cases hold : s.lockTable (trimmed req.resource) with
  | none =>
    rw [hold] at hblk
    cases hblk
  | some existing =>
    rw [hold] at hblk hlock
    dsimp only at hblk hlock ⊢
    split_ifs at hblk hlock ⊢ with hexp hoth
    · cases hblk
    · obtain rfl : existing = lock := by
        rw [refuse] at hlock
        split_ifs at hlock
        · dsimp only at hlock
          split at hlock <;> exact Option.some.inj hlock
        · exact Option.some.inj hlock
      exact ⟨rfl, Nat.lt_of_not_le hexp, rfl⟩
    · cases hblk

/-- **Reports of deadlocks are exact iff** every lock on a closing walk is unexpired. -/
theorem deadlock_report_exact_iff {maxHops nowMs : ℕ} {req : PessimisticLockRequest}
    {lock : PessimisticLockRecord} {txs : Finset String}
    (hholders : ∀ r lock, s.lockTable r = some lock → lock.transactionId ∈ txs)
    (hbudget : txs.card < maxHops) (hwait : 0 < req.waitTimeoutMs)
    (hblocked : (s.acquirePessimisticLock maxHops req nowMs).2.status = .blocked)
    (hlock : (s.acquirePessimisticLock maxHops req nowMs).2.lock = some lock) :
    let t := (s.acquirePessimisticLock maxHops req nowMs).1
    let tx := trimmed req.transactionId
    ((s.acquirePessimisticLock maxHops req nowMs).2.lockState = .deadlockRisk ↔
        t.Deadlocked (nowMs < ·.expiresUnixMs) tx lock.transactionId) ↔
      (t.Deadlocked (fun _ => True) tx lock.transactionId →
        ∀ b, ReflTransGen (t.WaitsFor fun _ => True) lock.transactionId b →
          ∀ l ∈ (t.waitGraph b).bind t.lockTable, nowMs < l.expiresUnixMs) := by
  obtain ⟨htab, hlive, heq⟩ := acquirePessimisticLock_blocked hblocked hlock
  rw [heq]
  intro t tx
  obtain ⟨hsame, hgra, hcode⟩ := refuse_of_wait (s := s.removeWait tx) maxHops hwait tx
    (trimmed req.resource) lock
  have hedge {held : PessimisticLockRecord → Prop} (h : held lock) :
      t.WaitsFor held tx lock.transactionId := by
    refine ⟨lock, ?_, h, rfl⟩
    rw [hgra, hsame]
    exact htab
  have hhol' : ∀ r lock, t.lockTable r = some lock → lock.transactionId ∈ txs := by
    rwa [hsame]
  rw [scanFrom_eq_cycleDetected_iff hhol' (hedge trivial) maxHops [] lock.transactionId .nil
    nofun nofun .refl (hholders _ _ htab)
    (by rwa [List.length_nil, Nat.zero_add])] at hcode
  have hdead {held : PessimisticLockRecord → Prop} (h : t.WaitsFor held tx lock.transactionId) :
      t.Deadlocked held tx lock.transactionId ↔ Closes (t.WaitsFor held) lock.transactionId :=
    or_iff_right_of_imp fun hback => ⟨_, .refl, hback.tail h⟩
  rw [hcode, hdead (hedge hlive), hdead (hedge trivial),
    closes_iff_closes_iff (t.rightUnique_waitsFor _) fun a b ⟨l, hl, _, hb⟩ => ⟨l, hl, trivial, hb⟩]
  refine imp_congr_right fun _ => forall_congr' fun b => ?_
  constructor
  · intro h hb l hl
    obtain ⟨l', hl', hlive', -⟩ := h _ hb ⟨l, hl, trivial, rfl⟩
    rwa [Option.mem_unique hl hl']
  · rintro h c hb ⟨l, hl, -, rfl⟩
    exact ⟨l, hl, h hb l hl, rfl⟩

def expiredBehind : Locks where
  lockTable r := if r = "r" then some ⟨"plock-1", "h", r, "ann", 0, 100⟩
    else if r = "q" then some ⟨"plock-2", "t", r, "bob", 0, 3⟩ else none
  waitGraph tx := if tx = "h" then some "q" else none
  lockCounter := 3

def askForR : PessimisticLockRequest := ⟨"t", "r", "bob", 1000, 20⟩

theorem expiredBehind_holders : ∀ r lock, expiredBehind.lockTable r = some lock →
    lock.transactionId ∈ ({"h", "t"} : Finset String) := by
  intro r lock hlock
  unfold expiredBehind at hlock
  dsimp only at hlock
  split_ifs at hlock <;> cases hlock <;> simp

theorem deadlock_reported_behind_expired_lock :
    (expiredBehind.acquirePessimisticLock 8 askForR 5).2.lockState = .deadlockRisk ∧
      ¬(expiredBehind.acquirePessimisticLock 8 askForR 5).1.Deadlocked (5 < ·.expiresUnixMs)
        "t" "h" := by
  have hstep : ∀ lock ∈ ((expiredBehind.acquirePessimisticLock 8 askForR 5).1.waitGraph "h").bind
      (expiredBehind.acquirePessimisticLock 8 askForR 5).1.lockTable, ¬5 < lock.expiresUnixMs := by
    decide +kernel
  refine ⟨by decide +kernel, ?_⟩
  rintro (hback | hclo)
  · obtain ⟨_, ⟨lock, hlock, hlive, -⟩, -⟩ := TransGen.head'_iff.mp hback
    exact hstep lock hlock hlive
  · obtain ⟨_, lock, hlock, hlive, -⟩ := hclo.exists_step
    exact hstep lock hlock hlive

theorem deadlock_report_exact_iff_expiredBehind :
    let t := (expiredBehind.acquirePessimisticLock 8 askForR 5).1
    ((expiredBehind.acquirePessimisticLock 8 askForR 5).2.lockState = .deadlockRisk ↔
        t.Deadlocked (5 < ·.expiresUnixMs) (trimmed "t") "h") ↔
      (t.Deadlocked (fun _ => True) (trimmed "t") "h" →
        ∀ b, ReflTransGen (t.WaitsFor fun _ => True) "h" b →
          ∀ l ∈ (t.waitGraph b).bind t.lockTable, 5 < l.expiresUnixMs) :=
  deadlock_report_exact_iff expiredBehind_holders (by decide) (by decide) (by decide +kernel)
    (show _ = some (⟨"plock-1", "h", "r", "ann", 0, 100⟩ : PessimisticLockRecord) by decide +kernel)

end VngDatabase.Tx.Locks
