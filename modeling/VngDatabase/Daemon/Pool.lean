import Mathlib

/-!
# The pool of connections

`ConnectionPoolManager` of `drivers/voltnuerongrid-driver-rust/src/lib.rs`, from which every request
for SQL takes a connection. It carries the proof that no two connections have the same identifier.
-/

namespace VngDatabase.Daemon

open List

variable (policy : PoolBackpressurePolicy)

/-! ### Changing the first one of a list -/

section

variable {α β : Type} (p : α → Bool) (f : α → α)

def modifyFirst : List α → List α
  | [] => []
  | a :: l => if p a then f a :: l else a :: modifyFirst l

variable {p f} {l : List α}

theorem map_modifyFirst {g : α → β} (h : ∀ a, g (f a) = g a) (l : List α) :
    (modifyFirst p f l).map g = l.map g := by
  induction l with
  | nil => rfl
  | cons a l ih =>
    rw [modifyFirst]
    split_ifs <;> simp [h, ih]

theorem mem_modifyFirst {a : α} (h : l.find? p = some a) : f a ∈ modifyFirst p f l := by
  induction l with
  | nil => cases h
  | cons b l ih =>
    rw [modifyFirst]
    by_cases hb : p b
    · rw [find?_cons_of_pos hb] at h
      rw [if_pos hb, Option.some.inj h]
      exact mem_cons_self
    · rw [find?_cons_of_neg hb] at h
      rw [if_neg hb]
      exact mem_cons_of_mem b (ih h)

theorem countP_modifyFirst {a : α} (q : α → Bool) (h : l.find? p = some a) :
    (modifyFirst p f l).countP q + (if q a then 1 else 0) =
      l.countP q + if q (f a) then 1 else 0 := by
  induction l with
  | nil => cases h
  | cons b l ih =>
    rw [modifyFirst]
    by_cases hb : p b
    · rw [find?_cons_of_pos hb] at h
      rw [if_pos hb, Option.some.inj h, countP_cons, countP_cons]
      omega
    · rw [find?_cons_of_neg hb] at h
      have := ih h
      rw [if_neg hb, countP_cons, countP_cons]
      omega

theorem find?_of_nodup_map [DecidableEq β] {g : α → β} (h : (l.map g).Nodup)
    {a : α} (ha : a ∈ l) : (l.find? fun b => g b = g a) = some a := by
  induction l with
  | nil => cases ha
  | cons b l ih =>
    rw [map_cons, nodup_cons] at h
    rcases mem_cons.mp ha with rfl | hmem
    · exact find?_cons_of_pos (by simp)
    · have hne : g b ≠ g a := fun he => h.1 (he ▸ mem_map_of_mem hmem)
      rw [find?_cons_of_neg (by simpa using hne)]
      exact ih h.2 hmem

end

inductive PoolConnectionState
  | idle
  | active
  | healthChecking
  | failed
  deriving DecidableEq

structure PooledConnection where
  connectionId : String
  state : PoolConnectionState
  lastUsedMs : ℕ

namespace PooledConnection

variable (c : PooledConnection)

def new (id : String) (nowMs : ℕ) : PooledConnection := ⟨id, .idle, nowMs⟩

def isIdle : Bool := c.state = .idle

def isActive : Bool := c.state = .active

def isHealthy (nowMs idleTimeoutMs : ℕ) : Bool :=
  c.state ≠ .failed && nowMs - c.lastUsedMs < idleTimeoutMs

def markActive (nowMs : ℕ) (c : PooledConnection) : PooledConnection :=
  { c with state := .active, lastUsedMs := nowMs }

def markIdle (nowMs : ℕ) (c : PooledConnection) : PooledConnection :=
  { c with state := .idle, lastUsedMs := nowMs }

end PooledConnection

def connName (i : ℕ) : String := "conn-" ++ toString i

theorem connName_injective : Function.Injective connName := by
  intro i j h
  have hlist := congrArg String.toList h
  rw [connName, connName, String.toList_append, String.toList_append] at hlist
  have hdig : Nat.toDigits 10 i = Nat.toDigits 10 j := by
    rw [← Nat.toList_repr, ← Nat.toList_repr]
    exact append_cancel_left hlist
  rw [← Nat.ofDigitChars_toDigits (b := 10) (n := i) (by decide) le_rfl, hdig,
    Nat.ofDigitChars_toDigits (by decide) le_rfl]

/-! ### The pool -/

inductive PoolCircuitBreakerState
  | closed
  | opened (openedAtMs failureCount : ℕ)
  | halfOpen
  deriving DecidableEq

structure PoolBackpressurePolicy where
  maxPoolSize : ℕ := 50
  minPoolSize : ℕ := 5
  idleTimeoutMs : ℕ := 60000
  maxQueueDepth : ℕ := 200
  circuitBreakerResetMs : ℕ := 30000
  stormDetectionWindowMs : ℕ := 1000
  stormDetectionRpsThreshold : ℕ := 500

structure StormDetector where
  requestTimestampsMs : List ℕ := []
  stormActive : Bool := false

namespace StormDetector

def currentRps (timestamps : List ℕ) : ℕ :=
  timestamps.length / max (max policy.stormDetectionWindowMs 1 / 1000) 1

def recordRequest (d : StormDetector) (nowMs : ℕ) : StormDetector :=
  let timestamps := (d.requestTimestampsMs ++ [nowMs]).filter fun ts =>
    nowMs - ts ≤ max policy.stormDetectionWindowMs 1
  let rps := currentRps policy timestamps
  { requestTimestampsMs := timestamps
    stormActive :=
      if rps ≥ policy.stormDetectionRpsThreshold && !d.stormActive then true
      else if rps < policy.stormDetectionRpsThreshold / 2 && d.stormActive then false
      else d.stormActive }

end StormDetector

inductive PoolAcquireError
  | poolExhausted (activeCount max : ℕ)
  | circuitOpen (failureCount resetInMs : ℕ)
  | stormRejection (currentRps threshold : ℕ)
  deriving DecidableEq

structure ConnectionPoolManager where
  connections : List PooledConnection
  policy : PoolBackpressurePolicy
  circuitBreaker : PoolCircuitBreakerState
  stormDetector : StormDetector
  connectionCounter : ℕ
  totalReleased : ℕ
  nodup : (connections.map PooledConnection.connectionId).Nodup
  numbered : ∀ c ∈ connections, ∃ i ≤ connectionCounter, c.connectionId = connName i

namespace ConnectionPoolManager

theorem nodup_new :
    (((List.range policy.minPoolSize).map fun i => PooledConnection.new (connName (i + 1)) 0).map
      PooledConnection.connectionId).Nodup := by
  rw [map_map]
  refine List.Nodup.map ?_ nodup_range
  intro i j h
  exact Nat.succ.inj (connName_injective h)

def new : ConnectionPoolManager where
  connections :=
    (List.range policy.minPoolSize).map fun i => PooledConnection.new (connName (i + 1)) 0
  policy := policy
  circuitBreaker := .closed
  stormDetector := {}
  connectionCounter := policy.minPoolSize
  totalReleased := 0
  nodup := nodup_new policy
  numbered := by
    intro c hc
    obtain ⟨i, hi, rfl⟩ := List.mem_map.mp hc
    exact ⟨i + 1, List.mem_range.mp hi, rfl⟩

def withDefaultPolicy : ConnectionPoolManager := new {}

variable (pool : ConnectionPoolManager) (nowMs : ℕ)

def activeCount : ℕ := pool.connections.countP PooledConnection.isActive

def modify (p : PooledConnection → Bool) (f : PooledConnection → PooledConnection)
    (hf : ∀ c, (f c).connectionId = c.connectionId) : ConnectionPoolManager :=
  { pool with
    connections := modifyFirst p f pool.connections
    nodup := by
      rw [map_modifyFirst hf]
      exact pool.nodup
    numbered := by
      intro c hc
      have hid : c.connectionId ∈ pool.connections.map PooledConnection.connectionId := by
        rw [← map_modifyFirst hf]
        exact List.mem_map_of_mem hc
      obtain ⟨c', hc', he⟩ := List.mem_map.mp hid
      rw [← he]
      exact pool.numbered c' hc' }

theorem notMem_of_lt {i : ℕ} (h : pool.connectionCounter < i) :
    connName i ∉ pool.connections.map PooledConnection.connectionId := by
  intro hmem
  obtain ⟨c, hc, he⟩ := mem_map.mp hmem
  obtain ⟨j, hj, hname⟩ := pool.numbered c hc
  exact absurd (connName_injective (hname.symm.trans he)) (by omega)

def grow : ConnectionPoolManager :=
  { pool with
    connectionCounter := pool.connectionCounter + 1
    connections := pool.connections ++
      [(PooledConnection.new (connName (pool.connectionCounter + 1)) nowMs).markActive nowMs]
    nodup := by
      rw [List.map_append, List.map_singleton, List.nodup_append]
      refine ⟨pool.nodup, List.nodup_singleton _, ?_⟩
      rintro a ha b hb rfl
      rw [List.mem_singleton.mp hb] at ha
      exact pool.notMem_of_lt (Nat.lt_succ_self _) ha
    numbered := by
      intro c hc
      rcases List.mem_append.mp hc with hc | hc
      · obtain ⟨i, hi, he⟩ := pool.numbered c hc
        exact ⟨i, Nat.le_succ_of_le hi, he⟩
      · rw [List.mem_singleton.mp hc]
        exact ⟨_, le_rfl, rfl⟩ }

def closeCircuit : ConnectionPoolManager :=
  if pool.circuitBreaker = .halfOpen then { pool with circuitBreaker := .closed } else pool

def isFree (c : PooledConnection) : Bool :=
  c.isIdle && c.isHealthy nowMs pool.policy.idleTimeoutMs

def takeConnection : ConnectionPoolManager × Except PoolAcquireError String :=
  match pool.connections.find? (pool.isFree nowMs) with
  | some c =>
    ((pool.modify (pool.isFree nowMs) (PooledConnection.markActive nowMs) fun _ =>
      rfl).closeCircuit, .ok c.connectionId)
  | none =>
    if pool.connections.length < pool.policy.maxPoolSize then
      ((pool.grow nowMs).closeCircuit, .ok (connName (pool.connectionCounter + 1)))
    else (pool, .error (.poolExhausted pool.activeCount pool.policy.maxPoolSize))

def acquire : ConnectionPoolManager × Except PoolAcquireError String :=
  let noted := { pool with stormDetector := pool.stormDetector.recordRequest pool.policy nowMs }
  if noted.stormDetector.stormActive &&
      min pool.policy.maxQueueDepth pool.policy.maxPoolSize ≤ pool.activeCount then
    (noted, .error (.stormRejection
      (StormDetector.currentRps pool.policy noted.stormDetector.requestTimestampsMs)
      pool.policy.stormDetectionRpsThreshold))
  else match noted.circuitBreaker with
    | .opened openedAtMs failureCount =>
      if nowMs - openedAtMs < pool.policy.circuitBreakerResetMs then
        (noted, .error (.circuitOpen failureCount
          (pool.policy.circuitBreakerResetMs - (nowMs - openedAtMs))))
      else takeConnection { noted with circuitBreaker := .halfOpen } nowMs
    | _ => noted.takeConnection nowMs

def release (connectionId : String) (nowMs : ℕ) : ConnectionPoolManager :=
  if pool.connections.any fun c => c.connectionId = connectionId then
    { pool.modify (fun c => c.connectionId = connectionId) (PooledConnection.markIdle nowMs)
        (fun _ => rfl) with totalReleased := pool.totalReleased + 1 }
  else pool

variable {pool} {connectionId : String}

@[simp]
theorem connections_closeCircuit (pool : ConnectionPoolManager) :
    pool.closeCircuit.connections = pool.connections := by
  rw [closeCircuit]
  split_ifs <;> rfl

@[simp]
theorem totalReleased_closeCircuit (pool : ConnectionPoolManager) :
    pool.closeCircuit.totalReleased = pool.totalReleased := by
  rw [closeCircuit]
  split_ifs <;> rfl

def InUse (pool : ConnectionPoolManager) (connectionId : String) : Prop :=
  ∃ c, (pool.connections.find? fun c => c.connectionId = connectionId) = some c ∧ c.isActive

structure Acquired (pool pool' : ConnectionPoolManager)
    (result : Except PoolAcquireError String) : Prop where
  totalReleased : pool'.totalReleased = pool.totalReleased
  activeCount : pool'.activeCount = pool.activeCount + if result.isOk then 1 else 0
  inUse : ∀ connectionId, result = .ok connectionId → pool'.InUse connectionId

theorem inUse_of_mem (pool : ConnectionPoolManager) {c : PooledConnection}
    (hc : c ∈ pool.connections) (hact : c.isActive) : pool.InUse c.connectionId :=
  ⟨c, find?_of_nodup_map pool.nodup hc, hact⟩

theorem takeConnection_acquired (pool : ConnectionPoolManager) (now : ℕ) :
    pool.Acquired (pool.takeConnection now).1 (pool.takeConnection now).2 := by
  rw [takeConnection]
  cases hfind : pool.connections.find? (pool.isFree now) with
  | some c =>
    have hfree : pool.isFree now c := find?_some hfind
    have hidle : c.isIdle := (Bool.and_eq_true_iff.mp hfree).1
    have hsta : c.state = .idle := by simpa [PooledConnection.isIdle] using hidle
    have hcnt := countP_modifyFirst (f := PooledConnection.markActive now)
      PooledConnection.isActive hfind
    refine ⟨by rw [totalReleased_closeCircuit]; rfl, ?_, ?_⟩
    · rw [activeCount, connections_closeCircuit]
      have hbef : c.isActive = false := by simp [PooledConnection.isActive, hsta]
      rw [hbef] at hcnt
      exact hcnt
    · intro id hid
      rw [← Except.ok.inj hid, InUse, connections_closeCircuit]
      exact inUse_of_mem (c := c.markActive now)
        (pool.modify _ (PooledConnection.markActive now) fun _ => rfl)
        (mem_modifyFirst hfind) rfl
  | none =>
    dsimp only
    split_ifs
    · refine ⟨by rw [totalReleased_closeCircuit]; rfl, ?_, ?_⟩
      · rw [activeCount, connections_closeCircuit, grow, countP_append, activeCount]
        rfl
      · intro id hid
        rw [← Except.ok.inj hid, InUse, connections_closeCircuit]
        exact inUse_of_mem (pool.grow now)
          (c := (PooledConnection.new (connName (pool.connectionCounter + 1)) now).markActive
            now) (by simp [grow]) rfl
    · exact ⟨rfl, rfl, fun _ h => by cases h⟩

theorem activeCount_acquire (pool : ConnectionPoolManager) (now : ℕ) :
    pool.Acquired (pool.acquire now).1 (pool.acquire now).2 := by
  have hsame : ∀ {pool' : ConnectionPoolManager} {e : PoolAcquireError},
      pool'.totalReleased = pool.totalReleased → pool'.connections = pool.connections →
        pool.Acquired pool' (.error e) := by
    intro pool' e hrel hcns
    refine ⟨hrel, ?_, fun _ h => by cases h⟩
    rw [activeCount, hcns]
    rfl
  unfold acquire
  dsimp only
  split_ifs
  · exact hsame rfl rfl
  · split
    · split_ifs
      · exact hsame rfl rfl
      · obtain ⟨hrel, hcnt, hinU⟩ := takeConnection_acquired
          { pool with
            stormDetector := pool.stormDetector.recordRequest pool.policy now
            circuitBreaker := .halfOpen } now
        exact ⟨hrel, hcnt, hinU⟩
    · obtain ⟨hrel, hcnt, hinU⟩ := takeConnection_acquired
        { pool with stormDetector := pool.stormDetector.recordRequest pool.policy now } now
      exact ⟨hrel, hcnt, hinU⟩

theorem exists_takeConnection (h : pool.connections.length < pool.policy.maxPoolSize)
    (now : ℕ) : ∃ pool' conn, pool.takeConnection now = (pool', .ok conn) := by
  rw [takeConnection]
  split
  · exact ⟨_, _, rfl⟩
  · rw [if_pos h]
    exact ⟨_, _, rfl⟩

theorem exists_acquire_withDefaultPolicy (now : ℕ) :
    ∃ pool conn, withDefaultPolicy.acquire now = (pool, .ok conn) := by
  have hcalm : ¬min withDefaultPolicy.policy.maxQueueDepth withDefaultPolicy.policy.maxPoolSize ≤
      withDefaultPolicy.activeCount := by decide
  have hroom : withDefaultPolicy.connections.length < withDefaultPolicy.policy.maxPoolSize := by
    decide
  rw [acquire, decide_eq_false hcalm, Bool.and_false, if_neg Bool.false_ne_true]
  refine exists_takeConnection ?_ now
  exact hroom

theorem activeCount_release (h : pool.InUse connectionId) (now : ℕ) :
    (pool.release connectionId now).activeCount + 1 = pool.activeCount ∧
      (pool.release connectionId now).totalReleased = pool.totalReleased + 1 := by
  obtain ⟨c, hfind, hact⟩ := h
  have hid : decide (c.connectionId = connectionId) := by simpa using find?_some hfind
  have hany : pool.connections.any fun c => c.connectionId = connectionId :=
    any_eq_true.mpr ⟨c, mem_of_find?_eq_some hfind, hid⟩
  have hcnt := countP_modifyFirst (f := PooledConnection.markIdle now)
    PooledConnection.isActive hfind
  rw [release, if_pos hany]
  refine ⟨?_, rfl⟩
  rw [if_pos hact] at hcnt
  exact hcnt

theorem ne_release {pool' : ConnectionPoolManager} {now : ℕ}
    (h : pool.acquire now = (pool', .ok connectionId)) (nowMs' : ℕ) :
    pool' ≠ pool'.release connectionId nowMs' := by
  have hinU : pool'.InUse connectionId :=
    (congrArg Prod.fst h ▸ pool.activeCount_acquire now).inUse _ (congrArg Prod.snd h)
  have hcnt := (activeCount_release hinU nowMs').1
  intro he
  rw [← he] at hcnt
  omega

end ConnectionPoolManager

end VngDatabase.Daemon
