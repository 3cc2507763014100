import VngDatabase.Daemon.Pool

/-!
# Connections that nobody uses

A connection that has not been used for longer than the idle timeout is not handed out again, but
nothing takes it out of the pool. So a pool may be full of connections that nobody holds and nobody
can get.
-/

namespace VngDatabase.Daemon

open List

/-! ### What is in a list of which one was changed -/

section

variable {α : Type} {p : α → Bool} {f : α → α} {l : List α}

theorem mem_of_mem_modifyFirst {a : α} (h : a ∈ modifyFirst p f l) :
    a ∈ l ∨ ∃ b, l.find? p = some b ∧ a = f b := by
  induction l with
  | nil => cases h
  | cons b l ih =>
    rw [modifyFirst] at h
    split_ifs at h with hb
    · rcases mem_cons.mp h with rfl | hmem
      · exact Or.inr ⟨b, find?_cons_of_pos hb, rfl⟩
      · exact Or.inl (mem_cons_of_mem b hmem)
    · rcases mem_cons.mp h with rfl | hmem
      · exact Or.inl mem_cons_self
      · rw [find?_cons_of_neg hb]
        exact (ih hmem).imp_left (mem_cons_of_mem b)

end

namespace ConnectionPoolManager

variable {pool : ConnectionPoolManager} {connectionId : String}

@[simp]
theorem policy_closeCircuit (pool : ConnectionPoolManager) :
    pool.closeCircuit.policy = pool.policy := by
  rw [closeCircuit]
  split_ifs <;> rfl

inductive Taken (nowMs : ℕ) (before : List PooledConnection) :
    List PooledConnection → Except PoolAcquireError String → Prop
  | reused {p : PooledConnection → Bool} {c : PooledConnection} (hfind : before.find? p = some c) :
      Taken nowMs before (modifyFirst p (PooledConnection.markActive nowMs) before)
        (.ok c.connectionId)
  | grown (id : String) :
      Taken nowMs before (before ++ [(PooledConnection.new id nowMs).markActive nowMs]) (.ok id)
  | refused (e : PoolAcquireError) : Taken nowMs before before (.error e)

theorem takeConnection_taken (pool : ConnectionPoolManager) (now : ℕ) :
    (pool.takeConnection now).1.policy = pool.policy ∧
      Taken now pool.connections (pool.takeConnection now).1.connections
        (pool.takeConnection now).2 := by
  rw [takeConnection]
  cases hfind : pool.connections.find? (pool.isFree now) with
  | some c =>
    dsimp only
    rw [policy_closeCircuit, connections_closeCircuit]
    exact ⟨rfl, .reused hfind⟩
  | none =>
    dsimp only
    split_ifs
    · rw [policy_closeCircuit, connections_closeCircuit]
      exact ⟨rfl, .grown _⟩
    · exact ⟨rfl, .refused _⟩

theorem acquire_taken (pool : ConnectionPoolManager) (now : ℕ) :
    (pool.acquire now).1.policy = pool.policy ∧
      Taken now pool.connections (pool.acquire now).1.connections
        (pool.acquire now).2 := by
  unfold acquire
  dsimp only
  split_ifs
  · exact ⟨rfl, .refused _⟩
  · split
    · split_ifs
      · exact ⟨rfl, .refused _⟩
      · exact takeConnection_taken
          { pool with
            stormDetector := pool.stormDetector.recordRequest pool.policy now
            circuitBreaker := .halfOpen } now
    · exact takeConnection_taken
        { pool with stormDetector := pool.stormDetector.recordRequest pool.policy now } now

def Knows (pool : ConnectionPoolManager) (connectionId : String) : Prop :=
  ∃ c ∈ pool.connections, c.connectionId = connectionId

instance (pool : ConnectionPoolManager) (connectionId : String) :
    Decidable (pool.Knows connectionId) :=
  inferInstanceAs (Decidable (∃ c ∈ pool.connections, c.connectionId = connectionId))

theorem policy_release (pool : ConnectionPoolManager) (conn : String) (now : ℕ) :
    (pool.release conn now).policy = pool.policy := by
  rw [release]
  split_ifs <;> rfl

theorem release_of_not_knows (h : ¬pool.Knows connectionId) (now : ℕ) :
    pool.release connectionId now = pool := by
  rw [release, if_neg]
  intro hany
  obtain ⟨c, hc, hid⟩ := any_eq_true.mp hany
  exact h ⟨c, hc, of_decide_eq_true hid⟩

theorem mem_release (h : pool.Knows connectionId) (now : ℕ) :
    (∃ c ∈ pool.connections, c.markIdle now ∈ (pool.release connectionId now).connections) ∧
      ∀ c ∈ (pool.release connectionId now).connections,
        (∃ b ∈ pool.connections, c = b.markIdle now) ∨
          c ∈ pool.connections ∧ c.connectionId ≠ connectionId := by
  obtain ⟨b, hb, rfl⟩ := h
  have hfind := find?_of_nodup_map pool.nodup hb
  have hany : pool.connections.any fun c => c.connectionId = b.connectionId :=
    any_eq_true.mpr ⟨b, hb, decide_eq_true rfl⟩
  have hcns : (pool.release b.connectionId now).connections =
      modifyFirst (fun c => c.connectionId = b.connectionId) (PooledConnection.markIdle now)
        pool.connections := by
    rw [release, if_pos hany]
    rfl
  have hmem : b.markIdle now ∈ (pool.release b.connectionId now).connections := by
    rw [hcns]
    exact mem_modifyFirst hfind
  refine ⟨⟨b, hb, hmem⟩, fun c hc => ?_⟩
  by_cases hid : c.connectionId = b.connectionId
  · -- no two connections have the same identifier
    exact Or.inl ⟨b, hb, inj_on_of_nodup_map (pool.release b.connectionId now).nodup hc hmem hid⟩
  · rw [hcns] at hc
    rcases mem_of_mem_modifyFirst hc with hc | ⟨b', hb', rfl⟩
    · exact Or.inr ⟨hc, hid⟩
    · exact Or.inl ⟨b', mem_of_find?_eq_some hb', rfl⟩

end ConnectionPoolManager

/-! ### The calls of a pool -/

inductive PoolCall
  | acquire (nowMs : ℕ)
  | release (connectionId : String) (nowMs : ℕ)

def PoolCall.nowMs : PoolCall → ℕ
  | .acquire nowMs => nowMs
  | .release _ nowMs => nowMs

structure Ledger where
  pool : ConnectionPoolManager
  held : List String
  releasedMs : ℕ

namespace Ledger

def new (policy : PoolBackpressurePolicy) : Ledger := ⟨.new policy, [], 0⟩

def step (s : Ledger) : PoolCall → Ledger
  | .acquire nowMs =>
    { s with
      pool := (s.pool.acquire nowMs).1
      held := (s.pool.acquire nowMs).2.toOption.toList ++ s.held }
  | .release connectionId nowMs =>
    { pool := s.pool.release connectionId nowMs
      held := s.held.filter (· ≠ connectionId)
      releasedMs := if s.pool.Knows connectionId then nowMs else s.releasedMs }

def served (policy : PoolBackpressurePolicy) (calls : List PoolCall) : Ledger :=
  calls.foldl step (new policy)

def InOrder (calls : List PoolCall) : Prop := (calls.map PoolCall.nowMs).Pairwise (· ≤ ·)

instance (calls : List PoolCall) : Decidable (InOrder calls) :=
  inferInstanceAs (Decidable (List.Pairwise _ _))

structure Kept (policy : PoolBackpressurePolicy) (s : Ledger) (nowMs : ℕ) : Prop where
  policy : s.pool.policy = policy
  idle : ∀ c ∈ s.pool.connections,
    c.state = .idle ∧ c.lastUsedMs ≤ s.releasedMs ∨ c.connectionId ∈ s.held
  recent : s.pool.connections ≠ [] → ∃ c ∈ s.pool.connections, s.releasedMs ≤ c.lastUsedMs
  released : s.releasedMs ≤ nowMs

variable {policy : PoolBackpressurePolicy} {s : Ledger} {nowMs : ℕ} {calls : List PoolCall}

theorem kept_new (policy : PoolBackpressurePolicy) : Kept policy (new policy) 0 where
  policy := rfl
  idle := by
    intro c hc
    obtain ⟨i, -, rfl⟩ := mem_map.mp hc
    exact Or.inl ⟨rfl, le_rfl⟩
  recent := by
    intro hne
    obtain ⟨c, hc⟩ := exists_mem_of_ne_nil _ hne
    exact ⟨c, hc, Nat.zero_le _⟩
  released := le_rfl

theorem Kept.acquire (h : s.Kept policy nowMs) {nowMs' : ℕ} (hle : nowMs ≤ nowMs') :
    (s.step (.acquire nowMs')).Kept policy nowMs' := by
  obtain ⟨hpol, htk⟩ := s.pool.acquire_taken nowMs'
  have hrel : s.releasedMs ≤ nowMs' := le_trans h.released hle
  have hidle : ∀ {after : List PooledConnection} {result : Except PoolAcquireError String},
      ConnectionPoolManager.Taken nowMs' s.pool.connections after result → ∀ c ∈ after,
        c.state = .idle ∧ c.lastUsedMs ≤ s.releasedMs ∨
          c.connectionId ∈ result.toOption.toList ++ s.held := by
    intro after result htk c hc
    cases htk with
    | reused hfind =>
      rcases mem_of_mem_modifyFirst hc with hc | ⟨b, hb, rfl⟩
      · exact (h.idle c hc).imp_right (mem_append_right _)
      · obtain rfl := Option.some.inj (hfind.symm.trans hb)
        exact Or.inr mem_cons_self
    | grown id =>
      rcases mem_append.mp hc with hc | hc
      · exact (h.idle c hc).imp_right (mem_append_right _)
      · rw [mem_singleton.mp hc]
        exact Or.inr mem_cons_self
    | refused e => exact h.idle c hc
  have hrec : ∀ {after : List PooledConnection} {result : Except PoolAcquireError String},
      ConnectionPoolManager.Taken nowMs' s.pool.connections after result → after ≠ [] →
        ∃ c ∈ after, s.releasedMs ≤ c.lastUsedMs := by
    intro after result htk hne
    cases htk with
    | reused hfind => exact ⟨_, mem_modifyFirst hfind, hrel⟩
    | grown id => exact ⟨_, mem_append_right _ (mem_singleton_self _), hrel⟩
    | refused e => exact h.recent hne
  exact ⟨hpol.trans h.policy, hidle htk, hrec htk, hrel⟩

theorem Kept.release (h : s.Kept policy nowMs) {nowMs' : ℕ} (hle : nowMs ≤ nowMs')
    (conn : String) : (s.step (.release conn nowMs')).Kept policy nowMs' := by
  have hrel : s.releasedMs ≤ nowMs' := le_trans h.released hle
  have hpol := (s.pool.policy_release conn nowMs').trans h.policy
  by_cases hkno : s.pool.Knows conn
  · obtain ⟨⟨b, hb, hback⟩, hmem⟩ := ConnectionPoolManager.mem_release hkno nowMs'
    have hstep : s.step (.release conn nowMs') =
        ⟨s.pool.release conn nowMs', s.held.filter (· ≠ conn), nowMs'⟩ := by
      rw [step, if_pos hkno]
    rw [hstep]
    refine ⟨hpol, fun c hc => ?_, fun _ => ⟨_, hback, le_rfl⟩, le_rfl⟩
    rcases hmem c hc with ⟨b', -, rfl⟩ | ⟨hc, hid⟩
    · exact Or.inl ⟨rfl, le_rfl⟩
    · refine (h.idle c hc).imp (fun hidle => ⟨hidle.1, le_trans hidle.2 hrel⟩) fun hheld => ?_
      exact mem_filter.mpr ⟨hheld, decide_eq_true hid⟩
  · have hstep : s.step (.release conn nowMs') =
        ⟨s.pool, s.held.filter (· ≠ conn), s.releasedMs⟩ := by
      rw [step, if_neg hkno, ConnectionPoolManager.release_of_not_knows hkno]
    rw [hstep]
    refine ⟨h.policy, fun c hc => ?_, h.recent, hrel⟩
    refine (h.idle c hc).imp_right fun hheld => ?_
    exact mem_filter.mpr ⟨hheld, decide_eq_true fun hid => hkno ⟨c, hc, hid⟩⟩

theorem Kept.step (h : s.Kept policy nowMs) (call : PoolCall) (hle : nowMs ≤ call.nowMs) :
    (s.step call).Kept policy call.nowMs := by
  cases call with
  | acquire nowMs' => exact h.acquire hle
  | release connectionId nowMs' => exact h.release hle connectionId

theorem Kept.foldl (h : s.Kept policy nowMs)
    (hord : InOrder (.acquire nowMs :: calls)) {last : ℕ} (hlast : nowMs ≤ last)
    (hlas : ∀ call ∈ calls, call.nowMs ≤ last) :
    (calls.foldl Ledger.step s).Kept policy last := by
  induction calls generalizing s nowMs with
  | nil => exact ⟨h.policy, h.idle, h.recent, le_trans h.released hlast⟩
  | cons call calls ih =>
    obtain ⟨hfst, hrest⟩ := pairwise_cons.mp hord
    have hle : nowMs ≤ call.nowMs := hfst _ mem_cons_self
    have hord' : InOrder (.acquire call.nowMs :: calls) := hrest
    exact ih (h.step call hle) hord' (hlas call mem_cons_self)
      fun call' hcall => hlas call' (mem_cons_of_mem _ hcall)

theorem kept_served (pol : PoolBackpressurePolicy)
    (hord : InOrder (calls ++ [.acquire nowMs])) : (served pol calls).Kept pol nowMs := by
  rw [InOrder, map_append, pairwise_append] at hord
  obtain ⟨hcal, -, hlast⟩ := hord
  refine (kept_new pol).foldl ?_ (Nat.zero_le _) fun call hcall => ?_
  · exact pairwise_cons.mpr ⟨fun _ _ => Nat.zero_le _, hcal⟩
  · exact hlast _ (mem_map_of_mem hcall) _ (mem_singleton_self _)

theorem Kept.exists_free_iff (h : s.Kept policy nowMs) (hheld : s.held = []) :
    (∃ c ∈ s.pool.connections, s.pool.isFree nowMs c) ↔
      s.pool.connections ≠ [] ∧ nowMs - s.releasedMs < policy.idleTimeoutMs := by
  have hidle : ∀ c ∈ s.pool.connections, c.state = .idle ∧ c.lastUsedMs ≤ s.releasedMs := by
    intro c hc
    refine (h.idle c hc).resolve_right fun hmem => ?_
    rw [hheld] at hmem
    cases hmem
  have hfree : ∀ c ∈ s.pool.connections,
      s.pool.isFree nowMs c ↔ nowMs - c.lastUsedMs < policy.idleTimeoutMs := by
    intro c hc
    simp [ConnectionPoolManager.isFree, PooledConnection.isIdle, PooledConnection.isHealthy,
      (hidle c hc).1, h.policy]
  constructor
  · rintro ⟨c, hc, hc'⟩
    have hage := (hfree c hc).mp hc'
    have hle := (hidle c hc).2
    exact ⟨ne_nil_of_mem hc, by omega⟩
  · rintro ⟨hne, hrec⟩
    obtain ⟨c, hc, hle⟩ := h.recent hne
    exact ⟨c, hc, (hfree c hc).mpr (by omega)⟩

end Ledger

namespace ConnectionPoolManager

theorem takeConnection_isOk_iff (pool : ConnectionPoolManager) (now : ℕ) :
    (pool.takeConnection now).2.isOk = true ↔
      (∃ c ∈ pool.connections, pool.isFree now c) ∨
        pool.connections.length < pool.policy.maxPoolSize := by
  rw [takeConnection]
  cases hfind : pool.connections.find? (pool.isFree now) with
  | some c =>
    exact iff_of_true rfl (Or.inl ⟨c, mem_of_find?_eq_some hfind, find?_some hfind⟩)
  | none =>
    have hnone : ¬∃ c ∈ pool.connections, pool.isFree now c := by
      rintro ⟨c, hc, hfree⟩
      exact find?_eq_none.mp hfind c hc hfree
    dsimp only
    split_ifs with hlen
    · exact iff_of_true rfl (Or.inr hlen)
    · exact iff_of_false Bool.false_ne_true (not_or.mpr ⟨hnone, hlen⟩)

end ConnectionPoolManager

namespace Ledger

/-- **A pool with nothing out has a connection iff** there is room, or the last release is recent.
-/
theorem available_iff (policy : PoolBackpressurePolicy) (hmax : 1 ≤ policy.maxPoolSize)
    (calls : List PoolCall) (nowMs : ℕ) (horder : InOrder (calls ++ [.acquire nowMs]))
    (hheld : (served policy calls).held = [])
    (hcircuit : (served policy calls).pool.circuitBreaker = .closed)
    (hstorm : ((served policy calls).pool.stormDetector.recordRequest policy nowMs).stormActive =
      false) :
    ((served policy calls).pool.acquire nowMs).2.isOk = true ↔
      (served policy calls).pool.connections.length < policy.maxPoolSize ∨
        nowMs - (served policy calls).releasedMs < policy.idleTimeoutMs := by
  have hkept := kept_served policy horder
  generalize served policy calls = s at *
  obtain rfl := hkept.policy
  rw [ConnectionPoolManager.acquire]
  dsimp only
  rw [hstorm, hcircuit, Bool.false_and, if_neg Bool.false_ne_true,
    ConnectionPoolManager.takeConnection_isOk_iff]
  refine Iff.trans (or_congr (hkept.exists_free_iff hheld) Iff.rfl) ?_
  constructor
  · rintro (⟨-, hrec⟩ | hroom)
    · exact Or.inr hrec
    · exact Or.inl hroom
  · rintro (hroom | hrec)
    · exact Or.inr hroom
    · by_cases hne : s.pool.connections = []
      · refine Or.inr ?_
        dsimp only
        rw [hne]
        exact hmax
      · exact Or.inl ⟨hne, hrec⟩

def single : PoolBackpressurePolicy := { maxPoolSize := 1, minPoolSize := 0 }

theorem single_available :
    (served single [.acquire 0, .release "conn-1" 10]).pool.connections.length = 1 ∧
      ((served single [.acquire 0, .release "conn-1" 10]).pool.acquire 60009).2.isOk = true :=
  ⟨by decide, (available_iff single (by decide) _ 60009 (by decide) (by decide) (by decide)
    (by decide)).mpr (Or.inr (by decide))⟩

/-- **After a minute it is not.** -/
theorem single_exhausted :
    (served single [.acquire 0, .release "conn-1" 10]).held = [] ∧
      (served single [.acquire 0, .release "conn-1" 10]).pool.circuitBreaker = .closed ∧
      ((served single [.acquire 0, .release "conn-1" 10]).pool.stormDetector.recordRequest single
        60010).stormActive = false ∧
      ((served single [.acquire 0, .release "conn-1" 10]).pool.acquire 60010).2 =
        .error (.poolExhausted 0 1) := by
  decide

end Ledger

end VngDatabase.Daemon
