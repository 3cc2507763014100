import VngDatabase.Raft.Node

/-!
# Where an entry of the log sits

Every method of a node computes the place of an entry as `index - snapshotIndex - 1` and none checks
that the entry found there carries that index.
-/

namespace VngDatabase.Raft

open List

/-! ### Contiguous logs -/

/-- **The element at position `k` carries index `s + 1 + k`.** -/
def Contiguous (s : ℕ) (log : List RaftLogEntry) : Prop :=
  ∀ k e, log[k]? = some e → e.index = s + 1 + k

variable {s d : ℕ} {log : List RaftLogEntry} {e : RaftLogEntry}

instance (s : ℕ) (log : List RaftLogEntry) : Decidable (Contiguous s log) :=
  decidable_of_iff (∀ k < log.length, ∀ e ∈ log[k]?, e.index = s + 1 + k)
    ⟨fun h k e he => h k (List.getElem?_eq_some_iff.mp he).1 e he, fun h k _ e he => h k e he⟩

theorem contiguous_nil (s : ℕ) : Contiguous s [] := by
  intro k e h
  simp at h

theorem contiguous_cons : Contiguous s (e :: log) ↔ e.index = s + 1 ∧ Contiguous (s + 1) log := by
  constructor
  · intro h
    refine ⟨h 0 e rfl, fun k x hx => ?_⟩
    have := h (k + 1) x hx
    omega
  · rintro ⟨h0, h⟩ (_ | k) x hx
    · obtain rfl : e = x := by simpa using hx
      exact h0
    · have := h k x hx
      omega

theorem Contiguous.concat (h : Contiguous s log) (he : e.index = s + 1 + log.length) :
    Contiguous s (log ++ [e]) := by
  intro k x hx
  rcases Nat.lt_or_ge k log.length with hk | hk
  · exact h k x (by rwa [getElem?_append_left hk] at hx)
  · rw [getElem?_append_right hk] at hx
    obtain ⟨hk0, rfl⟩ : k - log.length = 0 ∧ e = x := by
      rcases hk' : k - log.length with _ | j <;> simp_all
    omega

theorem Contiguous.take (h : Contiguous s log) (n : ℕ) : Contiguous s (log.take n) := by
  intro k e hk
  rw [getElem?_take] at hk
  split_ifs at hk
  exact h k e hk

theorem Contiguous.drop (h : Contiguous s log) (n : ℕ) : Contiguous (s + n) (log.drop n) := by
  intro k e hk
  rw [getElem?_drop] at hk
  have := h _ e hk
  omega

theorem Contiguous.filter_eq_drop (h : Contiguous s log) (n : ℕ) :
    log.filter (fun e => s + n < e.index) = log.drop n := by
  induction log generalizing s n with
  | nil => simp
  | cons e log ih =>
    obtain ⟨he, h⟩ := contiguous_cons.mp h
    rcases n with _ | n
    · have hall : ∀ x ∈ e :: log, s < x.index := by
        intro x hx
        obtain ⟨k, hk⟩ := mem_iff_getElem?.mp hx
        have := contiguous_cons.mpr ⟨he, h⟩ k x hk
        omega
      simpa using hall
    · rw [filter_cons_of_neg (by simp; omega), drop_succ_cons, ← ih h n]
      refine filter_congr ?_
      intro x _
      simp only [decide_eq_decide]
      omega

theorem Contiguous.pushEntry (h : Contiguous s log) (he : e.index ≤ s + log.length + 1) :
    Contiguous s (RaftNode.pushEntry s log e) ∧
      e.index ≤ s + (RaftNode.pushEntry s log e).length := by
  rcases le_or_gt e.index s with hs | hs
  · rw [RaftNode.pushEntry_of_le hs]
    exact ⟨h, by omega⟩
  cases hget : log[e.index - s - 1]? with
  | none =>
    have hlen := getElem?_eq_none_iff.mp hget
    rw [RaftNode.pushEntry_of_none hs hget, length_append, length_singleton]
    exact ⟨h.concat (by omega), by omega⟩
  | some x =>
    obtain ⟨hlt, -⟩ := List.getElem?_eq_some_iff.mp hget
    rw [RaftNode.pushEntry_of_some hs hget]
    split_ifs
    · have hlen : (log.take (e.index - s - 1)).length = e.index - s - 1 := by
        rw [length_take]
        omega
      rw [length_append, length_singleton, hlen]
      exact ⟨(h.take _).concat (by omega), by omega⟩
    · exact ⟨h, by omega⟩

theorem Contiguous.foldl_pushEntry {es : List RaftLogEntry} {prev : ℕ}
    (h : Contiguous s log) (hent : Contiguous prev es) (hprev : prev ≤ s + log.length) :
    Contiguous s (es.foldl (RaftNode.pushEntry s) log) := by
  induction es generalizing log prev with
  | nil => exact h
  | cons e es ih =>
    obtain ⟨he, hent⟩ := contiguous_cons.mp hent
    obtain ⟨h1, h2⟩ := h.pushEntry (e := e) (by omega)
    exact ih h1 hent (by omega)

/-! ### The methods of a node -/

namespace RaftNode

def LogIndexed (node : RaftNode) : Prop := Contiguous node.snapshotIndex node.log

variable {node : RaftNode} {req : RaftAppendRequest}

theorem LogIndexed.lastLogPosition_fst (h : node.LogIndexed) :
    node.lastLogPosition.1 = node.snapshotIndex + node.log.length := by
  rcases eq_nil_or_concat node.log with hnil | ⟨l, e, hl⟩
  · rw [lastLogPosition, hnil]
    simp only [getLast?_nil, length_nil]
    split_ifs
    · rfl
    · change 0 = node.snapshotIndex + 0
      omega
  · have := h l.length e (by rw [hl]; simp)
    rw [lastLogPosition, hl]
    simp only [concat_eq_append, getLast?_append, getLast?_singleton,
      length_append, length_singleton, Option.some_or]
    omega

theorem LogIndexed.logEntryAt (h : node.LogIndexed) {i : ℕ} {e : RaftLogEntry}
    (he : node.logEntryAt i = some e) : e.index = i := by
  unfold RaftNode.logEntryAt at he
  split_ifs at he with hi
  have := h _ e he
  omega

theorem prevLogIndex_le_of_prevMatches (h : node.prevMatches req = true) :
    req.prevLogIndex ≤ node.snapshotIndex + node.log.length := by
  unfold prevMatches RaftNode.logEntryAt at h
  split_ifs at h with h0 hs hi
  · omega
  · simp at h
  · obtain ⟨e, he⟩ : ∃ e, node.log[req.prevLogIndex - node.snapshotIndex - 1]? = some e := by
      rcases hget : node.log[req.prevLogIndex - node.snapshotIndex - 1]? with _ | e
      · simp [hget] at h
      · exact ⟨e, rfl⟩
    obtain ⟨hlt, -⟩ := List.getElem?_eq_some_iff.mp he
    omega
  · omega

theorem LogIndexed.concat (h : node.LogIndexed) (t : ℕ) (c : String) :
    Contiguous node.snapshotIndex
      (node.log ++ [⟨node.lastLogPosition.1 + 1, t, c⟩]) := by
  refine Contiguous.concat h ?_
  rw [h.lastLogPosition_fst]
  dsimp only
  omega

theorem LogIndexed.appendCommand (h : node.LogIndexed) (c : String) (peers : ℕ) :
    (node.appendCommand c peers).1.LogIndexed := by
  have hlog := h.concat node.currentTerm c
  unfold RaftNode.appendCommand LogIndexed
  dsimp only
  split_ifs <;> exact hlog

theorem LogIndexed.handleAppendEntries (h : node.LogIndexed)
    (hreq : Contiguous req.prevLogIndex req.entries) :
    (node.handleAppendEntries req).1.LogIndexed := by
  rcases node.handleAppendEntries_cases req with
    ⟨-, hn, -⟩ | ⟨-, -, hn, -⟩ | ⟨-, hprev, last, -, hn, -, -⟩
  · rw [hn]
    exact h
  · rw [hn]
    simpa [LogIndexed] using h
  · rw [hn]
    have := Contiguous.foldl_pushEntry h hreq (prevLogIndex_le_of_prevMatches hprev)
    simpa [LogIndexed, pushEntries] using this

theorem LogIndexed.filter (h : node.LogIndexed) {n : ℕ} (hn : node.snapshotIndex ≤ n) :
    Contiguous n (node.log.filter fun e => n < e.index) := by
  obtain ⟨d, rfl⟩ := Nat.exists_eq_add_of_le hn
  rw [Contiguous.filter_eq_drop h d]
  exact Contiguous.drop h d

theorem LogIndexed.handleInstallSnapshot (h : node.LogIndexed)
    (req : RaftInstallSnapshotRequest) : (node.handleInstallSnapshot req).1.LogIndexed := by
  rcases node.handleInstallSnapshot_cases req with
    ⟨-, hn, -⟩ | ⟨-, -, hn, -⟩ | ⟨-, hlt, hn, -⟩
  · rw [hn]
    exact h
  · rw [hn]
    simpa [LogIndexed] using h
  · rw [hn]
    exact h.filter hlt.le

theorem LogIndexed.compactLog (h : node.LogIndexed) (upTo : ℕ) :
    (node.compactLog upTo).LogIndexed := by
  rcases node.compactLog_cases upTo with
    ⟨-, hn⟩ | ⟨hs, e, -, hn⟩ | ⟨-, -, -, hn⟩ | ⟨hs, -, -, hn⟩
  · rw [hn]
    exact h
  · rw [hn]
    exact h.filter hs.le
  · rw [hn]
    exact contiguous_nil _
  · rw [hn]
    exact h.filter hs.le

/-- **The states a node reaches** by its methods and restarts. -/
inductive Reached : RaftNode → Prop
  | new (nodeId : String) : Reached (.new nodeId)
  | appendCommand {node : RaftNode} (command : String) (peers : ℕ) :
      Reached node → Reached (node.appendCommand command peers).1
  | appendCommandPending {node : RaftNode} (command : String) (peers : ℕ) :
      Reached node → Reached (node.appendCommandPending command peers).1
  | handleAppendEntries {node : RaftNode} (req : RaftAppendRequest) :
      Reached node → Contiguous req.prevLogIndex req.entries →
      Reached (node.handleAppendEntries req).1
  | handleInstallSnapshot {node : RaftNode} (req : RaftInstallSnapshotRequest) :
      Reached node → Reached (node.handleInstallSnapshot req).1
  | compactLog {node : RaftNode} : Reached node → Reached (node.compactLog node.lastApplied)
  | becomeFollower {node : RaftNode} (newTerm : ℕ) :
    Reached node → Reached (node.becomeFollower newTerm)
  | becomeCandidate {node : RaftNode} : Reached node → Reached node.becomeCandidate
  | restoreDurable {node saved : RaftNode} :
      Reached node → Reached saved → Reached (node.restoreDurable (.fromNode saved))

theorem Reached.logIndexed (h : Reached node) : node.LogIndexed := by
  induction h with
  | new nodeId => exact contiguous_nil _
  | appendCommand command peers _ ih => exact ih.appendCommand command peers
  | @appendCommandPending node command peers _ ih =>
    have hlog := ih.concat node.currentTerm command
    unfold RaftNode.appendCommandPending LogIndexed
    dsimp only
    split_ifs <;> exact hlog
  | handleAppendEntries req _ hreq ih => exact ih.handleAppendEntries hreq
  | handleInstallSnapshot req _ ih => exact ih.handleInstallSnapshot req
  | compactLog _ ih => exact ih.compactLog _
  | becomeFollower newTerm _ ih => simpa [LogIndexed] using ih
  | becomeCandidate _ ih => exact ih
  | restoreDurable _ _ _ ih => exact ih

/-- **The log of a node is where its methods look for it.** -/
theorem log_represents_indices (h : Reached node) :
    (∀ k e, node.log[k]? = some e → e.index = node.snapshotIndex + 1 + k) ∧
      ∀ i, node.logEntryAt i = none ∨ ∃ e, node.logEntryAt i = some e ∧ e.index = i := by
  refine ⟨h.logIndexed, fun i => ?_⟩
  rcases hi : node.logEntryAt i with _ | e
  · exact Or.inl rfl
  · exact Or.inr ⟨e, rfl, h.logIndexed.logEntryAt hi⟩

def compactedNode : RaftNode :=
  let node := (((new "node-1").appendCommand "INSERT" 0).1.appendCommandPending "DELETE" 0).1
  node.compactLog node.lastApplied

theorem log_represents_indices_compactedNode :
    compactedNode.snapshotIndex = 1 ∧ compactedNode.log = [⟨2, 0, "DELETE"⟩] ∧
      (compactedNode.logEntryAt 1 = none ∨ ∃ e, compactedNode.logEntryAt 1 = some e ∧ e.index = 1) ∧
      (compactedNode.logEntryAt 2 = none ∨
        ∃ e, compactedNode.logEntryAt 2 = some e ∧ e.index = 2) := by
  have h : Reached compactedNode :=
    .compactLog (.appendCommandPending _ _ (.appendCommand _ _ (.new _)))
  have hrep := log_represents_indices h
  exact ⟨by decide, by decide, hrep.2 1, hrep.2 2⟩

end RaftNode

end VngDatabase.Raft
