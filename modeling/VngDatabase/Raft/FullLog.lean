import VngDatabase.Consensus.Completeness
import VngDatabase.Raft.LogIndex

/-!
# The log a node would have without compaction

`RaftNode.Views` says what the state of a node means: there is a **full log**, contiguous from index
`1`, of which the node keeps the part after its snapshot, and the snapshot term is the term found at
the boundary.
-/

namespace VngDatabase.Raft

open Consensus List

/-- `0` at index `0` and past the end. -/
def termOf (l : List RaftLogEntry) (n : ℕ) : ℕ :=
  if n = 0 then 0 else (l[n - 1]?.map RaftLogEntry.term).getD 0

@[simp] theorem termOf_zero (l : List RaftLogEntry) : termOf l 0 = 0 := rfl

theorem termOf_of_getElem? {l : List RaftLogEntry} {n : ℕ} {e : RaftLogEntry} (hn : 0 < n)
    (he : l[n - 1]? = some e) : termOf l n = e.term := by
  rw [termOf, if_neg hn.ne', he]
  rfl

theorem exists_termOf {l : List RaftLogEntry} {n : ℕ} (hn : 0 < n) (hle : n ≤ l.length) :
    ∃ e, l[n - 1]? = some e ∧ termOf l n = e.term := by
  have hlt : n - 1 < l.length := by omega
  exact ⟨l[n - 1], getElem?_eq_getElem hlt, termOf_of_getElem? hn (getElem?_eq_getElem hlt)⟩

theorem termOf_of_isPrefix {l l' : List RaftLogEntry} (h : l <+: l') {n : ℕ} (hn : n ≤ l.length) :
    termOf l' n = termOf l n := by
  rcases Nat.eq_zero_or_pos n with rfl | hpos
  · rfl
  · rw [termOf, termOf, getElem?_of_isPrefix h (by omega)]

def Matching (l l' : List RaftLogEntry) : Prop :=
  ∀ k x y, l[k]? = some x → l'[k]? = some y → x.term = y.term → l.take (k + 1) = l'.take (k + 1)

theorem Contiguous.adopt {l lead : List RaftLogEntry} (h : Contiguous 0 l)
    (hlead : Contiguous 0 lead) (n : ℕ) : Contiguous 0 (adopt l lead n) := by
  rcases adopt_cases l lead n with ha | ha
  · rw [ha]
    exact h
  · rw [ha]
    exact hlead.take n

/-! ### The loop of an append call -/

section

variable {s m n : ℕ} {old lead : List RaftLogEntry}

theorem foldl_pushEntry_of_le {es log : List RaftLogEntry} (h : ∀ e ∈ es, e.index ≤ s) :
    es.foldl (RaftNode.pushEntry s) log = log := by
  induction es with
  | nil => rfl
  | cons e es ih =>
    rw [foldl_cons, RaftNode.pushEntry_of_le (h e mem_cons_self)]
    exact ih fun x hx => h x (mem_cons_of_mem e hx)

theorem Contiguous.index_le_of_mem_take (h : Contiguous 0 lead) {k : ℕ} {e : RaftLogEntry}
    (he : e ∈ lead.take k) : e.index ≤ k := by
  obtain ⟨j, hj⟩ := mem_iff_getElem?.mp he
  rw [getElem?_take] at hj
  split_ifs at hj with hlt
  have := h j e hj
  omega

theorem foldl_pushEntry_skip (hlead : Contiguous 0 lead) (hms : m ≤ s) (log : List RaftLogEntry) :
    ((lead.take n).drop m).foldl (RaftNode.pushEntry s) log =
      ((lead.take n).drop s).foldl (RaftNode.pushEntry s) log := by
  have hspl : (lead.take n).drop m =
      ((lead.take n).drop m).take (s - m) ++ (lead.take n).drop s := by
    conv_lhs => rw [← take_append_drop (s - m) ((lead.take n).drop m)]
    rw [drop_drop, show m + (s - m) = s by omega]
  rw [hspl, foldl_append]
  refine congrArg (foldl _ · _) (foldl_pushEntry_of_le fun e he => ?_)
  rw [take_drop, show m + (s - m) = s by omega, take_take] at he
  exact (hlead.index_le_of_mem_take (mem_of_mem_drop he)).trans (min_le_left _ _)

theorem foldl_pushEntry_eq_drop (hold : Contiguous 0 old) (hlead : Contiguous 0 lead) (hsm : s ≤ m)
    (hmn : m ≤ n) (hn : n ≤ lead.length) (hmo : m ≤ old.length) (heq : old.take m = lead.take m)
    (hmt : Matching old lead) :
    ((lead.take n).drop m).foldl (RaftNode.pushEntry s) (old.drop s) =
      (adopt old lead n).drop s := by
  -- induction on what is left of the call; the log changes, the invariant is `heq`
  induction hd : n - m generalizing m old with
  | zero =>
    obtain rfl : m = n := by omega
    have hnil : (lead.take m).drop m = [] := drop_of_length_le (by rw [length_take]; omega)
    rw [hnil, adopt, if_pos (by rw [← heq]; exact take_prefix _ _)]
    rfl
  | succ d ih =>
    have hlt : m < lead.length := by omega
    have hdrop : (lead.take n).drop m = lead[m] :: (lead.take n).drop (m + 1) := by
      rw [drop_eq_getElem_cons (by rw [length_take]; omega), getElem_take]
    have hidx : lead[m].index = m + 1 := by
      have := hlead m _ (getElem?_eq_getElem hlt)
      omega
    have hget : (old.drop s)[lead[m].index - s - 1]? = old[m]? := by
      rw [getElem?_drop, hidx]
      congr 1
      omega
    have hsucc : lead.take m ++ [lead[m]] = lead.take (m + 1) := take_concat_get' lead m hlt
    -- once the log is a beginning of `lead`, it adopts whatever follows
    have hbeg : old.take m ++ [lead[m]] = lead.take (m + 1) := by rw [heq, hsucc]
    have hado : adopt (lead.take (m + 1)) lead n = lead.take n := by
      rw [adopt]
      split_ifs with hp
      · refine (take_prefix_take_left (by omega)).eq_of_length ?_
        have := hp.length_le
        rw [length_take, length_take] at this ⊢
        omega
      · rfl
    have hcut : ∀ log, log = (lead.take (m + 1)).drop s →
        ((lead.take n).drop (m + 1)).foldl (RaftNode.pushEntry s) log = (lead.take n).drop s := by
      rintro log rfl
      rw [ih (hlead.take _) (by omega) (by omega) (by rw [length_take]; omega)
        (by rw [take_take, min_self]) ?_ (by omega), hado]
      intro k x y hx hy _
      have hk := (List.getElem?_eq_some_iff.mp hx).1
      rw [length_take] at hk
      rw [take_take, min_eq_left (by omega)]
    have hdro : (old.drop s).take (m - s) ++ [lead[m]] = (lead.take (m + 1)).drop s := by
      rw [← hbeg, drop_append_of_le_length (by rw [length_take]; omega), drop_take]
    rw [hdrop, foldl_cons]
    cases ho : old[m]? with
    | none =>
      have hlen := getElem?_eq_none_iff.mp ho
      rw [RaftNode.pushEntry_of_none (by omega) (hget.trans ho), hcut, adopt, if_neg]
      · intro hp
        have := hp.length_le
        rw [length_take] at this
        omega
      · rw [← hdro, take_of_length_le (by rw [length_drop]; omega)]
    | some x =>
      rw [RaftNode.pushEntry_of_some (by omega) (hget.trans ho)]
      have hlen := (List.getElem?_eq_some_iff.mp ho).1
      split_ifs with hterm
      · rw [hcut, adopt, if_neg]
        · intro hp
          refine hterm ?_
          have := getElem?_of_isPrefix hp (k := m) (by rw [length_take]; omega)
          rw [ho, getElem?_take_of_lt (by omega), getElem?_eq_getElem hlt] at this
          rw [Option.some.inj this]
        · rw [← hdro, show lead[m].index - s - 1 = m - s by omega]
      · exact ih hold (by omega) (by omega) (by omega)
          (hmt m x _ ho (getElem?_eq_getElem hlt) (not_not.mp hterm)) hmt (by omega)

end

/-! ### What the state of a node means -/

namespace RaftNode

/-- **The node keeps the part of the full log after its snapshot.** -/
structure Views (node : RaftNode) (l : List RaftLogEntry) : Prop where
  contiguous : Contiguous 0 l
  snapshotIndex_le : node.snapshotIndex ≤ l.length
  log : node.log = l.drop node.snapshotIndex
  snapshotTerm : node.snapshotTerm = termOf l node.snapshotIndex

variable {node node' : RaftNode} {l lead : List RaftLogEntry} {n : ℕ}

theorem views_new (nodeId : String) : (new nodeId).Views [] where
  contiguous := contiguous_nil 0
  snapshotIndex_le := le_rfl
  log := rfl
  snapshotTerm := rfl

theorem Views.congr (h : node.Views l) (hl : node.SameLog node') : node'.Views l where
  contiguous := h.contiguous
  snapshotIndex_le := hl.snapshotIndex ▸ h.snapshotIndex_le
  log := by rw [hl.log, hl.snapshotIndex, h.log]
  snapshotTerm := by rw [hl.snapshotTerm, hl.snapshotIndex, h.snapshotTerm]

theorem Views.length (h : node.Views l) : node.snapshotIndex + node.log.length = l.length := by
  have := h.snapshotIndex_le
  rw [h.log, length_drop]
  omega

theorem Views.logIndexed (h : node.Views l) : node.LogIndexed := by
  have := h.contiguous.drop node.snapshotIndex
  rwa [Nat.zero_add, ← h.log] at this

theorem Views.lastLogPosition_fst (h : node.Views l) : node.lastLogPosition.1 = l.length :=
  h.logIndexed.lastLogPosition_fst.trans h.length

theorem Views.logEntryAt (h : node.Views l) (hn : node.snapshotIndex < n) :
    node.logEntryAt n = l[n - 1]? := by
  rw [RaftNode.logEntryAt, if_neg (by omega), h.log, getElem?_drop]
  congr 1
  omega

theorem Views.termAt (h : node.Views l) (hn : node.snapshotIndex ≤ n) :
    node.termAt n = termOf l n := by
  rw [RaftNode.termAt]
  split_ifs with h0 hs
  · rw [h0, termOf_zero]
  · rw [hs, h.snapshotTerm]
  · rw [h.logEntryAt (by omega), termOf, if_neg h0]

theorem Views.lastLogPosition_snd (h : node.Views l) :
    node.lastLogPosition.2 = lastTerm RaftLogEntry.term l := by
  have hlast : lastTerm RaftLogEntry.term l = termOf l l.length := by
    rw [lastTerm, termOf, getLast?_eq_getElem?]
    split_ifs with h0
    · rw [length_eq_zero_iff.mp h0]
      rfl
    · rfl
  rw [hlast, RaftNode.lastLogPosition]
  cases hl : node.log.getLast? with
  | some e =>
    rw [h.log, getLast?_drop] at hl
    split_ifs at hl with hlen
    rw [getLast?_eq_getElem?] at hl
    exact (termOf_of_getElem? (by omega) hl).symm
  | none =>
    have hlen : node.snapshotIndex = l.length := by
      have := h.length
      rw [getLast?_eq_none_iff.mp hl] at this
      exact this
    dsimp only
    split_ifs with hs
    · rw [h.snapshotTerm, hlen]
    · rw [← hlen, Nat.eq_zero_of_not_pos hs, termOf_zero]

theorem Views.concat (h : node.Views l) {e : RaftLogEntry} (he : e.index = l.length + 1)
    (hl : node'.log = node.log ++ [e]) (hs : node'.snapshotIndex = node.snapshotIndex)
    (ht : node'.snapshotTerm = node.snapshotTerm) : node'.Views (l ++ [e]) where
  contiguous := h.contiguous.concat (by omega)
  snapshotIndex_le := by
    rw [hs, length_append]
    exact h.snapshotIndex_le.trans (Nat.le_add_right _ _)
  log := by
    rw [hl, hs, h.log, drop_append_of_le_length h.snapshotIndex_le]
  snapshotTerm := by
    rw [ht, hs, h.snapshotTerm, termOf_of_isPrefix (prefix_append l [e]) h.snapshotIndex_le]

theorem Views.filter (h : node.Views l) (hn : node.snapshotIndex ≤ n) :
    (node.log.filter fun e => n < e.index) = l.drop n := by
  obtain ⟨d, rfl⟩ := Nat.exists_eq_add_of_le hn
  rw [Contiguous.filter_eq_drop h.logIndexed d, h.log, drop_drop]

theorem Views.compactLog (h : node.Views l) (hn : n ≤ l.length) : (node.compactLog n).Views l := by
  rcases node.compactLog_cases n with
    ⟨-, hc⟩ | ⟨hs, e, he, hc⟩ | ⟨hs, he, -, -⟩ | ⟨hs, he, -, -⟩
  · rw [hc]
    exact h
  · rw [hc]
    rw [h.logEntryAt hs] at he
    exact {
      contiguous := h.contiguous
      snapshotIndex_le := hn
      log := h.filter hs.le
      snapshotTerm := (termOf_of_getElem? (by omega) he).symm }
  -- an index inside the log is always found
  all_goals
    rw [h.logEntryAt hs, getElem?_eq_none_iff] at he
    omega

/-- **A snapshot of `lead` at `n` adopts its first `n` entries.** -/
theorem Views.install (h : node.Views l) (hlead : Contiguous 0 lead) (hs : node.snapshotIndex < n)
    (hn : n ≤ lead.length) (hmt : Matching l lead)
    (hsafe : node.snapshotIndex + node.log.length ≤ n ∨
      (node.logEntryAt n).map RaftLogEntry.term = some (termOf lead n))
    (hl : node'.log = node.log.filter fun e => n < e.index) (hs' : node'.snapshotIndex = n)
    (ht' : node'.snapshotTerm = termOf lead n) : node'.Views (adopt l lead n) := by
  have htake : (lead.take n).length = n := by
    rw [length_take]
    omega
  have hpre : lead.take n <+: adopt l lead n := take_prefix_adopt l lead n
  -- what the node keeps is what the adopted log has beyond `n`
  have hdrop : l.drop n = (adopt l lead n).drop n := by
    rcases hsafe with hlen | hterm
    · rw [h.length] at hlen
      have hnil : ∀ x : List RaftLogEntry, x.length ≤ n → x.drop n = [] :=
        fun x hx => drop_of_length_le hx
      rcases adopt_cases l lead n with ha | ha
      · rw [ha]
      · rw [ha, hnil l hlen, hnil _ htake.le]
    · rw [h.logEntryAt hs, Option.map_eq_some_iff] at hterm
      obtain ⟨x, hx, hxt⟩ := hterm
      obtain ⟨y, hy, hyt⟩ := exists_termOf (by omega) hn
      have heq := hmt (n - 1) x y hx hy (hxt.trans hyt)
      rw [show n - 1 + 1 = n by omega] at heq
      rw [adopt, if_pos (heq ▸ take_prefix _ _)]
  refine ⟨h.contiguous.adopt hlead n, ?_, ?_, ?_⟩
  · rw [hs']
    exact htake.ge.trans hpre.length_le
  · rw [hl, hs', h.filter hs.le, hdrop]
  · rw [ht', hs', termOf_of_isPrefix hpre htake.ge, termOf_of_isPrefix ( take_prefix n lead)
      htake.ge]

theorem Views.exists_of_prevMatches (h : node.Views l) {req : RaftAppendRequest}
    (hm : node.prevMatches req = true) (hpos : 0 < req.prevLogIndex) :
    node.snapshotIndex ≤ req.prevLogIndex ∧
      ∃ x, l[req.prevLogIndex - 1]? = some x ∧ x.term = req.prevLogTerm := by
  rw [prevMatches, if_pos hpos] at hm
  split_ifs at hm with hs
  · obtain ⟨x, hx, hxt⟩ := exists_termOf hpos (hs ▸ h.snapshotIndex_le)
    refine ⟨hs.ge, x, hx, ?_⟩
    rw [of_decide_eq_true hm, h.snapshotTerm, ← hs, hxt]
  · have hlt : node.snapshotIndex < req.prevLogIndex := by
      by_contra hge
      rw [RaftNode.logEntryAt, if_pos (Or.inr (not_lt.mp hge))] at hm
      exact absurd hm (by simp)
    rw [h.logEntryAt hlt] at hm
    cases hx : l[req.prevLogIndex - 1]? with
    | none => simp [hx] at hm
    | some x => exact ⟨hlt.le, x, rfl, by simpa [hx] using hm⟩

theorem Views.take_eq_of_prevMatches (h : node.Views l) {req : RaftAppendRequest}
    (hm : node.prevMatches req = true) (hpos : 0 < req.prevLogIndex)
    (hle : req.prevLogIndex ≤ lead.length) (hterm : req.prevLogTerm = termOf lead req.prevLogIndex)
    (hmt : Matching l lead) :
    node.snapshotIndex ≤ req.prevLogIndex ∧ req.prevLogIndex ≤ l.length ∧
      l.take req.prevLogIndex = lead.take req.prevLogIndex := by
  obtain ⟨y, hy, hyt⟩ := exists_termOf hpos hle
  obtain ⟨hs, x, hx, hxt⟩ := h.exists_of_prevMatches hm hpos
  have heq := hmt _ x y hx hy (by rw [hxt, hterm, hyt])
  rw [show req.prevLogIndex - 1 + 1 = req.prevLogIndex by omega] at heq
  have := (List.getElem?_eq_some_iff.mp hx).1
  exact ⟨hs, by omega, heq⟩

/-- **A call that reaches past the snapshot adopts.** -/
theorem Views.pushEntries (h : node.Views l) (hlead : Contiguous 0 lead) {prev : ℕ}
    (hs : node.snapshotIndex ≤ n) (hprev : prev ≤ n) (hn : n ≤ lead.length)
    (hmt : Matching l lead)
    (hlen : prev ≤ l.length)
    (heq : l.take (max prev node.snapshotIndex) = lead.take (max prev node.snapshotIndex))
    (hl : node'.log = node.pushEntries ((lead.take n).drop prev))
    (hs' : node'.snapshotIndex = node.snapshotIndex)
    (ht' : node'.snapshotTerm = node.snapshotTerm) : node'.Views (adopt l lead n) := by
  have hfold : node.pushEntries ((lead.take n).drop prev) =
      (adopt l lead n).drop node.snapshotIndex := by
    have hloop := foldl_pushEntry_eq_drop h.contiguous hlead (le_max_right prev _)
      (max_le hprev hs) hn (max_le hlen h.snapshotIndex_le) heq hmt
    rw [RaftNode.pushEntries, h.log, ← hloop]
    rcases le_total prev node.snapshotIndex with hle | hle
    · rw [max_eq_right hle]
      exact foldl_pushEntry_skip hlead hle _
    · rw [max_eq_left hle]
  have hlead' : l.take node.snapshotIndex <+: lead := by
    have : l.take node.snapshotIndex <+: l.take (max prev node.snapshotIndex) :=
      take_prefix_take_left (le_max_right _ _)
    rw [heq] at this
    exact this.trans ( take_prefix _ _)
  have hpre : l.take node.snapshotIndex <+: adopt l lead n := prefix_adopt ( take_prefix _ _) hlead'
  have htake : (l.take node.snapshotIndex).length = node.snapshotIndex := by
    rw [length_take, min_eq_left h.snapshotIndex_le]
  refine ⟨h.contiguous.adopt hlead n, ?_, ?_, ?_⟩
  · rw [hs']
    exact htake.ge.trans hpre.length_le
  · rw [hl, hs', hfold]
  · rw [ht', hs', h.snapshotTerm, termOf_of_isPrefix hpre htake.ge,
      termOf_of_isPrefix ( take_prefix _ l) htake.ge]

end RaftNode

end VngDatabase.Raft
