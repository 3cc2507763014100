import VngDatabase.Raft.Cluster
import VngDatabase.Raft.LogIndex

/-!
# Executing the log once and in order

The handlers of the direct path write a command first and then log it with `appendCommand`, which
moves `lastApplied` to the new entry.
-/

namespace VngDatabase.Raft

open RaftNode List Option

/-! ### Cutting contiguous logs -/

variable {node : RaftNode}

section

variable {s : ℕ} {log entries : List RaftLogEntry} {e : RaftLogEntry}

theorem Contiguous.lt_index_of_mem (h : Contiguous s log) (he : e ∈ log) : s < e.index := by
  obtain ⟨k, hk⟩ := mem_iff_getElem?.mp he
  have := h k e hk
  omega

theorem Contiguous.pairwise_index (h : Contiguous s log) :
    log.Pairwise fun x y => x.index < y.index := by
  rw [pairwise_iff_getElem]
  intro i j hi hj hij
  rw [h i _ (getElem?_eq_getElem hi), h j _ (getElem?_eq_getElem hj)]
  omega

theorem Contiguous.filter_eq_take (h : Contiguous s log) (n : ℕ) :
    log.filter (fun e => e.index ≤ s + n) = log.take n := by
  induction log generalizing s n with
  | nil => simp
  | cons e log ih =>
    obtain ⟨he, hlog⟩ := contiguous_cons.mp h
    rcases n with _ | n
    · rw [take_zero, filter_eq_nil_iff]
      intro x hx
      have := h.lt_index_of_mem hx
      simp only [decide_eq_true_eq]
      omega
    · rw [filter_cons_of_pos (by simp; omega), take_succ_cons, ← ih hlog n]
      congr 1
      refine filter_congr ?_
      intro x _
      simp only [decide_eq_decide]
      omega

theorem Contiguous.committedEntries_eq (h : Contiguous 0 node.log) :
    node.committedEntries =
      (node.log.drop node.lastApplied).take (node.commitIndex - node.lastApplied) := by
  have hdrop := h.drop node.lastApplied
  rw [← hdrop.filter_eq_take, ← h.filter_eq_drop, List.filter_filter, committedEntries]
  refine List.filter_congr ?_
  intro e _
  rw [← Bool.decide_and, decide_eq_decide]
  omega

theorem take_pushEntry {n : ℕ} (hn : n ≤ log.length) (hpos : 0 < e.index)
    (hagr : e.index ≤ n → ∀ x, log[e.index - 1]? = some x → x.term = e.term) :
    (pushEntry 0 log e).take n = log.take n ∧
      n ≤ (pushEntry 0 log e).length := by
  cases hget : log[e.index - 0 - 1]? with
  | none =>
    rw [pushEntry_of_none hpos hget, take_append_of_le_length hn, length_append]
    exact ⟨rfl, by omega⟩
  | some x =>
    obtain ⟨hlt, -⟩ := List.getElem?_eq_some_iff.mp hget
    rw [pushEntry_of_some hpos hget]
    split_ifs with hterm
    · have hlen : (log.take (e.index - 0 - 1)).length = e.index - 1 := by
        rw [length_take]
        omega
      have hle : n ≤ e.index - 1 := by
        by_contra hcon
        exact hterm (hagr (by omega) x hget)
      rw [take_append_of_le_length (by omega), take_take, length_append, hlen,
        Nat.sub_zero, min_eq_left hle]
      exact ⟨rfl, by omega⟩
    · exact ⟨rfl, hn⟩

theorem take_foldl_pushEntry {n : ℕ} (hn : n ≤ log.length) (hpos : ∀ e ∈ entries, 0 < e.index)
    (hagr : ∀ e ∈ entries, e.index ≤ n → ∀ x, log[e.index - 1]? = some x → x.term = e.term) :
    (entries.foldl (pushEntry 0) log).take n = log.take n ∧
      n ≤ (entries.foldl (pushEntry 0) log).length := by
  induction entries generalizing log with
  | nil => exact ⟨rfl, hn⟩
  | cons e entries ih =>
    simp only [mem_cons, forall_eq_or_imp] at hpos hagr
    obtain ⟨htake, hlen⟩ := take_pushEntry hn hpos.1 hagr.1
    obtain ⟨h1, h2⟩ := ih hlen hpos.2 fun x hx hle y hy => by
      -- below `n` the log still has its old entries
      have hlt : x.index - 1 < n := by have := hpos.2 x hx; omega
      rw [← getElem?_take_of_lt hlt, htake, getElem?_take_of_lt hlt] at hy
      exact hagr.2 x hx hle y hy
    exact ⟨h1.trans htake, h2⟩

end

structure Execution where
  command : String
  index : Option ℕ
  deriving DecidableEq

inductive ApplyPhase
  | idle
  | collected (entriesToApply : List RaftLogEntry)
  | executed (entriesToApply : List RaftLogEntry)
  deriving DecidableEq

/-- **A node, and what its row store has executed**, oldest first. -/
structure Applier where
  raft : RaftNode
  executions : List Execution
  phase : ApplyPhase

inductive ApplyAction
  | write (command : String)
  | appendCommand (position totalPeers : ℕ)
  | appendCommandPending (command : String) (totalPeers : ℕ)
  | recordAppendSuccess (peer : String) (peerMatchIndex totalNodes : ℕ)
  | handleAppendEntries (req : RaftAppendRequest)
  | becomeCandidate
  | becomeLeader (peers : List String)
  | becomeFollower (newTerm : ℕ)
  | collect
  | execute
  | advance

namespace Applier

def new (nodeId : String) : Applier := ⟨.new nodeId, [], .idle⟩

def step (s : Applier) : ApplyAction → Option Applier
  | .write command => some { s with executions := s.executions ++ [⟨command, none⟩] }
  | .appendCommand position totalPeers =>
    match s.executions[position]? with
    | some ⟨command, none⟩ =>
      if s.raft.role = .leader then
        let (node, index) := s.raft.appendCommand command totalPeers
        some { s with
          raft := node
          executions := s.executions.set position ⟨command, some index⟩ }
      else none
    | _ => none
  -- the role is checked under an earlier lock, so it may have changed
  | .appendCommandPending command totalPeers =>
    some { s with raft := (s.raft.appendCommandPending command totalPeers).1 }
  | .recordAppendSuccess peer peerMatchIndex totalNodes =>
    some { s with raft := s.raft.recordAppendSuccess peer peerMatchIndex totalNodes }
  | .handleAppendEntries req => some { s with raft := (s.raft.handleAppendEntries req).1 }
  | .becomeCandidate => some { s with raft := s.raft.becomeCandidate }
  | .becomeLeader peers => some { s with raft := s.raft.becomeLeader.initLeaderIndices peers }
  | .becomeFollower newTerm => some { s with raft := s.raft.becomeFollower newTerm }
  | .collect =>
    if s.phase = .idle ∧ s.raft.committedEntries ≠ [] then
      some { s with phase := .collected s.raft.committedEntries }
    else none
  | .execute =>
    match s.phase with
    | .collected entries =>
      some { s with
        executions := s.executions ++ entries.map fun e => ⟨e.command, some e.index⟩
        phase := .executed entries }
    | _ => none
  | .advance =>
    match s.phase with
    | .executed entries => some { s with raft := s.raft.advanceLastApplied entries, phase := .idle }
    | _ => none

def run (s : Applier) (as : List ApplyAction) : Option Applier := Transition.run step s as

def indexed (s : Applier) : List (ℕ × String) :=
  s.executions.filterMap fun x => x.index.map (·, x.command)

/-- **Every command has been executed once, and in order.** -/
def AppliedOnceInOrder (s : Applier) : Prop :=
  (∀ i, 0 < i → i ≤ s.raft.lastApplied →
    (∃ e, s.raft.logEntryAt i = some e ∧ (i, e.command) ∈ s.indexed) ∧
      (s.indexed.map Prod.fst).count i = 1) ∧
  s.indexed.Pairwise fun x y => x.1 < y.1

/-- **A command is logged right after it was executed**, and no call contradicts it. -/
def Orderly (s : Applier) : ApplyAction → Prop
  | .appendCommand position _ => position + 1 = s.executions.length ∧
      s.raft.lastApplied = s.raft.lastLogPosition.1
  | .handleAppendEntries req => Contiguous req.prevLogIndex req.entries ∧
      ∀ e ∈ req.entries, e.index ≤ max s.raft.lastApplied s.raft.commitIndex →
        ∀ x ∈ s.raft.logEntryAt e.index, x.term = e.term
  | _ => True

def pending (s : Applier) : List RaftLogEntry :=
  match s.phase with
  | .idle => []
  | .collected entries => entries
  | .executed entries => entries

def reached (s : Applier) : ℕ :=
  match s.phase with
  | .executed entries => s.raft.lastApplied + entries.length
  | _ => s.raft.lastApplied

def entryRecord (e : RaftLogEntry) : ℕ × String := (e.index, e.command)

/-- The executions are the beginning of the log. -/
structure Inv (s : Applier) : Prop where
  snapshotIndex : s.raft.snapshotIndex = 0
  contiguous : Contiguous 0 s.raft.log
  length : s.raft.lastApplied + s.pending.length ≤ s.raft.log.length
  pending : s.raft.log.take (s.raft.lastApplied + s.pending.length) =
    s.raft.log.take s.raft.lastApplied ++ s.pending
  committed : s.raft.lastApplied + s.pending.length ≤
    max s.raft.lastApplied s.raft.commitIndex
  indexed : s.indexed = (s.raft.log.take s.reached).map entryRecord

variable {s s' : Applier} {entries : List RaftLogEntry}

theorem inv_new (nodeId : String) : Inv (new nodeId) where
  snapshotIndex := rfl
  contiguous := contiguous_nil 0
  length := le_rfl
  pending := rfl
  committed := le_rfl
  indexed := rfl

theorem reached_le (s : Applier) : s.reached ≤ s.raft.lastApplied + s.pending.length := by
  rcases s with ⟨raft, executions, _ | entries | entries⟩
  · exact le_rfl
  · exact Nat.le_add_right _ _
  · exact le_rfl

theorem reached_of_pending_eq_nil (h : s.pending = []) : s.reached = s.raft.lastApplied := by
  rcases s with ⟨raft, executions, _ | entries | entries⟩
  · rfl
  · rfl
  · obtain rfl : entries = [] := h
    rfl

theorem indexed_append (s : Applier) (xs : List Execution) :
    ({ s with executions := s.executions ++ xs } : Applier).indexed =
      s.indexed ++ xs.filterMap fun x => x.index.map (·, x.command) := by
  rw [indexed, indexed, filterMap_append]

theorem Inv.frame (h : Inv s) (hsnap : node.snapshotIndex = 0)
    (hlog : Contiguous 0 node.log) (hlast : node.lastApplied = s.raft.lastApplied)
    (htake : node.log.take (s.raft.lastApplied + s.pending.length) =
      s.raft.log.take (s.raft.lastApplied + s.pending.length))
    (hlen : s.raft.lastApplied + s.pending.length ≤ node.log.length)
    (hcom : s.raft.lastApplied + s.pending.length ≤
      max s.raft.lastApplied node.commitIndex) : Inv { s with raft := node } := by
  have hpend : ({ s with raft := node } : Applier).pending = s.pending := rfl
  have hrch : ({ s with raft := node } : Applier).reached = s.reached := by
    rw [reached, reached, hlast]
  have hsho : ∀ n, n ≤ s.raft.lastApplied + s.pending.length →
      node.log.take n = s.raft.log.take n := by
    intro n hn
    rw [← min_eq_left hn, ← take_take, htake, take_take]
  refine ⟨hsnap, hlog, ?_, ?_, ?_, ?_⟩
  · rw [hpend, hlast]
    exact hlen
  · rw [hpend, hlast, htake, h.pending, hsho _ (Nat.le_add_right _ _)]
  · rw [hpend, hlast]
    exact hcom
  · rw [hrch, hsho _ s.reached_le]
    exact h.indexed

/-! ### Every critical section keeps it -/

theorem Inv.lastLogPosition (h : Inv s) : s.raft.lastLogPosition.1 = s.raft.log.length := by
  have hidx : s.raft.LogIndexed := by
    rw [RaftNode.LogIndexed, h.snapshotIndex]
    exact h.contiguous
  rw [hidx.lastLogPosition_fst, h.snapshotIndex, Nat.zero_add]

theorem Inv.concat (h : Inv s) (t : ℕ) (c : String) :
    Contiguous 0 (s.raft.log ++ [⟨s.raft.lastLogPosition.1 + 1, t, c⟩]) := by
  refine h.contiguous.concat ?_
  rw [h.lastLogPosition]
  dsimp only
  omega

theorem Inv.calm (h : Inv s) (hsnap : node.snapshotIndex = s.raft.snapshotIndex)
    (hlog : node.log = s.raft.log) (hlast : node.lastApplied = s.raft.lastApplied)
    (hcom : s.raft.commitIndex ≤ node.commitIndex) : Inv { s with raft := node } := by
  refine h.frame (hsnap.trans h.snapshotIndex) ?_ hlast (by rw [hlog]) ?_ ?_
  · rw [hlog]
    exact h.contiguous
  · rw [hlog]
    exact h.length
  · exact h.committed.trans (max_le_max le_rfl hcom)

theorem Inv.appendCommandPending (h : Inv s) (c : String) (totalPeers : ℕ) :
    Inv { s with raft := (s.raft.appendCommandPending c totalPeers).1 } := by
  have hlen := h.length
  rw [appendCommandPending_eq]
  refine h.frame h.snapshotIndex (h.concat _ _) rfl ?_ ?_ ?_
  · exact take_append_of_le_length hlen
  · rw [length_append]
    exact hlen.trans (Nat.le_add_right _ _)
  · refine h.committed.trans (max_le_max le_rfl ?_)
    dsimp only
    split_ifs
    · exact le_max_left _ _
    · exact le_rfl

theorem Inv.handleAppendEntries (h : Inv s) {req : RaftAppendRequest}
    (hreq : Contiguous req.prevLogIndex req.entries)
    (hagr : ∀ e ∈ req.entries, e.index ≤ max s.raft.lastApplied s.raft.commitIndex →
      ∀ x ∈ s.raft.logEntryAt e.index, x.term = e.term) :
    Inv { s with raft := (s.raft.handleAppendEntries req).1 } := by
  have hidx : s.raft.LogIndexed := by
    rw [RaftNode.LogIndexed, h.snapshotIndex]
    exact h.contiguous
  have hlog := hidx.handleAppendEntries hreq
  rcases s.raft.handleAppendEntries_cases req with
    ⟨-, hn, -⟩ | ⟨-, -, hn, -⟩ | ⟨-, -, last, hlast, hn, -, -⟩
  · rw [hn]
    exact h
  · rw [hn]
    exact h.calm (by simp) (by simp) (by simp) (by simp)
  · rw [RaftNode.LogIndexed, hn] at hlog
    simp only [hearLeader_snapshotIndex, h.snapshotIndex] at hlog
    -- none of the entries meets an entry it contradicts among those that must stay
    have hpos : ∀ e ∈ req.entries, 0 < e.index := fun e he => by
      have := hreq.lt_index_of_mem he
      omega
    obtain ⟨htake, hlen⟩ := take_foldl_pushEntry h.length hpos fun e he hle x hx =>
      hagr e he (hle.trans h.committed) x (by
        rwa [logEntryAt, h.snapshotIndex, Nat.sub_zero, if_neg (by have := hpos e he; omega)])
    have hpush : s.raft.pushEntries req.entries =
        req.entries.foldl (pushEntry 0) s.raft.log := by
      rw [pushEntries, h.snapshotIndex]
    rw [← hpush] at htake hlen
    have hlast1 : last.1 = (s.raft.pushEntries req.entries).length := by
      have hnew :
          ({ s.raft with log := s.raft.pushEntries req.entries } : RaftNode).LogIndexed := by
        rw [RaftNode.LogIndexed, h.snapshotIndex]
        exact hlog
      rw [hlast, hnew.lastLogPosition_fst, h.snapshotIndex, Nat.zero_add]
    have hcom := h.committed
    rw [hn]
    refine h.frame (by simp [h.snapshotIndex]) hlog (by simp) htake hlen ?_
    dsimp only
    split_ifs <;> omega

theorem Inv.collect (h : Inv s) (hidle : s.phase = .idle) :
    Inv { s with phase := .collected s.raft.committedEntries } := by
  have hlen := h.length
  have hnil : s.pending = [] := by rw [Applier.pending, hidle]
  have hrch : s.reached = s.raft.lastApplied := by rw [reached, hidle]
  rw [hnil, length_nil, Nat.add_zero] at hlen
  have heq := h.contiguous.committedEntries_eq
  have hcnt : s.raft.committedEntries.length =
      min (s.raft.commitIndex - s.raft.lastApplied) (s.raft.log.length - s.raft.lastApplied) := by
    rw [heq, length_take, length_drop]
  refine ⟨h.snapshotIndex, h.contiguous, ?_, ?_, ?_, ?_⟩ <;>
    simp only [Applier.pending, hcnt]
  · omega
  · rw [take_add, heq]
    congr 1
    refine take_eq_take_iff.mpr ?_
    rw [length_drop]
    omega
  · omega
  · have hran := h.indexed
    rwa [hrch] at hran

theorem Inv.execute (h : Inv s) (hpha : s.phase = .collected entries) :
    Inv ⟨s.raft, s.executions ++ entries.map fun e => ⟨e.command, some e.index⟩,
      .executed entries⟩ := by
  have hpend : s.pending = entries := by rw [Applier.pending, hpha]
  have hrch : s.reached = s.raft.lastApplied := by rw [reached, hpha]
  have hlog := h.pending
  have hran := h.indexed
  have hlen := h.length
  have hcom := h.committed
  rw [hpend] at hlog hlen hcom
  refine ⟨h.snapshotIndex, h.contiguous, hlen, hlog, hcom, ?_⟩
  rw [hrch] at hran
  have hxs : (entries.map fun e => (⟨e.command, some e.index⟩ : Execution)).filterMap
      (fun x => x.index.map (·, x.command)) = entries.map entryRecord := by
    rw [filterMap_map]
    exact filterMap_eq_map_iff_forall_eq_some.mpr fun _ _ => rfl
  calc ({ s with executions := s.executions ++ _ } : Applier).indexed
      = s.indexed ++ entries.map entryRecord := by rw [indexed_append, hxs]
    _ = (s.raft.log.take (s.raft.lastApplied + entries.length)).map entryRecord := by
      rw [hran, hlog, map_append]

theorem Inv.advanceLastApplied_eq (h : Inv s) (hpend : s.pending = entries) :
    s.raft.advanceLastApplied entries =
      { s.raft with lastApplied := s.raft.lastApplied + entries.length } := by
  have hlog := h.pending
  have hlen := h.length
  rw [hpend] at hlog hlen
  rw [advanceLastApplied]
  rcases eq_nil_or_concat entries with rfl | ⟨es, e, rfl⟩
  · rfl
  · -- the last of the entries sits at the end of the stretch
    rw [concat_eq_append, length_append, length_singleton] at hlog hlen ⊢
    have hfro : (s.raft.log.take s.raft.lastApplied ++ es).length =
        s.raft.lastApplied + es.length := by
      rw [length_append, length_take, min_eq_left (by omega)]
    have hget : s.raft.log[s.raft.lastApplied + es.length]? = some e := by
      rw [← getElem?_take_of_lt (show _ < s.raft.lastApplied + (es.length + 1) by omega), hlog,
        ← append_assoc, ← hfro, getElem?_concat_length]
    have hidx : e.index = s.raft.lastApplied + (es.length + 1) := by
      rw [h.contiguous _ e hget]
      omega
    rw [getLast?_append, getLast?_singleton, some_or]
    dsimp only
    rw [if_pos (by omega), hidx]

theorem Inv.advance (h : Inv s) (hpha : s.phase = .executed entries) :
    Inv ⟨s.raft.advanceLastApplied entries, s.executions, .idle⟩ := by
  have hpend : s.pending = entries := by rw [Applier.pending, hpha]
  have hrch : s.reached = s.raft.lastApplied + entries.length := by rw [reached, hpha]
  have hran := h.indexed
  have hlen := h.length
  have hcom := h.committed
  rw [hrch] at hran
  rw [hpend] at hlen hcom
  rw [h.advanceLastApplied_eq hpend]
  exact ⟨h.snapshotIndex, h.contiguous, hlen, (append_nil _).symm, le_max_left _ _, hran⟩

theorem Inv.appendCommand (h : Inv s) {position : ℕ} {c : String} (totalPeers : ℕ)
    (hget : s.executions[position]? = some ⟨c, none⟩)
    (hlast : position + 1 = s.executions.length)
    (happl : s.raft.lastApplied = s.raft.lastLogPosition.1) :
    Inv ⟨(s.raft.appendCommand c totalPeers).1,
      s.executions.set position ⟨c, some (s.raft.lastLogPosition.1 + 1)⟩, s.phase⟩ := by
  have hpos := h.lastLogPosition
  have hlen := h.length
  have hnil : s.pending = [] := eq_nil_of_length_eq_zero (by omega)
  have hrch : s.reached = s.raft.log.length := by
    rw [reached_of_pending_eq_nil hnil, happl, hpos]
  obtain ⟨xs, x, hxs⟩ : ∃ xs x, s.executions = xs ++ [x] := by
    rcases eq_nil_or_concat s.executions with hcon | ⟨xs, x, hxs⟩
    · rw [hcon] at hlast
      simp at hlast
    · exact ⟨xs, x, by rw [hxs, concat_eq_append]⟩
  obtain rfl : position = xs.length := by
    rw [hxs, length_append, length_singleton] at hlast
    omega
  obtain rfl : x = ⟨c, none⟩ := by
    rw [hxs, getElem?_concat_length] at hget
    exact some.inj hget
  have hran := h.indexed
  rw [hrch, take_length, Applier.indexed, hxs, filterMap_append,
    filterMap_cons_none rfl, filterMap_nil, append_nil] at hran
  have happ : max s.raft.lastApplied (s.raft.lastLogPosition.1 + 1) = s.raft.log.length + 1 := by
    omega
  have hpend : ∀ node xs, (⟨node, xs, s.phase⟩ : Applier).pending = [] := fun _ _ => hnil
  have hset : ∀ x y : Execution, (xs ++ [x]).set xs.length y = xs ++ [y] := fun x y => by simp
  rw [appendCommand_eq, happ, hxs, hpos, hset]
  refine ⟨h.snapshotIndex, ?_, ?_, ?_, ?_, ?_⟩
  · have := h.concat s.raft.currentTerm c
    rwa [hpos] at this
  · rw [hpend]
    simp
  · rw [hpend]
    simp
  · rw [hpend]
    exact le_max_left _ _
  · rw [reached_of_pending_eq_nil (hpend _ _), take_of_length_le (by simp), map_append,
      ← hran, Applier.indexed, filterMap_append]
    rfl

theorem Inv.step (h : Inv s) {a : ApplyAction} (hgood : Orderly s a)
    (hs : s.step a = some s') : Inv s' := by
  cases a with
  | write command =>
    obtain rfl := some.inj hs
    refine ⟨h.snapshotIndex, h.contiguous, h.length, h.pending, h.committed, ?_⟩
    rw [indexed_append, filterMap_cons_none rfl, filterMap_nil, append_nil]
    exact h.indexed
  | appendCommand position totalPeers =>
    rw [Applier.step] at hs
    split at hs
    · rename_i command hget
      split_ifs at hs
      obtain rfl := some.inj hs
      exact h.appendCommand totalPeers hget hgood.1 hgood.2
    · contradiction
  | appendCommandPending command totalPeers =>
    obtain rfl := some.inj hs
    exact h.appendCommandPending command totalPeers
  | recordAppendSuccess peer m total =>
    obtain rfl := some.inj hs
    obtain ⟨hlog, hsnap, hlast, hcom⟩ := s.raft.recordAppendSuccess_frame peer m total
    exact h.calm hsnap hlog hlast hcom
  | handleAppendEntries req =>
    obtain rfl := some.inj hs
    exact h.handleAppendEntries hgood.1 hgood.2
  | becomeCandidate =>
    obtain rfl := some.inj hs
    exact h.calm rfl rfl rfl le_rfl
  | becomeLeader peers =>
    obtain rfl := some.inj hs
    obtain ⟨next, mtch, hinit⟩ := s.raft.becomeLeader.initLeaderIndices_frame peers
    rw [hinit]
    exact h.calm rfl rfl rfl le_rfl
  | becomeFollower newTerm =>
    obtain rfl := some.inj hs
    exact h.calm (by simp) (by simp) (by simp) (by simp)
  | collect =>
    rw [Applier.step] at hs
    split_ifs at hs with hc
    obtain rfl := some.inj hs
    exact h.collect hc.1
  | execute =>
    rw [Applier.step] at hs
    split at hs
    · rename_i entries hpha
      obtain rfl := some.inj hs
      exact h.execute hpha
    · contradiction
  | advance =>
    rw [Applier.step] at hs
    split at hs
    · rename_i entries hpha
      obtain rfl := some.inj hs
      exact h.advance hpha
    · contradiction

theorem Inv.appliedOnceInOrder (h : Inv s) : s.AppliedOnceInOrder := by
  have hord : s.indexed.Pairwise fun x y => x.1 < y.1 := by
    rw [h.indexed, pairwise_map]
    exact (h.contiguous.take _).pairwise_index
  refine ⟨fun i hi hle => ?_, hord⟩
  have hlen := h.length
  have hrch : s.raft.lastApplied ≤ s.reached := by
    rcases s with ⟨raft, executions, _ | entries | entries⟩
    · exact le_rfl
    · exact le_rfl
    · exact Nat.le_add_right _ _
  have hlt : i - 1 < s.raft.log.length := by omega
  have hget := getElem?_eq_getElem hlt
  have hidx : (s.raft.log[i - 1]).index = i := by
    rw [h.contiguous _ _ hget]
    omega
  have hmem : (i, (s.raft.log[i - 1]).command) ∈ s.indexed := by
    rw [h.indexed]
    refine mem_map.mpr ⟨s.raft.log[i - 1], ?_, by rw [entryRecord, hidx]⟩
    refine mem_of_getElem? (i := i - 1) ?_
    rw [getElem?_take_of_lt (by omega), hget]
  refine ⟨⟨s.raft.log[i - 1], ?_, hmem⟩, ?_⟩
  · rw [logEntryAt, h.snapshotIndex, if_neg (by omega), Nat.sub_zero, hget]
  · have hnd : (s.indexed.map Prod.fst).Nodup :=
      pairwise_map.mpr (hord.imp fun hlt => hlt.ne)
    exact count_eq_one_of_mem hnd (mem_map.mpr ⟨_, hmem, rfl⟩)

/-- **Everything applied was executed once and in order**, if all sections are orderly. -/
theorem appliedOnceInOrder_of_orderly {nodeId : String}
    (h : Transition.ReachableIf step Orderly (new nodeId) s) : s.AppliedOnceInOrder :=
  (h.invariant (inv_new nodeId) fun hs hgood hstep => hs.step hgood hstep).appliedOnceInOrder

instance (s : Applier) : DecidablePred (Orderly s)
  | .appendCommand _ _ => inferInstanceAs (Decidable (_ ∧ _))
  | .handleAppendEntries _ => inferInstanceAs (Decidable (_ ∧ _))
  | .write _ => .isTrue trivial
  | .appendCommandPending _ _ => .isTrue trivial
  | .recordAppendSuccess _ _ _ => .isTrue trivial
  | .becomeCandidate => .isTrue trivial
  | .becomeLeader _ => .isTrue trivial
  | .becomeFollower _ => .isTrue trivial
  | .collect => .isTrue trivial
  | .execute => .isTrue trivial
  | .advance => .isTrue trivial

def writeThenApply : List ApplyAction :=
  [.becomeCandidate, .becomeLeader [], .write "x", .appendCommand 0 0, .appendCommandPending "y" 0,
    .collect, .execute, .advance]

theorem appliedOnceInOrder_writeThenApply :
    ∃ s, Transition.ReachableIf step Orderly (new "node-1") s ∧ s.raft.lastApplied = 2 ∧
      s.indexed = [(1, "x"), (2, "y")] ∧ s.AppliedOnceInOrder := by
  obtain ⟨s, hs, hlast, hran⟩ := Transition.exists_of_runIf step Orderly (new "node-1")
    writeThenApply (fun s => s.raft.lastApplied = 2 ∧ s.indexed = [(1, "x"), (2, "y")]) (by decide)
  exact ⟨s, hs, hlast, hran, appliedOnceInOrder_of_orderly hs⟩

def appendPastPending : List ApplyAction :=
  [.becomeCandidate, .becomeLeader ["node-2", "node-3"], .appendCommandPending "x" 2, .write "y",
    .appendCommand 0 2, .recordAppendSuccess "node-2" 2 3]

/-- **A pending command is skipped for good.** -/
theorem pending_command_skipped :
    ∃ s, (new "node-1").run appendPastPending = some s ∧
      s.raft.logEntryAt 1 = some ⟨1, 1, "x"⟩ ∧ s.raft.commitIndex = 2 ∧ s.raft.lastApplied = 2 ∧
      s.executions = [⟨"y", some 2⟩] ∧ s.step .collect = none ∧ ¬ s.AppliedOnceInOrder := by
  obtain ⟨s, hrun, hent, hcom, hlast, hexec, hcol⟩ :=
    Transition.exists_of_run step (new "node-1") appendPastPending
      (fun s => s.raft.logEntryAt 1 = some ⟨1, 1, "x"⟩ ∧ s.raft.commitIndex = 2 ∧
        s.raft.lastApplied = 2 ∧ s.executions = [⟨"y", some 2⟩] ∧ s.step .collect = none)
      (by decide)
  refine ⟨s, hrun, hent, hcom, hlast, hexec, hcol, fun hcon => ?_⟩
  obtain ⟨⟨e, -, hmem⟩, -⟩ := hcon.1 1 one_pos (by omega)
  rw [indexed, hexec] at hmem
  simp at hmem

end Applier

end VngDatabase.Raft
