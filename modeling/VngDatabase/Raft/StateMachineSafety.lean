import VngDatabase.Raft.LogMatching

/-!
# Committed entries agree

Two nodes whose commit index has reached an index hold the same entry there. On top of
`Cluster.Holds` this needs what the nodes know of acknowledgements and of committed entries
(`Cluster.Commits`).
-/

namespace VngDatabase.Raft

open Consensus RaftLogEntry RaftNode List

/-! ### Counting copies -/

variable {n : ℕ}

namespace RaftNode

theorem replicatedOn_le_card (node : RaftNode) {S : Finset String}
    (hS : ∀ p m, node.matchIndex.lookup p = some m → n ≤ m → p ∈ S) :
    node.replicatedOn n ≤ S.card := by
  have hnd : ((node.matchIndex.entries.filter fun e => n ≤ e.2).map Sigma.fst).Nodup :=
    Multiset.nodup_of_le (Multiset.map_le_map (Multiset.filter_le _ _))
      (Multiset.nodup_keys.mpr node.matchIndex.nodupKeys)
  rw [replicatedOn, Multiset.countP_eq_card_filter, ← Multiset.card_map Sigma.fst,
    ← Multiset.toFinset_card_of_nodup hnd]
  refine Finset.card_le_card ?_
  intro p hp
  obtain ⟨⟨p', m⟩, he, rfl⟩ := Multiset.mem_map.mp (Multiset.mem_toFinset.mp hp)
  obtain ⟨he, hm⟩ := Multiset.mem_filter.mp he
  exact hS p' m (Finmap.mem_lookup_iff.mpr he) hm

end RaftNode

namespace Cluster

variable {members : List String} {c c' : Cluster} {a a' : Replicas String RaftLogEntry}
  {i j peer : String} {node : RaftNode} {req : RaftAppendRequest} {ms : List Message} {m : Member}
  {node' : RaftNode} {resp : RaftAppendResponse}

/-! ### What the replicas know of commits -/

variable (members) in
/-- Its commit index covers a committed beginning of its log. -/
structure NodeCommits (a : Replicas String RaftLogEntry) (i : String) (node : RaftNode) :
    Prop where
  snapshotIndex : node.snapshotIndex = 0
  committed : a.Committed members.toFinset ((members.length + 1) / 2) term
    (a.term i) (a.log i) node.commitIndex
  acked_self : node.role = .leader → (a.log i).length ≤ a.acked i (a.term i)
  matched : node.role = .leader → ∀ p m, node.matchIndex.lookup p = some m →
    p ∈ peers members i ∧ m ≤ a.acked p (a.term i)

variable (members) in
def MessageCommits (a : Replicas String RaftLogEntry) : Message → Prop
  | .voteRequest _ req =>
    req.lastLogIndex = (a.cand req.candidateId req.term).length ∧
      req.lastLogTerm = lastTerm term (a.cand req.candidateId req.term)
  | .voteResponse .. => True
  | .appendRequest peer req => peer ∈ peers members req.leaderId ∧
      a.Committed members.toFinset ((members.length + 1) / 2) term req.term
        (a.lead req.term) req.leaderCommit ∧
      (req.leaderCommit ≤ req.prevLogIndex + req.entries.length ∨
        0 < req.prevLogIndex ∧ req.prevLogTerm = 0)
  | .appendResponse peer req resp => resp.success = true → peer ∈ peers members req.leaderId ∧
      req.prevLogIndex + req.entries.length ≤ a.acked peer req.term
  | .snapshotRequest .. => False
  | .snapshotResponse .. => False

variable (members) in
structure Commits (c : Cluster) (a : Replicas String RaftLogEntry) : Prop where
  holds : Holds members c a
  complete : a.Complete members.toFinset ((members.length + 1) / 2) term
  node : ∀ i, NodeCommits members a i (c.member i).raft
  message : ∀ {m}, m ∈ c.net → MessageCommits members a m

variable (members) in
theorem commits_init : Commits members init Replicas.init where
  holds := holds_init members
  complete := Replicas.complete_init
  node i := ⟨rfl, Or.inl rfl, fun h => by simp [init, new] at h,
    fun h => by simp [init, new] at h⟩
  message h := by simp [init] at h

variable (members) in
def Runs : Replicas String RaftLogEntry → Replicas String RaftLogEntry → Prop :=
  Relation.ReflTransGen (Replicas.Step members.toFinset ((members.length + 1) / 2)
    term (UpToDate term))

theorem Commits.later (h : Commits members c a) (hrun : Runs members a a') : a.Later a' :=
  (h.holds.inv.run hrun).2

theorem NodeCommits.mono (h : NodeCommits members a j node) (hg : Grows a a' i)
    (hltr : a.Later a') (hj : j ≠ i) : NodeCommits members a' j node where
  snapshotIndex := h.snapshotIndex
  committed := by
    rw [hg.term_eq j hj, hg.log_eq j hj]
    exact h.committed.mono le_rfl hltr fun _ _ => id
  acked_self hl := by
    rw [hg.term_eq j hj, hg.log_eq j hj]
    exact (h.acked_self hl).trans (hltr.acked _ _)
  matched hl p m hm := by
    rw [hg.term_eq j hj]
    obtain ⟨hp, hle⟩ := h.matched hl p m hm
    exact ⟨hp, hle.trans (hltr.acked _ _)⟩

theorem MessageCommits.mono {m : Message} (h : MessageCommits members a m) (hheld : MessageHeld a m)
    (hltr : a.Later a') : MessageCommits members a' m := by
  cases m with
  | voteRequest peer req =>
    dsimp only [MessageCommits] at h ⊢
    rwa [hltr.cand hheld]
  | voteResponse => trivial
  | appendRequest peer req =>
    obtain ⟨hp, hc, hle⟩ := h
    exact ⟨hp, hc.mono le_rfl hltr fun x _ hx => hx.trans (hltr.lead _), hle⟩
  | appendResponse peer req resp =>
    intro hs
    exact ⟨(h hs).1, (h hs).2.trans (hltr.acked _ _)⟩
  | snapshotRequest => exact h
  | snapshotResponse => exact h

theorem Commits.agree (h : Commits members c a)
    (hhol : Holds members ((c.setMember i m).send ms) a')
    (hcom : a'.Complete members.toFinset ((members.length + 1) / 2) term)
    (hg : Grows a a' i) (hltr : a.Later a') (hnode : NodeCommits members a' i m.raft)
    (hms : ∀ x ∈ ms, MessageCommits members a' x) :
    Commits members ((c.setMember i m).send ms) a' where
  holds := hhol
  complete := hcom
  node j := by
    rcases eq_or_ne j i with rfl | hj
    · simpa using hnode
    · rw [send_member, setMember_of_ne c m hj]
      exact (h.node j).mono hg hltr hj
  message {x} hx := by
    rcases mem_append.mp hx with hx | hx
    · exact (h.message hx).mono (h.holds.message hx) hltr
    · exact hms x hx

theorem Commits.update (h : Commits members c a) (hnd : members.Nodup) (hodd : Odd members.length)
    (hrun : Runs members a a')
    (hhol : Holds members ((c.setMember i m).send ms) a') (hg : Grows a a' i)
    (hnode : NodeCommits members a' i m.raft) (hms : ∀ x ∈ ms, MessageCommits members a' x) :
    ∃ a', Runs members a a' ∧ Commits members ((c.setMember i m).send ms) a' :=
  ⟨a', hrun, h.agree hhol (h.complete.run (card_lt_two_mul_quorum hnd hodd) hrun) hg
    (h.later hrun) hnode hms⟩

theorem Commits.keep (h : Commits members c a)
    (hhol : Holds members ((c.setMember i m).send ms) a)
    (hnode : NodeCommits members a i m.raft) (hms : ∀ x ∈ ms, MessageCommits members a x) :
    ∃ a', Runs members a a' ∧ Commits members ((c.setMember i m).send ms) a' :=
  ⟨a, .refl, h.agree hhol h.complete (.refl a i) (.refl a) hnode hms⟩

theorem NodeCommits.quiet (h : NodeCommits members a i node)
    (hq : Quiet node node') : NodeCommits members a i node' := by
  obtain ⟨_, _, _, rfl⟩ := hq
  exact ⟨h.snapshotIndex, h.committed, h.acked_self, h.matched⟩

theorem NodeCommits.of_not_leader (h : NodeCommits members a i node)
    (hr : node'.role ≠ .leader) (hs : node'.snapshotIndex = node.snapshotIndex)
    (hc : node'.commitIndex = node.commitIndex) (hT : a.term i ≤ a'.term i) (hltr : a.Later a')
    (hlog : a'.log i = a.log i) : NodeCommits members a' i node' where
  snapshotIndex := hs.trans h.snapshotIndex
  committed := by
    rw [hc, hlog]
    exact h.committed.mono hT hltr fun _ _ => id
  acked_self hl := absurd hl hr
  matched hl := absurd hl hr

theorem NodeCommits.observeTerm {b : Ballots String} {t : ℕ} (h : NodeCommits members a i node)
    (hT : a.term i ≤ b.term i) (hltr : a.Later { a with toBallots := b })
    (hterm : ¬ node.currentTerm < t → b.term i = a.term i) :
    NodeCommits members { a with toBallots := b } i (node.observeTerm t) := by
  rw [RaftNode.observeTerm]
  split_ifs with hlt
  · exact h.of_not_leader (by simp) (by simp) (by simp) hT hltr rfl
  · refine ⟨h.snapshotIndex, ?_, ?_, ?_⟩ <;> dsimp only <;> rw [hterm hlt]
    exacts [h.committed, h.acked_self, h.matched]

theorem adopt_self (l : List RaftLogEntry) (n : ℕ) : adopt l l n = l :=
  if_pos ( take_prefix n l)

theorem accept_log_of_lead (hlead : a.lead (a.term i) = a.log i) (n : ℕ) :
    (a.accept i n).log = a.log := by
  funext j
  rcases eq_or_ne j i with rfl | hj
  · rw [a.accept_log_self, hlead, adopt_self]
  · exact a.accept_log_of_ne n hj

theorem Holds.selfAck (h : Holds members c a) (hlead : a.lead (a.term i) = a.log i) (n : ℕ) :
    Holds members c (a.accept i n) where
  records := h.records
  inv := h.inv.accept i n
  vote_pos := h.vote_pos
  contiguous := h.contiguous
  node j := by
    refine ⟨?_, ?_, ?_⟩ <;> rw [accept_log_of_lead hlead n]
    · exact (h.node j).views
    · exact (h.node j).leads
    · exact (h.node j).stands
  message {m} hm := by
    have := h.message hm
    cases m <;> exact this

variable (members) in
/-- **A reply that commits what is the leader's own.** -/
def ReplyCommitsOwn (node : RaftNode) (peer : String) (req : RaftAppendRequest)
    (resp : RaftAppendResponse) : Prop :=
  resp.matchIndex ≤ req.prevLogIndex + req.entries.length ∧
  ∀ n ∈ List.range' (node.commitIndex + 1) (resp.matchIndex - node.commitIndex),
    (members.length + 1) / 2 ≤ 1 + (node.recordMatch peer resp.matchIndex).replicatedOn n →
    (∃ n' ∈ List.range' (node.commitIndex + 1) (resp.matchIndex - node.commitIndex), n < n' ∧
      (members.length + 1) / 2 ≤ 1 + (node.recordMatch peer resp.matchIndex).replicatedOn n') ∨
    (node.logEntryAt n).map term = some node.currentTerm

theorem NodeCommits.matched_recordMatch (h : NodeCommits members a i node)
    (hrole : node.role = .leader) {m : ℕ} (hpeer : peer ∈ peers members i)
    (hm : m ≤ a.acked peer (a.term i)) :
    ∀ p k, (node.recordMatch peer m).matchIndex.lookup p = some k →
      p ∈ peers members i ∧ k ≤ a.acked p (a.term i) := by
  intro p k hk
  rcases eq_or_ne p peer with rfl | hne
  · rw [recordMatch, Finmap.lookup_insert] at hk
    rw [← Option.some.inj hk]
    exact ⟨hpeer, hm⟩
  · rw [recordMatch, Finmap.lookup_insert_of_ne _ hne] at hk
    exact h.matched hrole p k hk

theorem chosen_of_replicatedOn (hn : 0 < n) (hmem : i ∈ members) (hself : n ≤ a.acked i (a.term i))
    (hmtd : ∀ p k, node.matchIndex.lookup p = some k →
      p ∈ peers members i ∧ k ≤ a.acked p (a.term i))
    (hq : (members.length + 1) / 2 ≤ 1 + node.replicatedOn n) :
    a.Chosen members.toFinset ((members.length + 1) / 2) (a.term i) (n - 1) := by
  obtain ⟨Q, hQ⟩ : ∃ Q, Q = members.toFinset.filter fun p => n ≤ a.acked p (a.term i) := ⟨_, rfl⟩
  have hi : i ∈ Q := by
    rw [hQ]
    exact Finset.mem_filter.mpr ⟨mem_toFinset.mpr hmem, hself⟩
  have hcnt : node.replicatedOn n ≤ (Q.erase i).card := by
    refine node.replicatedOn_le_card ?_
    intro p m hp hm
    obtain ⟨hpeer, hle⟩ := hmtd p m hp
    obtain ⟨hpm, hne⟩ := mem_filter.mp hpeer
    rw [hQ]
    exact Finset.mem_erase.mpr ⟨by simpa using hne,
      Finset.mem_filter.mpr ⟨mem_toFinset.mpr hpm, hm.trans hle⟩⟩
  have hcard := Finset.card_erase_add_one hi
  refine ⟨Q, ⟨?_, by omega⟩, fun p hp => ?_⟩
  · rw [hQ]
    exact Finset.filter_subset _ _
  · rw [hQ] at hp
    have := (Finset.mem_filter.mp hp).2
    omega

theorem committed_of_chosen (hn : 0 < n) (hlead : a.lead (a.term i) = a.log i)
    {e : RaftLogEntry} (he : (a.log i)[n - 1]? = some e) (het : e.term = a.term i)
    (hch : a.Chosen members.toFinset ((members.length + 1) / 2) (a.term i) (n - 1)) :
    a.Committed members.toFinset ((members.length + 1) / 2) term (a.term i)
      (a.log i) n := by
  refine Or.inr ⟨a.term i, le_rfl, n - 1, ⟨e, ?_, het⟩, hch, by omega, ?_⟩
  · rwa [hlead]
  · rw [hlead]
    exact take_prefix _ _

theorem Commits.appended (h : Commits members c a) (hmsg : .appendResponse peer req resp ∈ c.net)
    (hrole : (c.member req.leaderId).raft.role = .leader)
    (hterm : (c.member req.leaderId).raft.currentTerm = req.term) (hsucc : resp.success = true)
    (hown : ReplyCommitsOwn members (c.member req.leaderId).raft peer req resp) :
    ∃ a', Runs members a a' ∧ Commits members (c.setRaft req.leaderId
      ((c.member req.leaderId).raft.recordAppendSuccess peer resp.matchIndex members.length))
      a' := by
  obtain ⟨i, hi⟩ : ∃ i, i = req.leaderId := ⟨_, rfl⟩
  have hnode := h.node i
  have hheld := h.holds.node i
  have hrec := h.holds.records.node i
  obtain ⟨hpeer, hcov⟩ := h.message hmsg hsucc
  rw [← hi] at hrole hterm hown hpeer ⊢
  obtain ⟨-, hlead⟩ := hheld.leads hrole
  have hack : resp.matchIndex ≤ a.acked peer (a.term i) := by
    rw [← hrec.term, hterm]
    exact hown.1.trans hcov
  have hmtd := hnode.matched_recordMatch hrole hpeer hack
  rw [← send_nil (c.setRaft i _)]
  refine h.keep (h.holds.calm i ⟨rfl, rfl, rfl, rfl⟩ ⟨rfl, rfl, rfl⟩ (by simp) (by simp)) ?_
    (by simp)
  dsimp only
  rcases (c.member i).raft.recordAppendSuccess_cases peer resp.matchIndex members.length with
    hn | ⟨n, hnr, hn, hq, hlast⟩
  · rw [hn]
    exact ⟨hnode.snapshotIndex, hnode.committed, fun _ => hnode.acked_self hrole, fun _ => hmtd⟩
  · rw [hn]
    have hpos : 0 < n := by
      rw [mem_range'_1] at hnr
      omega
    -- no later index has a quorum, so this one holds an entry of the leader's term
    have hent : ((c.member i).raft.logEntryAt n).map term =
        some (c.member i).raft.currentTerm := by
      rcases hown.2 n hnr hq with ⟨n', hn', hlt, hq'⟩ | hent
      · exact absurd hq' (hlast n' hn' hlt)
      · exact hent
    rw [hheld.views.logEntryAt (by rw [hnode.snapshotIndex]; exact hpos),
      Option.map_eq_some_iff] at hent
    obtain ⟨e, he, het⟩ := hent
    have hlen := (List.getElem?_eq_some_iff.mp he).1
    have hself := hnode.acked_self hrole
    have hch := chosen_of_replicatedOn hpos (hrec.mem hrole) (by omega) hmtd hq
    exact ⟨hnode.snapshotIndex, committed_of_chosen hpos hlead he (het.trans hrec.term) hch,
      fun _ => hself, fun _ => hmtd⟩

/-! ### The other steps -/

theorem Commits.stand (h : Commits members c a) (hnd : members.Nodup) (hodd : Odd members.length)
    (i : String) {ticks : ℕ}
    (hm : m.raft = { (c.member i).raft.becomeCandidate with ticksSinceHeartbeat := ticks })
    (hhol : Holds members ((c.setMember i m).send ms) (a.stand i))
    (hms : ∀ x ∈ ms, MessageCommits members (a.stand i) x) :
    ∃ a', Runs members a a' ∧ Commits members ((c.setMember i m).send ms) a' := by
  have hrun : Runs members a (a.stand i) := .single (.stand i)
  refine h.update hnd hodd hrun hhol (h.holds.grows_stand i) ?_ hms
  rw [hm]
  exact (h.node i).of_not_leader (by simp [becomeCandidate]) rfl rfl
    ((h.holds.inv.stand_step i).le.term i) (h.later hrun) rfl

theorem Commits.voteRequest_commits (h : Commits members c a)
    (hn : node = { (c.member i).raft.becomeCandidate with ticksSinceHeartbeat := 0 }) (p : String) :
    MessageCommits members (a.stand i) (.voteRequest p node.voteRequestOf) := by
  have hvw := (h.holds.node i).views
  have hrec := h.holds.records.node i
  have hlog : (c.member i).raft.log = a.log i := by
    rw [hvw.log, (h.node i).snapshotIndex, drop_zero]
  have hid : node.voteRequestOf.candidateId = i := by
    rw [hn]
    exact hrec.nodeId
  have hterm : node.voteRequestOf.term = a.term i + 1 := by
    rw [hn]
    exact congrArg (· + 1) hrec.term
  dsimp only [MessageCommits]
  rw [hid, hterm, a.stand_cand_self, hn, ← hlog]
  exact ⟨rfl, rfl⟩

theorem runs_observe (a : Replicas String RaftLogEntry) (peer : String) (t : ℕ) :
    Runs members a (a.observe peer t) := .single (.observe peer t)

theorem Commits.refuse (h : Commits members c a) (hnd : members.Nodup) (hodd : Odd members.length)
    (peer : String) (t : ℕ)
    (hhol : Holds members ((c.setRaft peer ((c.member peer).raft.observeTerm t)).send ms)
      (a.observe peer t)) (hms : ∀ x ∈ ms, MessageCommits members (a.observe peer t) x) :
    ∃ a', Runs members a a' ∧
      Commits members ((c.setRaft peer ((c.member peer).raft.observeTerm t)).send ms) a' :=
  h.update hnd hodd (runs_observe a peer t) hhol (grows_observe a peer t)
    ((h.node peer).observeTerm ((Ballots.Step.observe peer t).le.term peer)
      (h.later (runs_observe a peer t)) (h.holds.records.node peer).observe_term) hms

theorem Commits.grant (h : Commits members c a) (hnd : members.Nodup) (hodd : Odd members.length)
    (peer : String) {req : RaftVoteRequest} (resp : RaftVoteResponse)
    (hle : (c.member peer).raft.currentTerm ≤ req.term)
    (hfree : a.vote peer req.term = none ∨ a.vote peer req.term = some req.candidateId)
    (hself : a.vote req.candidateId req.term = some req.candidateId)
    (hup : UpToDate term (a.cand req.candidateId req.term) (a.log peer)) :
    ∃ a', Runs members a a' ∧ Commits members
      ((c.setRaft peer { (c.member peer).raft.observeTerm req.term with
        votedFor := some req.candidateId }).send [.voteResponse peer req resp]) a' := by
  have hle' : a.term peer ≤ req.term := (h.holds.records.node peer).term ▸ hle
  have hrun : Runs members a (a.cast peer req.candidateId req.term) :=
    .single (.cast peer _ _ hle' hfree hself hup)
  refine h.update hnd hodd hrun (h.holds.grant peer resp hle hfree hself) (grows_cast hle' hfree) ?_
    (by simp [MessageCommits])
  obtain ⟨hs, hc, hack, hm⟩ := (h.node peer).observeTerm
    ((Ballots.Step.cast peer _ _ hle' hfree).le.term peer) (h.later hrun)
    ((h.holds.records.node peer).cast_term req.candidateId hle)
  exact ⟨hs, hc, hack, hm⟩

theorem initLeaderIndices_matchIndex (node : RaftNode) (ps : List String)
    (hemp : node.matchIndex = ∅) :
    ∀ p m, (node.initLeaderIndices ps).matchIndex.lookup p = some m → p ∈ ps ∧ m = 0 := by
  have hfold : ∀ (qs : List String) (n : ℕ) (node : RaftNode),
      (∀ p m, node.matchIndex.lookup p = some m → p ∈ ps ∧ m = 0) → qs ⊆ ps →
      ∀ p m, (qs.foldl (fun node peer =>
        { node with
          nextIndex := node.nextIndex.insert peer n
          matchIndex := node.matchIndex.insert peer 0 }) node).matchIndex.lookup p = some m →
        p ∈ ps ∧ m = 0 := by
    intro qs n
    induction qs with
    | nil => exact fun _ hnode _ => hnode
    | cons r qs ih =>
      intro node hnode hsub
      refine ih _ (fun p m hm => ?_) fun q hq => hsub (mem_cons_of_mem r hq)
      rcases eq_or_ne p r with rfl | hne
      · rw [Finmap.lookup_insert] at hm
        exact ⟨hsub mem_cons_self, (Option.some.inj hm).symm⟩
      · rw [Finmap.lookup_insert_of_ne _ hne] at hm
        exact hnode p m hm
  refine hfold ps _ node (fun p m hm => ?_) fun _ => id
  rw [hemp, Finmap.lookup_empty] at hm
  exact absurd hm (by simp)

theorem Commits.lead (h : Commits members c a) (hnd : members.Nodup) (hodd : Odd members.length)
    {e : Election} (he : (c.member i).election = some e)
    (hq : (members.length + 1) / 2 ≤ e.votesGranted) (hrole : (c.member i).raft.role = .candidate)
    (hterm : (c.member i).raft.currentTerm = e.term) :
    ∃ a', Runs members a a' ∧ Commits members (c.setMember i { c.member i with
      raft := (c.member i).raft.becomeLeader.initLeaderIndices (peers members i)
      election := none }) a' := by
  obtain ⟨hwon, hnone, hcand, hhol⟩ := h.holds.lead hnd hodd he hq hrole hterm
  have hlead : (a.elect i).lead ((a.elect i).term i) = (a.elect i).log i := a.elect_lead_self i
  have hldr : (a.elect i).leader ((a.elect i).term i) ≠ none := by
    rw [show (a.elect i).leader ((a.elect i).term i) = _ from a.elect_leader_self i]
    exact Option.some_ne_none i
  have hgro := (h.holds.grows_elect hnone).trans (grows_accept (a.elect i) i (a.log i).length)
  have hrun : Runs members a ((a.elect i).accept i (a.log i).length) :=
    (Relation.ReflTransGen.single (.elect i hwon hnone hcand)).tail
      (.accept i _ hldr (by rw [hlead]; rfl))
  rw [← send_nil (c.setMember i _)] at hhol ⊢
  refine h.update hnd hodd hrun (hhol.selfAck hlead _) hgro ?_ (by simp)
  have hnode := h.node i
  obtain ⟨next, mtch, hinit⟩ :=
    (c.member i).raft.becomeLeader.initLeaderIndices_frame (peers members i)
  have hmt := initLeaderIndices_matchIndex (c.member i).raft.becomeLeader (peers members i) rfl
  refine ⟨?_, ?_, fun _ => ?_, fun _ p m hm => ?_⟩
  · dsimp only
    rw [hinit]
    exact hnode.snapshotIndex
  · dsimp only
    rw [accept_log_of_lead hlead, hinit]
    exact hnode.committed.mono le_rfl (h.later hrun) fun _ _ => id
  · rw [accept_log_of_lead hlead]
    exact (le_max_right _ _).trans (Replicas.accept_acked_self (a.elect i) i _).ge
  · obtain ⟨hp, rfl⟩ := hmt p m hm
    exact ⟨hp, Nat.zero_le _⟩

theorem length_le_one_of_peers (hnd : members.Nodup) (hp : (peers members i).length = 0) :
    members.length ≤ 1 := by
  have hall : ∀ j ∈ members, j = i := by
    intro j hj
    by_contra hne
    have : j ∈ peers members i := mem_filter.mpr ⟨hj, by simpa using hne⟩
    rw [length_eq_zero_iff.mp hp] at this
    exact absurd this (by simp)
  have hcard := Finset.card_le_one.mpr fun j hj k hk =>
    (hall j (mem_toFinset.mp hj)).trans (hall k (mem_toFinset.mp hk)).symm
  rwa [toFinset_card_of_nodup hnd] at hcard

theorem Commits.append (h : Commits members c a) (hnd : members.Nodup) (hodd : Odd members.length)
    (command : String) (hrole : (c.member i).raft.role = .leader)
    (hhol : Holds members (c.setRaft i node) (a.append i ⟨(a.log i).length + 1, a.term i, command⟩))
    (hs : node.snapshotIndex = (c.member i).raft.snapshotIndex)
    (hm : node.matchIndex = (c.member i).raft.matchIndex)
    (hc : node.commitIndex = if (peers members i).length = 0 then
      max (c.member i).raft.commitIndex ((c.member i).raft.lastLogPosition.1 + 1)
      else (c.member i).raft.commitIndex) :
    ∃ a', Runs members a a' ∧ Commits members (c.setRaft i node) a' := by
  obtain ⟨e, he⟩ : ∃ e : RaftLogEntry, e = ⟨(a.log i).length + 1, a.term i, command⟩ := ⟨_, rfl⟩
  rw [← he] at hhol
  obtain ⟨hldr, hlead⟩ := (h.holds.node i).leads hrole
  have hlead' : (a.append i e).lead ((a.append i e).term i) = (a.append i e).log i := by
    rw [show (a.append i e).term i = a.term i from rfl, a.append_lead_self, a.append_log_self,
      hlead]
  have hlog' : (a.append i e).log i = a.log i ++ [e] := a.append_log_self i e
  obtain ⟨b, hb⟩ : ∃ b, b = (a.append i e).accept i ((a.log i).length + 1) := ⟨_, rfl⟩
  have hgro := (grows_append hldr e).trans
    (grows_accept (a.append i e) i ((a.log i).length + 1))
  have hrun : Runs members a b := by
    refine (Relation.ReflTransGen.single (.append i e hldr hlead (by rw [he]))).tail ?_
    rw [hb]
    refine .accept i _ ?_ ?_
    · rw [show (a.append i e).leader = a.leader from rfl,
        show (a.append i e).term i = a.term i from rfl, hldr]
      exact Option.some_ne_none i
    · rw [hlead', hlog', length_append, length_singleton]
  have hltr := h.later hrun
  rw [← hb] at hgro
  have hlogb : b.log i = a.log i ++ [e] := by rw [hb, accept_log_of_lead hlead', hlog']
  have hlea : b.lead (b.term i) = b.log i := by
    rw [hlogb, ← hlog', ← hlead', hb]
    rfl
  have hself : (a.log i).length + 1 ≤ b.acked i (b.term i) := by
    rw [hb]
    exact (le_max_right _ _).trans (Replicas.accept_acked_self (a.append i e) i _).ge
  have hmtd : ∀ p m, node.matchIndex.lookup p = some m →
      p ∈ peers members i ∧ m ≤ b.acked p (b.term i) := by
    intro p m hpm
    obtain ⟨hp, hle⟩ := (h.node i).matched hrole p m (hm ▸ hpm)
    rw [show b.term i = a.term i by rw [hb]; rfl]
    exact ⟨hp, hle.trans (hltr.acked p _)⟩
  have hold : b.Committed members.toFinset ((members.length + 1) / 2) term (b.term i)
      (b.log i) (c.member i).raft.commitIndex := by
    rw [hlogb]
    refine (h.node i).committed.mono (by rw [hb]; rfl) hltr
      fun x _ hx => hx.trans (prefix_append _ _)
  rw [← send_nil (c.setRaft i node)] at hhol ⊢
  refine h.update hnd hodd hrun (by rw [hb]; exact hhol.selfAck hlead' _) hgro ?_ (by simp)
  refine ⟨hs.trans (h.node i).snapshotIndex, ?_, fun _ => ?_, fun _ => hmtd⟩
  · dsimp only
    rw [hc]
    split_ifs with hp
    · rw [(h.holds.node i).views.lastLogPosition_fst,
        max_eq_right ((h.node i).committed.le_length.trans (Nat.le_succ _))]
      refine committed_of_chosen (Nat.succ_pos _) hlea (e := e) ?_ (by rw [he, hb]; rfl) ?_
      · rw [hlogb]
        simp
      · refine chosen_of_replicatedOn (Nat.succ_pos _)
          ((h.holds.records.node i).mem hrole) hself hmtd ?_
        have := length_le_one_of_peers hnd hp
        omega
    · exact hold
  · rw [hlogb, length_append, length_singleton]
    exact hself

theorem appendKeeps_of_snapshotIndex_eq_zero {lead : List RaftLogEntry} (hlead : Contiguous 0 lead)
    (hoff : Offers lead req) (hs : node.snapshotIndex = 0) : AppendKeeps node req := by
  intro h0 _ e he hidx
  rcases hoff with ⟨-, hent, -⟩ | ⟨hpos, -⟩
  · rw [hent] at he
    obtain ⟨k, hk⟩ := mem_iff_getElem?.mp (mem_of_mem_take (mem_of_mem_drop he))
    have := hlead k e hk
    omega
  · omega

theorem Commits.covered (h : Commits members c a) (hodd : Odd members.length)
    (hmsg : .appendRequest peer req ∈ c.net) (hprev : (c.member peer).raft.prevMatches req = true) :
    req.leaderCommit ≤ req.prevLogIndex + req.entries.length ∧
      req.prevLogIndex + req.entries.length ≤ (a.lead req.term).length ∧
      RaftNode.Views { (c.member peer).raft with
          log := (c.member peer).raft.pushEntries req.entries }
        (adopt (a.log peer) (a.lead req.term) (req.prevLogIndex + req.entries.length)) := by
  obtain ⟨-, hoff⟩ := h.holds.message hmsg
  obtain ⟨-, -, hcov⟩ := h.message hmsg
  have hs := (h.node peer).snapshotIndex
  rcases h.holds.accepted hodd hoff hprev
    (appendKeeps_of_snapshotIndex_eq_zero (h.holds.contiguous _) hoff hs) with
    ⟨hpos, -⟩ | ⟨hlen, hvw⟩
  · omega
  refine ⟨hcov.resolve_right ?_, hlen, hvw⟩
  -- a call past the end of its leader's log is never accepted
  rintro ⟨hpos, hzero⟩
  obtain ⟨-, x, hx, hxt⟩ := (h.holds.node peer).views.exists_of_prevMatches hprev hpos
  have := h.holds.entry_term_pos hodd hx
  omega

theorem Commits.leaderCommit_le_last (h : Commits members c a) (hodd : Odd members.length)
    (hmsg : .appendRequest peer req ∈ c.net) (hprev : (c.member peer).raft.prevMatches req = true) :
    req.leaderCommit ≤ (lastLogPosition
      { (c.member peer).raft with log := (c.member peer).raft.pushEntries req.entries }).1 := by
  obtain ⟨hcov, hlen, hvw⟩ := h.covered hodd hmsg hprev
  rw [hvw.lastLogPosition_fst]
  have := (take_prefix_adopt (a.log peer) (a.lead req.term)
    (req.prevLogIndex + req.entries.length)).length_le
  rw [length_take] at this
  omega

theorem Commits.accept (h : Commits members c a) (hnd : members.Nodup) (hodd : Odd members.length)
    {last : ℕ × ℕ} (hmsg : .appendRequest peer req ∈ c.net)
    (hle : (c.member peer).raft.currentTerm ≤ req.term)
    (hprev : (c.member peer).raft.prevMatches req = true)
    (hlast : last = lastLogPosition
      { (c.member peer).raft with log := (c.member peer).raft.pushEntries req.entries }) :
    ∃ a', Runs members a a' ∧ Commits members
      ((c.setRaft peer { (c.member peer).raft.hearLeader req.term with
        log := (c.member peer).raft.pushEntries req.entries
        commitIndex := if (c.member peer).raft.commitIndex < req.leaderCommit then
          min req.leaderCommit last.1 else (c.member peer).raft.commitIndex }).send
      [.appendResponse peer req resp]) a' := by
  have hnode := h.node peer
  obtain ⟨hldr, -⟩ := h.holds.message hmsg
  obtain ⟨hpeer, hcom, -⟩ := h.message hmsg
  have hs := hnode.snapshotIndex
  have hrch := h.leaderCommit_le_last hodd hmsg hprev
  obtain ⟨hcov, hlen, hvw⟩ := h.covered hodd hmsg hprev
  generalize hn : req.prevLogIndex + req.entries.length = n at hlen hvw hcov
  have hterm : (a.observe peer req.term).term peer = req.term := by
    rw [show (a.observe peer req.term).term peer = _ from Ballots.observe_term_self ..]
    exact max_eq_right ((h.holds.records.node peer).term ▸ hle)
  have hrun : Runs members a ((a.observe peer req.term).accept peer n) :=
    (runs_observe a peer req.term).tail (.accept peer n (by rw [hterm]; exact hldr)
      (by rw [hterm]; exact hlen))
  refine h.update hnd hodd hrun (h.holds.accept peer hle ⟨rfl, rfl, rfl, rfl⟩
      (hvw.congr ⟨rfl, by simp, by simp⟩) (by simp [MessageRecorded]) (by simp [MessageHeld]))
    ((grows_observe a peer req.term).trans (grows_accept _ peer n)) ?_ ?_
  · refine ⟨by simpa using hs, ?_, fun hl => by simp at hl, fun hl => by simp at hl⟩
    rw [Replicas.accept_log_self, hterm,
      show ((a.observe peer req.term).accept peer n).term peer = req.term from hterm]
    refine Replicas.Committed.mono (a := a) (l := adopt (a.log peer) (a.lead req.term) n)
      (T := req.term) ?_ le_rfl (h.later hrun) fun _ _ => id
    split_ifs with hlt
    · rw [hlast, min_eq_left hrch]
      exact hcom.adopt hcov
    · refine h.complete.committed_adopt ?_ hldr
      exact hnode.committed.mono ((h.holds.records.node peer).term ▸ hle) (.refl a) fun _ _ => id
  · intro x hx
    obtain rfl := mem_singleton.mp hx
    refine fun _ => ⟨hpeer, ?_⟩
    rw [hn]
    have := Replicas.accept_acked_self (a.observe peer req.term) peer n
    rw [hterm] at this
    rw [this]
    exact le_max_right _ _

theorem Commits.appendCall (h : Commits members c a) (hnd : members.Nodup)
    (hodd : Odd members.length) (hmsg : .appendRequest peer req ∈ c.net) :
    ∃ a', Runs members a a' ∧ Commits members
      ((c.setRaft peer ((c.member peer).raft.handleAppendEntries req).1).send
        [.appendResponse peer req ((c.member peer).raft.handleAppendEntries req).2]) a' := by
  rcases (c.member peer).raft.handleAppendEntries_cases req with
    ⟨-, hn, hf⟩ | ⟨-, -, hn, hf⟩ | ⟨hle, hprev, last, hlast, hn, -, -⟩
  · rw [hn]
    exact h.keep (h.holds.calm peer .rfl .rfl (by simp [MessageRecorded]) (by simp [MessageHeld]))
      (h.node peer) (by simp [MessageCommits, hf])
  · rw [hn]
    refine h.update hnd hodd (runs_observe a peer req.term) (h.holds.hear peer req.term .rfl
      (sameLog_hearLeader _ _) (by simp [MessageRecorded]) (by simp [MessageHeld]))
      (grows_observe a peer req.term) ?_ (by simp [MessageCommits, hf])
    exact (h.node peer).of_not_leader (by simp) (by simp) (by simp)
      ((Ballots.Step.observe (b := a.toBallots) peer req.term).le.term peer)
      (h.later (runs_observe a peer req.term)) rfl
  · rw [hn]
    exact h.accept hnd hodd hmsg hle hprev hlast

theorem Commits.heartbeatTo (h : Commits members c a) (hq : Quiet (c.member i).raft node)
    (hrole : node.role = .leader) (rows : Finmap fun _ : String => RowData)
    (hpeer : peer ∈ peers members i) : MessageCommits members a (node.heartbeatTo rows peer) := by
  have hnode := (h.node i).quiet hq
  have hheld := (h.holds.node i).quiet hq
  have hrec := (h.holds.records.node i).quiet hq
  obtain ⟨-, hlead⟩ := hheld.leads hrole
  rcases heartbeatTo_cases hheld.views rows peer with
    ⟨hpos, -⟩ | ⟨req, heq, ht, hid, hcom, hoff⟩
  · have := hnode.snapshotIndex
    omega
  · rw [heq]
    dsimp only [MessageCommits]
    rw [ht, hid, hcom, hrec.nodeId, hrec.term, hlead]
    refine ⟨hpeer, hnode.committed, hoff.imp_left ?_⟩
    rintro ⟨hlen, -, -⟩
    rw [hlen]
    exact hnode.committed.le_length

variable (members) in
def DeliveryCommitsOwn (c : Cluster) : Message → Prop
  | .appendResponse peer req resp => (c.member req.leaderId).raft.role = .leader →
      (c.member req.leaderId).raft.currentTerm = req.term → resp.success = true →
      ReplyCommitsOwn members (c.member req.leaderId).raft peer req resp
  | _ => True

variable (members) in
/-- **Only what is the leader's own is committed**, and nothing compacted. -/
def CommitsOwn (c : Cluster) : Action → Prop
  | .deliver k => ∀ m ∈ c.net[k]?, DeliveryCommitsOwn members c m
  | .compactIfNeeded _ => False
  | _ => True

theorem Commits.step (hnd : members.Nodup) (hodd : Odd members.length) {x : Action}
    (h : Commits members c a) (hs : c.step members x = some c') (hown : CommitsOwn members c x) :
    ∃ a', Runs members a a' ∧ Commits members c' a' := by
  have hrecs := h.holds.records
  cases effect_of_step hs with
  | quiet i m hq he _ =>
    rw [← send_nil (c.setMember i m)]
    exact h.keep (h.holds.keep (hrecs.keep ((hrecs.node i).quiet hq)
      (fun e hm => hrecs.round (he ▸ hm)) (by simp)) ((h.holds.node i).quiet hq) (by simp))
      ((h.node i).quiet hq) (by simp)
  | heartbeat i node rows hq hrole =>
    refine h.keep (h.holds.heartbeat hq hrole rows) ((h.node i).quiet hq) ?_
    intro x hx
    obtain ⟨p, hp, rfl⟩ := mem_map.mp hx
    exact h.heartbeatTo hq hrole rows hp
  | stand i ticks _ =>
    rw [← send_nil (c.setRaft i _)]
    exact h.stand hnd hodd i rfl (h.holds.stand hodd i rfl
      (hrecs.stand i rfl (fun e he => Or.inl he) (by simp)) (by simp)) (by simp)
  | campaign i node hi _ hn =>
    refine h.stand hnd hodd i hn (h.holds.campaign hnd hodd hi hn) ?_
    intro x hx
    obtain ⟨p, -, rfl⟩ := mem_map.mp hx
    exact h.voteRequest_commits hn p
  | vote peer req hk =>
    have hmem := mem_of_getElem? hk
    rcases (c.member peer).raft.handleVoteRequest_cases req with
      ⟨hn, hg⟩ | ⟨hn, -, hterm, hfree, hlog⟩
    · rw [hn]
      exact h.refuse hnd hodd peer req.term (h.holds.refuse peer req.term
        (by simp [MessageRecorded, hg]) (by simp [MessageHeld])) (by simp [MessageCommits])
    · have hvw := (h.holds.node peer).views
      obtain ⟨hidx, hlast⟩ := h.message hmem
      rw [hvw.lastLogPosition_fst, hvw.lastLogPosition_snd, hidx, hlast] at hlog
      rw [hn]
      exact h.grant hnd hodd peer _ hterm
        ((hrecs.node peer).free hrecs.votesPast hterm hfree) (h.holds.message hmem) hlog
  | join i peer granted e he hwait hgra =>
    have hrec := hrecs.join he hwait hgra
    rw [← send_nil (c.joinVote i peer granted e)] at hrec ⊢
    exact h.keep (h.holds.keep hrec (h.holds.node i) (by simp)) (h.node i) (by simp)
  | lead i e he hq hrole hterm => exact h.lead hnd hodd he hq hrole hterm
  | abandon i =>
    rw [← send_nil (c.setMember i _)]
    exact h.keep (h.holds.keep (hrecs.keep (hrecs.node i) (by simp) (by simp))
      (h.holds.node i) (by simp)) (h.node i) (by simp)
  | append peer req hk => exact h.appendCall hnd hodd (mem_of_getElem? hk)
  | appended peer req resp hk hrole hterm hsucc =>
    exact h.appended (mem_of_getElem? hk) hrole hterm hsucc (hown _ hk hrole hterm hsucc)
  | snapshot peer req hk => exact (h.message (mem_of_getElem? hk)).elim
  | snapshotted peer req resp hk => exact (h.message (mem_of_getElem? hk)).elim
  | command i command hrole =>
    rw [appendCommand_eq]
    exact h.append hnd hodd command hrole
      (h.holds.append command hrole ⟨rfl, rfl, rfl, rfl⟩ rfl rfl rfl) rfl rfl rfl
  | pending i command hrole =>
    rw [appendCommandPending_eq]
    exact h.append hnd hodd command hrole
      (h.holds.append command hrole ⟨rfl, rfl, rfl, rfl⟩ rfl rfl rfl) rfl rfl rfl
  | compact i _ _ => exact hown.elim

/-- **Two nodes that have committed an index hold the same entry there.** -/
def StateMachineSafe (c : Cluster) : Prop :=
  ∀ i j k, 0 < k → k ≤ (c.member i).raft.commitIndex → k ≤ (c.member j).raft.commitIndex →
    ∃ e, (c.member i).raft.logEntryAt k = some e ∧ (c.member j).raft.logEntryAt k = some e

theorem Commits.stateMachineSafe (h : Commits members c a) : c.StateMachineSafe := by
  intro i j k hk hi hj
  have hci := (h.node i).committed
  have hcj := (h.node j).committed
  rw [(h.holds.node i).views.logEntryAt (by rw [(h.node i).snapshotIndex]; exact hk),
    (h.holds.node j).views.logEntryAt (by rw [(h.node j).snapshotIndex]; exact hk)]
  have hlen := hci.le_length
  have hget : (a.log i)[k - 1]? = some (a.log i)[k - 1] := getElem?_eq_getElem (by omega)
  refine ⟨_, hget, ?_⟩
  rw [← hget]
  exact h.complete.committed_agree hcj hci (by omega) (by omega)

/-- **Committed entries agree if only the leader's own are committed.** -/
theorem stateMachineSafe_of_commitsOwn (hnd : members.Nodup) (hodd : Odd members.length)
    (h : ReachableIf members (CommitsOwn members) c) : c.StateMachineSafe := by
  obtain ⟨a, ha⟩ : ∃ a, Commits members c a := by
    refine h.invariant (P := fun c => ∃ a, Commits members c a) ⟨_, commits_init members⟩ ?_
    rintro c c' x ⟨a, ha⟩ hown hx
    obtain ⟨a', -, ha'⟩ := ha.step hnd hodd hx hown
    exact ⟨a', ha'⟩
  exact ha.stateMachineSafe

/-- **A leader holds what is committed** on any node whose term is not later. -/
def LeadersComplete (c : Cluster) : Prop :=
  ∀ i j k, (c.member i).raft.role = .leader →
    (c.member j).raft.currentTerm ≤ (c.member i).raft.currentTerm →
    0 < k → k ≤ (c.member j).raft.commitIndex →
    ∃ e, (c.member j).raft.logEntryAt k = some e ∧ (c.member i).raft.logEntryAt k = some e

theorem leadersComplete_of_commitsOwn (hnd : members.Nodup) (hodd : Odd members.length)
    (h : ReachableIf members (CommitsOwn members) c) : c.LeadersComplete := by
  obtain ⟨a, ha⟩ : ∃ a, Commits members c a := by
    refine h.invariant (P := fun c => ∃ a, Commits members c a) ⟨_, commits_init members⟩ ?_
    rintro c c' x ⟨a, ha⟩ hown hx
    exact (ha.step hnd hodd hx hown).imp fun _ hstep => hstep.2
  intro i j k hrole hterm hpos hk
  obtain ⟨hldr, hlead⟩ := (ha.holds.node i).leads hrole
  rw [(ha.holds.records.node j).term, (ha.holds.records.node i).term] at hterm
  have hcom := (ha.node j).committed
  have hlen := hcom.le_length
  have hpre : (a.log j).take (c.member j).raft.commitIndex <+: a.log i := hlead ▸
    ha.complete.committed_lead (hcom.mono hterm (.refl a) fun _ _ => id) (by simp [hldr])
      (by rw [length_take]; omega) ( take_prefix _ _)
  have hview (p : String) : (c.member p).raft.logEntryAt k = (a.log p)[k - 1]? :=
    (ha.holds.node p).views.logEntryAt (by rw [(ha.node p).snapshotIndex]; exact hpos)
  rw [hview, hview, getElem?_of_isPrefix hpre (by rw [length_take]; omega),
    getElem?_take_of_lt (by omega)]
  exact ⟨_, getElem?_eq_getElem (by omega), getElem?_eq_getElem (by omega)⟩

instance (c : Cluster) : DecidablePred (DeliveryCommitsOwn members c)
  | .appendResponse _ req resp =>
    inferInstanceAs (Decidable ((c.member req.leaderId).raft.role = .leader →
      (c.member req.leaderId).raft.currentTerm = req.term → resp.success = true → (_ ∧ _)))
  | .voteRequest .. | .voteResponse .. | .appendRequest .. | .snapshotRequest .. |
    .snapshotResponse .. => inferInstanceAs (Decidable True)

instance (c : Cluster) : DecidablePred (CommitsOwn members c)
  | .deliver k => inferInstanceAs (Decidable (∀ m ∈ c.net[k]?, DeliveryCommitsOwn members c m))
  | .compactIfNeeded _ => inferInstanceAs (Decidable False)
  | .tick .. | .raftTick _ | .raftHeartbeat _ | .leaderPromotion _ | .voteLost .. |
    .finishElection _ | .appendCommand .. | .appendCommandPending .. | .collectCommitted _ |
    .finishApply _ => inferInstanceAs (Decidable True)

def commitOne : List Action :=
  ticks "node-1" 15 ++
  [.deliver 0, .deliver 2, .voteLost "node-1" "node-3", .finishElection "node-1",
    .appendCommandPending "node-1" "INSERT", heartbeat "node-1", .deliver 3, .deliver 5,
    heartbeat "node-1", .deliver 6]

theorem stateMachineSafe_commitOne :
    ∃ c, ReachableIf threeNodes (CommitsOwn threeNodes) c ∧
      (c.member "node-1").raft.commitIndex = 1 ∧ (c.member "node-2").raft.commitIndex = 1 ∧
      c.StateMachineSafe := by
  obtain ⟨c, hc, h1, h2⟩ := Transition.exists_of_runIf (step threeNodes)
    (CommitsOwn threeNodes) init commitOne
    (fun c => (c.member "node-1").raft.commitIndex = 1 ∧ (c.member "node-2").raft.commitIndex = 1)
    (by decide)
  exact ⟨c, hc, h1, h2, stateMachineSafe_of_commitsOwn (by decide) (by decide) hc⟩

theorem leadersComplete_commitOne :
    ∃ c, ReachableIf threeNodes (CommitsOwn threeNodes) c ∧
      (c.member "node-1").raft.role = .leader ∧ (c.member "node-2").raft.commitIndex = 1 ∧
      c.LeadersComplete := by
  obtain ⟨c, hc, hrole, hcom⟩ := Transition.exists_of_runIf (step threeNodes)
    (CommitsOwn threeNodes) init commitOne (fun c => (c.member "node-1").raft.role = .leader ∧
      (c.member "node-2").raft.commitIndex = 1) (by decide)
  exact ⟨c, hc, hrole, hcom, leadersComplete_of_commitsOwn (by decide) (by decide) hc⟩

/-- `node-2` leads term `2` with `y`, and `node-1` term `3` with `x`. -/
def commitTwice : List Action :=
  ticks "node-1" 15 ++
  [.deliver 0, .deliver 2, .voteLost "node-1" "node-3", .finishElection "node-1",
    .appendCommandPending "node-1" "x"] ++
  ticks "node-2" 12 ++
  [.deliver 4, .deliver 5, .voteLost "node-2" "node-1", .finishElection "node-2",
    heartbeat "node-2", .deliver 6, .appendCommandPending "node-2" "y", .deliver 8] ++
  ticks "node-1" 15 ++
  [.deliver 10, .deliver 11, .voteLost "node-1" "node-2", .finishElection "node-1",
    heartbeat "node-1", .deliver 13, .deliver 14, heartbeat "node-1", .deliver 16, .deliver 17]

/-- **Two nodes commit different commands at index `1`.** -/
theorem two_commands_committed_at_one :
    ∃ c, init.run threeNodes commitTwice = some c ∧
      (c.member "node-1").raft.commitIndex = 1 ∧
      (c.member "node-1").raft.logEntryAt 1 = some ⟨1, 1, "x"⟩ ∧
      (c.member "node-2").raft.commitIndex = 1 ∧
      (c.member "node-2").raft.logEntryAt 1 = some ⟨1, 2, "y"⟩ ∧ ¬ c.StateMachineSafe := by
  obtain ⟨c, hrun, h1, hx, h2, hy⟩ := Transition.exists_of_run (step threeNodes) init commitTwice
    (fun c => (c.member "node-1").raft.commitIndex = 1 ∧
      (c.member "node-1").raft.logEntryAt 1 = some ⟨1, 1, "x"⟩ ∧
      (c.member "node-2").raft.commitIndex = 1 ∧
      (c.member "node-2").raft.logEntryAt 1 = some ⟨1, 2, "y"⟩) (by decide)
  refine ⟨c, hrun, h1, hx, h2, hy, fun hsafe => ?_⟩
  obtain ⟨e, he1, he2⟩ := hsafe "node-1" "node-2" 1 one_pos h1.ge h2.ge
  rw [hx] at he1
  rw [hy, ← he1] at he2
  exact absurd he2 (by decide)

end Cluster

end VngDatabase.Raft
