import VngDatabase.Tx.Outcome

/-!
# Which transactions conflict

The checks before a commit see the keys a transaction declares, the keys that committed transactions
at some levels have declared, whenever that was, and whether a row has changed since the snapshot
(`conflict_isSome_iff`).
-/

namespace VngDatabase.Tx

open Store Sql Text Overlay Dml BootEngine DurabilityEngine AcidTransactionRegistry

section

variable {E : Type} [BootEngine E] [Unicode] {req : TxRequest}

def RefusedByPeers (acid : AcidTransactionRegistry) (req : TxRequest) : Prop :=
  (req.isoLevel = "optimistic" ∧
    acid.Meets req.txId "optimistic" AcidTxEntry.writtenRowKeys req.writeKeys) ∨
  acid.Meets req.txId "serializable" AcidTxEntry.writtenRowKeys req.writeKeys ∨
  acid.Meets req.txId "serializable" AcidTxEntry.readRowKeys req.writeKeys

omit [Unicode] in
theorem entryOf_registered_of_ne {id : String} (h : id ≠ req.txId) (acid : AcidTransactionRegistry)
    (x : Option Xid) :
    (req.registered acid x).entryOf id = acid.entryOf id := by
  rw [TxRequest.registered]
  split_ifs
  · exact entryOf_begin_of_ne h _ _
  · rfl

theorem refusedByPeers_registered (req : TxRequest) (acid : AcidTransactionRegistry)
    (x : Option Xid) :
    RefusedByPeers (req.registered acid x) req ↔ RefusedByPeers acid req := by
  have hoth (id : String) (h : id ≠ req.txId) := entryOf_registered_of_ne h acid x
  simp only [RefusedByPeers, meets_congr hoth]

theorem conflict_isSome_iff (hbeg : req.hasBegin) (s : TxServer E) (x : Option Xid) :
    (s.conflict req x).isSome ↔
      RefusedByPeers s.acid req ∨ ∃ k ∈ req.writeKeys, s.rowStore.wasModifiedAfter k
        ((if takesSnapshot req.isoLevel then x else none).getD 0) := by
  have hent := entryOf_registered hbeg s.acid x
  have hsnap : (req.registered s.acid x).rowStoreSnapshotXid req.txId =
      if takesSnapshot req.isoLevel then x else none := by
    rw [rowStoreSnapshotXid, hent, Option.bind_some]
  rw [← refusedByPeers_registered req s.acid x, TxServer.conflict, commitConflict,
    hsnap, hent, RefusedByPeers]
  generalize req.registered s.acid x = acid
  generalize (if takesSnapshot req.isoLevel then x else none).getD 0 = since
  have hver : (optimisticVersionConflict s.rowStore req.writeKeys since).isSome ↔
      ∃ k ∈ req.writeKeys, s.rowStore.wasModifiedAfter k since := List.find?_isSome
  simp only [Option.isSome_or, Option.isSome_map, Bool.or_eq_true, hver, Option.map_some,
    Option.getD_some, checkSerializableConflictRowLevel_isSome_iff,
    checkSerializableRwConflict_isSome_iff]
  split_ifs with hiso
  · simp only [Option.isSome_or, Bool.or_eq_true, hver,
      checkOptimisticConflict_isSome_iff, hiso, true_and]
    tauto
  · simp only [Option.isSome_none, Bool.false_eq_true, hiso, false_and, false_or, or_assoc]

def Undisputed (s : TxServer E) (req : TxRequest) : Prop :=
  ¬RefusedByPeers s.acid req ∧
    (takesSnapshot req.isoLevel ∨ ∀ k ∈ req.writeKeys, s.rowStore.wasModifiedAfter k 0 = false)

theorem conflict_eq_none_iff (hbeg : req.hasBegin) (s : TxServer E) :
    s.conflict req (req.beginSnapshotXid s.rowStore) = none ↔ Undisputed s req := by
  rw [← Option.not_isSome_iff_eq_none, conflict_isSome_iff hbeg, not_or, Undisputed]
  refine and_congr_right fun _ => ?_
  rw [TxRequest.beginSnapshotXid, hbeg, Bool.true_and]
  cases takesSnapshot req.isoLevel with
  | true => simp [s.stamped.wasModifiedAfter_currentXid]
  | false => simp

end

section

variable {E : Type} [BootEngine E] [CheckPredicate] [ColumnOrder] [Unicode]

def CommitsPass : List TxRequest → TxServer E → Prop
  | [], _ => True
  | req :: reqs, s =>
    (req.hasCommit → s.conflict req (req.beginSnapshotXid s.rowStore) = none) ∧
      CommitsPass reqs (s.sqlTransaction req).1

def AllUndisputed : List TxRequest → TxServer E → Prop
  | [], _ => True
  | req :: reqs, s =>
    (req.hasCommit → Undisputed s req) ∧ AllUndisputed reqs (s.sqlTransaction req).1

/-- **Transactions one after the other all pass iff** each is undisputed. -/
theorem commitsPass_iff {reqs : List TxRequest} (hbegin : ∀ req ∈ reqs, req.hasBegin)
    (s : TxServer E) : CommitsPass reqs s ↔ AllUndisputed reqs s := by
  induction reqs generalizing s with
  | nil => exact Iff.rfl
  | cons req reqs ih =>
    obtain ⟨hreq, hreqs⟩ := List.forall_mem_cons.mp hbegin
    rw [CommitsPass, AllUndisputed, ih hreqs, conflict_eq_none_iff hreq]

end

section

variable {E : Type} [BootEngine E] [CheckPredicate] [ColumnOrder] [Unicode] {req : TxRequest}
  {s : TxServer E}

def writtenRows (req : TxRequest) (s : TxServer E) : List String :=
  let st := s.session req.connectionId
  pushedKeys st.rowStore.nextXid
    (flushActions req.db st.rowStore.nextXid req.effectiveStatements st.begin) st.begin.toState

theorem rowStore_commit (req : TxRequest) (acid : AcidTransactionRegistry) (s : TxServer E) :
    (s.commit req acid).1.rowStore = ((s.session req.connectionId).transact
      (flushActions req.db s.rowStore.nextXid req.effectiveStatements
        (s.session req.connectionId).begin)).rowStore := by
  have hfl := flush_fst req.db req.effectiveStatements (s.session req.connectionId)
  have hsto : (s.commit req acid).1.rowStore =
      (flush req.db req.effectiveStatements (s.session req.connectionId)).1.rowStore := by
    rw [TxServer.commit]
    cases (flush req.db req.effectiveStatements (s.session req.connectionId)).2 <;> rfl
  rw [hsto, hfl]
  rfl

theorem entryOf_commit (hbeg : req.hasBegin) (x : Option Xid) :
    ∃ e, (s.commit req (req.registered s.acid x)).1.acid.entryOf req.txId = some e ∧
      e.state = .committed ∧ e.isolationLevel = req.isoLevel ∧ e.writtenRowKeys = req.writeKeys ∧
      e.readRowKeys = [] := by
  have hent := entryOf_registered hbeg s.acid x
  rw [acid_commit]
  simp [setRowStoreSnapshot, commit, recordWrittenRowKeys, entryOf_modify, hent, finishAs]

theorem entryOf_runTransaction_of_ne {id : String} (h : id ≠ req.txId) (hcom : req.hasCommit)
    (s : TxServer E) (x : Option Xid) :
    (s.runTransaction req x).1.acid.entryOf id = s.acid.entryOf id := by
  have hreg := entryOf_registered_of_ne h s.acid x
  cases hcf : s.conflict req x with
  | some reason =>
    rw [runTransaction_of_conflict hcom hcf]
    exact (entryOf_modify_of_ne h).trans hreg
  | none =>
    rw [runTransaction_of_pass hcom hcf, acid_commit, setRowStoreSnapshot, entryOf_modify_of_ne h,
      commit, entryOf_modify_of_ne h,
      recordWrittenRowKeys, entryOf_modify_of_ne h,
      hreg]

variable {req₁ req₂ : TxRequest}

theorem refusedByPeers_runTransaction_iff (hid : req₁.txId ≠ req₂.txId)
    (hbeg₁ : req₁.hasBegin) (hcom₁ : req₁.hasCommit) (hiso₁ : takesSnapshot req₁.isoLevel)
    (hfr : s.acid.entryOf req₁.txId = none) {x : Option Xid}
    (hpass : s.conflict req₁ x = none) :
    RefusedByPeers (s.runTransaction req₁ x).1.acid req₂ ↔
      RefusedByPeers s.acid req₂ ∨ (req₁.isoLevel = "optimistic" ∧ req₂.isoLevel = "optimistic" ∧
        ∃ k ∈ req₂.writeKeys, k ∈ req₁.writeKeys) := by
  obtain ⟨e, hent, hsta, hlvl, hkeys, -⟩ := entryOf_commit (s := s) hbeg₁ x
  rw [← runTransaction_of_pass hcom₁ hpass] at hent
  have hoth (id : String) (h : id ≠ req₁.txId) := entryOf_runTransaction_of_ne h hcom₁ s x
  have hser : req₁.isoLevel ≠ "serializable" := by
    intro he
    simp [he, takesSnapshot] at hiso₁
  simp only [RefusedByPeers, meets_of_added hid hfr hent hsta hoth,
    hlvl, hkeys, hser, false_and, or_false]
  rw [and_or_left, or_right_comm, and_left_comm]

def afterFirst (req₁ : TxRequest) (s : TxServer E) : TxServer E :=
  (s.runTransaction req₁ (req₁.beginSnapshotXid s.rowStore)).1

def afterBoth (req₁ req₂ : TxRequest) (s : TxServer E) : TxServer E :=
  ((afterFirst req₁ s).runTransaction req₂ (req₂.beginSnapshotXid s.rowStore)).1

theorem both_committed_iff (hid : req₁.txId ≠ req₂.txId)
    (hbeg₁ : req₁.hasBegin) (hcom₁ : req₁.hasCommit) (hiso₁ : takesSnapshot req₁.isoLevel)
    (hbeg₂ : req₂.hasBegin) (hcom₂ : req₂.hasCommit) (hiso₂ : takesSnapshot req₂.isoLevel)
    (hfr : s.acid.entryOf req₁.txId = none) :
    ((afterBoth req₁ req₂ s).isCommitted req₁.txId ∧
      (afterBoth req₁ req₂ s).isCommitted req₂.txId) ↔
      ¬RefusedByPeers s.acid req₁ ∧ ¬RefusedByPeers s.acid req₂ ∧
      ¬(req₁.isoLevel = "optimistic" ∧ req₂.isoLevel = "optimistic" ∧
        ∃ k ∈ req₂.writeKeys, k ∈ req₁.writeKeys) ∧
      ¬∃ k ∈ req₂.writeKeys, k ∈ writtenRows req₁ s ∧
        k ∈ (afterFirst req₁ s).rowStore.shelf.flatten := by
  have hfst : (afterBoth req₁ req₂ s).isCommitted req₁.txId ↔ ¬RefusedByPeers s.acid req₁ := by
    rw [TxServer.isCommitted, afterBoth, entryOf_runTransaction_of_ne hid hcom₂,
      ← TxServer.isCommitted, afterFirst, isCommitted_runTransaction_iff s _ hbeg₁ hcom₁,
      conflict_eq_none_iff hbeg₁, Undisputed]
    simp [hiso₁]
  rw [hfst]
  refine and_congr_right fun hpee => ?_
  have hpass : s.conflict req₁ (req₁.beginSnapshotXid s.rowStore) = none :=
    (conflict_eq_none_iff hbeg₁ s).mpr ⟨hpee, Or.inl hiso₁⟩
  have hsto : (afterFirst req₁ s).rowStore = ((s.session req₁.connectionId).transact
      (flushActions req₁.db s.rowStore.nextXid req₁.effectiveStatements
        (s.session req₁.connectionId).begin)).rowStore := by
    rw [afterFirst, runTransaction_of_pass hcom₁ hpass, rowStore_commit]
  have hsnap : req₂.beginSnapshotXid s.rowStore = some s.rowStore.currentXid := by
    simp [TxRequest.beginSnapshotXid, hbeg₂, hiso₂]
  have hmod (k : String) :
      (afterFirst req₁ s).rowStore.wasModifiedAfter k s.rowStore.currentXid ↔
        k ∈ writtenRows req₁ s ∧ k ∈ (afterFirst req₁ s).rowStore.shelf.flatten := by
    rw [hsto]
    exact (s.sound req₁.connectionId).wasModifiedAfter_transact _ k
  have hpee₂ : RefusedByPeers (afterFirst req₁ s).acid req₂ ↔ _ :=
    refusedByPeers_runTransaction_iff hid hbeg₁ hcom₁ hiso₁ hfr hpass
  rw [afterBoth, isCommitted_runTransaction_iff _ _ hbeg₂ hcom₂,
    ← Option.not_isSome_iff_eq_none, conflict_isSome_iff hbeg₂, hsnap, if_pos hiso₂,
    Option.getD_some, hpee₂]
  simp only [hmod, not_or, and_assoc]

/-- **The first committer wins iff** no row is in common, or the conflict is declared. -/
theorem firstCommitterWins_iff (s : TxServer E) (hid : req₁.txId ≠ req₂.txId)
    (hbegin₁ : req₁.hasBegin) (hcommit₁ : req₁.hasCommit) (hiso₁ : takesSnapshot req₁.isoLevel)
    (hbegin₂ : req₂.hasBegin) (hcommit₂ : req₂.hasCommit) (hiso₂ : takesSnapshot req₂.isoLevel)
    (hfresh : s.acid.entryOf req₁.txId = none) :
    ((∃ k ∈ writtenRows req₁ s, k ∈ writtenRows req₂ (afterFirst req₁ s)) →
      ¬((afterBoth req₁ req₂ s).isCommitted req₁.txId ∧
        (afterBoth req₁ req₂ s).isCommitted req₂.txId)) ↔
      (¬∃ k ∈ writtenRows req₁ s, k ∈ writtenRows req₂ (afterFirst req₁ s)) ∨
      RefusedByPeers s.acid req₁ ∨ RefusedByPeers s.acid req₂ ∨
      (req₁.isoLevel = "optimistic" ∧ req₂.isoLevel = "optimistic" ∧
        ∃ k ∈ req₂.writeKeys, k ∈ req₁.writeKeys) ∨
      ∃ k ∈ req₂.writeKeys, k ∈ writtenRows req₁ s ∧
        k ∈ (afterFirst req₁ s).rowStore.shelf.flatten := by
  rw [both_committed_iff hid hbegin₁ hcommit₁ hiso₁ hbegin₂ hcommit₂ hiso₂ hfresh,
    imp_iff_not_or, not_and_or, not_not, not_and_or, not_not, not_and_or, not_not, not_not]

end

section

open scoped Dml.Sample

def transactionAt (level txId stmt : String) : TxRequest :=
  ⟨txId, "conn-6", "", some level, ["BEGIN", stmt, "COMMIT"]⟩

def insertAt (level : String) : TxRequest :=
  transactionAt level "tx-1" "INSERT INTO t (id, name, city) VALUES (1, 'a', 'x')"

def deleteAt (level : String) : TxRequest :=
  transactionAt level "tx-2" "DELETE FROM t WHERE id = 1"

/-- **A transaction is refused** because of one that had ended before. -/
theorem serial_transactions_conflict :
    ¬CommitsPass [insertAt "read_committed", deleteAt "read_committed"] keyedTxServer ∧
      ¬CommitsPass [insertAt "serializable", deleteAt "serializable"] keyedTxServer ∧
      ¬CommitsPass [insertAt "optimistic", deleteAt "optimistic"] keyedTxServer := by
  simp only [CommitsPass]
  decide +kernel

theorem repeatableRead_undisputed :
    AllUndisputed [insertAt "repeatable_read", deleteAt "repeatable_read"] keyedTxServer := by
  refine (commitsPass_iff (by decide +kernel) keyedTxServer).mp ?_
  simp only [CommitsPass]
  decide +kernel

def cityServer : TxServer InMemoryEngine :=
  (keyedTxServer.sqlTransaction (insertAt "read_committed")).1

def updateByName : TxRequest :=
  transactionAt "optimistic" "tx-3" "UPDATE t SET age = 5 WHERE name = 'a'"

def updateByCity : TxRequest :=
  transactionAt "optimistic" "tx-4" "UPDATE t SET age = 6 WHERE city = 'x'"

/-- **Two transactions that overlap on a row both commit.** -/
theorem overlapping_updates_both_commit :
    takesSnapshot updateByName.isoLevel ∧ takesSnapshot updateByCity.isoLevel ∧
      "t:1" ∈ writtenRows updateByName cityServer ∧
      "t:1" ∈ writtenRows updateByCity (afterFirst updateByName cityServer) ∧
      (afterBoth updateByName updateByCity cityServer).isCommitted "tx-3" ∧
      (afterBoth updateByName updateByCity cityServer).isCommitted "tx-4" := by
  decide +kernel

def updateById : TxRequest :=
  transactionAt "repeatable_read" "tx-5" "UPDATE t SET age = 7 WHERE id = 1"

theorem second_update_refused :
    (∃ k ∈ writtenRows (deleteAt "optimistic") cityServer,
      k ∈ writtenRows updateById (afterFirst (deleteAt "optimistic") cityServer)) ∧
    ¬((afterBoth (deleteAt "optimistic") updateById cityServer).isCommitted
        (deleteAt "optimistic").txId ∧
      (afterBoth (deleteAt "optimistic") updateById cityServer).isCommitted updateById.txId) := by
  obtain ⟨hfr, hcom, hkey⟩ : cityServer.acid.entryOf (deleteAt "optimistic").txId = none ∧
      (∃ k ∈ writtenRows (deleteAt "optimistic") cityServer,
        k ∈ writtenRows updateById (afterFirst (deleteAt "optimistic") cityServer)) ∧
      ∃ k ∈ updateById.writeKeys, k ∈ writtenRows (deleteAt "optimistic") cityServer ∧
        k ∈ (afterFirst (deleteAt "optimistic") cityServer).rowStore.shelf.flatten := by
    decide +kernel
  refine ⟨hcom, (firstCommitterWins_iff cityServer (by decide) (by decide +kernel)
    (by decide +kernel) (by decide +kernel) (by decide +kernel) (by decide +kernel)
    (by decide +kernel) hfr).mpr ?_ hcom⟩
  exact Or.inr (Or.inr (Or.inr (Or.inr hkey)))

end

end VngDatabase.Tx
