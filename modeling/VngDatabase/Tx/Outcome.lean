import VngDatabase.Dml.Atomicity
import VngDatabase.Tx.Commit

/-!
# What a failed commit leaves behind

A transaction is marked as committed before its statements are carried out, and unknown statements
are looked for after that.
-/

namespace VngDatabase.Tx

open Store Sql Text Overlay Dml BootEngine DurabilityEngine AcidTransactionRegistry

section

variable {E : Type} [BootEngine E]

def TxServer.isCommitted (s : TxServer E) (txId : String) : Bool :=
  (s.acid.entryOf txId).any fun e => e.state = .committed

structure NothingLeft (s s' : TxServer E) : Prop where
  versions : ∀ k, s'.rowStore.versions k = s.rowStore.versions k
  durable : ∀ db k, getRow s'.walEngine db k = getRow s.walEngine db k
  logged : iterSql s'.walEngine = iterSql s.walEngine
  recorded : s'.mutations = s.mutations
  values : s'.constraints.uniqueSets = s.constraints.uniqueSets

variable [CheckPredicate] [ColumnOrder] [Unicode] {req : TxRequest} {snapshotXid : Option Xid}
  {s : TxServer E}

def TxServer.conflict (s : TxServer E) (req : TxRequest) (snapshotXid : Option Xid) :
    Option String :=
  commitConflict (req.registered s.acid snapshotXid) s.rowStore req.txId req.isoLevel req.writeKeys

theorem runTransaction_of_conflict (hcom : req.hasCommit) {reason : String}
    (h : s.conflict req snapshotXid = some reason) :
    s.runTransaction req snapshotXid =
      ({ s with acid := (req.registered s.acid snapshotXid).rollback req.txId },
        .conflict reason) := by
  rw [TxServer.conflict] at h
  simp only [TxServer.runTransaction, hcom, if_true, h]

theorem runTransaction_of_pass (hcom : req.hasCommit) (h : s.conflict req snapshotXid = none) :
    s.runTransaction req snapshotXid = s.commit req (req.registered s.acid snapshotXid) := by
  rw [TxServer.conflict] at h
  simp only [TxServer.runTransaction, hcom, if_true, h]

theorem acid_commit (req : TxRequest) (acid : AcidTransactionRegistry) (s : TxServer E) :
    (s.commit req acid).1.acid = ((acid.recordWrittenRowKeys req.txId req.writeKeys).commit
      req.txId).setRowStoreSnapshot req.txId s.rowStore.currentXid := by
  rw [TxServer.commit]
  cases (flush req.db req.effectiveStatements (s.session req.connectionId)).2 <;> rfl

theorem isCommitted_runTransaction_iff (s : TxServer E) (x : Option Xid)
    (hbeg : req.hasBegin) (hcom : req.hasCommit) :
    (s.runTransaction req x).1.isCommitted req.txId ↔
      s.conflict req x = none := by
  have hent := entryOf_registered hbeg s.acid x
  cases hcf : s.conflict req x with
  | some reason =>
    rw [runTransaction_of_conflict hcom hcf, TxServer.isCommitted]
    simp [rollback, entryOf_modify, hent, finishAs]
  | none =>
    rw [runTransaction_of_pass hcom hcf, TxServer.isCommitted, acid_commit]
    simp [setRowStoreSnapshot, commit, recordWrittenRowKeys, entryOf_modify, hent, finishAs]

theorem answer_commit_iff (hcom : req.hasCommit) (acid : AcidTransactionRegistry) :
    (s.commit req acid).2 = .ok ↔
      insertsPass s.constraints req.effectiveStatements ∧ req.allKnown := by
  have hfl := flush_snd_isSome req.db req.effectiveStatements (s.session req.connectionId)
  have hmgr : (s.session req.connectionId).constraints = s.constraints := rfl
  rw [hmgr] at hfl
  rw [← executeTransactionStatements_eq_ok_iff hcom, TxServer.commit]
  cases hrs : (flush req.db req.effectiveStatements (s.session req.connectionId)).2 with
  | some reason =>
    rw [hrs] at hfl
    simp_all
  | none =>
    rw [hrs] at hfl
    simp_all

/-- **A commit is all or nothing iff** it is refused by a check, or no row is and all is known. -/
theorem commit_allOrNothing_iff (s : TxServer E) (snapshotXid : Option Xid)
    (hbegin : req.hasBegin) (hcommit : req.hasCommit) :
    ((s.runTransaction req snapshotXid).2 ≠ .ok →
      NothingLeft s (s.runTransaction req snapshotXid).1 ∧
        ¬(s.runTransaction req snapshotXid).1.isCommitted req.txId) ↔
      (s.conflict req snapshotXid).isSome ∨
        (insertsPass s.constraints req.effectiveStatements ∧ req.allKnown) := by
  have hsta := isCommitted_runTransaction_iff s snapshotXid hbegin hcommit
  cases hcf : s.conflict req snapshotXid with
  | some reason =>
    simp only [Option.isSome_some, true_or, iff_true]
    refine fun _ => ⟨?_, fun h => by simp [hsta, hcf] at h⟩
    rw [runTransaction_of_conflict hcommit hcf]
    exact ⟨fun _ => rfl, fun _ _ => rfl, rfl, rfl, rfl⟩
  | none =>
    have hcom := hsta.mpr hcf
    rw [runTransaction_of_pass hcommit hcf] at hcom ⊢
    rw [← answer_commit_iff hcommit (req.registered s.acid snapshotXid)]
    constructor
    · intro h
      by_contra hno
      exact (h fun hok => hno (Or.inr hok)).2 hcom
    · rintro (h | hok)
      · simp at h
      · exact fun hne => absurd hok hne

end

section

open scoped Dml.Sample

def keyedTxServer : TxServer InMemoryEngine := ⟨keyedServer, .empty, []⟩

def transaction (txId : String) (statements : List String) : TxRequest :=
  ⟨txId, "conn-6", "", none, statements⟩

def duplicateInsert : TxRequest :=
  transaction "tx-1" ["BEGIN", "INSERT INTO t (id) VALUES (1), (1)", "COMMIT"]

def unknownStatement : TxRequest :=
  transaction "tx-1" ["BEGIN", "INSERT INTO t (id) VALUES (1)", "VACUUM", "COMMIT"]

/-- **The transaction is committed**, although the answer is an error. -/
theorem failed_commit_stays :
    ((keyedTxServer.sqlTransaction duplicateInsert).2 =
        .conflict "constraint_violation: primary key 'pk_t_id' duplicate for value '1'" ∧
      (keyedTxServer.sqlTransaction duplicateInsert).1.isCommitted "tx-1" ∧
      keyedTxServer.rowStore.versions "t:1" = [] ∧
      (keyedTxServer.sqlTransaction duplicateInsert).1.rowStore.versions "t:1" ≠ []) ∧
    (keyedTxServer.sqlTransaction unknownStatement).2 = .badRequest ∧
      (keyedTxServer.sqlTransaction unknownStatement).1.isCommitted "tx-1" ∧
      (keyedTxServer.sqlTransaction unknownStatement).1.rowStore.versions "t:1" ≠ [] := by
  decide +kernel

def oneRowTxServer : TxServer InMemoryEngine :=
  (keyedTxServer.sqlTransaction
    (transaction "tx-1" ["BEGIN", "INSERT INTO t (id) VALUES (1)", "COMMIT"])).1

def deleteAgain : TxRequest :=
  transaction "tx-2" ["BEGIN", "DELETE FROM t WHERE id = 1", "COMMIT"]

theorem deleteAgain_nothingLeft :
    (oneRowTxServer.runTransaction deleteAgain none).2 = .conflict "write_write_conflict:t:1" ∧
      NothingLeft oneRowTxServer (oneRowTxServer.runTransaction deleteAgain none).1 ∧
      ¬(oneRowTxServer.runTransaction deleteAgain none).1.isCommitted deleteAgain.txId := by
  have hans : (oneRowTxServer.runTransaction deleteAgain none).2 =
      .conflict "write_write_conflict:t:1" := by decide +kernel
  refine ⟨hans, (commit_allOrNothing_iff oneRowTxServer none (by decide +kernel)
    (by decide +kernel)).mpr (Or.inl (by decide +kernel)) ?_⟩
  rw [hans]
  simp

end

end VngDatabase.Tx
