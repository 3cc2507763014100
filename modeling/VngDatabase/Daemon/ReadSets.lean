import VngDatabase.Daemon.Snapshots
import VngDatabase.Tx.Conflicts

/-!
# Reads that nobody remembers

A serializable transaction is to be refused at its `COMMIT` if another one has written a row that it
has read, for which the keys that a query finds are noted with the transaction of its connection.
-/

namespace VngDatabase.Daemon

open Text Sql Store Dml Tx Query AcidTransactionRegistry
open Access (HeaderMap RuntimeAccessPrincipal SessionSigner)

section

variable {r : AcidTransactionRegistry} {txId : String} {f : AcidTxEntry → AcidTxEntry}

/-- **No committed transaction has read anything.** -/
def Forgetful (r : AcidTransactionRegistry) : Prop :=
  ∀ id e, r.entryOf id = some e → e.state = .committed → e.readRowKeys = []

namespace Forgetful

theorem empty : Forgetful .empty := by
  intro id e he
  cases he

theorem begin (h : Forgetful r) (txId level : String) (x : Option Xid) :
    Forgetful (r.begin txId level x) := by
  intro id e he hsta
  rcases eq_or_ne id txId with rfl | hne
  · rw [entryOf_begin] at he
    rw [← Option.some.inj he]
  · rw [entryOf_begin_of_ne hne] at he
    exact h id e he hsta

theorem modify (h : Forgetful r)
    (hf : ∀ e, r.entryOf txId = some e → (f e).state = .committed → (f e).readRowKeys = []) :
    Forgetful (r.modify txId f) := by
  intro id e he hsta
  rcases eq_or_ne id txId with rfl | hne
  · rw [entryOf_modify] at he
    obtain ⟨e', he', rfl⟩ := Option.map_eq_some_iff.mp he
    exact hf e' he' hsta
  · rw [entryOf_modify_of_ne hne] at he
    exact h id e he hsta

theorem recordReadRowKeys (h : Forgetful r) (txId : String) (keys : List String) :
    Forgetful (r.recordReadRowKeys txId keys) := by
  refine h.modify fun e he hsta => ?_
  rw [addReads] at hsta ⊢
  split_ifs at hsta ⊢ with hact
  · exact absurd (hact.2.symm.trans hsta) (by decide)
  · exact h txId e he hsta

theorem rollback (h : Forgetful r) (txId : String) : Forgetful (r.rollback txId) := by
  refine h.modify fun e he hsta => ?_
  rw [finishAs] at hsta ⊢
  split_ifs at hsta ⊢
  exact h txId e he hsta

theorem commit (h : Forgetful r)
    (hrd : ∀ e, r.entryOf txId = some e → e.readRowKeys = []) : Forgetful (r.commit txId) := by
  refine h.modify fun e he _ => ?_
  rw [finishAs]
  split_ifs
  · exact hrd e he
  · exact hrd e he

theorem commitWith (h : Forgetful r) (hrd : ∀ e, r.entryOf txId = some e → e.readRowKeys = [])
    (keys : List String) (x : Xid) :
    Forgetful (((r.recordWrittenRowKeys txId keys).commit txId).setRowStoreSnapshot txId x) := by
  have hwrt : Forgetful (r.recordWrittenRowKeys txId keys) := h.modify fun e he => h txId e he
  have hcom : Forgetful ((r.recordWrittenRowKeys txId keys).commit txId) := by
    refine hwrt.commit fun e he => ?_
    rw [recordWrittenRowKeys, entryOf_modify] at he
    obtain ⟨e', he', rfl⟩ := Option.map_eq_some_iff.mp he
    exact hrd e' he'
  exact hcom.modify fun e he => hcom txId e he

end Forgetful

end

section

variable {E C : Type} [DatabaseEngine E] [CheckPredicate] [ColumnOrder] [Unicode]

omit [CheckPredicate] [ColumnOrder] [Unicode] in
theorem readRowKeys_registered {tx : TxRequest} {acid : AcidTransactionRegistry}
    (hfr : acid.entryOf tx.txId = none) (x : Option Xid) {e : AcidTxEntry}
    (he : (tx.registered acid x).entryOf tx.txId = some e) : e.readRowKeys = [] := by
  by_cases hbeg : tx.hasBegin
  · rw [entryOf_registered hbeg] at he
    rw [← Option.some.inj he]
  · rw [TxRequest.registered, if_neg hbeg, hfr] at he
    cases he

theorem forgetful_sqlTransaction {tx : TxRequest} {s : TxServer E} (h : Forgetful s.acid)
    (hfr : s.acid.entryOf tx.txId = none) : Forgetful (s.sqlTransaction tx).1.acid := by
  have hreg : Forgetful (tx.registered s.acid (tx.beginSnapshotXid s.rowStore)) := by
    rw [TxRequest.registered]
    split_ifs
    · exact h.begin _ _ _
    · exact h
  have hrd := @readRowKeys_registered tx s.acid hfr (tx.beginSnapshotXid s.rowStore)
  unfold TxServer.sqlTransaction TxServer.runTransaction
  dsimp only
  split
  · split
    · exact hreg.rollback _
    · unfold TxServer.commit
      dsimp only
      split <;> exact hreg.commitWith (fun e => hrd) _ _
  · split
    · exact hreg.rollback _
    · exact hreg

end

namespace Node

section

variable {E C : Type} [DatabaseEngine E] [CheckPredicate] [ColumnOrder] [Unicode]

variable [SessionSigner]

def HasFreshId (n : Node E C) (r : Circumstances × SqlRequest) : Prop :=
  match r.2 with
  | .transaction _ => ∀ principal, n.caller r = some principal →
      n.acid.entryOf (freshTxId r.1 principal) = none
  | _ => True

variable [SchemaCatalog C] [F64] [QueryParser] [SqlRuntime]

theorem forgetful_handle {n : Node E C} {r : Circumstances × SqlRequest} (hfr : n.HasFreshId r)
    (h : Forgetful n.acid) : Forgetful (n.handle r).acid := by
  refine n.handle_rule (P := fun m => Forgetful m.acid) r (fun _ => h) ?_ ?_
  · intro req _
    refine sessions_sqlExecute r.1 req n (P := fun t => Forgetful t.acid) ?_ ?_ ?_ h
    · intro t conn keys ht
      unfold Sessions.recordReads
      split
      · exact ht.recordReadRowKeys _ _
      · exact ht
    · -- a batch begins its transaction and ends it, with no query in between
      intro t conn txId level snapshotXid hasRollback _ ht
      have hbeg : Forgetful (t.acid.begin txId level snapshotXid) := ht.begin _ _ _
      simp only [Sessions.began, Sessions.ended]
      split_ifs
      · exact hbeg.rollback _
      · refine hbeg.commit fun e he => ?_
        rw [entryOf_begin] at he
        rw [← Option.some.inj he]
    · intro t conn txId level snapshotXid _ _ ht
      exact ht.begin _ _ _
  · intro req principal pool conn hreq hpr _
    have hcal : n.caller r = some principal := by
      rw [caller, hreq]
      exact congrArg Except.toOption hpr
    rw [HasFreshId, hreq] at hfr
    rw [toTxServer_runTransactionOn]
    exact forgetful_sqlTransaction h (hfr principal hcal)

end

section

variable {E C : Type} [DatabaseEngine E] [CheckPredicate] [ColumnOrder] [Unicode]

def Collides (n : Node E C) (db : String) (statements : List String) : Prop :=
  (∃ id e, n.acid.entryOf id = some e ∧ e.isolationLevel = "serializable" ∧
    e.state = .committed ∧ ∃ k ∈ commitWriteKeys db statements, k ∈ e.writtenRowKeys) ∨
  (∃ k ∈ commitWriteKeys db statements, n.rowStore.wasModifiedAfter k 0) ∨
  ¬insertsPass n.constraints statements

omit [CheckPredicate] [ColumnOrder] [Unicode] in
theorem meets_iff_of_fresh {acid : AcidTransactionRegistry} {txId : String}
    (hfr : acid.entryOf txId = none) (level : String) (keys : List String) :
    acid.Meets txId level AcidTxEntry.writtenRowKeys keys ↔
      ∃ id e, acid.entryOf id = some e ∧ e.isolationLevel = level ∧ e.state = .committed ∧
        ∃ k ∈ keys, k ∈ e.writtenRowKeys := by
  constructor
  · rintro ⟨e, ⟨id, -, hent, hlvl, hsta⟩, hkeys⟩
    exact ⟨id, e, hent, hlvl, hsta, hkeys⟩
  · rintro ⟨id, e, hent, hlvl, hsta, hkeys⟩
    refine ⟨e, ⟨id, ?_, hent, hlvl, hsta⟩, hkeys⟩
    rintro rfl
    rw [hfr] at hent
    cases hent

omit [CheckPredicate] [ColumnOrder] in
theorem refusal_isSome_iff {tx : TxRequest} {n : Node E C} (hlvl : tx.isoLevel = "serializable")
    (hfr : n.acid.entryOf tx.txId = none) (hfor : Forgetful n.acid) :
    (n.refusal tx).isSome ↔
      n.acid.Meets tx.txId "serializable" AcidTxEntry.writtenRowKeys tx.writeKeys ∨
        ∃ k ∈ tx.writeKeys, n.rowStore.wasModifiedAfter k 0 := by
  have hoth (id : String) (h : id ≠ tx.txId) :=
    entryOf_registered_of_ne h n.acid (tx.beginSnapshotXid n.rowStore)
  have hrd : ((((tx.registered n.acid (tx.beginSnapshotXid n.rowStore)).entryOf tx.txId).map
      AcidTxEntry.readRowKeys).getD []) = [] := by
    cases he : (tx.registered n.acid (tx.beginSnapshotXid n.rowStore)).entryOf tx.txId with
    | none => rfl
    | some e => exact readRowKeys_registered hfr _ he
  have hsnap : ((tx.registered n.acid (tx.beginSnapshotXid n.rowStore)).rowStoreSnapshotXid
      tx.txId).getD 0 = 0 := by
    rw [rowStoreSnapshotXid]
    by_cases hbeg : tx.hasBegin
    · rw [entryOf_registered hbeg, hlvl]
      rfl
    · rw [TxRequest.registered, if_neg hbeg, hfr]
      rfl
  have hnone : ¬n.acid.Meets tx.txId "serializable" AcidTxEntry.readRowKeys tx.writeKeys := by
    rintro ⟨e, ⟨id, -, hent, -, hsta⟩, k, -, hk⟩
    rw [hfor id e hent hsta] at hk
    cases hk
  have hver : (optimisticVersionConflict n.rowStore tx.writeKeys 0).isSome ↔
      ∃ k ∈ tx.writeKeys, n.rowStore.wasModifiedAfter k 0 := List.find?_isSome
  rw [refusal, commitConflict, hrd, hsnap, hlvl]
  simp only [String.reduceEq, if_false, Option.map_none, Option.none_or, Option.isSome_or,
    Option.isSome_map, Bool.or_eq_true, hver,
    checkSerializableConflictRowLevel_isSome_iff,
    checkSerializableRwConflict_isSome_iff,
    meets_congr hoth, hnone, false_or]

theorem conflict_iff_collides {tx : TxRequest} {n : Node E C} (hcom : tx.hasCommit)
    (hlvl : tx.isoLevel = "serializable") (hfr : n.acid.entryOf tx.txId = none)
    (hfor : Forgetful n.acid) :
    (∃ reason, (n.toTxServer.sqlTransaction tx).2 = .conflict reason) ↔
      n.Collides tx.db tx.effectiveStatements := by
  have hrfs := refusal_isSome_iff hlvl hfr hfor
  rw [conflict_iff, CommitPasses, Collides, ← meets_iff_of_fresh hfr, ← TxRequest.writeKeys,
    ← or_assoc, ← hrfs, ← Option.ne_none_iff_isSome]
  tauto

end

end Node

section

variable {E C : Type} [DatabaseEngine E] [SchemaCatalog C] [CheckPredicate] [ColumnOrder]
  [Unicode] [F64] [QueryParser] [SqlRuntime] [SessionSigner]

open Transition in
/-- **A run in which every transaction has a new identifier.** -/
def Runs (n n' : Node E C) : Prop :=
  ReachableIf (fun n r => some (n.handle r)) Node.HasFreshId n n'

theorem Runs.forgetful {n n' : Node E C} (h : Runs n n') (hfor : Forgetful n.acid) :
    Forgetful n'.acid := by
  refine h.invariant (P := fun m : Node E C => Forgetful m.acid) hfor ?_
  rintro s t r hs hfr hstep
  rw [← Option.some.inj hstep]
  exact Node.forgetful_handle hfr hs

variable (E C)

/-- **One reads a row, another writes it and commits.** -/
structure ReadWriteHistory where
  boot : Node E C
  booted : boot.acid = .empty
  n₁ : Node E C
  run₁ : Runs boot n₁
  begin₁ : Circumstances × TransactionRequest
  fresh₁ : n₁.HasFreshId (begin₁.1, .transaction begin₁.2)
  serializable₁ : begin₁.2.isolationLevel = some "serializable"
  hasBegin₁ : begin₁.2.statements.any fun stmt => classifyStatement stmt = .begin
  conn : String
  given₁ : ∃ pool, n₁.handedOut (begin₁.1, .transaction begin₁.2) = some (pool, conn)
  n₂ : Node E C
  run₂ : Runs (n₁.handle (begin₁.1, .transaction begin₁.2)) n₂
  select₁ : Circumstances × ExecuteRequest
  given₂ : ∃ pool, n₂.handedOut (select₁.1, .execute select₁.2) = some (pool, conn)
  key : String
  reads₁ : ∃ rows shown, (n₂.sqlExecute select₁.1 select₁.2).2 = .ok rows shown ∧
    ∃ row ∈ rows, dbPrefixKey (databaseHeader select₁.2.headers) row.key = key
  n₃ : Node E C
  run₃ : Runs (n₂.handle (select₁.1, .execute select₁.2)) n₃
  write₂ : Circumstances × TransactionRequest
  fresh₃ : n₃.HasFreshId (write₂.1, .transaction write₂.2)
  serializable₃ : write₂.2.isolationLevel = some "serializable"
  hasCommit₃ : write₂.2.statements.any fun stmt => classifyStatement stmt = .commit
  writes₂ : (n₃.handle (write₂.1, .transaction write₂.2)).rowStore.wasModifiedAfter key
    n₃.rowStore.currentXid
  commits₂ : (n₃.sqlTransaction write₂.1 write₂.2).2 = .answered .ok
  n₄ : Node E C
  run₄ : Runs (n₃.handle (write₂.1, .transaction write₂.2)) n₄
  commit₁ : Circumstances × TransactionRequest
  fresh₄ : n₄.HasFreshId (commit₁.1, .transaction commit₁.2)
  serializable₄ : commit₁.2.isolationLevel = some "serializable"
  hasCommit₄ : commit₁.2.statements.any fun stmt => classifyStatement stmt = .commit
  given₄ : ∃ pool conn, n₄.handedOut (commit₁.1, .transaction commit₁.2) = some (pool, conn)

namespace ReadWriteHistory

variable {E C} (H : ReadWriteHistory E C)

def Refused : Prop :=
  ∃ reason, (H.n₄.sqlTransaction H.commit₁.1 H.commit₁.2).2 = .answered (.conflict reason)

theorem forgetful : Forgetful H.n₄.acid := by
  have h₁ : Forgetful H.n₁.acid := H.run₁.forgetful (H.booted ▸ Forgetful.empty)
  have h₂ := H.run₂.forgetful (Node.forgetful_handle H.fresh₁ h₁)
  have h₃ := H.run₃.forgetful (Node.forgetful_handle trivial h₂)
  exact H.run₄.forgetful (Node.forgetful_handle H.fresh₃ h₃)

end ReadWriteHistory

end

section

open Node Daemon.Sample
open scoped Dml.Sample

def named (id name : String) : RowData :=
  Finmap.insert "id" id (Finmap.insert "name" name (Finmap.insert "__table" "t" ∅))

def twoRows : Server InMemoryEngine :=
  noRows.perform [.put "t:1" (named "1" "a"), .put "t:2" (named "2" "b")]

def numbered (i : ℕ) : Circumstances := { calm with txCounter := i }

def beginReq : TransactionRequest := ⟨headers none, ["BEGIN"], some "serializable"⟩

def allRows (hs : HeaderMap) : ExecuteRequest := { headers := hs, sqlBatch := "SELECT * FROM t" }

def firstRowReq : TransactionRequest :=
  ⟨bobHeaders, ["BEGIN", "UPDATE t SET age = 6 WHERE name = 'a'", "COMMIT"], some "serializable"⟩

def secondRowReq : TransactionRequest :=
  ⟨headers none, ["UPDATE t SET age = 5 WHERE name = 'b'", "COMMIT"], some "serializable"⟩

def begunNode : Node InMemoryEngine Unit := (node twoRows).handle (calm, .transaction beginReq)

def bothRead : Node InMemoryEngine Unit :=
  (begunNode.handle (calm, .execute (allRows (headers none)))).handle
    (calm, .execute (allRows bobHeaders))

def bobCommitted : Node InMemoryEngine Unit :=
  bothRead.handle (numbered 2, .transaction firstRowReq)

/-! Who the requests come from. -/

theorem caller_begin :
    (node twoRows).caller (calm, .transaction beginReq) = some (principalOf "ann") :=
  congrArg Except.toOption (principal_ann none .execute "sql/transaction")

theorem auth_begunNode : begunNode.auth = auth := auth_handle (node twoRows) _

theorem auth_bothRead : bothRead.auth = auth := by
  rw [bothRead, auth_handle, auth_handle, auth_begunNode]

theorem auth_bobCommitted : bobCommitted.auth = auth := by
  rw [bobCommitted, auth_handle, auth_bothRead]

theorem caller_select :
    begunNode.caller (calm, .execute (allRows (headers none))) = some (principalOf "ann") := by
  have hpr := principal_ann none .execute "sql/execute"
  rw [← auth_begunNode] at hpr
  unfold caller
  dsimp only
  rw [allRows, hpr]
  rfl

theorem caller_firstRow :
    bothRead.caller (numbered 2, .transaction firstRowReq) = some (principalOf "bob") := by
  have hpr := principal_bob .execute "sql/transaction"
  rw [← auth_bothRead] at hpr
  exact congrArg Except.toOption hpr

theorem caller_secondRow :
    bobCommitted.caller (numbered 3, .transaction secondRowReq) = some (principalOf "ann") := by
  have hpr := principal_ann none .execute "sql/transaction"
  rw [← auth_bobCommitted] at hpr
  exact congrArg Except.toOption hpr

theorem hasFreshId_of_caller {n : Node InMemoryEngine Unit} {w : Circumstances}
    {req : TransactionRequest} {who : RuntimeAccessPrincipal}
    (hcal : n.caller (w, .transaction req) = some who)
    (h : n.acid.entryOf (freshTxId w who) = none) : n.HasFreshId (w, .transaction req) := by
  intro principal' hcal'
  rwa [← Option.some.inj (hcal.symm.trans hcal')]

def foundKeys (answer : ExecuteAnswer) : List String :=
  match answered answer with
  | some (rows, _) => rows.map ResultRow.key
  | none => []

theorem exists_of_mem_foundKeys {answer : ExecuteAnswer} {k : String} (h : k ∈ foundKeys answer) :
    ∃ rows shown, answer = .ok rows shown ∧ ∃ row ∈ rows, row.key = k := by
  unfold foundKeys at h
  split at h
  · rename_i rows shown hans
    exact ⟨rows, shown, eq_ok_of_answered hans, List.mem_map.mp h⟩
  · cases h

theorem skew_run :
    "t:1" ∈ foundKeys (begunNode.sqlExecute calm (allRows (headers none))).2 ∧
      "t:2" ∈ foundKeys ((begunNode.handle (calm, .execute (allRows (headers none)))).sqlExecute
        calm (allRows bobHeaders)).2 ∧
      bothRead.acid.entryOf (freshTxId (numbered 2) (principalOf "bob")) = none ∧
      (bothRead.sqlTransaction (numbered 2) firstRowReq).2 = .answered .ok ∧
      bobCommitted.rowStore.wasModifiedAfter "t:1" bothRead.rowStore.currentXid ∧
      bobCommitted.acid.entryOf (freshTxId (numbered 3) (principalOf "ann")) = none ∧
      (bobCommitted.pool.acquire 0).2 = .ok "conn-1" ∧
      (bobCommitted.sqlTransaction (numbered 3) secondRowReq).2 = .answered .ok ∧
      (bobCommitted.handle (numbered 3, .transaction secondRowReq)).rowStore.wasModifiedAfter "t:2"
        bobCommitted.rowStore.currentXid := by
  decide +kernel

theorem exists_handedOut {n : Node InMemoryEngine Unit} {r : Circumstances × SqlRequest}
    {who : RuntimeAccessPrincipal} {conn : String} (hcal : n.caller r = some who)
    (hconn : (n.pool.acquire r.1.nowMs).2 = .ok conn) : ∃ pool, n.handedOut r = some (pool, conn) :=
  ⟨_, handedOut_eq_some_iff.mpr ⟨who, hcal, Prod.ext rfl hconn⟩⟩

def skew : ReadWriteHistory InMemoryEngine Unit where
  boot := node twoRows
  booted := rfl
  n₁ := node twoRows
  run₁ := .refl
  begin₁ := (calm, beginReq)
  fresh₁ := hasFreshId_of_caller caller_begin rfl
  serializable₁ := rfl
  hasBegin₁ := by decide +kernel
  conn := "conn-1"
  given₁ := exists_handedOut caller_begin (by decide +kernel)
  n₂ := begunNode
  run₂ := .refl
  select₁ := (calm, allRows (headers none))
  given₂ := exists_handedOut caller_select (by decide +kernel)
  key := "t:1"
  reads₁ := by
    obtain ⟨rows, shown, hanswer, row, hrow, hkey⟩ := exists_of_mem_foundKeys skew_run.1
    exact ⟨rows, shown, hanswer, row, hrow, hkey⟩
  n₃ := bothRead
  run₃ := .single ⟨(calm, .execute (allRows bobHeaders)), trivial, rfl⟩
  write₂ := (numbered 2, firstRowReq)
  fresh₃ := hasFreshId_of_caller caller_firstRow skew_run.2.2.1
  serializable₃ := rfl
  hasCommit₃ := by decide +kernel
  writes₂ := skew_run.2.2.2.2.1
  commits₂ := skew_run.2.2.2.1
  n₄ := bobCommitted
  run₄ := .refl
  commit₁ := (numbered 3, secondRowReq)
  fresh₄ := hasFreshId_of_caller caller_secondRow skew_run.2.2.2.2.2.1
  serializable₄ := rfl
  hasCommit₄ := by decide +kernel
  given₄ := by
    obtain ⟨pool, h⟩ := exists_handedOut caller_secondRow skew_run.2.2.2.2.2.2.1
    exact ⟨pool, "conn-1", h⟩

end

end VngDatabase.Daemon
