import VngDatabase.Store.Mvcc

/-!
# The registry of transactions

The `AcidTransactionRegistry` of `services/voltnuerongridd/src/main.rs`: what the server knows about
transactions, also those that have ended.
-/

namespace VngDatabase.Tx

open Store List

inductive AcidTxState
  | active
  | committed
  | rolledBack
  | failed
  deriving DecidableEq

structure AcidTxEntry where
  state : AcidTxState
  isolationLevel : String
  rowStoreSnapshotXid : Option Xid
  writtenRowKeys : List String
  readRowKeys : List String

def takesSnapshot (isolationLevel : String) : Bool :=
  isolationLevel = "repeatable_read" || isolationLevel = "optimistic"

structure AcidTransactionRegistry where
  transactions : AList fun _ : String => AcidTxEntry

namespace AcidTransactionRegistry

variable (r : AcidTransactionRegistry) (txId : String)

def empty : AcidTransactionRegistry := ⟨∅⟩

def entryOf : Option AcidTxEntry := r.transactions.lookup txId

def begin (isolationLevel : String) (beginSnapshotXid : Option Xid) : AcidTransactionRegistry :=
  ⟨r.transactions.insert txId
    { state := .active
      isolationLevel := isolationLevel
      rowStoreSnapshotXid := if takesSnapshot isolationLevel then beginSnapshotXid else none
      writtenRowKeys := []
      readRowKeys := [] }⟩

def modify (f : AcidTxEntry → AcidTxEntry) : AcidTransactionRegistry :=
  match r.entryOf txId with
  | some e => ⟨r.transactions.insert txId (f e)⟩
  | none => r

def finishAs (state : AcidTxState) (e : AcidTxEntry) : AcidTxEntry :=
  if e.state = .active then { e with state := state } else e

def commit : AcidTransactionRegistry := r.modify txId (finishAs .committed)

def rollback : AcidTransactionRegistry := r.modify txId (finishAs .rolledBack)

def setRowStoreSnapshot (snapshotXid : Xid) : AcidTransactionRegistry :=
  r.modify txId fun e => { e with
    rowStoreSnapshotXid := e.rowStoreSnapshotXid.or (some snapshotXid) }

def rowStoreSnapshotXid : Option Xid := (r.entryOf txId).bind AcidTxEntry.rowStoreSnapshotXid

def recordWrittenRowKeys (keys : List String) : AcidTransactionRegistry :=
  r.modify txId fun e => { e with writtenRowKeys := e.writtenRowKeys ++ keys }

def addReads (keys : List String) (e : AcidTxEntry) : AcidTxEntry :=
  if e.isolationLevel = "serializable" ∧ e.state = .active then
    { e with readRowKeys := e.readRowKeys ++ keys }
  else e

def recordReadRowKeys (keys : List String) : AcidTransactionRegistry :=
  r.modify txId (addReads keys)

def rrReadSnapshotXid : Option Xid :=
  (r.entryOf txId).bind fun e =>
    if e.isolationLevel = "repeatable_read" then e.rowStoreSnapshotXid else none

/-! ### Conflicts with committed transactions -/

def peerConflict (level : String) (conflict : AcidTxEntry → Option String) : Option String :=
  r.transactions.entries.findSome? fun e =>
    if e.1 = txId || e.2.isolationLevel ≠ level || e.2.state ≠ .committed then none
    else conflict e.2

def checkOptimisticConflict (writtenKeys : List String) : Option String :=
  r.peerConflict txId "optimistic" fun e => writtenKeys.find? (· ∈ e.writtenRowKeys)

def checkSerializableConflictRowLevel (writtenKeys : List String) : Option String :=
  r.peerConflict txId "serializable" fun e => writtenKeys.find? (· ∈ e.writtenRowKeys)

def checkSerializableRwConflict (writtenKeys readKeys : List String) : Option String :=
  r.peerConflict txId "serializable" fun e =>
    (readKeys.find? (· ∈ e.writtenRowKeys)).or (writtenKeys.find? (· ∈ e.readRowKeys))

/-! ### Entries -/

variable {r txId} {id : String} {e : AcidTxEntry} {f : AcidTxEntry → AcidTxEntry} {level : String}
  {r' : AcidTransactionRegistry} {keysOf : AcidTxEntry → List String}

@[simp]
theorem entryOf_begin (level : String) (sn : Option Xid) :
    (r.begin txId level sn).entryOf txId = some
      { state := .active
        isolationLevel := level
        rowStoreSnapshotXid := if takesSnapshot level then sn else none
        writtenRowKeys := []
        readRowKeys := [] } := AList.lookup_insert _

theorem entryOf_begin_of_ne (h : id ≠ txId) (level : String) (sn : Option Xid) :
    (r.begin txId level sn).entryOf id = r.entryOf id := AList.lookup_insert_ne h

theorem entryOf_modify : (r.modify txId f).entryOf txId = (r.entryOf txId).map f := by
  rw [modify]
  cases h : r.entryOf txId with
  | none => exact h
  | some e => exact AList.lookup_insert _

theorem entryOf_modify_of_ne (h : id ≠ txId) : (r.modify txId f).entryOf id = r.entryOf id := by
  rw [modify]
  cases r.entryOf txId with
  | none => rfl
  | some e => exact AList.lookup_insert_ne h

def Peer (r : AcidTransactionRegistry) (txId level : String) (e : AcidTxEntry) : Prop :=
  ∃ id, id ≠ txId ∧ r.entryOf id = some e ∧ e.isolationLevel = level ∧ e.state = .committed

theorem peerConflict_isSome_iff {conflict : AcidTxEntry → Option String} :
    (r.peerConflict txId level conflict).isSome ↔
      ∃ e, r.Peer txId level e ∧ (conflict e).isSome := by
  rw [peerConflict, findSome?_isSome_iff]
  constructor
  · rintro ⟨⟨id, e⟩, hmem, h⟩
    split_ifs at h with hskip
    · simp at h
    · simp only [Bool.or_eq_true, decide_eq_true_iff, not_or, not_not] at hskip
      exact ⟨e, ⟨id, hskip.1.1, AList.mem_lookup_iff.mpr hmem, hskip.1.2, hskip.2⟩, h⟩
  · rintro ⟨e, ⟨id, hid, hent, hlvl, hsta⟩, h⟩
    refine ⟨⟨id, e⟩, AList.mem_lookup_iff.mp hent, ?_⟩
    simpa [hid, hlvl, hsta] using h

def Meets (r : AcidTransactionRegistry) (txId level : String) (keysOf : AcidTxEntry → List String)
    (keys : List String) : Prop :=
  ∃ e, r.Peer txId level e ∧ ∃ k ∈ keys, k ∈ keysOf e

theorem meets_congr {keys : List String} (h : ∀ id, id ≠ txId → r'.entryOf id = r.entryOf id) :
    r'.Meets txId level keysOf keys ↔ r.Meets txId level keysOf keys :=
  exists_congr fun e => and_congr_left fun _ => exists_congr fun id =>
    and_congr_right fun hid => by rw [h id hid]

theorem meets_of_added {keys : List String} (hid : id ≠ txId)
    (hnone : r.entryOf id = none) (hent : r'.entryOf id = some e) (hsta : e.state = .committed)
    (h : ∀ id', id' ≠ id → r'.entryOf id' = r.entryOf id') :
    r'.Meets txId level keysOf keys ↔
      r.Meets txId level keysOf keys ∨ (e.isolationLevel = level ∧ ∃ k ∈ keys, k ∈ keysOf e) := by
  constructor
  · rintro ⟨e', ⟨id', hid', hent', hlvl, hsta'⟩, hkeys⟩
    rcases eq_or_ne id' id with rfl | hne
    · obtain rfl := Option.some.inj (hent.symm.trans hent')
      exact Or.inr ⟨hlvl, hkeys⟩
    · exact Or.inl ⟨e', ⟨id', hid', h id' hne ▸ hent', hlvl, hsta'⟩, hkeys⟩
  · rintro (⟨e', ⟨id', hid', hent', hlvl, hsta'⟩, hkeys⟩ | ⟨hlvl, hkeys⟩)
    · have hne : id' ≠ id := by
        rintro rfl
        simp [hnone] at hent'
      exact ⟨e', ⟨id', hid', (h id' hne).trans hent', hlvl, hsta'⟩, hkeys⟩
    · exact ⟨e, ⟨id, hid, hent, hlvl, hsta⟩, hkeys⟩

variable {keys : List String}

theorem checkOptimisticConflict_isSome_iff :
    (r.checkOptimisticConflict txId keys).isSome ↔
      r.Meets txId "optimistic" AcidTxEntry.writtenRowKeys keys := by
  simp only [checkOptimisticConflict, peerConflict_isSome_iff, Meets, find?_isSome,
    decide_eq_true_iff]

theorem checkSerializableConflictRowLevel_isSome_iff :
    (r.checkSerializableConflictRowLevel txId keys).isSome ↔
      r.Meets txId "serializable" AcidTxEntry.writtenRowKeys keys := by
  simp only [checkSerializableConflictRowLevel, peerConflict_isSome_iff, Meets, find?_isSome,
    decide_eq_true_iff]

theorem checkSerializableRwConflict_isSome_iff :
    (r.checkSerializableRwConflict txId keys []).isSome ↔
      r.Meets txId "serializable" AcidTxEntry.readRowKeys keys := by
  simp only [checkSerializableRwConflict, peerConflict_isSome_iff, Meets, find?_nil,
    Option.none_or, find?_isSome, decide_eq_true_iff]

end AcidTransactionRegistry

end VngDatabase.Tx
