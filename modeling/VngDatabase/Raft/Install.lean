import VngDatabase.Raft.Node
import VngDatabase.Store.Replace

/-!
# Installing a snapshot

The handler for `InstallSnapshot` calls (`services/voltnuerongridd/src/handlers/raft.rs`) puts the
rows of the call in the place of all rows if the node answers with success, which it also does if it
has a snapshot that is as new.
-/

namespace VngDatabase.Raft

open Store

/-- The rows in the order of the hash map. -/
structure RowListing (rows : Finmap fun _ : String => RowData) where
  list : List (String × RowData)
  nodup : (list.map Prod.fst).Nodup
  mem_iff : ∀ key data, (key, data) ∈ list ↔ rows.lookup key = some data

structure SnapshotNode where
  raft : RaftNode
  persisted : RaftDurableState
  rowStore : PagedRowStore

namespace SnapshotNode

def raftInstallSnapshot (admitted : Bool) (req : RaftInstallSnapshotRequest)
    (rows : RowListing req.rows) (n : SnapshotNode) :
    SnapshotNode × Option RaftInstallSnapshotResponse :=
  if admitted then
    let (raft, resp) := n.raft.handleInstallSnapshot req
    ({ raft := raft
       persisted := .fromNode raft
       rowStore := if resp.success then n.rowStore.replaceAll rows.list else n.rowStore },
      some resp)
  else (n, none)

variable {admitted : Bool} {req : RaftInstallSnapshotRequest} {rows : RowListing req.rows}
  {n : SnapshotNode}

theorem rowStore_raftInstallSnapshot :
    (n.raftInstallSnapshot admitted req rows).1.rowStore =
      if admitted ∧ n.raft.currentTerm ≤ req.term then n.rowStore.replaceAll rows.list
      else n.rowStore := by
  rw [raftInstallSnapshot]
  cases admitted with
  | false => rfl
  | true =>
    rcases n.raft.handleInstallSnapshot_cases req with
      ⟨hterm, -, hsuc⟩ | ⟨hterm, -, -, hsuc⟩ | ⟨hterm, -, -, hsuc⟩
    · simp [hsuc, not_le.mpr hterm]
    · simp [hsuc, hterm]
    · simp [hsuc, hterm]

theorem readLatest_replaceAll_listing (store : PagedRowStore) (key : String) :
    (store.replaceAll rows.list).readLatest key =
      if key ∈ store.heldOf (rows.list.map Prod.fst) then req.rows.lookup key else none := by
  ext data
  rw [PagedRowStore.readLatest_replaceAll rows.nodup, rows.mem_iff]
  split_ifs with hheld
  · exact and_iff_left hheld
  · simp [hheld]

/-- **A stale snapshot leaves the visible rows** iff it is not admitted, over, or holds them. -/
theorem inert_iff (admitted : Bool) (req : RaftInstallSnapshotRequest) (rows : RowListing req.rows)
    (n : SnapshotNode) :
    (req.snapshotIndex ≤ n.raft.snapshotIndex → ∀ key,
      (n.raftInstallSnapshot admitted req rows).1.rowStore.readLatest key =
        n.rowStore.readLatest key) ↔
    (req.snapshotIndex ≤ n.raft.snapshotIndex → admitted → n.raft.currentTerm ≤ req.term → ∀ key,
      n.rowStore.readLatest key =
        if key ∈ n.rowStore.heldOf (rows.list.map Prod.fst) then req.rows.lookup key
        else none) := by
  refine imp_congr_right fun _ => ?_
  rw [rowStore_raftInstallSnapshot]
  split_ifs with hrep
  · simp only [readLatest_replaceAll_listing, hrep.1, hrep.2, true_imp_iff]
    exact forall_congr' fun _ => eq_comm
  · exact iff_of_true (fun _ => rfl) fun hadm hterm => absurd ⟨hadm, hterm⟩ hrep

def snapshotRow : RowData := Finmap.insert "id" "1" ∅

def oldSnapshot : RaftInstallSnapshotRequest :=
  ⟨1, "node-1", 3, 1, Finmap.insert "t:1" snapshotRow ∅⟩

def oldSnapshotRows : RowListing oldSnapshot.rows where
  list := [("t:1", snapshotRow)]
  nodup := List.nodup_singleton _
  mem_iff key data := by
    rw [oldSnapshot, List.mem_singleton, Prod.mk.injEq]
    rcases eq_or_ne key "t:1" with rfl | hkey
    · rw [Finmap.lookup_insert, Option.some.injEq, and_iff_right rfl, eq_comm]
    · simp [hkey]

def freshNode : SnapshotNode := ⟨.new "node-2", .fromNode (.new "node-2"), .new 256⟩

def writtenNode : SnapshotNode :=
  let n := (freshNode.raftInstallSnapshot true oldSnapshot oldSnapshotRows).1
  let (rowStore, xid) := n.rowStore.beginXid
  { n with rowStore := rowStore.insert xid "t:2" ∅ }

/-- **A row is lost** when a snapshot comes again. -/
theorem row_lost_to_stale_snapshot :
    oldSnapshot.snapshotIndex ≤ writtenNode.raft.snapshotIndex ∧
      writtenNode.rowStore.readLatest "t:2" = some ∅ ∧
      (writtenNode.raftInstallSnapshot true oldSnapshot oldSnapshotRows).1.rowStore.readLatest
        "t:2" = none := by
  decide +kernel

end SnapshotNode

end VngDatabase.Raft
