import VngDatabase.Bytes
import VngDatabase.Text

/-!
# Who owns a key of a sharded table

Asked for a key of a table that is spread over the nodes of a cluster, a node tells which of them
owns it (`cluster_shard_route` of `services/voltnuerongridd/src/handlers/dataplane.rs`).
-/

namespace VngDatabase.Daemon

open Text List

structure ShardTableConfig where
  column : String
  shardCount : ℕ
  deriving DecidableEq

structure ShardNode where
  raftPeers : List String := []
  shardRegistry : Finmap fun _ : String => ShardTableConfig := ∅

structure ShardRouteResponse where
  table : String
  sharded : Bool
  shardId : ℕ
  owningNodeIndex : ℕ
  isLocal : Bool

def shardForKey (shardCount : ℕ) (key : String) : ℕ :=
  if shardCount ≤ 1 then 0 else (fnv1aHash key).toNat % shardCount

def owningNodeIndex (shardId nodeCount : ℕ) : ℕ := if nodeCount = 0 then 0 else shardId % nodeCount

namespace ShardNode

def lookupShardConfig (node : ShardNode) (table : String) : Option ShardTableConfig :=
  node.shardRegistry.lookup (toAsciiLowercase table)

def clusterShardRoute (node : ShardNode) (table primaryKey : String) : ShardRouteResponse :=
  let nodeCount := 1 + node.raftPeers.length
  match node.lookupShardConfig table with
  | none => ⟨table, false, 0, 0, true⟩
  | some cfg =>
    let shardId := shardForKey cfg.shardCount primaryKey
    let owner := owningNodeIndex shardId nodeCount
    ⟨table, true, shardId, owner, owner == 0⟩

section

variable {n : ℕ} {url : Fin n → String} {nodes : Fin n → ShardNode}

def PeersKnown (url : Fin n → String) (nodes : Fin n → ShardNode) : Prop :=
  ∀ i, (nodes i).raftPeers.Perm (((List.finRange n).erase i).map url)

theorem PeersKnown.nodeCount (h : PeersKnown url nodes) (i : Fin n) :
    1 + (nodes i).raftPeers.length = n := by
  have hlt := i.isLt
  rw [(h i).length_eq, length_map, length_erase_of_mem (mem_finRange i), length_finRange]
  omega

theorem isLocal_iff (h : PeersKnown url nodes) {table : String} {cfg : ShardTableConfig}
    (hcfg : ∀ i, (nodes i).lookupShardConfig table = some cfg) (primaryKey : String) (i : Fin n) :
    ((nodes i).clusterShardRoute table primaryKey).isLocal ↔
      shardForKey cfg.shardCount primaryKey % n = 0 := by
  have hcnt := h.nodeCount i
  have hne : n ≠ 0 := by omega
  rw [clusterShardRoute, hcfg i]
  simp only [hcnt, owningNodeIndex, if_neg hne, beq_iff_eq]

/-- **A key has exactly one owner iff there is exactly one node.** -/
theorem existsUnique_isLocal_iff (h : PeersKnown url nodes) {table : String}
    {cfg : ShardTableConfig} (hcfg : ∀ i, (nodes i).lookupShardConfig table = some cfg)
    (primaryKey : String) :
    (∃! i, ((nodes i).clusterShardRoute table primaryKey).isLocal) ↔ n = 1 := by
  simp only [isLocal_iff h hcfg]
  constructor
  · rintro ⟨i, hloc, huni⟩
    have hsub : Subsingleton (Fin n) := ⟨fun j k => (huni j hloc).trans (huni k hloc).symm⟩
    have hle := Fin.subsingleton_iff_le_one.mp hsub
    have hlt := i.isLt
    omega
  · rintro rfl
    exact ⟨0, Nat.mod_one _, fun j _ => Subsingleton.elim j 0⟩

end

def pairUrl : Fin 2 → String := fun i =>
  if i = 0 then "http://node-1:8080" else "http://node-2:8080"

def pair : Fin 2 → ShardNode := fun i =>
  { raftPeers := [pairUrl (1 - i)]
    shardRegistry := Finmap.insert "orders" ⟨"id", 4⟩ ∅ }

/-- **Both nodes own a key, and neither of them another one.** -/
theorem pair_isLocal : PeersKnown pairUrl pair ∧
    (∀ i, (pair i).lookupShardConfig "orders" = some ⟨"id", 4⟩) ∧
    (∀ i, ((pair i).clusterShardRoute "orders" "order-2").isLocal = true) ∧
    (∀ i, ((pair i).clusterShardRoute "orders" "order-1").isLocal = false) ∧
    ¬∃! i, ((pair i).clusterShardRoute "orders" "order-1").isLocal := by
  have hnone : ∀ i, ((pair i).clusterShardRoute "orders" "order-1").isLocal = false := by
    decide +kernel
  refine ⟨by rw [PeersKnown]; decide +kernel, by decide +kernel, by decide +kernel, hnone, ?_⟩
  rintro ⟨i, hi, -⟩
  exact Bool.false_ne_true ((hnone i).symm.trans hi)

def single : Fin 1 → ShardNode := fun _ =>
  { shardRegistry := Finmap.insert "orders" ⟨"id", 4⟩ ∅ }

theorem single_isLocal : ∃! i, ((single i).clusterShardRoute "orders" "order-1").isLocal := by
  have hpee : PeersKnown (fun _ => "http://node-1:8080") single := by
    rw [PeersKnown]
    decide +kernel
  have hcfg : ∀ i, (single i).lookupShardConfig "orders" = some ⟨"id", 4⟩ := by decide +kernel
  exact (existsUnique_isLocal_iff hpee hcfg "order-1").mpr rfl

end ShardNode

end VngDatabase.Daemon
