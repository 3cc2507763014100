import VngDatabase.Dml.Storage
import VngDatabase.Query.Select

/-!
# Queries on all nodes

A query may be sent to all nodes of a cluster, and **the numbers of rows are added up**
(`gather_distributed_olap` of `services/voltnuerongridd/src/handlers/dataplane.rs`). Four numbers
tell how far the sum is off:
-/

namespace VngDatabase.Query

open Store Dml DurabilityEngine List

/-! ### Tables of the query engine -/

structure RegisteredTable where
  columns : Finset String
  rows : List (Option String × RowData)

def keyColumn : String := "__vng_key"

def memTable (rows : List (String × RowData)) : RegisteredTable where
  columns := insert keyColumn (rows.foldr (fun row columns => row.2.keys ∪ columns) ∅)
  rows := rows.map fun row => (some row.1, row.2)

abbrev DataFusion :=
  (query : String) → (tables : List (String × RegisteredTable)) → Option (List ResultRow)

def executeSelectPreferParquet (df : DataFusion) (query : String)
    (tables : List (String × List (String × RowData))) (maxRows : ℕ)
    (parquet : (table : String) → Option RegisteredTable) : Option (List ResultRow) :=
  (df query (tables.map fun t => (t.1, (parquet t.1).getD (memTable t.2)))).map
    (List.take maxRows)

def defaultMaxRows : ℕ := 1000

structure OlapQueryResponse where
  status : String
  querySignature : String
  rows : ℕ
  dataSource : String

/-- An error is an answer without rows. -/
def executeOlapQuery [QueryParser] (df : DataFusion) (query : String) (maxRows : Option ℕ)
    (rs : PagedRowStore) (db : String) (parquet : (table : String) → Option RegisteredTable)
    (snapshotXid : Option Xid) (rocksdbRows : Option (List (String × RowData))) :
    OlapQueryResponse :=
  let resolvedMaxRows := min (maxRows.getD defaultMaxRows) 100000
  let allRows := rocksdbRows.getD (rs.scanAtSnapshot (snapshotXid.getD rs.currentXid))
  let tables :=
    match QueryParser.collectQueryTableNames query with
    | [] => [("rows", allRows)]
    | names => names.map fun name => (name, tableRows db allRows name)
  { status := "ok"
    querySignature := String.ofList (query.toList.take 64)
    rows := ((executeSelectPreferParquet df query tables resolvedMaxRows parquet).map
      List.length).getD 0
    dataSource := if rocksdbRows.isSome then "rocksdb" else "paged_store" }

/-! ### Nodes -/

structure OlapNode (E : Type) where
  nodeId : String
  rowStore : PagedRowStore
  walEngine : E
  parquet : (table : String) → Option RegisteredTable

structure OlapSubtaskResult where
  nodeId : String
  rows : ℕ
  dataSource : String

structure DistributedOlapResult where
  status : String
  totalRows : ℕ
  partitions : ℕ
  perNode : List OlapSubtaskResult
  localFallback : Bool

def mergeOlapPartials (partials : List OlapSubtaskResult) (localFallback : Bool) :
    DistributedOlapResult :=
  let sorted := partials.insertionSort fun p p' => p.nodeId ≤ p'.nodeId
  { status := "ok"
    totalRows := (sorted.map OlapSubtaskResult.rows).sum
    partitions := sorted.length
    perNode := sorted
    localFallback := localFallback }

theorem totalRows_mergeOlapPartials (ps : List OlapSubtaskResult) (lf : Bool) :
    (mergeOlapPartials ps lf).totalRows =
      (ps.map OlapSubtaskResult.rows).sum :=
  ((perm_insertionSort _ ps).map _).sum_eq

namespace OlapNode

variable {E : Type} [DurabilityEngine E]

def rocksdbRows (n : OlapNode E) : Option (List (String × RowData)) :=
  if persistsRows n.walEngine then some (scanRowsForDb n.walEngine "" n.rowStore.currentXid)
  else none

def runLocalOlapSubtask [QueryParser] (df : DataFusion) (n : OlapNode E) (query : String)
    (maxRows : Option ℕ) : OlapSubtaskResult :=
  let resp := executeOlapQuery df query maxRows n.rowStore "" n.parquet none n.rocksdbRows
  ⟨n.nodeId, resp.rows, resp.dataSource⟩

def gatherDistributedOlap [QueryParser] (df : DataFusion) (n : OlapNode E)
    (peers : List (OlapNode E)) (answers : OlapNode E → Bool) (query : String)
    (maxRows : Option ℕ) : DistributedOlapResult :=
  let own := n.runLocalOlapSubtask df query maxRows
  if peers.isEmpty then mergeOlapPartials [own] true
  else
    let partials := (peers.filter answers).map fun p => p.runLocalOlapSubtask df query maxRows
    mergeOlapPartials (own :: partials) partials.isEmpty

def held (n : OlapNode E) (table : String) : List (String × RowData) :=
  tableRows "" (n.rocksdbRows.getD (n.rowStore.scanAtSnapshot n.rowStore.currentXid)) table

def registered (n : OlapNode E) (table : String) : RegisteredTable :=
  (n.parquet table).getD (memTable (n.held table))

end OlapNode

structure PlainFilter where
  table : String
  columns : Finset String
  keep : Option String × RowData → Bool

def PlainFilter.count (f : PlainFilter) (t : RegisteredTable) : ℕ :=
  if f.columns ⊆ t.columns then t.rows.countP f.keep else 0

def Answers (df : DataFusion) (query : String) (f : PlainFilter) : Prop :=
  ∀ t, (df query [(f.table, t)]).map List.length =
    if f.columns ⊆ t.columns then some (t.rows.countP f.keep) else none

/-! ### Counting rows -/

def repeats {α : Type*} [DecidableEq α] (l : List α) (a : α) : ℕ := l.count a - 1

theorem countP_eq_length_add_repeats {α : Type*} [DecidableEq α] (p : α → Bool) (l : List α) :
    l.countP p = (l.dedup.filter p).length + ((l.dedup.filter p).map (repeats l)).sum := by
  have hcnt : ∀ a ∈ l.dedup.filter p, l.count a = 1 + repeats l a := by
    intro a ha
    have hpos := count_pos_iff.mpr (mem_dedup.mp (mem_filter.mp ha).1)
    rw [repeats]
    omega
  rw [← sum_map_count_dedup_filter_eq_countP, map_congr_left hcnt, sum_map_add,
    map_const', sum_replicate_nat, mul_one]

section

variable {E : Type} [DurabilityEngine E]

def union (f : PlainFilter) (nodes : List (OlapNode E)) : List (String × RowData) :=
  (nodes.flatMap fun n => n.held f.table).dedup

def kept (f : PlainFilter) (nodes : List (OlapNode E)) (row : String × RowData) : Bool :=
  f.columns ⊆ (memTable (union f nodes)).columns && f.keep (some row.1, row.2)

def surplus (f : PlainFilter) (nodes : List (OlapNode E)) : ℕ :=
  (((union f nodes).filter (kept f nodes)).map
    (repeats (nodes.flatMap fun n => n.held f.table))).sum

namespace OlapNode

variable (f : PlainFilter) (nodes : List (OlapNode E)) (n : OlapNode E)

def found : ℕ := f.count (n.registered f.table)

def holds : ℕ := (n.held f.table).countP (kept f nodes)

def cut : ℕ := n.found f - defaultMaxRows

def missed : ℕ := n.holds f nodes - n.found f

def stale : ℕ := n.found f - n.holds f nodes

end OlapNode

/-- **As much is counted too often as is left out.** -/
def Balanced (f : PlainFilter) (nodes : List (OlapNode E)) : Prop :=
  surplus f nodes + (nodes.map fun n => n.stale f nodes).sum =
    (nodes.map fun n => n.cut f).sum + (nodes.map fun n => n.missed f nodes).sum

theorem count_union (f : PlainFilter) (nodes : List (OlapNode E)) :
    f.count (memTable (union f nodes)) = ((union f nodes).filter (kept f nodes)).length := by
  rw [PlainFilter.count, ← countP_eq_length_filter]
  split_ifs with h
  · rw [memTable, countP_map]
    refine countP_congr fun row _ => ?_
    rw [kept, decide_eq_true h, Bool.true_and, Function.comp_apply]
  · refine (countP_eq_zero.mpr fun row _ => ?_).symm
    rw [kept, decide_eq_false h, Bool.false_and]
    exact Bool.false_ne_true

theorem sum_holds (f : PlainFilter) (nodes : List (OlapNode E)) :
    (nodes.map fun n => n.holds f nodes).sum =
      ((union f nodes).filter (kept f nodes)).length + surplus f nodes := by
  rw [surplus, union, ← countP_eq_length_add_repeats, countP_flatMap]
  rfl

theorem sum_min_found (f : PlainFilter) (nodes nodes' : List (OlapNode E)) :
    (nodes.map fun n => min defaultMaxRows (n.found f)).sum +
        ((nodes.map fun n => n.cut f).sum + (nodes.map fun n => n.missed f nodes').sum) =
      (nodes.map fun n => n.holds f nodes').sum + (nodes.map fun n => n.stale f nodes').sum := by
  rw [← sum_map_add, ← sum_map_add, ← sum_map_add]
  refine congrArg sum (map_congr_left fun n _ => ?_)
  rw [OlapNode.cut, OlapNode.missed, OlapNode.stale]
  omega

variable [QueryParser] {df : DataFusion} {query : String} {f : PlainFilter}

theorem rows_runLocalOlapSubtask (htab : QueryParser.collectQueryTableNames query = [f.table])
    (hansw : Answers df query f) (n : OlapNode E) :
    (n.runLocalOlapSubtask df query none).rows = min defaultMaxRows (n.found f) := by
  have hdf := hansw (n.registered f.table)
  rw [OlapNode.found, PlainFilter.count, OlapNode.runLocalOlapSubtask, executeOlapQuery]
  dsimp only
  rw [htab]
  dsimp only
  rw [executeSelectPreferParquet, List.map_singleton, List.map_singleton, Option.map_map]
  change ((df query [(f.table, n.registered f.table)]).map _).getD 0 = _
  by_cases hcols : f.columns ⊆ (n.registered f.table).columns
  · rw [if_pos hcols] at hdf ⊢
    obtain ⟨rows, hrows, hlen⟩ := Option.map_eq_some_iff.mp hdf
    rw [hrows, Option.map_some, Option.getD_some, Function.comp_apply, List.length_take, hlen]
    rfl
  · rw [if_neg hcols] at hdf ⊢
    rw [Option.map_eq_none_iff.mp hdf]
    rfl

theorem totalRows_gatherDistributedOlap
    (htab : QueryParser.collectQueryTableNames query = [f.table])
    (hansw : Answers df query f) (n : OlapNode E) (peers : List (OlapNode E)) :
    (n.gatherDistributedOlap df peers (fun _ => true) query none).totalRows =
      ((n :: peers).map fun n => min defaultMaxRows (n.found f)).sum := by
  have hrows : ∀ nodes : List (OlapNode E),
      (nodes.map fun n => n.runLocalOlapSubtask df query none).map OlapSubtaskResult.rows =
        nodes.map fun n => min defaultMaxRows (n.found f) := by
    intro nodes
    rw [List.map_map]
    exact map_congr_left fun n _ => rows_runLocalOlapSubtask htab hansw n
  rw [OlapNode.gatherDistributedOlap]
  cases peers with
  | nil =>
    rw [isEmpty_nil, if_pos rfl, totalRows_mergeOlapPartials]
    exact congrArg sum (hrows [n])
  | cons p peers =>
    rw [isEmpty_cons, if_neg Bool.false_ne_true, filter_true]
    dsimp only
    rw [totalRows_mergeOlapPartials]
    exact congrArg sum (hrows (n :: p :: peers))

/-- **Each row is counted once iff** as much is counted too often as is left out. -/
theorem counted_once_iff (htable : QueryParser.collectQueryTableNames query = [f.table])
    (hanswers : Answers df query f) (n : OlapNode E) (peers : List (OlapNode E)) :
    (n.gatherDistributedOlap df peers (fun _ => true) query none).totalRows =
        f.count (memTable (union f (n :: peers))) ↔ Balanced f (n :: peers) := by
  have hsum := sum_min_found f (n :: peers) (n :: peers)
  have hhol := sum_holds f (n :: peers)
  rw [totalRows_gatherDistributedOlap htable hanswers, count_union, Balanced]
  omega

end

def openOrders : PlainFilter where
  table := "orders"
  columns := {"state"}
  keep row := row.2.lookup "state" = some "open"

def orderNode (nodeId : String) (keys : List String) : OlapNode InMemoryEngine where
  nodeId := nodeId
  rowStore := keys.foldl (fun rs key =>
    rs.beginXid.1.insert rs.beginXid.2 key (Finmap.singleton "state" "open")) (PagedRowStore.new 64)
  walEngine := {}
  parquet _ := none

@[reducible] def ordersParser : QueryParser where
  parseOne _ := .error "not parsed"
  parsePredicate _ := .error "not parsed"
  collectQueryTableNames _ := ["orders"]

def filterTable (f : PlainFilter) : DataFusion
  | _, [(_, t)] =>
    if f.columns ⊆ t.columns then
      some ((t.rows.filter f.keep).map fun row => ⟨row.1.getD "", row.2⟩)
    else none
  | _, _ => none

theorem answers_filterTable (f : PlainFilter) (query : String) :
    Answers (filterTable f) query f := by
  intro t
  rw [filterTable]
  split_ifs
  · rw [Option.map_some, length_map, ← countP_eq_length_filter]
  · rfl

theorem orders_counted : ∃ (_ : QueryParser) (df : DataFusion) (query : String),
    Answers df query openOrders ∧
      ((orderNode "a" ["orders:1"]).gatherDistributedOlap df [orderNode "b" ["orders:2"]]
        (fun _ => true) query none).totalRows =
      openOrders.count (memTable (union openOrders
        [orderNode "a" ["orders:1"], orderNode "b" ["orders:2"]])) := by
  refine ⟨ordersParser, filterTable openOrders, "SELECT * FROM orders WHERE state = 'open'",
    answers_filterTable _ _, ?_⟩
  let _ := ordersParser
  refine (counted_once_iff rfl (answers_filterTable _ _) _ _).mpr ?_
  rw [Balanced]
  decide +kernel

/-- **An order that both nodes hold is counted twice.** -/
theorem order_counted_twice :
    (∃ (_ : QueryParser) (df : DataFusion) (query : String),
      QueryParser.collectQueryTableNames query = ["orders"] ∧ Answers df query openOrders) ∧
    ∀ (_ : QueryParser) (df : DataFusion) (query : String),
      QueryParser.collectQueryTableNames query = ["orders"] → Answers df query openOrders →
      ((orderNode "a" ["orders:1"]).gatherDistributedOlap df [orderNode "b" ["orders:1"]]
        (fun _ => true) query none).totalRows = 2 ∧
      openOrders.count (memTable (union openOrders
        [orderNode "a" ["orders:1"], orderNode "b" ["orders:1"]])) = 1 := by
  refine ⟨⟨ordersParser, filterTable openOrders, "", rfl, answers_filterTable _ _⟩, ?_⟩
  intro _ df query htab hansw
  rw [totalRows_gatherDistributedOlap htab hansw]
  decide +kernel

end VngDatabase.Query
