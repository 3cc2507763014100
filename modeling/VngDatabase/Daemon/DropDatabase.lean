import VngDatabase.Daemon.Answers
import VngDatabase.Daemon.Handlers
import VngDatabase.Dml.Boot

/-!
# Dropping a database

`purge_database_rows` of `services/voltnuerongridd/src/helpers/boot.rs`, as `DROP DATABASE` calls
it, and what is left of a database that is dropped and created again.
-/

namespace VngDatabase.Daemon

open Finset Access

open Text Sql Store Dml Query Overlay DurabilityEngine BootEngine DatabaseEngine ListedEngine List

/-- **To forget a database does not touch the indexes.** -/
class IndexedCatalog (C : Type) extends SchemaCatalog C where
  indexManager_purgeDatabase : ∀ c database, indexManager (purgeDatabase c database) =
    indexManager c

section

variable {E : Type} [DatabaseEngine E] (s : Server E) (db : String)

theorem mem_rowsWhere_iff {rs : PagedRowStore} (h : rs.Stamped) {p : String → Bool} {k : String} :
    k ∈ (rowsWhere rs p).map Prod.fst ↔ p k ∧ (rs.readLatest k).isSome := by
  constructor
  · intro hmem
    obtain ⟨row, hrow, rfl⟩ := List.mem_map.mp hmem
    obtain ⟨hp, hread⟩ := (mem_rowsWhere h).mp hrow
    exact ⟨hp, Option.isSome_iff_exists.mpr ⟨_, hread⟩⟩
  · rintro ⟨hp, hsome⟩
    obtain ⟨data, hread⟩ := Option.isSome_iff_exists.mp hsome
    exact List.mem_map.mpr ⟨(k, data), (mem_rowsWhere h).mpr ⟨hp, hread⟩, rfl⟩

theorem rowWrites_purgeActions (rs : PagedRowStore) :
    rowWrites (purgeActions db rs) =
      ((rowsWhere rs (startsWith · (db ++ "."))).map Prod.fst).map fun k => (k, none) := by
  rw [purgeActions, rowWrites, List.filterMap_map, List.map_map, ← List.filterMap_eq_map]
  rfl

theorem readLatest_purgeDatabaseRows (k : String) :
    (purgeDatabaseRows s db).rowStore.readLatest k =
      if startsWith k (db ++ ".") then none else s.rowStore.readLatest k := by
  have hwr := s.writes_perform (purgeActions db s.rowStore)
  rw [rowWrites_purgeActions] at hwr
  have hread := hwr.readLatest_of_removals k
  simp only [mem_rowsWhere_iff s.stamped] at hread
  refine hread.trans ?_
  split_ifs with hk hund hund
  · rfl
  · exact absurd hk.1 hund
  · -- what is not visible need not be removed
    simpa [hund] using hk
  · rfl

theorem walEngine_purgeDatabaseRows :
    (purgeDatabaseRows s db).walEngine = dropDbColumnFamily s.walEngine db := by
  have hsta : (s.perform (purgeActions db s.rowStore)).walEngine = s.walEngine := by
    refine (walEngine_performAll _ _ _).trans ?_
    rw [purgeActions, foldl_map]
    exact foldl_fixed _
  exact congrArg (dropDbColumnFamily · db) hsta

theorem persistsRows_purgeDatabaseRows :
    persistsRows (purgeDatabaseRows s db).walEngine = persistsRows s.walEngine := by
  rw [walEngine_purgeDatabaseRows, persistsRows_dropDbColumnFamily]

theorem getRow_purgeDatabaseRows (db' k : String) :
    getRow (purgeDatabaseRows s db).walEngine db' k =
      if db' = db then none else getRow s.walEngine db' k := by
  rw [walEngine_purgeDatabaseRows, getRow_dropDbColumnFamily]

end

namespace Node

section

variable {E C : Type} [ListedEngine E] [IndexedCatalog C]

def recreate (d : Access.DatabaseName) (n : Node E C) : Node E C :=
  ((n.runDatabaseDdl (.dropDatabase d.text false)).1.runDatabaseDdl
    (.createDatabase d.text false)).1

variable {n : Node E C} {d : Access.DatabaseName}

theorem recreate_eq (hd : d ∈ n.databases) (hname : Access.DatabaseName.parse d.text = .ok d) :
    n.recreate d = { n.withServer (purgeDatabaseRows n.toServer d.text) with
      databases := insert d (n.databases.erase d)
      catalog := SchemaCatalog.purgeDatabase n.catalog d.text } := by
  have hdrop : Access.DatabaseCatalog.dropDatabase n.databases d.text false =
      .ok (n.databases.erase d, some d) := by
    rw [Access.DatabaseCatalog.dropDatabase, hname]
    exact if_pos hd
  have hcr : Access.DatabaseCatalog.create (n.databases.erase d) d.text =
      .ok (insert d (n.databases.erase d)) := by
    rw [Access.DatabaseCatalog.create, hname]
    exact if_neg (Finset.notMem_erase d _)
  simp only [recreate, runDatabaseDdl, hdrop, hcr]

structure Purged (d : Access.DatabaseName) (n n' : Node E C) : Prop where
  memory : ∀ k, n'.rowStore.readLatest k =
    if startsWith k (d.text ++ ".") then none else n.rowStore.readLatest k
  persistsRows : persistsRows n'.walEngine = persistsRows n.walEngine
  engine : ∀ db k, getRow n'.walEngine db k =
    if db = d.text then none else getRow n.walEngine db k
  constraints : n'.constraints = n.constraints
  indexes : SchemaCatalog.indexManager n'.catalog = SchemaCatalog.indexManager n.catalog

theorem purged_recreate (hd : d ∈ n.databases) (hname : Access.DatabaseName.parse d.text = .ok d) :
    Purged d n (n.recreate d) := by
  rw [recreate_eq hd hname]
  exact ⟨readLatest_purgeDatabaseRows n.toServer d.text,
    persistsRows_purgeDatabaseRows n.toServer d.text,
    getRow_purgeDatabaseRows n.toServer d.text, rfl,
    IndexedCatalog.indexManager_purgeDatabase n.catalog d.text⟩

end

section

variable {E C : Type} [ListedEngine E] [IndexedCatalog C] [F64] [QueryParser] [CheckPredicate]

def viewTable (n : Node E C) (view : String) : List (String × RowData) :=
  ((n.rowStore.scanAtSnapshot n.rowStore.currentXid).filter fun row =>
    startsWith row.1 (matviewPrefix view)).map fun row =>
      (view ++ ":" ++ String.ofList (row.1.toList.drop (matviewPrefix view).length), row.2)

structure Exact (engine : QueryEngine) (d : Access.DatabaseName) (n n' : Node E C) : Prop where
  selects : ∀ stmt limit, n'.Answers engine stmt limit d.text =
    {n'.answerOfNothing engine stmt limit d.text}
  views : ∀ view, n'.viewTable view = []
  values : ∀ c ∈ n'.constraints.constraints, ∀ column value violation,
    n'.constraints.violationOf column (some value) c = some violation → ¬violation.isDuplicate
  others : ∀ db, db ≠ d.text → ∀ stmt limit,
    n'.Answers engine stmt limit db = n.Answers engine stmt limit db

structure Clear (n : Node E C) : Prop where
  /-- Those that queries read. -/
  rows : ∀ k, (persistsRows n.walEngine → ∃ view, startsWith k (matviewPrefix view)) →
    n.rowStore.readLatest k = none
  values : ∀ c ∈ n.constraints.constraints, c.kind.isKey → n.constraints.seen c.name = ∅

variable {n n' : Node E C} {d : Access.DatabaseName}

omit [IndexedCatalog C] [F64] [QueryParser] [CheckPredicate] in
theorem viewTable_eq_nil_iff {view : String} :
    n.viewTable view = [] ↔
      ∀ k, startsWith k (matviewPrefix view) → n.rowStore.readLatest k = none := by
  rw [viewTable, map_eq_nil_iff, filter_eq_nil_iff]
  constructor
  · intro h k hk
    rw [Option.eq_none_iff_forall_ne_some]
    intro data hdata
    exact h (k, data) (PagedRowStore.mem_scanAtSnapshot_iff.mpr hdata) hk
  · rintro h ⟨k, data⟩ hmem hk
    have hread : n.rowStore.readLatest k = some data := PagedRowStore.mem_scanAtSnapshot_iff.mp hmem
    rw [h k hk] at hread
    cases hread

omit [IndexedCatalog C] [F64] [QueryParser] in
theorem forall_not_isDuplicate_iff (n : Node E C) :
    (∀ c ∈ n.constraints.constraints, ∀ column value violation,
      n.constraints.violationOf column (some value) c = some violation → ¬violation.isDuplicate) ↔
      ∀ c ∈ n.constraints.constraints, c.kind.isKey → n.constraints.seen c.name = ∅ := by
  refine forall₂_congr fun c hc => ?_
  constructor
  · intro h hkey
    rw [eq_empty_iff_forall_notMem]
    intro value hseen
    obtain ⟨violation, hvio, hdup⟩ := ConstraintManager.exists_isDuplicate_iff.mpr ⟨hkey, hseen⟩
    exact h c.column value violation hvio hdup
  · intro h column value violation hvio hdup
    obtain ⟨hkey, hseen⟩ := ConstraintManager.exists_isDuplicate_iff.mp ⟨violation, hvio, hdup⟩
    rw [h hkey] at hseen
    exact notMem_empty value hseen

omit [IndexedCatalog C] [F64] [QueryParser] [CheckPredicate] in
theorem not_startsWith_of_matviewPrefix {k view : String}
    (h : startsWith k (matviewPrefix view)) : ¬startsWith k (d.text ++ ".") := by
  intro hund
  refine DatabaseName.not_isUnder "__matview" (by decide)
    (Access.startsWith_of_matviewPrefix h) (?_ : isUnder d.text k)
  rw [isUnder, hund, Bool.or_true]

theorem Purged.exact_iff (h : Purged d n n') {eng : QueryEngine}
    (hbare : ∃ stmt, SelectsAll none stmt) : Exact eng d n n' ↔ n.Clear := by
  have hvals := forall_not_isDuplicate_iff n'
  rw [h.constraints] at hvals
  constructor
  · rintro ⟨hsel, hvw, hseen, hoths⟩
    rw [answers_eq_nothing_iff hbare, NoRows, h.persistsRows] at hsel
    have hsame := (answers_forall_eq_iff h.indexes h.persistsRows hbare).mp
      (hoths "" d.text_ne_empty.symm)
    rw [SameRows] at hsame
    rw [h.constraints] at hseen
    refine ⟨fun k hk => ?_, hvals.mp hseen⟩
    split_ifs at hsel hsame with hp
    · obtain ⟨view, hview⟩ := hk hp
      have hread := viewTable_eq_nil_iff.mp (hvw view) k hview
      rwa [h.memory, if_neg (not_startsWith_of_matviewPrefix hview)] at hread
    · -- the rows that are elsewhere are found now, and those of the database were found before
      exact (hsame k).symm.trans (hsel k)
  · rintro ⟨hrows, hseen⟩
    have hgone (hp : ¬DurabilityEngine.persistsRows n.walEngine) (k : String) :
        n'.rowStore.readLatest k = none := by
      rw [h.memory, hrows k fun hp' => absurd hp' hp, ite_self]
    refine ⟨?_, fun view => viewTable_eq_nil_iff.mpr fun k hk => ?_, ?_, fun db hdb => ?_⟩
    · rw [answers_eq_nothing_iff hbare, NoRows, h.persistsRows]
      split_ifs with hp
      · intro k
        rw [h.engine, if_pos rfl]
      · exact hgone hp
    · rw [h.memory, hrows k fun _ => ⟨view, hk⟩, ite_self]
    · rw [h.constraints]
      exact hvals.mpr hseen
    · rw [answers_forall_eq_iff h.indexes h.persistsRows hbare, SameRows]
      split_ifs with hp
      · intro k
        rw [h.engine, if_neg hdb]
      · intro k
        rw [hgone hp, hrows k fun hp' => absurd hp' hp]

end

end Node

namespace Sample

scoped instance : IndexedCatalog Unit where
  indexManager_purgeDatabase _ _ := rfl

end Sample

namespace Shop

open Daemon.Sample
open scoped Dml.Sample

scoped instance : QueryParser where
  parseOne sql :=
    if sql = "SELECT *" then .ok (some { columns := ["*"] }) else .error "no such statement"
  parsePredicate _ := .error "no condition"
  collectQueryTableNames _ := []

theorem selectsAll_select : SelectsAll none "SELECT *" := rfl

def shop : Access.DatabaseName := ⟨"shop", by decide +kernel⟩

theorem parse_shop : DatabaseName.parse shop.text = .ok shop :=
  Access.DatabaseName.parse_text (by decide +kernel)

def shopNode {E : Type} [DatabaseEngine E] (s : Server E) : Node E Unit :=
  { node s with databases := {shop} }

def insertOne : Request := ⟨"conn-6", "shop", ["INSERT INTO t (id) VALUES (1)"]⟩

def soldNode : Node InMemoryEngine Unit := shopNode (keyedServer.sqlExecute anyRow insertOne).1

def twoRows : List Action :=
  [.put "shop.t:1" row, .store "shop" "t:1" (some row), .put "t:1" row, .store "" "t:1" (some row)]

def keptNode : Node VersionedEngine Unit := shopNode (emptyVersionedServer.perform twoRows)

end Shop

namespace Node

open Daemon.Sample Shop
open scoped Dml.Sample

theorem soldNode_recreate :
    (keyedServer.sqlExecute anyRow insertOne).2 = .done ∧
      ((soldNode.recreate shop).toServer.sqlExecute anyRow insertOne).2 =
        .refused "constraint_violation: primary key 'pk_t_id' duplicate for value '1'" ∧
      ∃ c ∈ (soldNode.recreate shop).constraints.constraints, c.kind.isKey ∧
        "1" ∈ (soldNode.recreate shop).constraints.seen c.name := by
  decide +kernel

theorem clear_keptNode : keptNode.Clear where
  rows k hk := by
    obtain ⟨view, hview⟩ := hk rfl
    have hwr := emptyVersionedServer.writes_perform twoRows
    have hread := congrFun (hwr.readLatest_eq_overlay rfl) k
    have hkeys : k ∉ placed (rowWrites twoRows) := by
      intro hmem
      have hint := startsWith_of_matviewPrefix hview
      rcases mem_pair.mp hmem with rfl | rfl
      · exact absurd hint (by decide)
      · exact absurd hint (by decide)
    exact hread.trans (overlay_eq_none hkeys rfl)
  values c hc := by cases hc

end Node

end VngDatabase.Daemon
