import VngDatabase.Daemon.Answers
import VngDatabase.Daemon.Catalog
import VngDatabase.Daemon.Handlers
import VngDatabase.Dml.Redeclare
import VngDatabase.Words

/-!
# Dropping a table

What is left of a table that is dropped and created again
(`services/voltnuerongridd/src/handlers/sql.rs`, `Node.updateCatalog`).
-/

namespace VngDatabase.Daemon

open Text Sql Store Dml Query Overlay DurabilityEngine BootEngine ListedEngine List Option Access

def lowerStatement (stmt : String) : String := toAsciiLowercase (String.ofList (trim stmt.toList))

def parsedConstraints (parseCreateTableConstraints : String → List ParsedConstraint)
    (parseAlterAddConstraint : String → Option ParsedConstraint) (stmt : String) :
    List ParsedConstraint :=
  if startsWith (lowerStatement stmt) "create table" then parseCreateTableConstraints stmt
  else if startsWith (lowerStatement stmt) "alter table" && contains (lowerStatement stmt) " add "
    then (parseAlterAddConstraint stmt).toList
  else []

class ConstraintParser extends SqlRuntime where
  parseCreateTableConstraints : String → List ParsedConstraint
  parseAlterAddConstraint : String → Option ParsedConstraint
  declareConstraints_eq : ∀ stmt mgr, declareConstraints stmt mgr =
    mgr.declare (parsedConstraints parseCreateTableConstraints parseAlterAddConstraint stmt)

section

variable [ConstraintParser]

def declared (stmt : String) : List ParsedConstraint :=
  parsedConstraints ConstraintParser.parseCreateTableConstraints
    ConstraintParser.parseAlterAddConstraint stmt

variable [Unicode]

structure DropsTable (t stmt : String) : Prop where
  kind : classifyStatement stmt = .dropTable
  text : startsWith (lowerStatement stmt) "drop table"
  info : ∃ info, parseDdlInfo stmt = some info ∧ info.operation = .drop ∧
    info.objectKind = .table ∧ info.objectName = t
  noView : createWithData stmt = none

structure CreatesTable (t stmt : String) : Prop where
  kind : classifyStatement stmt = .createTable
  info : ∃ info, parseDdlInfo stmt = some info ∧ info.operation = .create ∧
    info.objectKind = .table ∧ info.objectName = t
  noView : createWithData stmt = none
  table_eq : ∀ pc ∈ declared stmt, pc.table = t

theorem DropsTable.declared_eq {t stmt : String} (h : DropsTable t stmt) : declared stmt = [] := by
  have hcr := not_startsWith_of_ne h.text "create table" (by decide)
  have halt := not_startsWith_of_ne h.text "alter table" (by decide)
  simp only [declared, parsedConstraints, hcr, halt, Bool.false_and, Bool.false_eq_true, if_false]

end

namespace Node

section

variable {E C : Type} [ListedEngine E] [SchemaCatalog C] [Unicode] [F64] [QueryParser]
  [ConstraintParser] {w : Circumstances} {db t stmt drop create : String} {n : Node E C}
  (w : Circumstances)

def recordTable (db stmt : String) (n : Node E C) : Node E C :=
  (n.updateCatalog w db [stmt]).1

theorem toServer_recordTable (db : String) (n : Node E C)
    (htch : touchesCatalog stmt) (hview : createWithData stmt = none) :
    (n.recordTable w db stmt).toServer =
      { n.toServer with constraints := n.constraints.declare (declared stmt) } := by
  have hany : [stmt].any touchesCatalog = true := by
    rw [any_cons, htch, Bool.true_or]
  have hpop (engine : QueryEngine) (indexes : IndexManager) (s : Server E) :
      [stmt].foldl (populate engine indexes db) s = s := by
    rw [foldl_cons, foldl_nil, populate, hview]
  rw [recordTable, updateCatalog, if_pos hany]
  dsimp only [withServer]
  rw [hpop, foldl_cons, foldl_nil, ConstraintParser.declareConstraints_eq, declared]

def recreateTable (db drop create : String) (n : Node E C) : Node E C :=
  (n.recordTable w db drop).recordTable w db create

theorem toServer_recreateTable (db : String) (n : Node E C)
    (hdrop : DropsTable t drop) (hcr : CreatesTable t create) :
    (n.recreateTable w db drop create).toServer =
      { n.toServer with constraints := n.constraints.declare (declared create) } := by
  have htch : touchesCatalog drop := by delta touchesCatalog; rw [hdrop.kind]
  have htch' : touchesCatalog create := by delta touchesCatalog; rw [hcr.kind]
  have hdro := toServer_recordTable w db n htch hdrop.noView
  rw [hdrop.declared_eq] at hdro
  rw [recreateTable, toServer_recordTable _ _ _ htch' hcr.noView, hdro]
  rfl

end

section

variable {E C : Type} [ListedEngine E] [SchemaCatalog C] [F64] [QueryParser]
  {db t select : String} {n : Node E C}

def TableEmpty (n : Node E C) (db t : String) : Prop :=
  if persistsRows n.walEngine then ∀ k, getRow n.walEngine db k = none
  else ∀ k data, n.rowStore.readLatest k = some data → ¬keyFilter (some t) k ∧
    (isUnder db k → ¬isShown { columns := ["*"], table := some t } (stripDatabase db k, data))

omit [F64] [QueryParser] [SchemaCatalog C] in
theorem tableEmpty_iff :
    n.TableEmpty db t ↔
      foundRows (some t) n.rowStore (n.rocksdbRows db n.rowStore.currentXid) = [] ∧
        (n.rowsIn db).filter (isShown { columns := ["*"], table := some t }) = [] := by
  rw [TableEmpty, rowsIn, rocksdbRows]
  split_ifs with hp
  · have hnil : scanRowsForDb n.walEngine db n.rowStore.currentXid = [] ↔
        ∀ k, getRow n.walEngine db k = none := by
      simp only [List.eq_nil_iff_forall_not_mem, Prod.forall,
        mem_scanRowsForDb_iff _ _ _ _ _ hp n.maxRowXid_le_currentXid,
        Option.eq_none_iff_forall_ne_some, ne_eq]
    rw [foundRows, Option.getD_some, databaseRows, hnil]
    constructor
    · intro h
      rw [hnil.mpr h]
      exact ⟨h, rfl⟩
    · exact fun h => h.1
  · simp only [foundRows, databaseRows, Option.getD_none, List.filter_eq_nil_iff, List.mem_map,
      List.mem_filter, Prod.forall, Prod.exists, Prod.mk.injEq,
      PagedRowStore.mem_scanAtSnapshot_iff]
    constructor
    · intro h
      refine ⟨fun k data hread => (h k data hread).1, ?_⟩
      rintro _ data ⟨k, _, ⟨hread, hund⟩, rfl, rfl⟩
      exact (h k _ hread).2 hund
    · rintro ⟨hfnd, hshn⟩ k data hread
      exact ⟨hfnd k data hread, fun hund =>
        hshn _ data ⟨k, data, ⟨hread, hund⟩, rfl, rfl⟩⟩

theorem answers_eq_nil_iff (n : Node E C) (db : String) (eng : QueryEngine)
    (h : SelectsAll (some t) select) :
    (∀ limit, ∀ answer ∈ n.Answers eng select limit db, answer = ([], [])) ↔
      n.TableEmpty db t := by
  rw [tableEmpty_iff]
  constructor
  · intro hall
    have hself := hall 1 _ ⟨_, _, n.handsOver_self db, rfl⟩
    rw [executeOltpSelect_of_selectsAll h, clientRows_of_selectsAll h, Prod.mk.injEq] at hself
    simpa [rowsIn] using hself
  · rintro ⟨hfnd, hshn⟩ limit _ ⟨rs, rows, hhan, rfl⟩
    have hfnd' := hhan.perm_foundRows (some t)
    have hshn' := hhan.perm_rowsIn.filter (isShown { columns := ["*"], table := some t })
    rw [hfnd, perm_nil] at hfnd'
    rw [hshn, perm_nil] at hshn'
    rw [executeOltpSelect_of_selectsAll h, clientRows_of_selectsAll h, hfnd', hshn']
    exact congrArg₂ Prod.mk (congrArg _ take_nil) take_nil

end

section

variable {E C : Type} [ListedEngine E] [SchemaCatalog C] [CheckPredicate] [ColumnOrder] [Unicode]
  [F64] [QueryParser] [ConstraintParser] {w : Circumstances} {db t drop create select : String}
  {n : Node E C}

/-- **The table leaves nothing behind** when it is created again. -/
structure NothingLeft (w : Circumstances) (db t drop select : String) (n : Node E C) : Prop where
  selects : ∀ create, CreatesTable t create → ∀ limit,
    ∀ answer ∈ (n.recreateTable w db drop create).Answers w.queryEngine select limit db,
      answer = ([], [])
  inserts : ∀ create, CreatesTable t create → ∀ rows : List InsertRow,
    (∀ row ∈ rows, IsRowOf t row.data) →
      Accepts (SchemaCatalog.validateRowAgainstDdl (n.recreateTable w db drop create).catalog)
        ((n.constraints.withoutTable t).declare (declared create)) rows →
      Accepts (SchemaCatalog.validateRowAgainstDdl (n.recreateTable w db drop create).catalog)
        (n.recreateTable w db drop create).constraints rows

structure NothingToLeave (n : Node E C) (db t : String) : Prop where
  rows : n.TableEmpty db t
  constraints : AllIdle n.constraints t fun pc => ∃ create, CreatesTable t create ∧
    pc ∈ declared create

omit [CheckPredicate] [ColumnOrder] in
theorem tableEmpty_recreateTable (hdrop : DropsTable t drop) (hcr : CreatesTable t create) :
    (n.recreateTable w db drop create).TableEmpty db t ↔ n.TableEmpty db t := by
  have hser := toServer_recreateTable w db n hdrop hcr
  rw [TableEmpty, TableEmpty, congrArg Server.rowStore hser, congrArg Server.walEngine hser]

end

end Node

namespace Keyed

open Daemon.Sample
open scoped Dml.Sample

def createTable : String := "CREATE TABLE t (id TEXT PRIMARY KEY)"

def primaryKey : ParsedConstraint where
  name := "t_id_pk"
  table := "t"
  column := "id"
  kind := .primaryKey
  refTable := none
  refColumn := none

def readConstraints (stmt : String) : List ParsedConstraint :=
  if stmt = createTable then [primaryKey] else []

scoped instance : ConstraintParser where
  udfError _ := none
  plannerPath _ _ := some .oltp
  declareConstraints stmt mgr :=
    mgr.declare (parsedConstraints readConstraints (fun _ => none) stmt)
  parseCreateTableConstraints := readConstraints
  parseAlterAddConstraint _ := none
  declareConstraints_eq _ _ := rfl

theorem selectsAll : SelectsAll (some "t") "SELECT * FROM t" := rfl

theorem dropsTable : DropsTable "t" "DROP TABLE t" where
  kind := by decide +kernel
  text := by decide +kernel
  info := ⟨(parseDdlInfo "DROP TABLE t").get (by decide +kernel), by decide +kernel,
    by decide +kernel⟩
  noView := by decide +kernel

theorem mem_declared {stmt : String} {pc : ParsedConstraint} (h : pc ∈ declared stmt) :
    stmt = createTable ∧ pc = primaryKey := by
  rw [declared, parsedConstraints] at h
  split_ifs at h with hcr halt
  · have hread : pc ∈ readConstraints stmt := h
    rw [readConstraints] at hread
    split_ifs at hread with hstmt
    · exact ⟨hstmt, mem_singleton.mp hread⟩
    · cases hread
  · cases h
  · cases h

def createWithoutKey : String := "CREATE TABLE t (id TEXT)"

theorem createsTable_of_mem {stmt : String} (h : stmt ∈ [createTable, createWithoutKey]) :
    CreatesTable "t" stmt := by
  have hall : ∀ stmt ∈ [createTable, createWithoutKey], classifyStatement stmt = .createTable ∧
      ((parseDdlInfo stmt).any fun info => info.operation = .create ∧ info.objectKind = .table ∧
        info.objectName = "t") ∧ createWithData stmt = none := by
    decide +kernel
  obtain ⟨hkind, hinfo, hview⟩ := hall stmt h
  obtain ⟨info, hprs, hinfo⟩ := (Option.any_eq_true _ _).mp hinfo
  refine ⟨hkind, ⟨info, hprs, of_decide_eq_true hinfo⟩, hview, fun pc hpc => ?_⟩
  rw [(mem_declared hpc).2, primaryKey]

theorem createsTable : CreatesTable "t" createTable := createsTable_of_mem (by simp)

theorem creations {val : String → String → RowData → Except String Unit}
    (h : ∀ create data, val create "t" data = .ok ()) :
    Creations "t" (CreatesTable "t") declared val where
  table_eq _ hcr := hcr.table_eq
  none := ⟨createWithoutKey, createsTable_of_mem (by simp), by decide +kernel, h _⟩
  one _ _ pc hpc := by
    obtain ⟨-, rfl⟩ := mem_declared hpc
    exact ⟨createTable, createsTable, by decide +kernel, h _⟩

def created : Node InMemoryEngine Unit :=
  (node noRows).recordTable calm "" createTable

def insertOne : Request := ⟨"conn-6", "", ["INSERT INTO t (id) VALUES (1)"]⟩

def inserted : Node InMemoryEngine Unit :=
  created.withServer (created.toServer.sqlExecute anyRow insertOne).1

def elsewhere : Node InMemoryEngine Unit := node (noRows.perform [.put "u:1" (namedRow "u")])

end Keyed

namespace Node

open Daemon.Sample Keyed
open scoped Dml.Sample

theorem inserted_recreateTable :
    (Keyed.created.toServer.sqlExecute anyRow Keyed.insertOne).2 = .done ∧
      (Keyed.inserted.rowStore.readLatest "t:1").isSome ∧
      ((Keyed.inserted.recreateTable calm "" "DROP TABLE t" createTable).toServer.sqlExecute anyRow
        Keyed.insertOne).2 =
        .refused "constraint_violation: primary key 't_id_pk' duplicate for value '1'" := by
  decide +kernel

theorem nothingToLeave_elsewhere : elsewhere.NothingToLeave "" "t" where
  rows k data hread := by
    have hwr := noRows.writes_perform [.put "u:1" (namedRow "u")]
    have hlat := (congrFun (hwr.readLatest_eq_overlay rfl) k).symm.trans hread
    by_cases hk : k = "u:1"
    · subst hk
      have hdata : namedRow "u" = data := some.inj hlat
      subst hdata
      decide +kernel
    · rw [show rowWrites [.put "u:1" (namedRow "u")] = [("u:1", some (namedRow "u"))] from rfl,
        overlay_singleton, Function.update_of_ne hk] at hlat
      cases hlat
  constraints :=
    { idle := fun c hc => nomatch hc
      keys := fun _ _ _ _ _ f hf => nomatch hf
      references := fun _ _ _ _ _ k hk => nomatch hk }

end Node

end VngDatabase.Daemon
