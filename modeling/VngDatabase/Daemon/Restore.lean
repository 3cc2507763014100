import VngDatabase.Daemon.Backup

/-!
# Back to a full backup

A full backup is taken, the node goes on with its work, and then the backup is restored. What is
brought back are the rows in memory and the statements of the objects.
-/

namespace VngDatabase.Daemon

open Text Sql Store Dml Query Overlay ObjectCatalog ArchiveFormat List Option Function
open Access (AuthError AuthState HeaderMap SessionSigner)

def recordedAs (ddl : String) : Option (String × Option (ObjectKind × String)) :=
  (parseDdlInfo ddl).map fun info => (info.key, some (info.objectKind, ddl))

namespace BackupNode

theorem active_restoredCatalog (catalogDdl : List String) (cat : DdlCatalog) :
    (restoredCatalog catalogDdl cat).active =
      overlay (catalogDdl.filterMap recordedAs) cat.active := by
  induction catalogDdl generalizing cat with
  | nil => rfl
  | cons ddl catalogDdl ih =>
    rw [restoredCatalog, foldl_cons, ← restoredCatalog, ih, filterMap_cons, recordedAs]
    cases parseDdlInfo ddl with
    | none => rfl
    | some info =>
      simp only [map_some]
      rw [← singleton_append, overlay_append, overlay_singleton]
      congr 1
      funext key
      rw [DdlCatalog.active_recordCreate_replace, update_apply]
      rfl

def Recordable (key : String) (e : DdlCatalogEntry) : Prop :=
  e.dropped = false ∧ ∃ info, parseDdlInfo e.originalStatement = some info ∧ info.key = key ∧
    info.objectKind = e.objectKind

theorem Recordable.recordedAs {key : String} {e : DdlCatalogEntry} (h : Recordable key e) :
    recordedAs e.originalStatement = some (key, some (e.objectKind, e.originalStatement)) := by
  obtain ⟨-, info, hinfo, rfl, hkind⟩ := h
  rw [Daemon.recordedAs, hinfo, map_some, hkind]

theorem active_restoredCatalog_allEntries {cat cat' : DdlCatalog}
    (hents : ∀ key e, cat.entries.lookup key = some e → Recordable key e)
    (hoths : ∀ key, cat.active key = none → cat'.active key = none) :
    (restoredCatalog (cat.allEntries.map (·.originalStatement)) cat').active = cat.active := by
  have hwr : (cat.allEntries.map (·.originalStatement)).filterMap recordedAs =
      cat.entries.entries.map fun e => (e.1, some (e.2.objectKind, e.2.originalStatement)) := by
    rw [DdlCatalog.allEntries, List.map_map, List.filterMap_map, ← List.filterMap_eq_map]
    refine filterMap_congr fun e he => ?_
    have hent : cat.entries.lookup e.1 = some e.2 := AList.mem_lookup_iff.mpr he
    rw [comp_apply, comp_apply, (hents e.1 e.2 hent).recordedAs]
    rfl
  have hkeys : ((cat.entries.entries.map fun e =>
      (e.1, some (e.2.objectKind, e.2.originalStatement))).map Prod.fst).Nodup := by
    rw [List.map_map]
    exact cat.entries.nodupKeys
  rw [active_restoredCatalog, hwr]
  funext key
  cases hlk : cat.entries.lookup key with
  | some e =>
    rw [overlay_of_lastWrite ((lastWrite_eq_some_iff hkeys).mpr
      (mem_map_of_mem (AList.mem_lookup_iff.mp hlk))), DdlCatalog.active, hlk,
      bind_some, (hents key e hlk).1]
    rfl
  | none =>
    have hact : cat.active key = none := by rw [DdlCatalog.active, hlk, bind_none]
    have hnone : lastWrite (cat.entries.entries.map fun e =>
        (e.1, some (e.2.objectKind, e.2.originalStatement))) key = none := by
      refine lastWrite_eq_none fun w hw hkey => ?_
      obtain ⟨e, he, rfl⟩ := mem_map.mp hw
      obtain rfl : e.1 = key := hkey
      rw [AList.mem_lookup_iff.mpr he] at hlk
      cases hlk
    rw [overlay, hnone, getD_none, hoths key hact, hact]

end BackupNode

section

variable {E C : Type} [DatabaseEngine E] [ObjectCatalog C] [F64] [QueryParser] [SqlRuntime]

def Node.latestAnswer (w : Circumstances) (req : ExecuteRequest) (n : Node E C) :
    List ResultRow × List (String × RowData) :=
  (if n.PlansRows (n.queriesOf req) then n.latestRows w req else [],
    n.shownRows req (databaseHeader req.headers) (n.queriesOf req))

theorem Node.latestAnswer_congr {n n' : Node E C}
    (hact : (ddlCatalog n'.catalog).active = (ddlCatalog n.catalog).active)
    (hidxs : SchemaCatalog.indexManager n'.catalog = SchemaCatalog.indexManager n.catalog)
    (hscan : n'.rowStore.scanAtSnapshot n'.rowStore.currentXid =
      n.rowStore.scanAtSnapshot n.rowStore.currentXid)
    (heng : ∀ db, n'.rocksdbRows db n'.rowStore.currentXid = n.rocksdbRows db n.rowStore.currentXid)
    (w : Circumstances) (req : ExecuteRequest) : n'.latestAnswer w req = n.latestAnswer w req := by
  have hque : n'.queriesOf req = n.queriesOf req := by
    rw [queriesOf, queriesOf, expandSelect_congr _ _ hact]
  have hpla : n'.PlansRows (n.queriesOf req) = n.PlansRows (n.queriesOf req) := by
    rw [PlansRows, PlansRows, hidxs]
  have hfnd : n'.latestRows w req = n.latestRows w req := by
    rw [latestRows, latestRows, hque, hidxs, heng, executeOltpSelect_congr_of_scan hscan]
  have hshn : n'.shownRows req (databaseHeader req.headers) (n.queriesOf req) =
      n.shownRows req (databaseHeader req.headers) (n.queriesOf req) := by
    rw [shownRows, shownRows, heng]
    congr 1
    cases n.rocksdbRows (databaseHeader req.headers) n.rowStore.currentXid with
    | some rows => rfl
    | none => rw [databaseRows, databaseRows, getD_none, getD_none, hscan]
  rw [latestAnswer, latestAnswer, hque, hfnd, hshn]
  simp only [hpla]

end

namespace BackupNode

section

variable {E C B : Type} [BootEngine E] [ObjectCatalog C] [ArchiveFormat B]

omit [ObjectCatalog C] in
theorem archives_writeArchiveAndManifest (n : BackupNode E C B) (ar : BackupArchive) :
    (n.writeArchiveAndManifest ar).1.archives ar.manifest.backupId =
      some (toJson ar) := update_self _ _ _

omit [ObjectCatalog C] in
theorem archives_writeArchiveAndManifest_of_ne (n : BackupNode E C B) {ar : BackupArchive}
    {backupId : String} (h : backupId ≠ ar.manifest.backupId) :
    (n.writeArchiveAndManifest ar).1.archives backupId = n.archives backupId :=
  update_of_ne h _ _

theorem backupFull_eq {n : BackupNode E C B} {hs : HeaderMap}
    (hadm : requireAdminApiKey n.auth hs = .ok ()) (now : ℕ) :
    (n.backupFull now hs).1 = (n.writeArchiveAndManifest (n.fullArchive now)).1 := by
  simp only [backupFull, hadm]

theorem restoreFromBackup_of_written {n : BackupNode E C B} {hs : HeaderMap}
    {ar : BackupArchive} (hadm : requireAdminApiKey n.auth hs = .ok ())
    (hfile : n.archives ar.manifest.backupId = some (toJson ar))
    (hche : ar.manifest.checksumSha256 = "") :
    ∃ read, fromJson (toJson ar : B) = some read ∧
      read.Same ar ∧
      (n.restoreFromBackup hs ⟨ar.manifest.backupId, none⟩).1 = n.apply read none := by
  obtain ⟨read, hread, hsame⟩ := fromJson_toJson (B := B) ar
  refine ⟨read, hread, hsame, ?_⟩
  have hemp : ¬(read.manifest.checksumSha256 ≠ "" ∧ sha256Hex (toJson ar : B) ≠
        read.manifest.checksumSha256) := by
    rw [hsame.manifest, hche]
    exact fun h => h.1 rfl
  simp only [restoreFromBackup, hadm, hfile, hread, if_neg hemp]

end

section

variable {E C B : Type} [DatabaseEngine E] [ObjectCatalog C] [CheckPredicate] [ColumnOrder]
  [Unicode] [F64] [QueryParser] [SqlRuntime] [SessionSigner]

def handle (n : BackupNode E C B) (r : Circumstances × SqlRequest) : BackupNode E C B :=
  { n with toNode := n.toNode.handle r }

def Reaches : BackupNode E C B → BackupNode E C B → Prop :=
  Transition.ReachableIf (fun n r => some (n.handle r)) fun _ _ => True

theorem Reaches.same_files {n m : BackupNode E C B} (h : n.Reaches m) :
    m.archives = n.archives ∧ m.manifests = n.manifests ∧ m.auth = n.auth := by
  refine Transition.ReachableIf.invariant
    (P := fun m => m.archives = n.archives ∧ m.manifests = n.manifests ∧ m.auth = n.auth) h
    ⟨rfl, rfl, rfl⟩ ?_
  rintro s t r ⟨harc, hman, hauth⟩ - hstep
  rw [← some.inj hstep]
  exact ⟨harc, hman, (s.toNode.auth_handle r).trans hauth⟩

variable [ArchiveFormat B]

/-- **Nothing is in the way of a backup** when it is restored. -/
structure Restorable (n₀ m : BackupNode E C B) (nowMs : ℕ) : Prop where
  uncapped : m.rowStore.maxRowsCap = 0
  ordered : ∀ read, fromJson (toJson (n₀.fullArchive nowMs) : B) =
    some read → read.rows = n₀.visibleRows
  recordable : ∀ key e, (ddlCatalog n₀.catalog).entries.lookup key = some e →
    Recordable key e
  nothingNew : ∀ key, (ddlCatalog n₀.catalog).active key = none →
    (ddlCatalog m.catalog).active key = none
  indexes : SchemaCatalog.indexManager m.catalog = SchemaCatalog.indexManager n₀.catalog
  engine : ∀ db, m.rocksdbRows db m.rowStore.nextXid = n₀.rocksdbRows db n₀.rowStore.currentXid

/-- **The rows, the objects and the answers are as before.** -/
structure AsBefore (n₀ n : BackupNode E C B) : Prop where
  rows : n.rowStore.readLatest = n₀.rowStore.readLatest
  objects : (ddlCatalog n.catalog).active =
    (ddlCatalog n₀.catalog).active
  answers : ∀ w req, n.toNode.latestAnswer w req = n₀.toNode.latestAnswer w req

/-- **A full backup and its restore are inverse** if nothing is in the way. -/
theorem backup_restore_inverse {n₀ m : BackupNode E C B} {nowMs : ℕ} {headers : HeaderMap}
    (hadmin : requireAdminApiKey n₀.auth headers = .ok ())
    (hrun : (n₀.backupFull nowMs headers).1.Reaches m) (h : n₀.Restorable m nowMs) :
    n₀.AsBefore (m.restoreFromBackup headers
      ⟨(n₀.fullArchive nowMs).manifest.backupId, none⟩).1 := by
  obtain ⟨harc, -, hauth⟩ := hrun.same_files
  rw [backupFull_eq hadmin] at harc hauth
  have hfile : m.archives (n₀.fullArchive nowMs).manifest.backupId =
      some (toJson (n₀.fullArchive nowMs)) := by
    rw [harc]
    exact archives_writeArchiveAndManifest _ _
  obtain ⟨read, hread, hsame, hrst⟩ := restoreFromBackup_of_written (hauth.symm ▸ hadmin) hfile rfl
  rw [hrst]
  have hscan : (m.apply read none).rowStore.scanAtSnapshot (m.apply read none).rowStore.currentXid =
      n₀.rowStore.scanAtSnapshot n₀.rowStore.currentXid := by
    refine (PagedRowStore.scanAtSnapshot_replaceAll h.uncapped read.rows.nodup).trans ?_
    rw [h.ordered read hread]
    rfl
  have hact : (ddlCatalog (m.apply read none).catalog).active =
      (ddlCatalog n₀.catalog).active := by
    rw [apply, ddlCatalog_withDdlCatalog, hsame.catalogDdl]
    exact active_restoredCatalog_allEntries h.recordable h.nothingNew
  have hidxs : SchemaCatalog.indexManager (m.apply read none).catalog =
      SchemaCatalog.indexManager n₀.catalog :=
    (indexManager_withDdlCatalog _ _).trans h.indexes
  refine ⟨PagedRowStore.readLatest_congr hscan, hact, fun w req => ?_⟩
  refine Node.latestAnswer_congr hact hidxs hscan (fun db => ?_) w req
  have hxid : (m.apply read none).rowStore.currentXid = m.rowStore.nextXid :=
    congrArg (· - 1) (PagedRowStore.nextXid_replaceAll _ _)
  rw [hxid, ← h.engine db]
  rfl

end

section

open Daemon.Sample
open scoped Dml.Sample

variable {E : Type} [DatabaseEngine E]

def executed (sqlBatch : String) : Circumstances × SqlRequest :=
  (calm, .execute { headers := headers none, sqlBatch := sqlBatch })

def created : Circumstances × SqlRequest := executed "CREATE TABLE u (id INT)"

def dropped : Circumstances × SqlRequest := executed "DROP TABLE u"

def insertedRow : Circumstances × SqlRequest := executed "INSERT INTO t (id) VALUES (1)"

noncomputable def backedUp (n : BackupNode E DdlCatalog BackupArchive) :
    BackupNode E DdlCatalog BackupArchive := (n.backupFull 0 adminHeaders).1

noncomputable def restored (n : BackupNode E DdlCatalog BackupArchive) :
    BackupNode E DdlCatalog BackupArchive :=
  (n.restoreFromBackup adminHeaders ⟨"backup-0", none⟩).1

def found (n : BackupNode E DdlCatalog BackupArchive) : List ResultRow :=
  (n.toNode.latestAnswer calm { headers := headers none, sqlBatch := "SELECT * FROM t" }).1

/-- **A restore does not go back**: what is later stays. -/
theorem restore_leaves_and_revives :
    (DdlCatalog.active (backupNode noRows).catalog "default.public.u" = none ∧
      DdlCatalog.active (restored ((backedUp (backupNode noRows)).handle created)).catalog
        "default.public.u" = some (.table, "CREATE TABLE u (id INT)")) ∧
    (DdlCatalog.active (((backupNode noRows).handle created).handle dropped).catalog
        "default.public.u" = none ∧
      DdlCatalog.active (restored (backedUp
        (((backupNode noRows).handle created).handle dropped))).catalog
          "default.public.u" = some (.table, "CREATE TABLE u (id INT)")) ∧
    found (backupNode Node.keptRows) = [] ∧
    found (restored ((backedUp (backupNode Node.keptRows)).handle insertedRow)) =
      [⟨"t:1", row⟩] := by
  decide +kernel

def tableEntry : DdlCatalogEntry :=
  ⟨"u", "default", "public", .table, "CREATE TABLE u (id INT)", false⟩

def tableNode : BackupNode InMemoryEngine DdlCatalog BackupArchive :=
  (backupNode oneRow).handle created

theorem restorable_of_entries {n₀ m : BackupNode InMemoryEngine DdlCatalog BackupArchive}
    (h : n₀.catalog.entries.entries = [⟨"default.public.u", tableEntry⟩] ∧
      m.catalog.entries.entries = [⟨"default.public.u", tableEntry⟩] ∧
      m.rowStore.maxRowsCap = 0 ∧
      parseDdlInfo tableEntry.originalStatement =
        some ⟨.create, .table, "u", "default", "public", false⟩ ∧
      qualifiedKey "default" "public" "u" = "default.public.u") : n₀.Restorable m 0 := by
  obtain ⟨hbef, haft, hcap, hprs, hkey⟩ := h
  have hcat : m.catalog = n₀.catalog := congrArg DdlCatalog.mk (AList.ext (haft.trans hbef.symm))
  refine ⟨hcap, ?_, ?_, ?_, rfl, fun _ => rfl⟩
  · rintro read hread
    rw [← some.inj hread]
    rfl
  · rintro key e he
    have hmem := AList.mem_lookup_iff.mp he
    rw [show (ddlCatalog n₀.catalog).entries.entries = _ from hbef, mem_singleton] at hmem
    cases hmem
    exact ⟨rfl, _, hprs, hkey, rfl⟩
  · rw [hcat]
    exact fun _ h => h

theorem row_insert_undone :
    tableNode.AsBefore (((backedUp tableNode).handle insertedRow).restoreFromBackup adminHeaders
      ⟨(tableNode.fullArchive 0).manifest.backupId, none⟩).1 := by
  have hadm : requireAdminApiKey tableNode.auth adminHeaders = .ok () := by
    rw [tableNode, handle, Node.auth_handle]
    exact requireAdminApiKey_sample _
  have hrun : (tableNode.backupFull 0 adminHeaders).1.Reaches
      ((backedUp tableNode).handle insertedRow) := by
    rw [backedUp]
    exact .single ⟨insertedRow, trivial, rfl⟩
  exact backup_restore_inverse hadm hrun (restorable_of_entries (by decide +kernel))

end

end BackupNode

end VngDatabase.Daemon
