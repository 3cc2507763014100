import VngDatabase.Daemon.Catalog
import VngDatabase.Daemon.Snapshots
import VngDatabase.Store.Replace

/-!
# Backups

The handlers of `services/voltnuerongridd/src/handlers/backup.rs`.
-/

namespace VngDatabase.Daemon

open Text Store Dml Query List
open Access (AuthError AuthState HeaderMap)

/-! ### Archives -/

structure BackupManifest where
  backupId : String
  backupType : String
  createdAtUnixMs : ℕ
  tableCount : ℕ
  rowCount : ℕ
  catalogEntryCount : ℕ
  dataFile : String
  checksumSha256 : String
  snapshotXid : Xid
  baseBackupId : Option String

structure ArchiveRows where
  rows : List (String × RowData)
  nodup : (rows.map Prod.fst).Nodup

structure BackupArchive where
  manifest : BackupManifest
  rows : ArchiveRows
  catalogDdl : List String
  indexEntries : List (String × String × String)
  baseXid : Option Xid

structure BackupArchive.Same (a a' : BackupArchive) : Prop where
  manifest : a.manifest = a'.manifest
  rows : a.rows.rows.Perm a'.rows.rows
  catalogDdl : a.catalogDdl = a'.catalogDdl
  indexEntries : a.indexEntries = a'.indexEntries
  baseXid : a.baseXid = a'.baseXid

/-- **How archives are written**; no two files share a digest. -/
class ArchiveFormat (B : Type) where
  toJson : BackupArchive → B
  fromJson : B → Option BackupArchive
  sha256Hex : B → String
  fromJson_toJson : ∀ archive, ∃ read, fromJson (toJson archive) = some read ∧ read.Same archive
  sha256Hex_injective : Function.Injective sha256Hex

def tableCount (rows : List (String × RowData)) : ℕ :=
  (rows.filterMap fun row => (splitAtText [':'] row.1.toList).map Prod.fst).dedup.length

/-! ### The handlers -/

structure BackupNode (E C B : Type) [BootEngine E] extends Node E C where
  archives : (backupId : String) → Option B
  manifests : (backupId : String) → Option BackupManifest

def requireAdminApiKey (auth : AuthState) (headers : HeaderMap) : Except AuthError Unit :=
  match auth.adminApiKey with
  | none => .error (.unauthorized "missing_or_invalid_admin_key")
  | some requiredKey =>
    if (headers.text "x-vng-admin-key").getD "" ≠ requiredKey then
      .error (.unauthorized "missing_or_invalid_admin_key")
    else .ok ()

structure RestoreRequest where
  backupId : String
  targetXid : Option Xid := none

inductive RestoreAnswer
  | denied (e : AuthError)
  | backupNotFound
  | backupParseFailed
  | backupChecksumMismatch
  | ok (rowsRestored catalogEntriesRestored rowsSkippedByPitr : ℕ)

structure BackupVerifyResponse where
  checksumValid : Bool
  rowsInBackup : ℕ
  tablesVerified : ℕ
  details : String

inductive VerifyAnswer
  | denied (e : AuthError)
  | backupNotFound
  | backupParseFailed
  | ok (response : BackupVerifyResponse)

namespace BackupNode

variable {E C B : Type} [BootEngine E] [ObjectCatalog C] (n : BackupNode E C B) (nowMs : ℕ)

def visibleRows : ArchiveRows :=
  ⟨n.rowStore.scanAtSnapshot n.rowStore.currentXid, n.rowStore.nodup_scanAtSnapshot _⟩

def catalogDdl : List String :=
  (ObjectCatalog.ddlCatalog n.catalog).allEntries.map (·.originalStatement)

def manifestOf (backupId backupType : String) (nowMs : ℕ) (rows : ArchiveRows)
    (catalogDdl : List String) (snapshotXid : Xid) (baseBackupId : Option String) :
    BackupManifest where
  backupId := backupId
  backupType := backupType
  createdAtUnixMs := nowMs
  tableCount := tableCount rows.rows
  rowCount := rows.rows.length
  catalogEntryCount := catalogDdl.length
  dataFile := backupId ++ ".archive.json"
  checksumSha256 := ""
  snapshotXid := snapshotXid
  baseBackupId := baseBackupId

def fullArchive : BackupArchive where
  manifest := manifestOf ("backup-" ++ toString (nowMs / 1000)) "full" nowMs n.visibleRows
    n.catalogDdl n.rowStore.currentXid none
  rows := n.visibleRows
  catalogDdl := n.catalogDdl
  indexEntries := (SchemaCatalog.indexManager n.catalog).indexes.map fun index =>
    (index.table, index.name, index.column)
  baseXid := none

def rowsChangedAfter (baseXid : Xid) : ArchiveRows :=
  ⟨n.visibleRows.rows.filter fun row => n.rowStore.wasModifiedAfter row.1 baseXid,
    n.visibleRows.nodup.sublist (List.filter_sublist.map _)⟩

def incrementalArchive (baseBackupId : String) (baseXid : Xid) : BackupArchive where
  manifest := manifestOf ("incr-" ++ toString (nowMs / 1000)) "incremental" nowMs
    (n.rowsChangedAfter baseXid) n.catalogDdl n.rowStore.currentXid (some baseBackupId)
  rows := n.rowsChangedAfter baseXid
  catalogDdl := n.catalogDdl
  indexEntries := []
  baseXid := some baseXid

variable [ArchiveFormat B] (archive : BackupArchive)

def writeArchiveAndManifest : BackupNode E C B × BackupManifest :=
  let json : B := ArchiveFormat.toJson archive
  let manifest := { archive.manifest with checksumSha256 := ArchiveFormat.sha256Hex json }
  ({ n with
      archives := Function.update n.archives manifest.backupId (some json)
      manifests := Function.update n.manifests manifest.backupId (some manifest) }, manifest)

def backupFull (headers : HeaderMap) :
    BackupNode E C B × Except AuthError BackupManifest :=
  match requireAdminApiKey n.auth headers with
  | .error e => (n, .error e)
  | .ok () =>
    let (n, manifest) := n.writeArchiveAndManifest (n.fullArchive nowMs)
    (n, .ok manifest)

def backupIncremental (headers : HeaderMap)
    (baseBackupId : String) : BackupNode E C B × Except AuthError (Option BackupManifest) :=
  match requireAdminApiKey n.auth headers with
  | .error e => (n, .error e)
  | .ok () =>
    match n.manifests baseBackupId with
    | none => (n, .ok none)
    | some base =>
      let (n, manifest) :=
        n.writeArchiveAndManifest (n.incrementalArchive nowMs baseBackupId base.snapshotXid)
      (n, .ok (some manifest))

def restoredRows (targetXid : Option Xid) : List (String × RowData) :=
  match targetXid with
  | some targetXid => archive.rows.rows.filter fun _ => archive.baseXid.getD 0 ≤ targetXid
  | none => archive.rows.rows

def restoredCatalog (catalogDdl : List String) (cat : DdlCatalog) : DdlCatalog :=
  catalogDdl.foldl (fun cat ddl =>
    match parseDdlInfo ddl with
    | some info => (cat.recordCreate info.objectKind info.databaseName info.schemaName
        info.objectName ddl true).1
    | none => cat) cat

def replaceRows (s : Server E) (rows : List (String × RowData)) : Server E :=
  { s with
    rowStore := s.rowStore.replaceAll rows
    stamped := s.rowStore.stamped_replaceAll rows
    durable := by
      rw [PagedRowStore.nextXid_replaceAll]
      exact s.durable.trans (Nat.lt_succ_self _) }

def apply (targetXid : Option Xid) : BackupNode E C B :=
  { n with
    toServer := replaceRows n.toServer (restoredRows archive targetXid)
    catalog := ObjectCatalog.withDdlCatalog n.catalog
      (restoredCatalog archive.catalogDdl (ObjectCatalog.ddlCatalog n.catalog)) }

/-- A digest that is empty is not compared. -/
def restoreFromBackup (headers : HeaderMap) (req : RestoreRequest) :
    BackupNode E C B × RestoreAnswer :=
  match requireAdminApiKey n.auth headers with
  | .error e => (n, .denied e)
  | .ok () =>
    match n.archives req.backupId with
    | none => (n, .backupNotFound)
    | some file =>
      match ArchiveFormat.fromJson file with
      | none => (n, .backupParseFailed)
      | some archive =>
        if archive.manifest.checksumSha256 ≠ "" ∧
            ArchiveFormat.sha256Hex file ≠ archive.manifest.checksumSha256 then
          (n, .backupChecksumMismatch)
        else (n.apply archive req.targetXid,
          .ok (restoredRows archive req.targetXid).length archive.catalogDdl.length 0)

def backupVerify (headers : HeaderMap) (backupId : String) : VerifyAnswer :=
  match requireAdminApiKey n.auth headers with
  | .error e => .denied e
  | .ok () =>
    match n.archives backupId with
    | none => .backupNotFound
    | some file =>
      match ArchiveFormat.fromJson file with
      | none => .backupParseFailed
      | some archive =>
        let stored := archive.manifest.checksumSha256
        let checksumValid := stored = "" || ArchiveFormat.sha256Hex file = stored
        let rows := archive.rows.rows
        .ok
          { checksumValid := checksumValid
            rowsInBackup := rows.length
            tablesVerified := tableCount rows
            details :=
              if checksumValid then
                "Backup '" ++ backupId ++ "' verified OK: " ++ toString rows.length ++
                  " rows across " ++ toString (tableCount rows) ++ " tables; checksum " ++
                  (if stored = "" then "skipped (legacy)" else "valid")
              else
                "Backup '" ++ backupId ++ "' FAILED checksum: expected=" ++ stored ++
                  " computed=" ++ ArchiveFormat.sha256Hex file }

def overwrite (backupId : String) (file : B) : BackupNode E C B :=
  { n with archives := Function.update n.archives backupId (some file) }

omit [ArchiveFormat B] [ObjectCatalog C] in
theorem archives_overwrite (bid : String) (file : B) :
    (n.overwrite bid file).archives bid = some file :=
  Function.update_self _ _ _

structure Detects (n : BackupNode E C B) (headers : HeaderMap) (req : RestoreRequest) : Prop where
  refused : ∀ rows entries skipped,
    (n.restoreFromBackup headers req).2 ≠ .ok rows entries skipped
  unchanged : (n.restoreFromBackup headers req).1 = n
  reported : ∃ response, n.backupVerify headers req.backupId = .ok response ∧
    response.checksumValid = false

/-- **A changed archive is found out** iff its digest is neither empty nor its own. -/
theorem corruption_detected_iff (archive : BackupArchive) (file : B) {changed : BackupArchive}
    (hfile : ArchiveFormat.fromJson file = some changed) {headers : HeaderMap}
    (hadmin : requireAdminApiKey n.auth headers = .ok ()) (targetXid : Option Xid) :
    ((n.writeArchiveAndManifest archive).1.overwrite archive.manifest.backupId file).Detects
        headers ⟨archive.manifest.backupId, targetXid⟩ ↔
      changed.manifest.checksumSha256 ≠ "" ∧
        ArchiveFormat.sha256Hex file ≠ changed.manifest.checksumSha256 := by
  generalize hm : (n.writeArchiveAndManifest archive).1.overwrite archive.manifest.backupId file = m
  have hauth : requireAdminApiKey m.auth headers = .ok () := by
    rw [← hm]
    exact hadmin
  have harc : m.archives archive.manifest.backupId = some file := by
    rw [← hm]
    exact archives_overwrite _ _ _
  have hrst : m.restoreFromBackup headers ⟨archive.manifest.backupId, targetXid⟩ =
      if changed.manifest.checksumSha256 ≠ "" ∧
          ArchiveFormat.sha256Hex file ≠ changed.manifest.checksumSha256 then
        (m, .backupChecksumMismatch)
      else (m.apply changed targetXid,
        .ok (restoredRows changed targetXid).length changed.catalogDdl.length 0) := by
    simp only [restoreFromBackup, hauth, harc, hfile]
  constructor
  · rintro ⟨href, -, -⟩
    by_contra hmts
    rw [hrst, if_neg hmts] at href
    exact href _ _ _ rfl
  · rintro hmis
    refine ⟨?_, ?_, ?_⟩
    · rw [hrst, if_pos hmis]
      exact fun _ _ _ => nofun
    · rw [hrst, if_pos hmis]
    · simp only [backupVerify, hauth, harc, hfile]
      refine ⟨_, rfl, ?_⟩
      simpa using hmis

end BackupNode

namespace Sample

scoped instance countableChar : Countable Char :=
  Function.Injective.countable fun _ _ h => Char.toNat_inj.mp h

scoped instance countableString : Countable String :=
  Function.Injective.countable fun _ _ h => String.toList_inj.mp h

scoped instance : Countable RowData :=
  Function.Injective.countable (f := Finmap.entries) fun _ _ h => Finmap.ext h

scoped instance : Countable BackupArchive := by
  have hinj : Function.Injective fun a : BackupArchive =>
      ((a.manifest.backupId, a.manifest.backupType, a.manifest.createdAtUnixMs,
        a.manifest.tableCount, a.manifest.rowCount, a.manifest.catalogEntryCount,
        a.manifest.dataFile, a.manifest.checksumSha256, a.manifest.snapshotXid,
        a.manifest.baseBackupId), a.rows.rows, a.catalogDdl, a.indexEntries, a.baseXid) := by
    rintro ⟨⟨⟩, ⟨⟩, _, _, _⟩ ⟨⟨⟩, ⟨⟩, _, _, _⟩ h
    simpa using h
  exact hinj.countable

noncomputable def digest (archive : BackupArchive) : String :=
  String.ofList (List.replicate ((exists_injective_nat BackupArchive).choose archive) 'a')

theorem digest_injective : Function.Injective digest := by
  rintro a b h
  have hlen := congrArg length (String.ofList_injective h)
  rw [length_replicate, length_replicate] at hlen
  exact (exists_injective_nat BackupArchive).choose_spec hlen

theorem digest_ne (ar : BackupArchive) : digest ar ≠ "x" := by
  intro h
  have hmem : 'x' ∈ (digest ar).toList := by
    rw [h]
    exact mem_singleton_self 'x'
  rw [digest, String.toList_ofList] at hmem
  exact absurd (eq_of_mem_replicate hmem) (by decide)

noncomputable scoped instance : ArchiveFormat BackupArchive where
  toJson := id
  fromJson := some
  sha256Hex := digest
  fromJson_toJson archive := ⟨archive, rfl, rfl, .refl _, rfl, rfl, rfl⟩
  sha256Hex_injective := digest_injective

def backupNode {E : Type} [DatabaseEngine E] (s : Server E) :
    BackupNode E DdlCatalog BackupArchive where
  toServer := s
  acid := .empty
  mutations := []
  catalog := .empty
  databases := ∅
  procedures := Access.ProcedureRegistry.registerBuiltins
  auth := { auth with adminApiKey := some "k" }
  dbGrants _ := ∅
  pool := .withDefaultPolicy
  connectionTxActive _ := none
  cluster := {}
  archives _ := none
  manifests _ := none

def adminHeaders : HeaderMap
  | "x-vng-admin-key" => some (.text "k")
  | _ => none

theorem requireAdminApiKey_sample {E : Type} [DatabaseEngine E] (s : Server E) :
    requireAdminApiKey (backupNode s).auth adminHeaders = .ok () := rfl

def oneRowArchive : BackupArchive := (backupNode oneRow).fullArchive 0

def emptied : BackupArchive := { oneRowArchive with rows := ⟨[], List.nodup_nil⟩ }

end Sample

namespace BackupNode

open Daemon.Sample

noncomputable def tamperedNode (changed : BackupArchive) :
    BackupNode InMemoryEngine DdlCatalog BackupArchive :=
  ((backupNode oneRow).writeArchiveAndManifest oneRowArchive).1.overwrite
    oneRowArchive.manifest.backupId changed

/-- **A backup that has lost its row** is valid. -/
theorem emptied_restored :
    oneRowArchive.rows.rows = [("t:1", row)] ∧
    ((tamperedNode emptied).restoreFromBackup adminHeaders
      ⟨oneRowArchive.manifest.backupId, none⟩).2 = .ok 0 0 0 ∧
    ((tamperedNode emptied).restoreFromBackup adminHeaders
      ⟨oneRowArchive.manifest.backupId, none⟩).1.visibleRows.rows = [] ∧
    ∃ response, (tamperedNode emptied).backupVerify adminHeaders
      oneRowArchive.manifest.backupId = .ok response ∧ response.checksumValid = true := by
  have hauth : requireAdminApiKey (tamperedNode emptied).auth adminHeaders = .ok () :=
    requireAdminApiKey_sample _
  have hfile : (tamperedNode emptied).archives oneRowArchive.manifest.backupId = some emptied :=
    archives_overwrite _ _ _
  have hpar : ArchiveFormat.fromJson emptied = some emptied := rfl
  have hche : emptied.manifest.checksumSha256 = "" := rfl
  have hrst : (tamperedNode emptied).restoreFromBackup adminHeaders
      ⟨oneRowArchive.manifest.backupId, none⟩ =
        ((tamperedNode emptied).apply emptied none, .ok 0 0 0) := by
    simp only [restoreFromBackup, hauth, hfile, hpar, hche]
    rfl
  rw [hrst]
  refine ⟨by decide +kernel, rfl, rfl, ?_⟩
  simp only [backupVerify, hauth, hfile, hpar, hche]
  exact ⟨_, rfl, rfl⟩

theorem emptied_with_digest_detected :
    (tamperedNode { emptied with manifest.checksumSha256 := "x" }).Detects adminHeaders
      ⟨oneRowArchive.manifest.backupId, none⟩ :=
  (corruption_detected_iff (backupNode oneRow) oneRowArchive _ rfl (requireAdminApiKey_sample _)
    none).mpr ⟨(by decide : "x" ≠ ""), digest_ne _⟩

end BackupNode

end VngDatabase.Daemon
