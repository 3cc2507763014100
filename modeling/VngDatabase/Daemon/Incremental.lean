import VngDatabase.Daemon.Restore

/-!
# What an incremental backup captures

An incremental backup holds the visible rows that have a version of their own since the full backup.
A row that was deleted since is not in it; and a restore throws all rows away before it brings in
those of an archive.
-/

namespace VngDatabase.Daemon.BackupNode

open Text Sql Store Dml Query
open Access (HeaderMap SessionSigner)

section

variable {E C B : Type} [BootEngine E] {n : BackupNode E C B}

theorem mem_rowsChangedAfter_iff {baseXid : Xid} {key : String}
    {data : RowData} : (key, data) ∈ (n.rowsChangedAfter baseXid).rows ↔
      n.rowStore.readLatest key = some data ∧ n.rowStore.wasModifiedAfter key baseXid = true := by
  rw [rowsChangedAfter, List.mem_filter]
  exact and_congr_left fun _ => PagedRowStore.mem_scanAtSnapshot_iff

variable [ObjectCatalog C]

theorem readLatest_apply {ar : BackupArchive} {key : String}
    {data : RowData} : (n.apply ar none).rowStore.readLatest key = some data ↔
      (key, data) ∈ ar.rows.rows ∧
        key ∈ n.rowStore.heldOf (ar.rows.rows.map Prod.fst) :=
  PagedRowStore.readLatest_replaceAll ar.rows.nodup

theorem heldOf_apply (n : BackupNode E C B) (ar : BackupArchive) :
    (n.apply ar none).rowStore.heldOf = n.rowStore.heldOf := by
  have hsame := PagedRowStore.sameBut_insertAll n.rowStore.cleared.beginXid.1 n.rowStore.nextXid
    ar.rows.rows
  funext keys
  have hpag : (n.apply ar none).rowStore.pageSize = n.rowStore.pageSize := hsame.pageSize
  have hcap : (n.apply ar none).rowStore.maxRowsCap = n.rowStore.maxRowsCap := hsame.maxRowsCap
  rw [PagedRowStore.heldOf, PagedRowStore.heldOf, hpag, hcap]

def fullId (nowMs : ℕ) : String := "backup-" ++ toString (nowMs / 1000)

def incrementalId (nowMs : ℕ) : String := "incr-" ++ toString (nowMs / 1000)

theorem fullId_ne_incrementalId (now nowMs' : ℕ) : fullId now ≠ incrementalId nowMs' := by
  intro h
  have hcha := congrArg String.toList h
  rw [fullId, incrementalId, String.toList_append, String.toList_append] at hcha
  have hhead : some 'b' = some 'i' := congrArg List.head? hcha
  exact absurd hhead (by decide)

variable [ArchiveFormat B]

def restoreBoth (n : BackupNode E C B) (headers : HeaderMap) (nowMs nowMs' : ℕ) :
    BackupNode E C B :=
  ((n.restoreFromBackup headers ⟨fullId nowMs, none⟩).1.restoreFromBackup headers
    ⟨incrementalId nowMs', none⟩).1

end

section

variable {E C B : Type} [DatabaseEngine E] [ObjectCatalog C] [CheckPredicate] [ColumnOrder]
  [Unicode] [F64] [QueryParser] [SqlRuntime] [SessionSigner] [ArchiveFormat B]
  {n₀ n n' : BackupNode E C B} {nowMs nowMs' : ℕ} {headers : HeaderMap}

def incrementOf (n₀ n : BackupNode E C B) (nowMs nowMs' : ℕ) : BackupArchive :=
  n.incrementalArchive nowMs' (fullId nowMs) n₀.rowStore.currentXid

def recovered (n : BackupNode E C B) (nowMs nowMs' : ℕ) (headers : HeaderMap) :
    BackupNode E C B :=
  (n.backupIncremental nowMs' headers (fullId nowMs)).1.restoreBoth headers nowMs nowMs'

theorem backupIncremental_eq (hadm : requireAdminApiKey n₀.auth headers = .ok ())
    (hrun : (n₀.backupFull nowMs headers).1.Reaches n) :
    (n.backupIncremental nowMs' headers (fullId nowMs)).1 =
      (n.writeArchiveAndManifest (n₀.incrementOf n nowMs nowMs')).1 := by
  obtain ⟨-, hmani, hauth⟩ := hrun.same_files
  rw [backupFull_eq hadm] at hmani hauth
  have hadm' : requireAdminApiKey n.auth headers = .ok () := hauth.symm ▸ hadm
  have hman : n.manifests (fullId nowMs) =
      some (n₀.writeArchiveAndManifest (n₀.fullArchive nowMs)).2 := by
    rw [hmani]
    exact Function.update_self _ _ _
  simp only [backupIncremental, hadm', hman]
  rfl

theorem readLatest_recovered (hadm : requireAdminApiKey n₀.auth headers = .ok ())
    (hrun : (n₀.backupFull nowMs headers).1.Reaches n) (now' : ℕ) :
    ∃ read, ArchiveFormat.fromJson (ArchiveFormat.toJson (n₀.incrementOf n nowMs now') : B) =
        some read ∧ ∀ key data, (n.recovered nowMs now' headers).rowStore.readLatest key =
          some data ↔
        (key, data) ∈ (n.rowsChangedAfter n₀.rowStore.currentXid).rows ∧
          key ∈ n.rowStore.heldOf (read.rows.rows.map Prod.fst) := by
  obtain ⟨harc, -, hauth⟩ := hrun.same_files
  rw [backupFull_eq hadm] at harc hauth
  generalize hm : (n.writeArchiveAndManifest (n₀.incrementOf n nowMs now')).1 = m
  have hadm' : requireAdminApiKey m.auth headers = .ok () := by
    rw [← hm]
    exact hauth.symm ▸ hadm
  have hfull : m.archives (n₀.fullArchive nowMs).manifest.backupId =
      some (ArchiveFormat.toJson (n₀.fullArchive nowMs)) := by
    have hne : (n₀.fullArchive nowMs).manifest.backupId ≠
        (n₀.incrementOf n nowMs now').manifest.backupId := fullId_ne_incrementalId nowMs now'
    rw [← hm, archives_writeArchiveAndManifest_of_ne n hne, harc]
    exact archives_writeArchiveAndManifest _ _
  have hinc : m.archives (n₀.incrementOf n nowMs now').manifest.backupId =
      some (ArchiveFormat.toJson (n₀.incrementOf n nowMs now')) := by
    rw [← hm]
    exact archives_writeArchiveAndManifest _ _
  obtain ⟨readFull, -, -, hres⟩ := restoreFromBackup_of_written hadm' hfull rfl
  have hfile : (m.apply readFull none).archives
      (n₀.incrementOf n nowMs now').manifest.backupId =
        some (ArchiveFormat.toJson (n₀.incrementOf n nowMs now')) := hinc
  obtain ⟨read, hread, hsame, hrst⟩ := restoreFromBackup_of_written
    (n := m.apply readFull none) hadm' hfile rfl
  refine ⟨read, hread, fun key data => ?_⟩
  have hrec : n.recovered nowMs now' headers =
      (m.apply readFull none).apply read none := by
    rw [recovered, backupIncremental_eq hadm hrun, hm, restoreBoth, ← hrst, ← hres]
    rfl
  have hheld : m.rowStore.heldOf = n.rowStore.heldOf := by rw [← hm]; rfl
  rw [hrec, readLatest_apply, heldOf_apply, hheld, hsame.rows.mem_iff]
  rfl

def AllChanged (n₀ n : BackupNode E C B) (nowMs nowMs' : ℕ) : Prop :=
  ∀ key data, n.rowStore.readLatest key = some data →
    n.rowStore.wasModifiedAfter key n₀.rowStore.currentXid = true ∧
    ∀ read, ArchiveFormat.fromJson (ArchiveFormat.toJson (n₀.incrementOf n nowMs nowMs') : B) =
      some read → key ∈ n.rowStore.heldOf (read.rows.rows.map Prod.fst)

omit [CheckPredicate] [ColumnOrder] [Unicode] [F64] [QueryParser] [SqlRuntime]
  [SessionSigner] in
theorem allChanged_of_uncapped (hcap : n.rowStore.maxRowsCap = 0)
    (h : ∀ row ∈ n.visibleRows.rows,
      n.rowStore.wasModifiedAfter row.1 n₀.rowStore.currentXid = true) :
    n₀.AllChanged n nowMs nowMs' := by
  intro key data hdata
  have hmod := h (key, data) (PagedRowStore.mem_scanAtSnapshot_iff.mpr hdata)
  refine ⟨hmod, fun read hread => ?_⟩
  obtain ⟨read', hread', hsame⟩ :=
    ArchiveFormat.fromJson_toJson (B := B) (n₀.incrementOf n nowMs nowMs')
  obtain rfl : read' = read := Option.some.inj (hread'.symm.trans hread)
  rw [PagedRowStore.heldOf, hcap, Paging.mem_placeAll_iff (List.cons_ne_nil _ _)]
  refine Or.inl ?_
  exact List.mem_map_of_mem (hsame.rows.mem_iff.mpr (mem_rowsChangedAfter_iff.mpr ⟨hdata, hmod⟩))

theorem readLatest_recovered_eq_iff (hadm : requireAdminApiKey n₀.auth headers = .ok ())
    (hrun : (n₀.backupFull nowMs headers).1.Reaches n) :
    (n.recovered nowMs nowMs' headers).rowStore.readLatest = n.rowStore.readLatest ↔
      n₀.AllChanged n nowMs nowMs' := by
  obtain ⟨read, hread, hrec⟩ := readLatest_recovered hadm hrun nowMs'
  constructor
  · rintro heq key data hdata
    have hrow := (hrec key data).mp (heq ▸ hdata)
    refine ⟨(mem_rowsChangedAfter_iff.mp hrow.1).2, fun read' hread' => ?_⟩
    obtain rfl : read = read' := Option.some.inj (hread.symm.trans hread')
    exact hrow.2
  · rintro hcha
    funext key
    ext data
    rw [hrec, mem_rowsChangedAfter_iff]
    constructor
    · exact fun h => h.1.1
    · intro hdata
      obtain ⟨hmod, hheld⟩ := hcha key data hdata
      exact ⟨⟨hdata, hmod⟩, hheld read hread⟩

structure Captures (n₀ n n' : BackupNode E C B) (nowMs nowMs' : ℕ) (headers : HeaderMap) :
    Prop where
  determined : (n.rowsChangedAfter n₀.rowStore.currentXid).rows.Perm
    (n'.rowsChangedAfter n₀.rowStore.currentXid).rows →
      n'.rowStore.readLatest = n.rowStore.readLatest
  restored : (n.recovered nowMs nowMs' headers).rowStore.readLatest = n.rowStore.readLatest
  restored' : (n'.recovered nowMs nowMs' headers).rowStore.readLatest = n'.rowStore.readLatest

/-- **An incremental backup captures the difference** iff every row has changed. -/
theorem incremental_captures_iff (hadmin : requireAdminApiKey n₀.auth headers = .ok ())
    (hrun : (n₀.backupFull nowMs headers).1.Reaches n)
    (hrun' : (n₀.backupFull nowMs headers).1.Reaches n') :
    n₀.Captures n n' nowMs nowMs' headers ↔
      n₀.AllChanged n nowMs nowMs' ∧ n₀.AllChanged n' nowMs nowMs' := by
  constructor
  · rintro ⟨-, hres, hres'⟩
    exact ⟨(readLatest_recovered_eq_iff hadmin hrun).mp hres,
      (readLatest_recovered_eq_iff hadmin hrun').mp hres'⟩
  · rintro ⟨hcha, hcha'⟩
    refine ⟨fun hperm => ?_, (readLatest_recovered_eq_iff hadmin hrun).mpr hcha,
      (readLatest_recovered_eq_iff hadmin hrun').mpr hcha'⟩
    -- what is visible is what has changed, on both sides
    funext key
    ext data
    have hrow : n.rowStore.readLatest key = some data ↔
        (key, data) ∈ (n.rowsChangedAfter n₀.rowStore.currentXid).rows := by
      rw [mem_rowsChangedAfter_iff, iff_self_and]
      exact fun hdata => (hcha key data hdata).1
    have hrow' : n'.rowStore.readLatest key = some data ↔
        (key, data) ∈ (n'.rowsChangedAfter n₀.rowStore.currentXid).rows := by
      rw [mem_rowsChangedAfter_iff, iff_self_and]
      exact fun hdata => (hcha' key data hdata).1
    rw [hrow, hrow', hperm.mem_iff]

end

section

open Daemon.Sample
open scoped Dml.Sample

def deletedRows : Circumstances × SqlRequest := executed "DELETE FROM t WHERE __table = 't'"

noncomputable def oneRowNode : BackupNode InMemoryEngine DdlCatalog BackupArchive :=
  backedUp (backupNode oneRow)

/-- **A deletion is not told** from a row that is left alone. -/
theorem deletion_not_captured :
    (oneRowNode.rowsChangedAfter (backupNode oneRow).rowStore.currentXid).rows = [] ∧
    ((oneRowNode.handle deletedRows).rowsChangedAfter
      (backupNode oneRow).rowStore.currentXid).rows = [] ∧
    oneRowNode.rowStore.readLatest "t:1" = some row ∧
    (oneRowNode.handle deletedRows).rowStore.readLatest "t:1" = none ∧
    (oneRowNode.recovered 0 0 adminHeaders).rowStore.readLatest "t:1" = none := by
  decide +kernel

noncomputable def noRowsNode : BackupNode InMemoryEngine DdlCatalog BackupArchive :=
  backedUp (backupNode noRows)

theorem insertion_captured :
    (backupNode noRows).Captures (noRowsNode.handle insertedRow) noRowsNode 0 0 adminHeaders := by
  have hrun : (noRowsNode.handle insertedRow).rowStore.maxRowsCap = 0 ∧
      (∀ row ∈ (noRowsNode.handle insertedRow).visibleRows.rows,
        (noRowsNode.handle insertedRow).rowStore.wasModifiedAfter row.1
          (backupNode noRows).rowStore.currentXid = true) ∧
      ∀ row ∈ noRowsNode.visibleRows.rows, noRowsNode.rowStore.wasModifiedAfter row.1
        (backupNode noRows).rowStore.currentXid = true := by
    decide +kernel
  obtain ⟨hcap, hins, hnone⟩ := hrun
  exact (incremental_captures_iff (requireAdminApiKey_sample noRows)
    (.single ⟨insertedRow, trivial, rfl⟩) .refl).mpr
    ⟨allChanged_of_uncapped hcap hins, allChanged_of_uncapped rfl hnone⟩

end

end VngDatabase.Daemon.BackupNode
