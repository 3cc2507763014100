import VngDatabase.Store.Replace
import VngDatabase.Transition

/-!
# The row store in use

All calls that change a row store (`PagedRowStore.call`), in any order and under any row cap. A key
has one row on one page, no page is overfull, and a scan lists what reads of single keys find
(`PagedRowStore.coherent_foldl`).
-/

namespace VngDatabase.Store

inductive RowStoreCall
  | beginXid
  | fastForwardXid (minXid : Xid)
  | setMaxRowsCap (cap : ℕ)
  | insert (xid : Xid) (key : String) (data : RowData)
  | delete (xid : Xid) (key : String)
  | replaceAll (rows : List (String × RowData))
  | beginWriteIntent (xid : Xid) (key : String)
  | releaseWriteIntents (xid : Xid)

namespace PagedRowStore

def call (store : PagedRowStore) : RowStoreCall → PagedRowStore
  | .beginXid => store.beginXid.1
  | .fastForwardXid minXid => { store with nextXid := max store.nextXid minXid }
  | .setMaxRowsCap cap => { store with maxRowsCap := cap }
  | .insert xid key data => store.insert xid key data
  | .delete xid key => (store.delete xid key).1
  | .replaceAll rows => store.replaceAll rows
  | .beginWriteIntent xid key => (store.beginWriteIntent xid key).toOption.getD store
  | .releaseWriteIntents xid => store.releaseWriteIntents xid

variable {store : PagedRowStore} {c : RowStoreCall} {key k : String}

theorem shelf_delete (store : PagedRowStore) (xid : Xid) (key : String) :
    (store.delete xid key).1.shelf = store.shelf := by
  rw [delete]
  rcases store.pushVersion_cases xid true key ∅ with ⟨store', hp, -, hsh, -⟩ | ⟨hp, -⟩
  · rw [hp]
    exact hsh
  · rw [hp]

theorem call_beginWriteIntent (store : PagedRowStore) (xid : Xid) (key : String) :
    ∃ intents, store.call (.beginWriteIntent xid key) = { store with writeIntents := intents } := by
  rcases store.beginWriteIntent_cases xid key with ⟨other, he⟩ | ⟨-, he⟩
  · exact ⟨store.writeIntents, by rw [call, he]; rfl⟩
  · exact ⟨_, by rw [call, he]; rfl⟩

theorem pageSize_call (store : PagedRowStore) (c : RowStoreCall) :
    (store.call c).pageSize = store.pageSize := by
  cases c with
  | insert xid key data => exact (store.insert_cases xid key data).1.pageSize
  | delete xid key => exact (store.delete_spec xid key).1.pageSize
  | replaceAll rows => exact (store.writes_replaceAll rows).pageSize
  | beginWriteIntent xid key =>
    obtain ⟨intents, h⟩ := store.call_beginWriteIntent xid key
    rw [h]
  | _ => rfl

theorem shelf_call (store : PagedRowStore) (c : RowStoreCall) :
    (store.call c).shelf = match c with
      | .insert _ key _ => Paging.place store.pageSize store.maxRowsCap store.shelf key
      | .replaceAll rows =>
        Paging.placeAll store.pageSize store.maxRowsCap [[]] (rows.map Prod.fst)
      | _ => store.shelf := by
  cases c with
  | insert xid key data => exact (store.insert_cases xid key data).2.1
  | delete xid key => exact store.shelf_delete xid key
  | replaceAll rows => exact (store.writes_replaceAll rows).shelf.trans (by rw [placed_puts]; rfl)
  | beginWriteIntent xid key =>
    obtain ⟨intents, h⟩ := store.call_beginWriteIntent xid key
    rw [h]
    rfl
  | _ => rfl

theorem packed_call (hsize : 0 < store.pageSize) (h : Paging.Packed store.pageSize store.shelf)
    (c : RowStoreCall) : Paging.Packed store.pageSize (store.call c).shelf := by
  rw [shelf_call]
  cases c with
  | insert xid key data => exact h.place hsize _ key
  | replaceAll rows =>
    have hemp : Paging.Packed store.pageSize [([] : List String)] := Nat.zero_le _
    exact hemp.placeAll hsize _ _
  | _ => exact h

/-! ### Scans and reads -/

structure Coherent (store : PagedRowStore) : Prop where
  oneRow : ∀ key ∈ store.rows.map MvccRow.key, ∃! place : ℕ × ℕ, ∃ page row,
    store.pages[place.1]? = some page ∧ page.rows[place.2]? = some row ∧ row.key = key
  capacity : ∀ page ∈ store.pages, page.rows.length ≤ store.pageSize
  once : ∀ snapshotXid, ((store.scanAtSnapshot snapshotXid).map Prod.fst).Nodup
  listed : ∀ snapshotXid key data, (key, data) ∈ store.scanAtSnapshot snapshotXid ↔
    store.readAtSnapshot key snapshotXid = some data
  committedOnce : ∀ snapshotXid readerXid,
    ((store.scanCommitted snapshotXid readerXid).map Prod.fst).Nodup
  committed : ∀ snapshotXid readerXid key data,
    (key, data) ∈ store.scanCommitted snapshotXid readerXid ↔
      store.readCommitted key snapshotXid readerXid = some data

theorem existsUnique_row (h : key ∈ store.rows.map MvccRow.key) :
    ∃! place : ℕ × ℕ, ∃ page row, store.pages[place.1]? = some page ∧
      page.rows[place.2]? = some row ∧ row.key = key := by
  rw [map_key_rows] at h
  refine (existsUnique_congr fun place => ?_).mp (Paging.existsUnique_place store.distinct h)
  simp only [List.getElem?_map, Option.map_eq_some_iff, StorePage.keys]
  constructor
  · rintro ⟨_, ⟨page, hpage, rfl⟩, hrow⟩
    obtain ⟨row, hrow, hkey⟩ := Option.map_eq_some_iff.mp (List.getElem?_map ▸ hrow)
    exact ⟨page, row, hpage, hrow, hkey⟩
  · rintro ⟨page, row, hpage, hrow, hkey⟩
    refine ⟨_, ⟨page, hpage, rfl⟩, ?_⟩
    rw [List.getElem?_map, hrow, ← hkey]
    rfl

theorem coherent_of_packed (h : Paging.Packed store.pageSize store.shelf) : store.Coherent where
  oneRow _ := existsUnique_row
  capacity page hpage := by
    have hlen := h.length_le (List.mem_map_of_mem hpage)
    rwa [StorePage.keys, List.length_map] at hlen
  once := store.nodup_scanAtSnapshot
  listed _ _ _ := mem_scanAtSnapshot_iff
  committedOnce _ _ := store.nodup_scan _
  committed _ _ _ _ := mem_scan_iff

/-- **Every store that is reached is coherent.** -/
theorem coherent_foldl {pageSize : ℕ} (hsize : 0 < pageSize) (calls : List RowStoreCall) :
    (calls.foldl call (new pageSize)).Coherent := by
  have hrun (store : PagedRowStore) (hsto : 0 < store.pageSize)
      (h : Paging.Packed store.pageSize store.shelf) :
      Paging.Packed (calls.foldl call store).pageSize (calls.foldl call store).shelf := by
    induction calls generalizing store with
    | nil => exact h
    | cons c calls ih =>
      have hpk := packed_call hsto h c
      rw [← pageSize_call store c] at hsto hpk
      exact ih (store.call c) hsto hpk
  exact coherent_of_packed (hrun (new pageSize) hsize (Nat.zero_le _))

theorem coherent_two_rows_per_page :
    (RowStoreCall.setMaxRowsCap 3 :: ["a", "b", "c", "d"].map (.insert 1 · ∅)).foldl call (new 2)
      |>.Coherent :=
  coherent_foldl (by decide) _

def exportRowsSnapshot (store : PagedRowStore) : List (String × RowData) :=
  store.scanAtSnapshot store.currentXid

/-- **All rows arrive in another store** iff it has no cap, or they fit into it or on one page. -/
theorem transferred_iff (a : PagedRowStore) {b : PagedRowStore} (hsize : 0 < b.pageSize) :
    ((∀ key, (b.replaceAll a.exportRowsSnapshot).readAtSnapshot key
        (b.replaceAll a.exportRowsSnapshot).currentXid = a.readAtSnapshot key a.currentXid) ∧
      b.currentXid ≤ (b.replaceAll a.exportRowsSnapshot).currentXid) ↔
    b.maxRowsCap = 0 ∨ a.exportRowsSnapshot.length ≤ max b.maxRowsCap b.pageSize := by
  have hnd : (a.exportRowsSnapshot.map Prod.fst).Nodup := a.nodup_scanAtSnapshot _
  have hxid : b.currentXid ≤ (b.replaceAll a.exportRowsSnapshot).currentXid := by
    rw [currentXid, currentXid, nextXid_replaceAll]
    exact Nat.sub_le_sub_right (Nat.le_succ _) 1
  have hread (key : String) (data : RowData) :
      (b.replaceAll a.exportRowsSnapshot).readAtSnapshot key
          (b.replaceAll a.exportRowsSnapshot).currentXid = some data ↔
        a.readAtSnapshot key a.currentXid = some data ∧
          key ∈ b.heldOf (a.exportRowsSnapshot.map Prod.fst) := by
    have hlis : (key, data) ∈ a.exportRowsSnapshot ↔
        a.readAtSnapshot key a.currentXid = some data := mem_scanAtSnapshot_iff
    rw [← hlis]
    exact readLatest_replaceAll hnd
  have hfits : a.exportRowsSnapshot.map Prod.fst ⊆ b.heldOf (a.exportRowsSnapshot.map Prod.fst) ↔
      _ := Paging.subset_placeAll_iff hsize hnd
  rw [and_iff_left hxid, ← List.length_map Prod.fst, ← hfits]
  constructor
  · intro hsame key hkey
    obtain ⟨⟨_, data⟩, hrow, rfl⟩ := List.mem_map.mp hkey
    have hdata := mem_scanAtSnapshot_iff.mp hrow
    exact ((hread _ data).mp ((hsame _).trans hdata)).2
  · intro hsub key
    ext data
    rw [hread]
    refine and_iff_left_of_imp fun hdata => hsub ?_
    exact List.mem_map_of_mem (mem_scanAtSnapshot_iff.mpr hdata)

def twoRows : PagedRowStore :=
  ((new 256).beginXid.1.insert 1 "t:1" ∅).insert 1 "t:2" ∅

/-- **A row does not arrive** in a store for one row. -/
theorem row_not_transferred :
    twoRows.readAtSnapshot "t:1" twoRows.currentXid = some ∅ ∧
      (replaceAll { new 1 with maxRowsCap := 1 } twoRows.exportRowsSnapshot).readAtSnapshot "t:1"
        (replaceAll { new 1 with maxRowsCap := 1 } twoRows.exportRowsSnapshot).currentXid =
          none := by
  decide +kernel

theorem rows_transferred :
    twoRows.exportRowsSnapshot.length = 2 ∧ ∀ key,
      (replaceAll { new 2 with maxRowsCap := 1 } twoRows.exportRowsSnapshot).readAtSnapshot key
        (replaceAll { new 2 with maxRowsCap := 1 } twoRows.exportRowsSnapshot).currentXid =
          twoRows.readAtSnapshot key twoRows.currentXid := by
  have hlen : twoRows.exportRowsSnapshot.length = 2 := by decide +kernel
  exact ⟨hlen, ((transferred_iff twoRows (b := { new 2 with maxRowsCap := 1 }) (by decide)).mpr
    (Or.inr (hlen.le.trans (le_max_right _ _)))).1⟩

end PagedRowStore

/-! ### Changes that are noticed -/

namespace RowStoreCall

def Begun (store : PagedRowStore) : RowStoreCall → Prop
  | .insert xid _ _ | .delete xid _ => 0 < xid ∧ xid < store.nextXid
  | _ => True

instance (store : PagedRowStore) (c : RowStoreCall) : Decidable (c.Begun store) := by
  cases c <;> unfold Begun <;> infer_instance

def writes (store : PagedRowStore) : RowStoreCall → List (Xid × String)
  | .insert xid key _ => [(xid, key)]
  | .delete xid key => if (store.delete xid key).2 then [(xid, key)] else []
  | .replaceAll rows => rows.map fun row => (store.nextXid, row.1)
  | _ => []

end RowStoreCall

structure WriteLog where
  store : PagedRowStore
  written : List (Xid × String)

namespace WriteLog

open PagedRowStore List

def step (h : WriteLog) (c : RowStoreCall) : WriteLog :=
  if c.Begun h.store then ⟨h.store.call c, h.written ++ c.writes h.store⟩ else h

def Noticed (h : WriteLog) : Prop :=
  ∀ w ∈ h.written, ∀ sinceXid < w.1, h.store.wasModifiedAfter w.2 sinceXid

def Keeps (h : WriteLog) (c : RowStoreCall) : Prop :=
  c.Begun h.store → match c with
    | .insert _ key _ => key ∈ h.store.shelf.flatten ∨
      Paging.HasRoom h.store.pageSize h.store.maxRowsCap h.store.shelf
    | .replaceAll rows => ∀ k, k ∈ h.store.shelf.flatten ∨ k ∈ rows.map Prod.fst →
      k ∈ h.store.heldOf (rows.map Prod.fst)
    | _ => True

structure Inv (h : WriteLog) : Prop where
  size : 0 < h.store.pageSize
  packed : Paging.Packed h.store.pageSize h.store.shelf
  pos : 0 < h.store.nextXid
  begun : ∀ w ∈ h.written, 0 < w.1 ∧ w.1 < h.store.nextXid
  held : ∀ k ∈ h.store.shelf.flatten, ∃ w ∈ h.written, w.2 = k
  noticed : ∀ w ∈ h.written, ∃ v ∈ h.store.versions w.2, w.1 ≤ v.xid

variable {h : WriteLog} {c : RowStoreCall} {store : PagedRowStore} {k : String} {w : Xid × String}
  {rows : List (String × RowData)}

theorem Inv.noticed' (hinv : h.Inv) : h.Noticed := by
  intro w hw sinceXid hlt
  obtain ⟨v, hv, hle⟩ := hinv.noticed w hw
  exact wasModifiedAfter_iff.mpr ⟨v, hv, hlt.trans_le hle⟩

theorem mem_shelf_of_version {v : RowVersion} (hv : v ∈ store.versions k) :
    k ∈ store.shelf.flatten := by
  by_contra hk
  rw [versions_eq_nil hk] at hv
  cases hv

theorem Noticed.mem_shelf (hntc : h.Noticed) (hw : w ∈ h.written) (hpos : 0 < w.1) :
    w.2 ∈ h.store.shelf.flatten := by
  obtain ⟨v, hv, -⟩ := wasModifiedAfter_iff.mp (hntc w hw (w.1 - 1) (Nat.sub_one_lt hpos.ne'))
  exact mem_shelf_of_version hv

theorem le_nextXid_call (store : PagedRowStore) (c : RowStoreCall) :
    store.nextXid ≤ (store.call c).nextXid := by
  cases c with
  | beginXid => exact Nat.le_succ _
  | fastForwardXid minXid => exact le_max_left _ _
  | insert xid key data => exact (store.insert_cases xid key data).1.nextXid.ge
  | delete xid key => exact (store.delete_spec xid key).1.nextXid.ge
  | replaceAll rows => exact (Nat.le_succ _).trans_eq (store.nextXid_replaceAll rows).symm
  | beginWriteIntent xid key =>
    obtain ⟨intents, h⟩ := store.call_beginWriteIntent xid key
    rw [h]
  | _ => exact le_rfl

theorem begun_of_mem_writes (hbeg : c.Begun store) (hpos : 0 < store.nextXid)
    (hw : w ∈ c.writes store) : 0 < w.1 ∧ w.1 < (store.call c).nextXid := by
  have hle := le_nextXid_call store c
  cases c with
  | insert xid key data =>
    obtain rfl := mem_singleton.mp hw
    exact ⟨hbeg.1, hbeg.2.trans_le hle⟩
  | delete xid key =>
    rw [RowStoreCall.writes, mem_ite_nil_right, mem_singleton] at hw
    obtain ⟨-, rfl⟩ := hw
    exact ⟨hbeg.1, hbeg.2.trans_le hle⟩
  | replaceAll rows =>
    obtain ⟨row, -, rfl⟩ := mem_map.mp hw
    exact ⟨hpos, (Nat.lt_succ_self _).trans_eq (store.nextXid_replaceAll rows).symm⟩
  | _ => cases hw

theorem markedBy_insertAll {xid : Xid} (h : ∀ k ∈ store.shelf.flatten, store.MarkedBy xid k)
    (hk : k ∈ (insertAll xid rows store).shelf.flatten) :
    (insertAll xid rows store).MarkedBy xid k := by
  induction rows generalizing store with
  | nil => exact h k hk
  | cons row rows ih =>
    refine ih (fun k hk => ?_) hk
    have hmar := Marks.insert xid store row.1 row.2 k hk
    rw [(store.insert_cases xid row.1 row.2).2.1] at hk
    refine hmar.mpr ((Paging.mem_place store.shelf_ne_nil hk).symm.imp (h k) fun hkey => ?_)
    exact ⟨_, mem_singleton_self _, hkey.symm⟩

theorem exists_version_call (hk : k ∈ (store.call c).shelf.flatten) {xid : Xid}
    (hxid : xid < store.nextXid ∧ (∃ v ∈ store.versions k, xid ≤ v.xid) ∨
      (xid, k) ∈ c.writes store) : ∃ v ∈ (store.call c).versions k, xid ≤ v.xid := by
  cases c with
  | insert xid' key data =>
    have hv := (store.insert_cases xid' key data).2.2 k hk
    rw [call, hv]
    rcases hxid with ⟨-, v, hmem, hle⟩ | hw
    · refine ⟨v, ?_, hle⟩
      split_ifs
      exacts [mem_append_left _ hmem, hmem]
    · obtain ⟨rfl, rfl⟩ := Prod.mk.inj (mem_singleton.mp hw)
      rw [if_pos rfl]
      exact ⟨_, mem_append_right _ (mem_singleton_self _), le_rfl⟩
  | delete xid' key =>
    rw [call, (store.delete_spec xid' key).2 k]
    rcases hxid with ⟨-, v, hmem, hle⟩ | hw
    · refine ⟨v, ?_, hle⟩
      split_ifs
      exacts [mem_append_left _ hmem, hmem]
    · rw [RowStoreCall.writes, mem_ite_nil_right, mem_singleton, Prod.mk.injEq] at hw
      obtain ⟨hfnd, rfl, rfl⟩ := hw
      rw [if_pos ⟨rfl, hfnd⟩]
      exact ⟨_, mem_append_right _ (mem_singleton_self _), le_rfl⟩
  | replaceAll rows =>
    obtain ⟨v, hv, heq⟩ := markedBy_insertAll (fun _ hk => by cases hk) hk
    refine ⟨v, hv, heq ▸ ?_⟩
    rcases hxid with ⟨hlt, -⟩ | hw
    · exact hlt.le
    · obtain ⟨row, -, hrow⟩ := mem_map.mp hw
      exact (congrArg Prod.fst hrow).ge
  | beginWriteIntent xid' key =>
    obtain ⟨intents, h⟩ := store.call_beginWriteIntent xid' key
    rw [h]
    exact (hxid.resolve_right not_mem_nil).2
  | _ => exact (hxid.resolve_right not_mem_nil).2

theorem mem_shelf_call (hk : k ∈ (store.call c).shelf.flatten) :
    k ∈ store.shelf.flatten ∨ ∃ w ∈ c.writes store, w.2 = k := by
  rw [shelf_call] at hk
  cases c with
  | insert xid key data =>
    rcases Paging.mem_place store.shelf_ne_nil hk with rfl | hk
    · exact Or.inr ⟨_, mem_singleton_self _, rfl⟩
    · exact Or.inl hk
  | replaceAll rows =>
    rcases Paging.mem_placeAll (cons_ne_nil _ _) hk with hk | hk
    · obtain ⟨row, hrow, rfl⟩ := mem_map.mp hk
      exact Or.inr ⟨_, mem_map_of_mem hrow, rfl⟩
    · cases hk
  | _ => exact Or.inl hk

theorem Keeps.mem_shelf (hkp : h.Keeps c) (hinv : h.Inv) (hbeg : c.Begun h.store)
    (hk : k ∈ h.store.shelf.flatten ∨ ∃ w ∈ c.writes h.store, w.2 = k) :
    k ∈ (h.store.call c).shelf.flatten := by
  have hkp := hkp hbeg
  rw [shelf_call]
  cases c with
  | insert xid key data =>
    rcases hk with hk | ⟨w, hw, rfl⟩
    · exact (Paging.subset_place_iff h.store.shelf_ne_nil hinv.size hinv.packed
        h.store.distinct).mpr hkp hk
    · obtain rfl := mem_singleton.mp hw
      exact Paging.mem_place_self h.store.shelf_ne_nil
  | delete xid key =>
    refine hk.elim id ?_
    rintro ⟨w, hw, rfl⟩
    rw [RowStoreCall.writes, mem_ite_nil_right, mem_singleton] at hw
    obtain ⟨hfnd, rfl⟩ := hw
    rw [PagedRowStore.delete] at hfnd
    rcases h.store.pushVersion_cases xid true key ∅ with ⟨store', hp, -, -, hkey, -⟩ | ⟨hp, -⟩
    · exact hkey
    · rw [hp] at hfnd
      cases hfnd
  | replaceAll rows =>
    refine hkp k (hk.imp_right ?_)
    rintro ⟨w, hw, rfl⟩
    obtain ⟨row, hrow, rfl⟩ := mem_map.mp hw
    exact mem_map_of_mem hrow
  | _ => exact hk.resolve_right (by simp [RowStoreCall.writes])

theorem Inv.step (hinv : h.Inv) (hkp : h.Keeps c) : (h.step c).Inv := by
  rw [WriteLog.step]
  split_ifs with hbeg
  · have hsize := pageSize_call h.store c
    have hnext := le_nextXid_call h.store c
    refine ⟨hsize ▸ hinv.size, hsize ▸ packed_call hinv.size hinv.packed c, hinv.pos.trans_le hnext,
      fun w hw => ?_, fun k hk => ?_, fun w hw => ?_⟩
    · rcases mem_append.mp hw with hw | hw
      · exact (hinv.begun w hw).imp_right fun hlt => hlt.trans_le hnext
      · exact begun_of_mem_writes hbeg hinv.pos hw
    · rcases mem_shelf_call hk with hk | ⟨w, hw, rfl⟩
      · obtain ⟨w, hw, rfl⟩ := hinv.held k hk
        exact ⟨w, mem_append_left _ hw, rfl⟩
      · exact ⟨w, mem_append_right _ hw, rfl⟩
    · rcases mem_append.mp hw with hw | hw
      · obtain ⟨v, hv, hle⟩ := hinv.noticed w hw
        exact exists_version_call
          (hkp.mem_shelf hinv hbeg (Or.inl (mem_shelf_of_version hv)))
          (Or.inl ⟨(hinv.begun w hw).2, v, hv, hle⟩)
      · exact exists_version_call (hkp.mem_shelf hinv hbeg (Or.inr ⟨w, hw, rfl⟩)) (Or.inr hw)
  · exact hinv

theorem Inv.keeps (hinv : h.Inv) (hntc : (h.step c).Noticed) : h.Keeps c := by
  intro hbeg
  rw [WriteLog.step, if_pos hbeg] at hntc
  have hheld (k : String) (hk : k ∈ h.store.shelf.flatten) :
      k ∈ (h.store.call c).shelf.flatten := by
    obtain ⟨w, hw, rfl⟩ := hinv.held k hk
    exact hntc.mem_shelf (mem_append_left _ hw) (hinv.begun w hw).1
  have hnew (w : Xid × String) (hw : w ∈ c.writes h.store) :
      w.2 ∈ (h.store.call c).shelf.flatten :=
    hntc.mem_shelf (mem_append_right _ hw) (begun_of_mem_writes hbeg hinv.pos hw).1
  rw [shelf_call] at hheld hnew
  cases c with
  | insert xid key data =>
    exact (Paging.subset_place_iff h.store.shelf_ne_nil hinv.size hinv.packed
      h.store.distinct).mp hheld
  | replaceAll rows =>
    rintro k (hk | hk)
    · exact hheld k hk
    · obtain ⟨row, hrow, rfl⟩ := mem_map.mp hk
      exact hnew _ (mem_map_of_mem hrow)
  | _ => trivial

/-- **Every change is noticed from then on** iff no call drops a key. -/
theorem noticed_iff {pageSize : ℕ} (hsize : 0 < pageSize) (calls : List RowStoreCall) :
    Transition.Always step Noticed ⟨.new pageSize, []⟩ calls ↔
      Transition.Throughout step Keeps ⟨.new pageSize, []⟩ calls := by
  refine Transition.always_iff_throughout_of_imp (fun _ => Inv.noticed')
    (fun _ _ hinv hkp => hinv.step hkp) (fun _ _ hinv hntc => hinv.keeps hntc)
    ?_ calls
  exact ⟨hsize, Nat.zero_le _, Nat.one_pos, nofun, fun k hk => (not_mem_nil hk).elim, nofun⟩

def crowdedOut : List RowStoreCall :=
  [.setMaxRowsCap 1, .beginXid, .insert 1 "t:1" ∅, .insert 1 "t:2" ∅]

/-- **A change is no longer noticed** after its row was dropped. -/
theorem change_forgotten :
    (1, "t:1") ∈ (crowdedOut.foldl step ⟨.new 1, []⟩).written ∧
      (crowdedOut.foldl step ⟨.new 1, []⟩).store.wasModifiedAfter "t:1" 0 = false ∧
      ¬Transition.Always step Noticed ⟨.new 1, []⟩ crowdedOut := by
  have hwrt : (1, "t:1") ∈ (crowdedOut.foldl step ⟨.new 1, []⟩).written := by decide +kernel
  have hfor : (crowdedOut.foldl step ⟨.new 1, []⟩).store.wasModifiedAfter "t:1" 0 =
      false := by decide +kernel
  refine ⟨hwrt, hfor, fun halw => ?_⟩
  have hntc := halw.foldl (1, "t:1") hwrt 0 Nat.one_pos
  rw [hfor] at hntc
  cases hntc

theorem noticed_with_room : Transition.Always step Noticed ⟨.new 2, []⟩ crowdedOut := by
  refine (noticed_iff (by decide) _).mpr ⟨fun _ => trivial, fun _ => trivial, fun _ => Or.inr ?_,
    fun _ => Or.inr ?_, trivial⟩ <;>
  · refine Or.inr ?_
    decide +kernel

end WriteLog

end VngDatabase.Store
