import VngDatabase.Overlay
import VngDatabase.Store.Mvcc

/-!
# What the newest transaction leaves

While a transaction is the newest one, its inserts and deletes are each one write over the keys
(`PagedRowStore.Writes`).
-/

namespace VngDatabase.Store.PagedRowStore

open Overlay List Option

variable {store store' store'' : PagedRowStore} {xid : Xid} {key k : String} {data : RowData}
  {ws ws' : List (String × Option RowData)}

def Newest (store : PagedRowStore) (xid : Xid) : Prop := store.nextXid = xid + 1

theorem Newest.readLatest_eq (h : store.Newest xid) (key : String) :
    store.readLatest key =
      (Versions.lastAtMost RowVersion.xid xid (store.versions key)).bind RowVersion.value := by
  rw [readLatest, h, Nat.add_sub_cancel, readAtSnapshot_eq]

theorem readLatest_eq_none (h : k ∉ store.shelf.flatten) : store.readLatest k = none := by
  rw [readLatest, readAtSnapshot_eq, versions_eq_nil h]
  rfl

/-! ### Scans -/

def listed (snapshotXid : Xid) (row : MvccRow) : Option (String × RowData) :=
  (row.visibleAt snapshotXid).map fun data => (row.key, data)

theorem scan_eq_filterMap {sn : String → Xid} {rows : List MvccRow} {seen : List String}
    (hrows : (rows.map MvccRow.key).Nodup) (hseen : ∀ r ∈ rows, r.key ∉ seen) :
    scan sn rows seen = rows.filterMap fun row => listed (sn row.key) row := by
  induction rows generalizing seen with
  | nil => rfl
  | cons r rs ih =>
    rw [map_cons, nodup_cons] at hrows
    rw [scan, if_neg (hseen r mem_cons_self), filterMap_cons, listed]
    have hrs : ∀ r' ∈ rs, r'.key ∉ seen := fun r' h => hseen r' (mem_cons_of_mem _ h)
    cases r.visibleAt (sn r.key) with
    | none => exact ih hrows.2 hrs
    | some data =>
      refine congrArg (_ :: ·) (ih hrows.2 fun r' h => ?_)
      rw [mem_cons, not_or]
      exact ⟨fun hkey => hrows.1 (hkey ▸ mem_map_of_mem h), hrs r' h⟩

theorem nodup_keys (store : PagedRowStore) : (store.rows.map MvccRow.key).Nodup :=
  map_key_rows store ▸ store.distinct

theorem scan_rows_eq (store : PagedRowStore) (sn : String → Xid) :
    scan sn store.rows [] = store.rows.filterMap fun row => listed (sn row.key) row :=
  scan_eq_filterMap store.nodup_keys (by simp)

theorem scanAtSnapshot_eq (store : PagedRowStore) (x : Xid) :
    store.scanAtSnapshot x = store.rows.filterMap (listed x) :=
  store.scan_rows_eq fun _ => x

theorem mem_scan_iff {s : String → Xid} :
    (k, data) ∈ scan s store.rows [] ↔ store.readAtSnapshot k (s k) = some data := by
  rw [scan_rows_eq, mem_filterMap, readAtSnapshot, findSome?_findRow, ← rows, bind_eq_some_iff]
  constructor
  · rintro ⟨row, hrow, hlis⟩
    obtain ⟨visible, hvis, he⟩ := map_eq_some_iff.mp hlis
    obtain ⟨rfl, rfl⟩ := Prod.mk.inj he
    refine ⟨row, ?_, hvis⟩
    cases hfind : store.rows.find? fun r => r.key = row.key with
    | none => exact absurd (mem_map_of_mem hrow) (find?_key_eq_none_iff.mp hfind)
    | some row' =>
      have hkey : row'.key = row.key := by simpa using find?_some hfind
      rw [inj_on_of_nodup_map store.nodup_keys (mem_of_find?_eq_some hfind) hrow hkey]
  · rintro ⟨row, hfind, hvis⟩
    have hkey : row.key = k := by simpa using find?_some hfind
    refine ⟨row, mem_of_find?_eq_some hfind, ?_⟩
    rw [listed, hkey, hvis]
    rfl

theorem mem_scanAtSnapshot_iff {x : Xid} :
    (k, data) ∈ store.scanAtSnapshot x ↔
      store.readAtSnapshot k x = some data :=
  mem_scan_iff (s := fun _ => x)

theorem readLatest_congr
    (h : store'.scanAtSnapshot store'.currentXid = store.scanAtSnapshot store.currentXid) :
    store'.readLatest = store.readLatest := by
  funext key
  ext data
  rw [readLatest, readLatest, ← currentXid, ← currentXid, ← mem_scanAtSnapshot_iff, h,
    mem_scanAtSnapshot_iff]

theorem nodup_scan (store : PagedRowStore) (sn : String → Xid) :
    ((scan sn store.rows []).map Prod.fst).Nodup := by
  have hsub : ((store.rows.filterMap fun row => listed (sn row.key) row).map
      Prod.fst).Sublist (store.rows.map MvccRow.key) := by
    induction store.rows with
    | nil => exact List.Sublist.refl _
    | cons r rs ih =>
      rw [filterMap_cons, map_cons, listed]
      cases r.visibleAt (sn r.key) with
      | none => exact ih.cons _
      | some data => exact ih.cons_cons _
  rw [scan_rows_eq]
  exact store.nodup_keys.sublist hsub

theorem nodup_scanAtSnapshot (store : PagedRowStore) (x : Xid) :
    ((store.scanAtSnapshot x).map Prod.fst).Nodup :=
  store.nodup_scan fun _ => x

theorem perm_scanAtSnapshot_iff :
    (store'.scanAtSnapshot store'.currentXid).Perm (store.scanAtSnapshot store.currentXid) ↔
      ∀ key, store'.readLatest key = store.readLatest key := by
  rw [perm_ext_iff_of_nodup (nodup_scanAtSnapshot store' _).of_map
    (nodup_scanAtSnapshot store _).of_map]
  simp only [Prod.forall, mem_scanAtSnapshot_iff]
  exact forall_congr' fun key => ⟨ext, fun h data => by rw [currentXid, currentXid,
    ← readLatest, ← readLatest, h]⟩

/-! ### Writes -/

def held (store : PagedRowStore) (ws : List (String × Option RowData)) : List String :=
  (Paging.placeAll store.pageSize store.maxRowsCap store.shelf (placed ws)).flatten

theorem ite_held_eq_overlay (h : store.maxRowsCap = 0) (ws : List (String × Option RowData))
    (k : String) :
    (if k ∈ store.held ws then overlay ws store.readLatest k else none) =
      overlay ws store.readLatest k := by
  split_ifs with hk
  · rfl
  · rw [held, h, Paging.mem_placeAll_iff store.shelf_ne_nil, not_or] at hk
    exact (overlay_eq_none hk.1 (readLatest_eq_none hk.2)).symm

structure Writes (xid : Xid) (store store' : PagedRowStore)
    (ws : List (String × Option RowData)) : Prop where
  newest : store'.Newest xid
  pageSize : store'.pageSize = store.pageSize
  maxRowsCap : store'.maxRowsCap = store.maxRowsCap
  shelf : store'.shelf =
    Paging.placeAll store.pageSize store.maxRowsCap store.shelf (placed ws)
  readLatest : ∀ k ∈ store'.shelf.flatten,
    store'.readLatest k = overlay ws store.readLatest k

namespace Writes

theorem readLatest_eq_ite (h : Writes xid store store' ws) (k : String) :
    store'.readLatest k =
      if k ∈ store.held ws then overlay ws store.readLatest k else none := by
  rw [held, ← h.shelf]
  split_ifs with hk
  · exact h.readLatest k hk
  · exact readLatest_eq_none hk

theorem readLatest_eq_overlay (h : Writes xid store store' ws) (hcap : store.maxRowsCap = 0) :
    store'.readLatest = overlay ws store.readLatest := by
  funext k
  rw [h.readLatest_eq_ite, ite_held_eq_overlay hcap]

theorem readLatest_of_removals {keys : List String}
    (h : Writes xid store store' (keys.map fun k => (k, none))) (k : String) :
    store'.readLatest k = if k ∈ keys then none else store.readLatest k := by
  have hpla : placed (keys.map fun k => (k, (none : Option RowData))) = [] := by
    simp [placed]
  rw [h.readLatest_eq_ite, held, hpla, Paging.placeAll, foldl_nil, overlay_map_const]
  split_ifs with hheld hk hk
  · rfl
  · rfl
  · rfl
  · exact (readLatest_eq_none hheld).symm

theorem refl (h : store.Newest xid) : Writes xid store store [] :=
  ⟨h, rfl, rfl, rfl, fun _ _ => rfl⟩

theorem trans {xid' : Xid} (h : Writes xid store store' ws) (h' : Writes xid' store' store'' ws') :
    Writes xid' store store'' (ws ++ ws') where
  newest := h'.newest
  pageSize := h'.pageSize.trans h.pageSize
  maxRowsCap := h'.maxRowsCap.trans h.maxRowsCap
  shelf := by
    rw [h'.shelf, h.shelf, h.pageSize, h.maxRowsCap, placed_append, Paging.placeAll,
      Paging.placeAll, Paging.placeAll, foldl_append]
  readLatest := by
    intro k hk
    rw [h'.readLatest k hk, overlay_append, overlay, overlay.eq_def ws']
    cases hw : lastWrite ws' k with
    | some v => rfl
    | none =>
      -- the second list does not put the key, so it lay there before
      rw [h'.shelf] at hk
      have hk := (Paging.mem_placeAll store'.shelf_ne_nil hk).resolve_left
        fun hp => lastWrite_ne_none hp hw
      rw [getD_none, getD_none, h.readLatest k hk]

theorem of_pushed (key : String) (del : Bool) (data : RowData) (h : store.Newest xid)
    (hsame : store.SameBut store')
    (hsh : store'.shelf = Paging.placeAll store.pageSize store.maxRowsCap store.shelf
      (placed [(key, (RowVersion.mk xid del data).value)]))
    (hv : ∀ k ∈ store'.shelf.flatten, store'.versions k =
      if k = key then store.versions k ++ [⟨xid, del, data⟩] else store.versions k) :
    Writes xid store store' [(key, (RowVersion.mk xid del data).value)] := by
  have hnew : store'.Newest xid := hsame.nextXid.trans h
  refine ⟨hnew, hsame.pageSize, hsame.maxRowsCap, hsh, fun k hk => ?_⟩
  rw [overlay_singleton, Function.update_apply]
  split_ifs with hkey
  · rw [hnew.readLatest_eq, hv k hk, if_pos hkey, Versions.lastAtMost_concat]
    simp
  · rw [h.readLatest_eq, hnew.readLatest_eq, hv k hk, if_neg hkey]

theorem insert (h : store.Newest xid) (key : String) (data : RowData) :
    Writes xid store (store.insert xid key data) [(key, some data)] := by
  obtain ⟨hsame, hsh, hv⟩ := store.insert_cases xid key data
  exact of_pushed key false data h hsame hsh hv

theorem delete (h : store.Newest xid) (key : String) :
    Writes xid store (store.delete xid key).1 [(key, none)] := by
  rw [PagedRowStore.delete]
  rcases store.pushVersion_cases xid true key ∅ with
    ⟨store', hp, hsame, hsh, -, hv⟩ | ⟨hp, hkey⟩
  · rw [hp]
    exact of_pushed key true ∅ h hsame hsh fun k _ => hv k
  · rw [hp]
    refine ⟨h, rfl, rfl, rfl, fun k _ => ?_⟩
    rw [overlay_singleton, ← readLatest_eq_none hkey, Function.update_eq_self]

theorem foldl {ι : Type*} {f : PagedRowStore → ι → PagedRowStore}
    {g : ι → List (String × Option RowData)}
    (hf : ∀ store i, store.Newest xid → Writes xid store (f store i) (g i))
    (h : store.Newest xid) (is : List ι) : Writes xid store (is.foldl f store) (is.flatMap g) := by
  induction is generalizing store with
  | nil => exact refl h
  | cons i is ih =>
    have hi := hf store i h
    exact hi.trans (ih hi.newest)

theorem beginWriteIntent (h : store.Newest xid) (key : String) :
    Writes xid store ((store.beginWriteIntent xid key).toOption.getD store) [] := by
  rcases store.beginWriteIntent_cases xid key with ⟨other, he⟩ | ⟨-, he⟩ <;> rw [he]
  · exact refl h
  · exact ⟨h, rfl, rfl, rfl, fun _ _ => rfl⟩

end Writes

def Leaves (store : PagedRowStore) (U : String → Prop) (ws : List (String × Option RowData)) :
    Prop :=
  ∀ k, U k → (if k ∈ store.held ws then overlay ws store.readLatest k else none) =
    store.readLatest k

variable {U : String → Prop}

theorem Writes.readLatest_eq_iff (h : Writes xid store store' ws) :
    (∀ k, U k → store'.readLatest k = store.readLatest k) ↔ store.Leaves U ws := by
  simp only [h.readLatest_eq_ite]
  rfl

theorem leaves_nil (store : PagedRowStore) : store.Leaves U [] := by
  intro k _
  split_ifs with hk
  · rfl
  · exact (readLatest_eq_none hk).symm

theorem leaves_iff (hcap : store.maxRowsCap = 0) :
    store.Leaves U ws ↔ ∀ k v, U k → lastWrite ws k = some v → store.readLatest k = v := by
  simp only [Leaves, ite_held_eq_overlay hcap, overlay_eq_base_iff]
  exact forall_congr' fun k => forall_comm

end VngDatabase.Store.PagedRowStore
