import VngDatabase.Paging
import VngDatabase.Versions

/-!
# The multi-version row store

The row store of `crates/voltnuerongrid-store/src/mvcc.rs`: rows spread over pages, each row a chain
of versions stamped with the transaction that wrote them, and a table of write intents.
-/

namespace VngDatabase

open List Option Function

abbrev RowData := Finmap fun _ : String => String

namespace Store

variable {ps : List StorePage} {ps' : List StorePage} (cap : ℕ) (row : MvccRow)

abbrev Xid := ℕ

structure RowVersion where
  xid : Xid
  deleted : Bool
  data : RowData
  deriving DecidableEq

def RowVersion.value (v : RowVersion) : Option RowData := if v.deleted then none else some v.data

structure MvccRow where
  key : String
  versions : List RowVersion
  deriving DecidableEq

namespace MvccRow

/-- It walks backwards through the versions. -/
def visibleAt (snapshotXid : Xid) : Option RowData :=
  (Versions.lastAtMost RowVersion.xid snapshotXid row.versions).bind RowVersion.value

def pushVersion (xid : Xid) (deleted : Bool) (data : RowData) : MvccRow :=
  { row with versions := row.versions ++ [⟨xid, deleted, data⟩] }

end MvccRow

structure StorePage where
  pageId : ℕ
  rows : List MvccRow

def StorePage.findRow (page : StorePage) (key : String) : Option MvccRow :=
  page.rows.find? fun r => r.key = key

def modifyRow (f : MvccRow → MvccRow) (key : String) : List MvccRow → Option (List MvccRow)
  | [] => none
  | r :: rs => if r.key = key then some (f r :: rs) else (modifyRow f key rs).map (r :: ·)

def modifyPages (f : MvccRow → MvccRow) (key : String) : List StorePage → Option (List StorePage)
  | [] => none
  | p :: ps =>
    match modifyRow f key p.rows with
    | some rows => some ({ p with rows := rows } :: ps)
    | none => (modifyPages f key ps).map (p :: ·)

def pushRow (row : MvccRow) : List StorePage → List StorePage
  | [] => []
  | [p] => [{ p with rows := p.rows ++ [row] }]
  | p :: q :: ps => p :: pushRow row (q :: ps)

def totalRowCount (pages : List StorePage) : ℕ := (pages.map fun p => p.rows.length).sum

def evict (cap : ℕ) : List StorePage → List StorePage
  | p :: q :: ps => if cap < totalRowCount (p :: q :: ps) then evict cap (q :: ps) else p :: q :: ps
  | ps => ps

theorem modifyPages_ne_nil {f : MvccRow → MvccRow} {key : String}
    (h : modifyPages f key ps = some ps') : ps' ≠ [] := by
  rintro rfl
  cases ps with
  | nil => simp [modifyPages] at h
  | cons p ps =>
    rw [modifyPages] at h
    split at h
    · simp at h
    · simp at h

theorem pushRow_ne_nil (h : ps ≠ []) : pushRow row ps ≠ [] := by
  rcases ps with _ | ⟨p, _ | ⟨q, ps⟩⟩ <;> simp_all [pushRow]

theorem evict_ne_nil (h : ps ≠ []) : evict cap ps ≠ [] := by
  fun_induction evict cap ps with
  | case1 p q ps hlt ih => exact ih (by simp)
  | case2 p q ps hle => simp
  | case3 ps _ => exact h

section

variable {f : MvccRow → MvccRow} {key : String} {rows : List MvccRow}

theorem modifyRow_append (f : MvccRow → MvccRow) (key : String) (rows rows' : List MvccRow) :
    modifyRow f key (rows ++ rows') =
      match modifyRow f key rows with
      | some x => some (x ++ rows')
      | none => (modifyRow f key rows').map (rows ++ ·) := by
  induction rows with
  | nil =>
    rw [nil_append, modifyRow]
    simp
  | cons r rs ih =>
    rw [cons_append, modifyRow, modifyRow]
    split_ifs
    · rfl
    · rw [ih]
      cases modifyRow f key rs <;> simp [comp_def]

theorem flatMap_modifyPages (f : MvccRow → MvccRow) (key : String) (ps : List StorePage) :
    (modifyPages f key ps).map (List.flatMap StorePage.rows) =
      modifyRow f key (ps.flatMap StorePage.rows) := by
  induction ps with
  | nil => rfl
  | cons p ps ih =>
    rw [modifyPages, flatMap_cons, modifyRow_append, ← ih]
    cases modifyRow f key p.rows with
    | some rows => simp
    | none => cases modifyPages f key ps <;> simp

theorem find?_modifyRow (hf : ∀ r, (f r).key = r.key) {rows' : List MvccRow}
    (h : modifyRow f key rows = some rows') (k : String) :
    rows'.find? (fun r => r.key = k) =
      if k = key then (rows.find? fun r => r.key = k).map f
      else rows.find? fun r => r.key = k := by
  induction rows generalizing rows' with
  | nil => simp [modifyRow] at h
  | cons r rs ih =>
    rw [modifyRow] at h
    split_ifs at h with hr
    · obtain rfl := some.inj h
      subst hr
      rcases eq_or_ne k r.key with rfl | hk
      · simp [hf]
      · simp [hf, hk, hk.symm]
    · obtain ⟨rs', hrs', rfl⟩ := map_eq_some_iff.mp h
      have := ih hrs'
      rcases eq_or_ne r.key k with rfl | hk
      · simp [hr]
      · simp only [find?_cons, hk, decide_false]
        exact this

theorem modifyRow_eq_none_iff :
    modifyRow f key rows = none ↔ rows.find? (fun r => r.key = key) = none := by
  induction rows with
  | nil => simp [modifyRow]
  | cons r rs ih =>
    rw [modifyRow, find?_cons]
    split_ifs with hr
    · simp [hr]
    · simp [hr, ih]

theorem flatMap_pushRow (h : ps ≠ []) :
    (pushRow row ps).flatMap StorePage.rows = ps.flatMap StorePage.rows ++ [row] := by
  induction ps with
  | nil => exact absurd rfl h
  | cons p ps ih =>
    cases ps with
    | nil => simp [pushRow]
    | cons q ps => simp [pushRow, ih]

theorem findSome?_findRow (ps : List StorePage) (k : String) :
    ps.findSome? (·.findRow k) = (ps.flatMap StorePage.rows).find? fun r => r.key = k := by
  induction ps with
  | nil => rfl
  | cons p ps ih =>
    rw [findSome?_cons, flatMap_cons, find?_append, ih, StorePage.findRow]
    cases p.rows.find? fun r => r.key = k <;> rfl

theorem map_key_modifyRow (hf : ∀ r, (f r).key = r.key) {rows' : List MvccRow}
    (h : modifyRow f key rows = some rows') : rows'.map MvccRow.key = rows.map MvccRow.key := by
  induction rows generalizing rows' with
  | nil => simp [modifyRow] at h
  | cons r rs ih =>
    rw [modifyRow] at h
    split_ifs at h with hr
    · obtain rfl := some.inj h
      simp [hf]
    · obtain ⟨rs', hrs', rfl⟩ := map_eq_some_iff.mp h
      rw [map_cons, map_cons, ih hrs']

theorem find?_key_eq_none_iff :
    rows.find? (fun r => r.key = key) = none ↔ key ∉ rows.map MvccRow.key := by
  simp

theorem evict_suffix (ps : List StorePage) : evict cap ps <:+ ps := by
  fun_induction evict cap ps with
  | case1 p q ps hlt ih => exact ih.trans (suffix_cons p _)
  | case2 p q ps hle => exact suffix_rfl
  | case3 ps _ => exact suffix_rfl

end

/-! ### Where the keys lie -/

def StorePage.keys (page : StorePage) : List String := page.rows.map MvccRow.key

theorem map_key_flatMap_rows (ps : List StorePage) :
    (ps.flatMap StorePage.rows).map MvccRow.key = (ps.map StorePage.keys).flatten := by
  rw [map_flatMap, flatMap_def]
  rfl

theorem map_keys_modifyPages {f : MvccRow → MvccRow} {key : String} (hf : ∀ r, (f r).key = r.key)
    (h : modifyPages f key ps = some ps') :
    ps'.map StorePage.keys = ps.map StorePage.keys := by
  induction ps generalizing ps' with
  | nil => simp [modifyPages] at h
  | cons p ps ih =>
    rw [modifyPages] at h
    split at h
    · rename_i rows hrows
      obtain rfl := some.inj h
      rw [map_cons, map_cons, StorePage.keys, StorePage.keys, map_key_modifyRow hf hrows]
    · obtain ⟨ps'', hps, rfl⟩ := map_eq_some_iff.mp h
      rw [map_cons, map_cons, ih hps]

theorem modifyPages_eq_none {f : MvccRow → MvccRow} {key : String}
    (h : modifyPages f key ps = none) : key ∉ (ps.map StorePage.keys).flatten := by
  have hmod := flatMap_modifyPages f key ps
  rw [h, map_none] at hmod
  rw [← map_key_flatMap_rows, ← find?_key_eq_none_iff]
  exact modifyRow_eq_none_iff.mp hmod.symm

theorem map_keys_pushRow (ps : List StorePage) :
    (pushRow row ps).map StorePage.keys = Paging.pushLast row.key (ps.map StorePage.keys) := by
  induction ps with
  | nil => rfl
  | cons p ps ih =>
    cases ps with
    | nil => simp [pushRow, Paging.pushLast, StorePage.keys]
    | cons q ps =>
      rw [pushRow, map_cons, ih]
      rfl

theorem map_keys_evict (ps : List StorePage) :
    (evict cap ps).map StorePage.keys = Paging.evict cap (ps.map StorePage.keys) := by
  fun_induction evict cap ps with
  | case1 p q ps hlt ih =>
    simp only [map_cons] at ih ⊢
    rw [ih, Paging.evict, if_pos]
    simpa [totalRowCount, StorePage.keys, comp_def] using hlt
  | case2 p q ps hle =>
    simp only [map_cons]
    rw [Paging.evict, if_neg]
    simpa [totalRowCount, StorePage.keys, comp_def] using hle
  | case3 ps hps =>
    rcases ps with _ | ⟨p, _ | ⟨q, ps⟩⟩
    · rfl
    · rfl
    · exact absurd rfl (hps p q ps)

/-! ### The store -/

structure PagedRowStore where
  pages : List StorePage
  pageSize : ℕ
  nextPageId : ℕ
  nextXid : Xid
  writeIntents : String → Option Xid
  /-- `0` is no limit. -/
  maxRowsCap : ℕ
  nonempty : pages ≠ []
  distinct : (pages.map StorePage.keys).flatten.Nodup

namespace PagedRowStore

variable (store : PagedRowStore) (xid : Xid) (key : String) (snapshotXid : Xid) (readerXid : Xid)

def new (pageSize : ℕ) : PagedRowStore where
  pages := [⟨0, []⟩]
  pageSize := pageSize
  nextPageId := 1
  nextXid := 1
  writeIntents := fun _ => none
  maxRowsCap := 0
  nonempty := by simp
  distinct := by simp [StorePage.keys]

def maybeEvict : PagedRowStore :=
  if store.maxRowsCap = 0 then store
  else { store with
    pages := evict store.maxRowsCap store.pages
    nonempty := evict_ne_nil _ store.nonempty
    distinct := by
      rw [map_keys_evict]
      exact Paging.nodup_evict _ store.distinct }

def beginXid : PagedRowStore × Xid :=
  ({ store with nextXid := store.nextXid + 1 }, store.nextXid)

def currentXid : Xid := store.nextXid - 1

def ensureTailCapacity : PagedRowStore :=
  if store.pageSize ≤ (store.pages.getLast?.map fun p => p.rows.length).getD 0 then
    { store with
      nextPageId := store.nextPageId + 1
      pages := store.pages ++ [⟨store.nextPageId, []⟩]
      nonempty := by simp
      distinct := by simpa [StorePage.keys] using store.distinct }
  else store

def pushVersion (deleted : Bool) (key : String) (data : RowData) : Option PagedRowStore :=
  match h : modifyPages (·.pushVersion xid deleted data) key store.pages with
  | some pages => some { store with
      pages := pages
      nonempty := modifyPages_ne_nil h
      distinct := by
        rw [map_keys_modifyPages (f := (·.pushVersion xid deleted data)) (fun _ => rfl) h]
        exact store.distinct }
  | none => none

def shelf : List (List String) := store.pages.map StorePage.keys

theorem shelf_ne_nil : store.shelf ≠ [] := by
  simpa [shelf] using store.nonempty

theorem pushVersion_eq_none {store : PagedRowStore} {xid : Xid} {del : Bool} {key : String}
    {data : RowData} (h : store.pushVersion xid del key data = none) :
    key ∉ store.shelf.flatten := by
  rw [pushVersion] at h
  split at h
  · simp at h
  · rename_i hpag
    exact modifyPages_eq_none hpag

theorem shelf_ensureTailCapacity :
    store.ensureTailCapacity.shelf = Paging.makeRoom store.pageSize store.shelf := by
  have hlen : (store.pages.getLast?.map fun p => p.rows.length) =
      store.shelf.getLast?.map length := by
    rw [shelf, List.getLast?_map, Option.map_map]
    simp [StorePage.keys, comp_def]
  rw [ensureTailCapacity, Paging.makeRoom, hlen]
  split_ifs
  · simp [shelf, StorePage.keys]
  · rfl

def pushNew (h : row.key ∉ store.shelf.flatten) : PagedRowStore :=
  { store with
    pages := pushRow row store.pages
    nonempty := pushRow_ne_nil row store.nonempty
    distinct := by
      rw [map_keys_pushRow, ← shelf, Paging.flatten_pushLast _ store.shelf_ne_nil]
      exact List.nodup_append_comm.mp (List.nodup_cons.mpr ⟨h, store.distinct⟩) }

def insert (data : RowData) : PagedRowStore :=
  match h : store.pushVersion xid false key data with
  | some store => store
  | none =>
    let row := (MvccRow.mk key []).pushVersion xid false data
    (store.ensureTailCapacity.pushNew row (by
      rw [shelf_ensureTailCapacity, Paging.flatten_makeRoom]
      exact pushVersion_eq_none h)).maybeEvict

def delete : PagedRowStore × Bool :=
  match store.pushVersion xid true key ∅ with
  | some store => (store, true)
  | none => (store, false)

def readAtSnapshot : Option RowData :=
  (store.pages.findSome? (·.findRow key)).bind (·.visibleAt snapshotXid)

def readLatest : Option RowData :=
  store.readAtSnapshot key (store.nextXid - 1)

/-- Just below the intent of another transaction. -/
def effectiveSnapshot : Xid :=
  match store.writeIntents key with
  | some owner => if owner ≠ readerXid then min snapshotXid (owner - 1) else snapshotXid
  | none => snapshotXid

def readCommitted : Option RowData :=
  store.readAtSnapshot key (store.effectiveSnapshot key snapshotXid readerXid)

/-- Each key once. -/
def scan (snapshot : String → Xid) : List MvccRow → List String → List (String × RowData)
  | [], _ => []
  | r :: rs, seen =>
    if r.key ∈ seen then scan snapshot rs seen
    else match r.visibleAt (snapshot r.key) with
      | some data => (r.key, data) :: scan snapshot rs (r.key :: seen)
      | none => scan snapshot rs seen

def scanAtSnapshot : List (String × RowData) :=
  scan (fun _ => snapshotXid) (store.pages.flatMap StorePage.rows) []

def scanCommitted : List (String × RowData) :=
  scan (store.effectiveSnapshot · snapshotXid readerXid) (store.pages.flatMap StorePage.rows) []

def beginWriteIntent : Except Xid PagedRowStore :=
  match store.writeIntents key with
  | some other =>
    if other ≠ xid then .error other
    else .ok { store with writeIntents := Function.update store.writeIntents key (some xid) }
  | none => .ok { store with writeIntents := Function.update store.writeIntents key (some xid) }

def releaseWriteIntents : PagedRowStore :=
  { store with writeIntents := fun key => (store.writeIntents key).filter (· ≠ xid) }

end PagedRowStore

/-! ### The chain of a key -/

namespace PagedRowStore

variable {store store' : PagedRowStore} {xid snapshotXid : Xid} {key k : String} {deleted : Bool}
  {data : RowData}

def rows (store : PagedRowStore) : List MvccRow := store.pages.flatMap StorePage.rows

/-- **The versions of a key**, oldest first. -/
def versions (store : PagedRowStore) (key : String) : List RowVersion :=
  ((store.rows.find? fun r => r.key = key).map MvccRow.versions).getD []

theorem readAtSnapshot_eq (store : PagedRowStore) (key : String) (x : Xid) :
    store.readAtSnapshot key x =
      (Versions.lastAtMost RowVersion.xid x (store.versions key)).bind
        RowVersion.value := by
  rw [readAtSnapshot, findSome?_findRow, versions, rows]
  cases (store.pages.flatMap StorePage.rows).find? fun r => r.key = key <;> rfl

structure SameBut (store store' : PagedRowStore) : Prop where
  nextXid : store'.nextXid = store.nextXid
  writeIntents : store'.writeIntents = store.writeIntents
  pageSize : store'.pageSize = store.pageSize
  maxRowsCap : store'.maxRowsCap = store.maxRowsCap

theorem SameBut.refl (store : PagedRowStore) : store.SameBut store := ⟨rfl, rfl, rfl, rfl⟩

theorem map_key_rows (store : PagedRowStore) : store.rows.map MvccRow.key = store.shelf.flatten :=
  map_key_flatMap_rows store.pages

theorem find?_rows_eq_none (h : k ∉ store.shelf.flatten) :
    (store.rows.find? fun r => r.key = k) = none := by
  rw [find?_key_eq_none_iff, map_key_rows]
  exact h

theorem versions_eq_nil (h : k ∉ store.shelf.flatten) : store.versions k = [] := by
  rw [versions, find?_rows_eq_none h]
  rfl

theorem pushVersion_cases (store : PagedRowStore) (xid : Xid) (del : Bool) (key : String)
    (data : RowData) :
    (∃ store', store.pushVersion xid del key data = some store' ∧ store.SameBut store' ∧
      store'.shelf = store.shelf ∧ key ∈ store.shelf.flatten ∧ ∀ k, store'.versions k =
        if k = key then store.versions k ++ [⟨xid, del, data⟩] else store.versions k) ∨
    (store.pushVersion xid del key data = none ∧ key ∉ store.shelf.flatten) := by
  have hmod := flatMap_modifyPages (·.pushVersion xid del data) key store.pages
  rw [pushVersion]
  split
  · rename_i pages hpag
    rw [hpag, map_some] at hmod
    have hrow : (store.rows.find? fun r => r.key = key) ≠ none := by
      rw [Ne, ← modifyRow_eq_none_iff (f := (·.pushVersion xid del data)), rows, ← hmod]
      simp
    have hsh := map_keys_modifyPages (f := (·.pushVersion xid del data)) (fun _ => rfl)
      hpag
    refine Or.inl ⟨_, rfl, ⟨rfl, rfl, rfl, rfl⟩, hsh,
      not_imp_comm.mp find?_rows_eq_none hrow, fun k => ?_⟩
    have hfind := find?_modifyRow (f := (·.pushVersion xid del data)) (fun _ => rfl)
      hmod.symm k
    rw [versions, versions, rows, hfind]
    split_ifs with hk
    · subst hk
      obtain ⟨row, hrow⟩ := ne_none_iff_exists'.mp hrow
      rw [hrow, ← rows, hrow]
      rfl
    · rfl
  · rename_i hpag
    exact Or.inr ⟨rfl, modifyPages_eq_none hpag⟩

theorem rows_ensureTailCapacity (store : PagedRowStore) :
    store.ensureTailCapacity.rows = store.rows := by
  rw [ensureTailCapacity]
  split_ifs
  · simp [rows]
  · rfl

theorem sameBut_ensureTailCapacity (store : PagedRowStore) :
    store.SameBut store.ensureTailCapacity := by
  rw [ensureTailCapacity]
  split_ifs <;> exact ⟨rfl, rfl, rfl, rfl⟩

theorem versions_pushNew (store : PagedRowStore) (row : MvccRow)
    (h : row.key ∉ store.shelf.flatten) (k : String) :
    (store.pushNew row h).versions k =
      if k = row.key then row.versions else store.versions k := by
  rw [versions, versions, rows, pushNew, flatMap_pushRow _ store.nonempty, ← rows, find?_append]
  split_ifs with hk
  · rw [hk, find?_rows_eq_none h]
    simp
  · simp [Ne.symm hk]

theorem versions_maybeEvict (h : k ∈ store.maybeEvict.shelf.flatten) :
    store.maybeEvict.versions k = store.versions k := by
  rw [maybeEvict] at h ⊢
  split_ifs at h ⊢
  · rfl
  · obtain ⟨dropped, hdro⟩ := evict_suffix store.maxRowsCap store.pages
    rw [versions, versions, rows, rows]
    dsimp only at h ⊢
    -- the key stays, so it is on none of the pages that are dropped
    have hnot : k ∉ (dropped.map StorePage.keys).flatten := by
      have hdis := store.distinct
      rw [← hdro, map_append, flatten_append] at hdis
      exact fun hk => (disjoint_of_nodup_append hdis) hk h
    rw [← map_key_flatMap_rows, ← find?_key_eq_none_iff] at hnot
    conv_rhs => rw [← hdro, flatMap_append, find?_append, hnot, none_or]

theorem shelf_maybeEvict (store : PagedRowStore) :
    store.maybeEvict.shelf =
      if store.maxRowsCap = 0 then store.shelf else Paging.evict store.maxRowsCap store.shelf := by
  rw [maybeEvict]
  split_ifs
  · rfl
  · exact map_keys_evict _ _

theorem sameBut_maybeEvict (store : PagedRowStore) : store.SameBut store.maybeEvict := by
  rw [maybeEvict]
  split_ifs <;> exact ⟨rfl, rfl, rfl, rfl⟩

theorem shelf_pushNew (store : PagedRowStore) (row : MvccRow) (h : row.key ∉ store.shelf.flatten) :
    (store.pushNew row h).shelf = Paging.pushLast row.key store.shelf :=
  map_keys_pushRow row store.pages

theorem insert_cases (store : PagedRowStore) (xid : Xid) (key : String) (data : RowData) :
    store.SameBut (store.insert xid key data) ∧
    (store.insert xid key data).shelf =
      Paging.place store.pageSize store.maxRowsCap store.shelf key ∧
    ∀ k ∈ (store.insert xid key data).shelf.flatten, (store.insert xid key data).versions k =
      if k = key then store.versions k ++ [⟨xid, false, data⟩] else store.versions k := by
  unfold insert
  split
  · rename_i store' hp
    rcases store.pushVersion_cases xid false key data with
      ⟨store'', hp', hsame, hsh, hmem, hv⟩ | ⟨hp', -⟩
    · obtain rfl := some.inj (hp.symm.trans hp')
      exact ⟨hsame, by rw [hsh, Paging.place, if_pos hmem], fun k _ => hv k⟩
    · exact absurd (hp.symm.trans hp') (by simp)
  · rename_i hp
    have hkey := pushVersion_eq_none hp
    have htail := store.sameBut_ensureTailCapacity
    dsimp only
    generalize_proofs hnew
    have hsame := sameBut_maybeEvict (store.ensureTailCapacity.pushNew _ hnew)
    refine ⟨⟨hsame.nextXid.trans htail.nextXid, hsame.writeIntents.trans htail.writeIntents,
      hsame.pageSize.trans htail.pageSize, hsame.maxRowsCap.trans htail.maxRowsCap⟩, ?_,
      fun k hk => ?_⟩
    · have hcap : (store.ensureTailCapacity.pushNew _ hnew).maxRowsCap = store.maxRowsCap :=
        htail.maxRowsCap
      rw [shelf_maybeEvict, shelf_pushNew, shelf_ensureTailCapacity, hcap, Paging.place,
        if_neg hkey]
      rfl
    · rw [versions_maybeEvict hk, versions_pushNew]
      have hv : store.ensureTailCapacity.versions k = store.versions k := by
        rw [versions, versions, rows_ensureTailCapacity]
      rw [hv]
      refine ite_congr rfl (fun hk => ?_) fun _ => rfl
      rw [versions_eq_nil (hk ▸ hkey)]
      rfl

theorem insert_spec (hcap : store.maxRowsCap = 0) (xid : Xid) (key : String) (data : RowData) :
    store.SameBut (store.insert xid key data) ∧ ∀ k, (store.insert xid key data).versions k =
      if k = key then store.versions k ++ [⟨xid, false, data⟩] else store.versions k := by
  obtain ⟨hsame, hsh, hv⟩ := store.insert_cases xid key data
  refine ⟨hsame, fun k => ?_⟩
  by_cases hk : k ∈ (store.insert xid key data).shelf.flatten
  · exact hv k hk
  · rw [versions_eq_nil hk]
    rw [hsh, hcap, Paging.mem_place_iff store.shelf_ne_nil, not_or] at hk
    rw [if_neg hk.1, versions_eq_nil hk.2]

theorem delete_spec (store : PagedRowStore) (xid : Xid) (key : String) :
    store.SameBut (store.delete xid key).1 ∧ ∀ k, (store.delete xid key).1.versions k =
      if k = key ∧ (store.delete xid key).2 then store.versions k ++ [⟨xid, true, ∅⟩]
      else store.versions k := by
  rcases store.pushVersion_cases xid true key ∅ with ⟨store', hp, hsame, -, -, hv⟩ | ⟨hp, -⟩
  · rw [delete, hp]
    simpa using ⟨hsame, hv⟩
  · rw [delete, hp]
    simpa using SameBut.refl store

theorem beginWriteIntent_cases (store : PagedRowStore) (xid : Xid) (key : String) :
    (∃ other, store.beginWriteIntent xid key = .error other) ∨
    ((∀ o ∈ store.writeIntents key, o = xid) ∧ store.beginWriteIntent xid key = .ok { store with
        writeIntents := Function.update store.writeIntents key (some xid) }) := by
  rw [beginWriteIntent]
  split
  · rename_i other hoth
    split_ifs with hne
    · exact Or.inl ⟨other, rfl⟩
    · refine Or.inr ⟨?_, rfl⟩
      simpa [hoth] using hne
  · rename_i hnone
    exact Or.inr ⟨by simp [hnone], rfl⟩

end PagedRowStore

end Store

end VngDatabase
