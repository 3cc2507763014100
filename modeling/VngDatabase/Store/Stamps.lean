import VngDatabase.Store.View

/-!
# Which transaction wrote a row

Versions are stamped with the identifier of their transaction, and identifiers are handed out in
order, so none is stamped with one that is still to come (`PagedRowStore.Stamped`).
-/

namespace VngDatabase.Store.PagedRowStore

open Overlay List

variable {store store' store'' : PagedRowStore} {xid xid' : Xid} {key k : String} {data : RowData}
  {ws ws' : List (String × Option RowData)}

/-! ### No version from the future -/

/-- **No version has a stamp that is still to come.** -/
def Stamped (store : PagedRowStore) : Prop :=
  ∀ k, ∀ v ∈ store.versions k, v.xid < store.nextXid

theorem stamped_new (sz : ℕ) : (new sz).Stamped := by
  intro k v hv
  simp [new, versions, rows] at hv

theorem Stamped.readLatest_beginXid (h : store.Stamped) :
    store.beginXid.1.readLatest = store.readLatest := by
  funext k
  have hlast : Versions.lastAtMost RowVersion.xid store.nextXid (store.versions k) =
      Versions.lastAtMost RowVersion.xid (store.nextXid - 1) (store.versions k) :=
    Versions.lastAtMost_congr fun v hv => by
      have := h k v hv
      grind
  rw [readLatest, readLatest, readAtSnapshot_eq, readAtSnapshot_eq, ← hlast]
  rfl

theorem Stamped.beginXid (h : store.Stamped) : store.beginXid.1.Stamped :=
  fun k v hv => (h k v hv).trans (Nat.lt_succ_self _)

theorem Stamped.of_versions (h : store.Stamped) (hnext : store'.nextXid = store.nextXid)
    (hv : ∀ k ∈ store'.shelf.flatten, ∀ v ∈ store'.versions k,
      v ∈ store.versions k ∨ v.xid < store.nextXid) : store'.Stamped := by
  intro k v hmem
  rw [hnext]
  by_cases hk : k ∈ store'.shelf.flatten
  · exact (hv k hk v hmem).elim (h k v) id
  · rw [versions_eq_nil hk] at hmem
    simp at hmem

theorem Stamped.insert (h : store.Stamped) (hxid : xid < store.nextXid) (key : String)
    (data : RowData) : (store.insert xid key data).Stamped := by
  obtain ⟨hsame, -, hv⟩ := store.insert_cases xid key data
  refine h.of_versions hsame.nextXid ?_
  intro k hk v hmem
  rw [hv k hk] at hmem
  split_ifs at hmem
  · rcases mem_append.mp hmem with hmem | hmem
    · exact Or.inl hmem
    · exact Or.inr (mem_singleton.mp hmem ▸ hxid)
  · exact Or.inl hmem

theorem Stamped.delete (h : store.Stamped) (hxid : xid < store.nextXid) (key : String) :
    (store.delete xid key).1.Stamped := by
  obtain ⟨hsame, hv⟩ := store.delete_spec xid key
  refine h.of_versions hsame.nextXid ?_
  intro k _ v hmem
  rw [hv k] at hmem
  split_ifs at hmem
  · rcases mem_append.mp hmem with hmem | hmem
    · exact Or.inl hmem
    · exact Or.inr (mem_singleton.mp hmem ▸ hxid)
  · exact Or.inl hmem

theorem Stamped.beginWriteIntent (h : store.Stamped) (xid : Xid) (key : String) :
    ((store.beginWriteIntent xid key).toOption.getD store).Stamped := by
  rcases store.beginWriteIntent_cases xid key with ⟨other, he⟩ | ⟨-, he⟩ <;> rw [he] <;> exact h

theorem newest_beginXid (store : PagedRowStore) : store.beginXid.1.Newest store.nextXid := rfl

theorem Writes.of_beginXid (h : Writes xid store.beginXid.1 store' ws) (hs : store.Stamped) :
    Writes xid store store' ws :=
  ⟨h.newest, h.pageSize, h.maxRowsCap, h.shelf, fun k hk => by
    rw [h.readLatest k hk, hs.readLatest_beginXid]⟩

def wasModifiedAfter (store : PagedRowStore) (key : String) (sinceXid : Xid) : Bool :=
  (store.pages.findSome? (·.findRow key)).any fun row => row.versions.any fun v => sinceXid < v.xid

theorem wasModifiedAfter_iff {sinceXid : Xid} :
    store.wasModifiedAfter key sinceXid ↔ ∃ v ∈ store.versions key, sinceXid < v.xid := by
  rw [wasModifiedAfter, findSome?_findRow, versions, rows]
  cases (store.pages.flatMap StorePage.rows).find? fun r => r.key = key <;> simp

theorem Stamped.wasModifiedAfter_currentXid (h : store.Stamped) (key : String) :
    store.wasModifiedAfter key store.currentXid = false := by
  rw [Bool.eq_false_iff, Ne, wasModifiedAfter_iff]
  rintro ⟨v, hv, hlt⟩
  have hv := h key v hv
  rw [currentXid] at hlt
  exact absurd (Nat.le_sub_one_of_lt hv) (not_le.mpr hlt)

def MarkedBy (store : PagedRowStore) (xid : Xid) (k : String) : Prop :=
  ∃ v ∈ store.versions k, v.xid = xid

/-- **The keys written are marked**, where they are held. -/
def Marks (xid : Xid) (store store' : PagedRowStore) (ws : List (String × Option RowData)) : Prop :=
  ∀ k ∈ store'.shelf.flatten, store'.MarkedBy xid k ↔ store.MarkedBy xid k ∨ ∃ w ∈ ws, w.1 = k

namespace Marks

theorem refl (xid : Xid) (store : PagedRowStore) : Marks xid store store [] := by
  intro k _
  simp

theorem trans (h : Marks xid store store' ws) (h' : Marks xid store' store'' ws')
    (hw : Writes xid store' store'' ws') : Marks xid store store'' (ws ++ ws') := by
  intro k hk
  rw [h' k hk]
  by_cases hk' : k ∈ store'.shelf.flatten
  · rw [h k hk', or_assoc]
    simp only [mem_append, or_and_right, exists_or]
  · -- the second list has put the key where it is
    rw [hw.shelf] at hk
    have hput : ∃ w ∈ ws', w.1 = k := by
      by_contra hno
      refine lastWrite_ne_none ((Paging.mem_placeAll store'.shelf_ne_nil hk).resolve_right hk') ?_
      exact lastWrite_eq_none fun w hw hwk => hno ⟨w, hw, hwk⟩
    obtain ⟨w, hw, hwk⟩ := hput
    exact iff_of_true (Or.inr ⟨w, hw, hwk⟩) (Or.inr ⟨w, mem_append_right _ hw, hwk⟩)

theorem of_pushed (key : String) (del : Bool) (data : RowData) (value : Option RowData)
    (hv : ∀ k ∈ store'.shelf.flatten, store'.versions k =
      if k = key then store.versions k ++ [⟨xid, del, data⟩] else store.versions k) :
    Marks xid store store' [(key, value)] := by
  intro k hk
  simp only [MarkedBy, hv k hk, mem_singleton, exists_eq_left]
  split_ifs with hkey
  · exact iff_of_true ⟨_, mem_append_right _ (mem_singleton_self _), rfl⟩
      (Or.inr hkey.symm)
  · exact (or_iff_left (Ne.symm hkey)).symm

theorem insert (xid : Xid) (store : PagedRowStore) (key : String) (data : RowData) :
    Marks xid store (store.insert xid key data) [(key, some data)] :=
  of_pushed key false data _ (store.insert_cases xid key data).2.2

theorem delete (xid : Xid) (store : PagedRowStore) (key : String) :
    Marks xid store (store.delete xid key).1 [(key, none)] := by
  rw [PagedRowStore.delete]
  rcases store.pushVersion_cases xid true key ∅ with ⟨store', hp, -, -, -, hv⟩ | ⟨hp, hkey⟩
  · rw [hp]
    exact of_pushed key true ∅ _ fun k _ => hv k
  · rw [hp]
    intro k hk
    simp only [mem_singleton, exists_eq_left]
    refine (or_iff_left ?_).symm
    rintro rfl
    exact hkey hk

theorem beginWriteIntent (xid : Xid) (store : PagedRowStore) (key : String) :
    Marks xid store ((store.beginWriteIntent xid key).toOption.getD store) [] := by
  rcases store.beginWriteIntent_cases xid key with ⟨other, he⟩ | ⟨-, he⟩ <;> rw [he] <;>
    exact refl xid store

end Marks

end VngDatabase.Store.PagedRowStore
