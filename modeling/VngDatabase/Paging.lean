import Mathlib

/-!
# Pages of keys

A bounded store that puts new keys on its last page and forgets its first pages. A key that is
already there stays where it is (`place`).
-/

namespace VngDatabase.Paging

open List Option

variable {κ : Type*}

def pushLast (key : κ) : List (List κ) → List (List κ)
  | [] => []
  | [p] => [p ++ [key]]
  | p :: q :: ps => p :: pushLast key (q :: ps)

def makeRoom (pageSize : ℕ) (ps : List (List κ)) : List (List κ) :=
  if pageSize ≤ (ps.getLast?.map List.length).getD 0 then ps ++ [[]] else ps

def evict (cap : ℕ) : List (List κ) → List (List κ)
  | p :: q :: ps =>
    if cap < ((p :: q :: ps).map List.length).sum then evict cap (q :: ps) else p :: q :: ps
  | ps => ps

variable [DecidableEq κ]

/-- A bound of `0` is none. -/
def place (pageSize cap : ℕ) (ps : List (List κ)) (key : κ) : List (List κ) :=
  if key ∈ ps.flatten then ps
  else if cap = 0 then pushLast key (makeRoom pageSize ps)
  else evict cap (pushLast key (makeRoom pageSize ps))

def placeAll (pageSize cap : ℕ) (ps : List (List κ)) (keys : List κ) : List (List κ) :=
  keys.foldl (place pageSize cap) ps

section

variable {ps : List (List κ)} (cap : ℕ)

omit [DecidableEq κ]

theorem flatten_pushLast (key : κ) (h : ps ≠ []) :
    (pushLast key ps).flatten = ps.flatten ++ [key] := by
  induction ps with
  | nil => exact absurd rfl h
  | cons p ps ih =>
    cases ps with
    | nil => simp [pushLast]
    | cons q ps => simp [pushLast, ih]

theorem makeRoom_ne_nil (sz : ℕ) (h : ps ≠ []) : makeRoom sz ps ≠ [] := by
  rw [makeRoom]
  split_ifs
  · simp
  · exact h

theorem flatten_makeRoom (sz : ℕ) (ps : List (List κ)) :
    (makeRoom sz ps).flatten = ps.flatten := by
  rw [makeRoom]
  split_ifs <;> simp

theorem evict_suffix (ps : List (List κ)) : evict cap ps <:+ ps := by
  fun_induction evict cap ps with
  | case1 p q ps _ ih => exact ih.trans (suffix_cons p _)
  | case2 p q ps _ => exact suffix_rfl
  | case3 ps _ => exact suffix_rfl

theorem nodup_evict (h : ps.flatten.Nodup) : (evict cap ps).flatten.Nodup := by
  obtain ⟨ps', hps⟩ := evict_suffix cap ps
  rw [← hps, flatten_append] at h
  exact (nodup_append.mp h).2.1

theorem pushLast_ne_nil (key : κ) (h : ps ≠ []) : pushLast key ps ≠ [] := by
  rcases ps with _ | ⟨p, _ | ⟨q, ps⟩⟩ <;> simp_all [pushLast]

theorem evict_ne_nil (h : ps ≠ []) : evict cap ps ≠ [] := by
  fun_induction evict cap ps with
  | case1 p q ps _ ih => exact ih (by simp)
  | case2 p q ps _ => simp
  | case3 ps _ => exact h

end

variable {pageSize cap : ℕ} {ps : List (List κ)} {key k : κ} {keys : List κ}

theorem place_ne_nil (h : ps ≠ []) : place pageSize cap ps key ≠ [] := by
  rw [place]
  split_ifs
  · exact h
  · exact pushLast_ne_nil key (makeRoom_ne_nil pageSize h)
  · exact evict_ne_nil cap (pushLast_ne_nil key (makeRoom_ne_nil pageSize h))

theorem mem_place (h : ps ≠ []) (hk : k ∈ (place pageSize cap ps key).flatten) :
    k = key ∨ k ∈ ps.flatten := by
  have hpush : (pushLast key (makeRoom pageSize ps)).flatten = ps.flatten ++ [key] := by
    rw [flatten_pushLast key (makeRoom_ne_nil pageSize h), flatten_makeRoom]
  rw [place] at hk
  split_ifs at hk
  · exact Or.inr hk
  · rw [hpush] at hk
    simpa [or_comm] using hk
  · obtain ⟨page, hpage, hk⟩ := mem_flatten.mp hk
    have hk := mem_flatten.mpr ⟨page, (evict_suffix cap _).subset hpage, hk⟩
    rw [hpush] at hk
    simpa [or_comm] using hk

theorem mem_place_iff (h : ps ≠ []) :
    k ∈ (place pageSize 0 ps key).flatten ↔ k = key ∨ k ∈ ps.flatten := by
  constructor
  · exact mem_place h
  · intro hk
    rw [place, if_pos rfl]
    split_ifs with hkey
    · rcases hk with rfl | hk
      · exact hkey
      · exact hk
    · rw [flatten_pushLast key (makeRoom_ne_nil pageSize h), flatten_makeRoom]
      simpa [or_comm] using hk

theorem mem_placeAll (h : ps ≠ [])
    (hk : k ∈ (placeAll pageSize cap ps keys).flatten) : k ∈ keys ∨ k ∈ ps.flatten := by
  induction keys generalizing ps with
  | nil => exact Or.inr hk
  | cons key keys ih =>
    rcases ih (place_ne_nil h) hk with hk | hk
    · exact Or.inl (mem_cons_of_mem _ hk)
    · rcases mem_place h hk with rfl | hk
      · exact Or.inl mem_cons_self
      · exact Or.inr hk

theorem mem_placeAll_iff (h : ps ≠ []) :
    k ∈ (placeAll pageSize 0 ps keys).flatten ↔ k ∈ keys ∨ k ∈ ps.flatten := by
  induction keys generalizing ps with
  | nil => simp [placeAll]
  | cons key keys ih =>
    rw [placeAll, foldl_cons, ← placeAll, ih (place_ne_nil h), mem_place_iff h, mem_cons]
    tauto

/-! ### Full pages -/

def Packed (pageSize : ℕ) : List (List κ) → Prop
  | [] => True
  | [p] => p.length ≤ pageSize
  | p :: q :: ps => p.length = pageSize ∧ Packed pageSize (q :: ps)

/-- **A key that is not there finds room.** -/
def HasRoom (pageSize cap : ℕ) (ps : List (List κ)) : Prop :=
  cap = 0 ∨ ps.flatten.length < max cap pageSize

section

omit [DecidableEq κ]

theorem Packed.length_le {p : List κ} (h : Packed pageSize ps) (hp : p ∈ ps) :
    p.length ≤ pageSize := by
  fun_induction Packed pageSize ps with
  | case1 => cases hp
  | case2 q => exact mem_singleton.mp hp ▸ h
  | case3 q r ps ih =>
    rcases mem_cons.mp hp with rfl | hp
    · exact h.1.le
    · exact ih h.2 hp

theorem Packed.evict (h : Packed pageSize ps) (cap : ℕ) : Packed pageSize (evict cap ps) := by
  fun_induction Paging.evict cap ps with
  | case1 p q ps _ ih => exact ih h.2
  | case2 p q ps _ => exact h
  | case3 ps _ => exact h

theorem Packed.length_evict_le (h : Packed pageSize ps) (cap : ℕ) :
    (Paging.evict cap ps).flatten.length ≤ max cap pageSize := by
  fun_induction Paging.evict cap ps with
  | case1 p q ps _ ih => exact ih h.2
  | case2 p q ps hle =>
    rw [length_flatten]
    exact le_max_iff.mpr (Or.inl (not_lt.mp hle))
  | case3 ps hps =>
    rcases ps with _ | ⟨p, _ | ⟨q, ps⟩⟩
    · simp
    · exact le_max_iff.mpr (Or.inr (by simpa [Packed] using h))
    · exact absurd rfl (hps p q ps)

theorem pushLast_makeRoom_cons (key : κ) (p q : List κ) (ps : List (List κ)) :
    pushLast key (makeRoom pageSize (p :: q :: ps)) =
      p :: pushLast key (makeRoom pageSize (q :: ps)) := by
  have hroom : makeRoom pageSize (p :: q :: ps) = p :: makeRoom pageSize (q :: ps) := by
    rw [makeRoom, makeRoom, getLast?_cons_cons]
    split_ifs <;> rfl
  obtain ⟨r, rs, hr⟩ := exists_cons_of_ne_nil
    (makeRoom_ne_nil pageSize (cons_ne_nil q ps))
  rw [hroom, hr, pushLast]

theorem Packed.pushLast (h : Packed pageSize ps) (hsize : 0 < pageSize) (key : κ) :
    Packed pageSize (pushLast key (makeRoom pageSize ps)) := by
  fun_induction Packed pageSize ps with
  | case1 =>
    rw [makeRoom, if_neg (by simpa using hsize.ne')]
    trivial
  | case2 p =>
    rw [makeRoom, getLast?_singleton, map_some, getD_some]
    split_ifs with hfull
    · exact ⟨le_antisymm h hfull, hsize⟩
    · simpa [Paging.pushLast, Packed] using Nat.succ_le_of_lt (not_le.mp hfull)
  | case3 p q ps ih =>
    rw [pushLast_makeRoom_cons]
    have htail := ih h.2
    obtain ⟨r, rs, hr⟩ := exists_cons_of_ne_nil
      (pushLast_ne_nil key (makeRoom_ne_nil pageSize (cons_ne_nil q ps)))
    rw [hr] at htail ⊢
    exact ⟨h.1, htail⟩

theorem evict_of_le (h : ps.flatten.length ≤ cap) : evict cap ps = ps := by
  rcases ps with _ | ⟨p, _ | ⟨q, ps⟩⟩
  · rfl
  · rfl
  · rw [evict, if_neg (not_lt.mpr (length_flatten ▸ h))]

theorem getLast_mem_evict (cap : ℕ) (h : ps ≠ []) : ps.getLast h ∈ evict cap ps := by
  obtain ⟨dropped, hdro⟩ := evict_suffix cap ps
  have hne := evict_ne_nil cap h
  have hlast : ps.getLast? = (evict cap ps).getLast? := by
    conv_lhs => rw [← hdro, getLast?_append_of_ne_nil _ hne]
  rw [getLast?_eq_some_getLast h, getLast?_eq_some_getLast hne] at hlast
  exact some.inj hlast ▸ getLast_mem hne

theorem mem_getLast_pushLast (key : κ) (h : ps ≠ []) :
    key ∈ (pushLast key ps).getLast (pushLast_ne_nil key h) := by
  induction ps with
  | nil => exact absurd rfl h
  | cons p ps ih =>
    cases ps with
    | nil => simp [pushLast]
    | cons q ps =>
      have hne := pushLast_ne_nil key (cons_ne_nil q ps)
      simp only [pushLast, getLast_cons hne]
      exact ih (cons_ne_nil q ps)

end

theorem flatten_place_of_hasRoom (h : ps ≠ []) (hpk : Packed pageSize ps)
    (hroom : HasRoom pageSize cap ps) (hkey : key ∉ ps.flatten) :
    (place pageSize cap ps key).flatten = ps.flatten ++ [key] := by
  have hpush : (pushLast key (makeRoom pageSize ps)).flatten = ps.flatten ++ [key] := by
    rw [flatten_pushLast key (makeRoom_ne_nil pageSize h), flatten_makeRoom]
  rw [place, if_neg hkey]
  split_ifs with hcap
  · exact hpush
  · rcases lt_max_iff.mp (hroom.resolve_left hcap) with hlt | hlt
    · rw [evict_of_le, hpush]
      rw [hpush, length_append, length_singleton]
      exact hlt
    · -- the keys fit on one page, so there is only one
      rcases ps with _ | ⟨p, _ | ⟨q, ps⟩⟩
      · exact absurd rfl h
      · have hlen : ¬pageSize ≤ p.length := by simpa using hlt
        simp [makeRoom, hlen, pushLast, evict]
      · rw [flatten_cons, length_append, hpk.1] at hlt
        omega

theorem mem_place_self (h : ps ≠ []) : key ∈ (place pageSize cap ps key).flatten := by
  have hlast := mem_getLast_pushLast key (makeRoom_ne_nil pageSize h)
  rw [place]
  split_ifs with hkey hcap
  · exact hkey
  · exact mem_flatten.mpr ⟨_, getLast_mem _, hlast⟩
  · exact mem_flatten.mpr ⟨_, getLast_mem_evict cap _, hlast⟩

theorem Packed.place (h : Packed pageSize ps) (hsize : 0 < pageSize) (cap : ℕ) (key : κ) :
    Packed pageSize (place pageSize cap ps key) := by
  rw [Paging.place]
  split_ifs
  · exact h
  · exact h.pushLast hsize key
  · exact (h.pushLast hsize key).evict cap

theorem Packed.length_place_le (h : Packed pageSize ps) (hsize : 0 < pageSize) (hcap : cap ≠ 0)
    (hkey : key ∉ ps.flatten) :
    (Paging.place pageSize cap ps key).flatten.length ≤ max cap pageSize := by
  rw [Paging.place, if_neg hkey, if_neg hcap]
  exact (h.pushLast hsize key).length_evict_le cap

theorem subset_place_iff (h : ps ≠ []) (hsize : 0 < pageSize) (hpk : Packed pageSize ps)
    (hnd : ps.flatten.Nodup) :
    ps.flatten ⊆ (place pageSize cap ps key).flatten ↔
      key ∈ ps.flatten ∨ HasRoom pageSize cap ps := by
  by_cases hkey : key ∈ ps.flatten
  · rw [place, if_pos hkey]
    exact iff_of_true (List.Subset.refl _) (Or.inl hkey)
  rw [or_iff_right hkey]
  constructor
  · intro hsub
    refine or_iff_not_imp_left.mpr fun hcap => ?_
    -- the key takes a place of its own
    have hall : key :: ps.flatten ⊆ (place pageSize cap ps key).flatten :=
      cons_subset.mpr ⟨mem_place_self h, hsub⟩
    have hle := ((nodup_cons.mpr ⟨hkey, hnd⟩).subperm hall).length_le
    exact hle.trans (hpk.length_place_le hsize hcap hkey)
  · intro hroom
    rw [flatten_place_of_hasRoom h hpk hroom hkey]
    exact subset_append_left _ _

theorem flatten_placeAll (h : ps ≠ []) (hsize : 0 < pageSize) (hpk : Packed pageSize ps)
    (hroom : cap = 0 ∨ ps.flatten.length + keys.length ≤ max cap pageSize)
    (hnd : (ps.flatten ++ keys).Nodup) :
    (placeAll pageSize cap ps keys).flatten = ps.flatten ++ keys := by
  induction keys generalizing ps with
  | nil => exact (append_nil _).symm
  | cons key keys ih =>
    have hkey : key ∉ ps.flatten := fun hmem =>
      (disjoint_of_nodup_append hnd) hmem mem_cons_self
    have hpla := flatten_place_of_hasRoom h hpk (hroom.imp_right fun hle => by
      rw [length_cons] at hle
      omega) hkey
    have happ : ps.flatten ++ key :: keys = (place pageSize cap ps key).flatten ++ keys := by
      rw [hpla, append_assoc, singleton_append]
    rw [placeAll, foldl_cons, ← placeAll,
      ih (place_ne_nil h) (hpk.place hsize cap key) ?_ (happ ▸ hnd), happ]
    refine hroom.imp_right fun hle => ?_
    rw [hpla, length_append, length_singleton]
    rw [length_cons] at hle
    omega

theorem Packed.placeAll (h : Packed pageSize ps) (hsize : 0 < pageSize) (cap : ℕ)
    (keys : List κ) : Packed pageSize (placeAll pageSize cap ps keys) := by
  induction keys generalizing ps with
  | nil => exact h
  | cons key keys ih => exact ih (h.place hsize cap key)

theorem Packed.length_placeAll_le (h : Packed pageSize ps) (hsize : 0 < pageSize) (hcap : cap ≠ 0)
    (hle : ps.flatten.length ≤ max cap pageSize) (keys : List κ) :
    (Paging.placeAll pageSize cap ps keys).flatten.length ≤ max cap pageSize := by
  induction keys generalizing ps with
  | nil => exact hle
  | cons key keys ih =>
    refine ih (h.place hsize cap key) ?_
    by_cases hkey : key ∈ ps.flatten
    · rwa [Paging.place, if_pos hkey]
    · exact h.length_place_le hsize hcap hkey

/-- **All keys are held iff** there is no bound, or they fit into it or on one page. -/
theorem subset_placeAll_iff (hsize : 0 < pageSize) (hnd : keys.Nodup) :
    keys ⊆ (placeAll pageSize cap [[]] keys).flatten ↔
      cap = 0 ∨ keys.length ≤ max cap pageSize := by
  have hpk : Packed pageSize [([] : List κ)] := Nat.zero_le _
  constructor
  · intro hsub
    refine or_iff_not_imp_left.mpr fun hcap => ?_
    exact (hnd.subperm hsub).length_le.trans
      (hpk.length_placeAll_le hsize hcap (Nat.zero_le _) keys)
  · intro hroom
    rw [flatten_placeAll (cons_ne_nil _ _) hsize hpk (by simpa using hroom)
      (by simpa using hnd)]
    exact subset_append_right _ _

omit [DecidableEq κ] in
theorem existsUnique_place (hnd : ps.flatten.Nodup) (hk : k ∈ ps.flatten) :
    ∃! at_ : ℕ × ℕ, ∃ p, ps[at_.1]? = some p ∧ p[at_.2]? = some k := by
  obtain ⟨hpag, hdis⟩ := List.nodup_flatten.mp hnd
  obtain ⟨p, hp, hkp⟩ := List.mem_flatten.mp hk
  obtain ⟨i, hi⟩ := List.mem_iff_getElem?.mp hp
  obtain ⟨j, hj⟩ := List.mem_iff_getElem?.mp hkp
  refine ⟨(i, j), ⟨p, hi, hj⟩, ?_⟩
  rintro ⟨i', j'⟩ ⟨q, hi' : ps[i']? = some q, hj' : q[j']? = some k⟩
  obtain rfl : i' = i := by
    by_contra hne
    obtain ⟨hlt, rfl⟩ := List.getElem?_eq_some_iff.mp hi
    obtain ⟨hlt', rfl⟩ := List.getElem?_eq_some_iff.mp hi'
    have hkq := List.mem_of_getElem? hj'
    rcases lt_or_gt_of_ne hne with hij | hij
    · exact List.pairwise_iff_getElem.mp hdis i' i hlt' hlt hij hkq hkp
    · exact List.pairwise_iff_getElem.mp hdis i i' hlt hlt' hij hkp hkq
  obtain rfl := Option.some.inj (hi.symm.trans hi')
  have hlt := (List.getElem?_eq_some_iff.mp hj').1
  rw [(List.getElem?_inj hlt (hpag p hp)).mp (hj'.trans hj.symm)]

end VngDatabase.Paging
