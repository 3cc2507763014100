import Mathlib

/-!
# Lists of writes

A list of writes to keys, seen as the change it makes to what the keys show. The last write to a key
wins (`lastWrite`, `overlay`).
-/

namespace VngDatabase.Overlay

open List Option Function

variable {κ α : Type*} [DecidableEq κ]

def lastWrite : List (κ × α) → κ → Option α
  | [], _ => none
  | w :: ws, k => (lastWrite ws k).or (if w.1 = k then some w.2 else none)

/-- **What the keys show after the writes.** -/
def overlay (ws : List (κ × α)) (base : κ → α) (k : κ) : α := (lastWrite ws k).getD (base k)

variable {ws ws' : List (κ × α)} {base : κ → α} {k : κ} {v : α} {U : κ → Prop} {κ' : Type*}

theorem lastWrite_append (ws ws' : List (κ × α)) (k : κ) :
    lastWrite (ws ++ ws') k = (lastWrite ws' k).or (lastWrite ws k) := by
  induction ws with
  | nil => simp [lastWrite]
  | cons w ws ih => rw [List.cons_append, lastWrite, ih, lastWrite, Option.or_assoc]

theorem overlay_append (ws ws' : List (κ × α)) (base : κ → α) :
    overlay (ws ++ ws') base = overlay ws' (overlay ws base) := by
  funext k
  rw [overlay, lastWrite_append, overlay, overlay]
  cases lastWrite ws' k <;> rfl

theorem overlay_singleton (w : κ × α) (base : κ → α) :
    overlay [w] base = Function.update base w.1 w.2 := by
  funext k
  rw [overlay, lastWrite, lastWrite, none_or, update_apply]
  simp only [eq_comm (a := k)]
  split_ifs <;> rfl

theorem overlay_of_lastWrite (h : lastWrite ws k = some v) : overlay ws base k = v := by
  rw [overlay, h, getD_some]

theorem overlay_apply_eq_iff :
    overlay ws base k = v ↔ lastWrite ws k = some v ∨ lastWrite ws k = none ∧ base k = v := by
  rw [overlay]
  cases lastWrite ws k <;> simp

theorem overlay_eq_base_iff :
    overlay ws base k = base k ↔ ∀ v, lastWrite ws k = some v → base k = v := by
  rw [overlay]
  cases lastWrite ws k <;> simp [eq_comm]

theorem lastWrite_eq_none (h : ∀ w ∈ ws, w.1 ≠ k) : lastWrite ws k = none := by
  induction ws with
  | nil => rfl
  | cons w ws ih =>
    rw [forall_mem_cons] at h
    rw [lastWrite, ih h.2, if_neg h.1, none_or]

theorem overlay_map_const (v : α) (l : List κ) (base : κ → α) (k : κ) :
    overlay (l.map fun k => (k, v)) base k = if k ∈ l then v else base k := by
  induction l generalizing base with
  | nil => rfl
  | cons k' l ih =>
    rw [map_cons, ← singleton_append, overlay_append, ih, overlay_singleton, update_apply]
    simp only [mem_cons]
    split_ifs <;> simp_all

theorem lastWrite_map_key [DecidableEq κ'] {f : κ → κ'} (hf : Function.Injective f)
    (ws : List (κ × α)) (k : κ) :
    lastWrite (ws.map fun w => (f w.1, w.2)) (f k) = lastWrite ws k := by
  induction ws with
  | nil => rfl
  | cons w ws ih => simp only [map_cons, lastWrite, ih, hf.eq_iff]

theorem lastWrite_map_snd {β : Type*} (f : α → β) (ws : List (κ × α)) (k : κ) :
    lastWrite (ws.map fun w => (w.1, f w.2)) k = (lastWrite ws k).map f := by
  induction ws with
  | nil => rfl
  | cons w ws ih =>
    rw [map_cons, lastWrite, ih, lastWrite]
    cases lastWrite ws k with
    | none => split_ifs <;> rfl
    | some v => rfl

theorem overlay_map_snd {β : Type*} (f : α → β) (ws : List (κ × α)) (base : κ → α) (k : κ) :
    overlay (ws.map fun w => (w.1, f w.2)) (fun k => f (base k)) k = f (overlay ws base k) := by
  rw [overlay, lastWrite_map_snd, overlay, Option.getD_map]

theorem mem_of_lastWrite (h : lastWrite ws k = some v) : (k, v) ∈ ws := by
  induction ws with
  | nil => simp [lastWrite] at h
  | cons w ws ih =>
    rw [lastWrite, or_eq_some_iff, ite_none_right_eq_some] at h
    rcases h with h | ⟨-, rfl, hw⟩
    · exact mem_cons_of_mem _ (ih h)
    · rw [← some.inj hw]
      exact mem_cons_self

theorem lastWrite_eq_some_iff (hws : (ws.map Prod.fst).Nodup) :
    lastWrite ws k = some v ↔ (k, v) ∈ ws := by
  refine ⟨mem_of_lastWrite, fun hmem => ?_⟩
  induction ws with
  | nil => cases hmem
  | cons w ws ih =>
    rw [map_cons, nodup_cons] at hws
    rw [lastWrite]
    rcases mem_cons.mp hmem with rfl | hmem
    · have hnone : lastWrite ws k = none :=
        lastWrite_eq_none fun w' hw' hk => hws.1 (mem_map.mpr ⟨w', hw', hk⟩)
      rw [hnone, none_or, if_pos rfl]
    · rw [ih hws.2 hmem, some_or]

theorem exists_lastWrite_of_mem {w : κ × α} (h : w ∈ ws) : ∃ v, lastWrite ws w.1 = some v := by
  induction ws with
  | nil => cases h
  | cons w' ws ih =>
    rw [lastWrite]
    rcases mem_cons.mp h with rfl | h
    · rw [if_pos rfl]
      cases lastWrite ws w.1 with
      | none => exact ⟨w.2, rfl⟩
      | some v => exact ⟨v, rfl⟩
    · obtain ⟨v, hv⟩ := ih h
      exact ⟨v, by rw [hv, some_or]⟩

theorem lastWrite_eq_some_iff_of_rising {τ : Type*} [LinearOrder τ] {f : α → τ}
    (h : ws.Pairwise fun w w' => w.1 = w'.1 → f w.2 < f w'.2) :
    lastWrite ws k = some v ↔ (k, v) ∈ ws ∧ ∀ v', (k, v') ∈ ws → f v' ≤ f v := by
  induction ws with
  | nil => simp [lastWrite]
  | cons w ws ih =>
    obtain ⟨hrise, h⟩ := pairwise_cons.mp h
    rw [lastWrite, or_eq_some_iff, ih h, ite_none_right_eq_some]
    constructor
    · rintro (⟨hmem, hmax⟩ | ⟨hnone, rfl, hv⟩)
      · refine ⟨mem_cons_of_mem w hmem, fun v' hv' => ?_⟩
        rcases mem_cons.mp hv' with rfl | hv'
        · exact le_of_lt (hrise _ hmem rfl)
        · exact hmax v' hv'
      · rw [← some.inj hv]
        refine ⟨mem_cons_self, fun v' hv' => ?_⟩
        rcases mem_cons.mp hv' with hw | hv'
        · rw [← hw]
        · obtain ⟨u, hu⟩ := exists_lastWrite_of_mem hv'
          rw [hnone] at hu
          cases hu
    · rintro ⟨hmem, hmax⟩
      rcases mem_cons.mp hmem with rfl | hmem
      · refine .inr ⟨lastWrite_eq_none fun w' hw' hk => ?_, rfl, rfl⟩
        obtain ⟨k', v'⟩ := w'
        obtain rfl : k' = k := hk
        exact absurd (hrise _ hw' rfl) (not_lt.mpr (hmax v' (mem_cons_of_mem _ hw')))
      · exact .inl ⟨hmem, fun v' hv' => hmax v' (mem_cons_of_mem w hv')⟩

theorem exists_of_lastWrite (h : lastWrite ws k = some v) : ∃ w ∈ ws, w.1 = k :=
  ⟨(k, v), mem_of_lastWrite h, rfl⟩

theorem lastWrite_filter (p : κ → Bool) (ws : List (κ × α)) (k : κ) :
    lastWrite (ws.filter fun w => p w.1) k = if p k then lastWrite ws k else none := by
  induction ws with
  | nil => simp [lastWrite]
  | cons w ws ih =>
    rw [filter_cons]
    by_cases hk : w.1 = k
    · subst hk
      by_cases hp : p w.1 <;> simp_all [lastWrite]
    · have hskip : ∀ ws' : List (κ × α), lastWrite (w :: ws') k = lastWrite ws' k := by
        intro ws'
        rw [lastWrite, if_neg hk, or_none]
      rw [hskip, ← ih]
      split_ifs
      · rw [hskip]
      · rfl

theorem lastWrite_flatMap_congr {ι : Type*} {f g : ι → List (κ × α)}
    (h : ∀ i, lastWrite (f i) k = lastWrite (g i) k) (is : List ι) :
    lastWrite (is.flatMap f) k = lastWrite (is.flatMap g) k := by
  induction is with
  | nil => rfl
  | cons i is ih =>
    rw [flatMap_cons, flatMap_cons, lastWrite_append, lastWrite_append, ih, h]

theorem eqOn_iff (ws ws' : List (κ × α)) (base : κ → α) :
    (∀ k, U k → overlay ws base k = overlay ws' base k) ↔
      (∀ k v, U k → lastWrite ws k = some v → overlay ws' base k = v) ∧
      ∀ k v, U k → lastWrite ws' k = some v → overlay ws base k = v := by
  constructor
  · intro h
    constructor <;> intro k v hk hv
    · rw [← h k hk, overlay_of_lastWrite hv]
    · rw [h k hk, overlay_of_lastWrite hv]
  · rintro ⟨h, h'⟩ k hk
    cases hw : lastWrite ws k with
    | some v => rw [overlay_of_lastWrite hw, h k v hk hw]
    | none =>
      cases hw' : lastWrite ws' k with
      | some v => rw [overlay_of_lastWrite hw', h' k v hk hw']
      | none => rw [overlay, overlay, hw, hw']

theorem eqOn_singleton_left_iff (a : κ) (v : α) (ws : List (κ × α)) (base : κ → α) :
    (∀ k, U k → overlay [(a, v)] base k = overlay ws base k) ↔
      (∀ k w, U k → lastWrite ws k = some w → if k = a then v = w else base k = w) ∧
      (U a → overlay ws base a = v) := by
  rw [eqOn_iff, and_comm]
  refine and_congr ?_ ?_
  · refine forall₄_congr ?_
    intro k w _ _
    rw [overlay_singleton, update_apply]
    split_ifs <;> rfl
  · simp only [lastWrite, none_or]
    constructor
    · exact fun h ha => h a v ha (if_pos rfl)
    · intro h k w hk hw
      split_ifs at hw with hak
      subst hak
      rw [h hk, some.inj hw]

theorem eqOn_const_iff (v : α) (l l' : List κ) (base : κ → α) :
    (∀ k, U k → overlay (l.map fun k => (k, v)) base k = overlay (l'.map fun k => (k, v)) base k) ↔
      (∀ k ∈ l', U k → k ∈ l ∨ base k = v) ∧ ∀ k ∈ l, U k → k ∈ l' ∨ base k = v := by
  simp only [overlay_map_const]
  constructor
  · intro h
    constructor <;> intro k hk hU
    · have := h k hU
      rw [if_pos hk] at this
      exact or_iff_not_imp_left.mpr fun hn => (if_neg hn).symm.trans this
    · have := h k hU
      rw [if_pos hk] at this
      exact or_iff_not_imp_left.mpr fun hn => (if_neg hn).symm.trans this.symm
  · rintro ⟨h, h'⟩ k hU
    split_ifs with hl hl' hl'
    · rfl
    · exact ((h' k hl hU).resolve_left hl').symm
    · exact (h k hl' hU).resolve_left hl
    · rfl

theorem eqOn_singleton_iff {a b : κ} (hab : a ≠ b) (v w : α) (base : κ → α) :
    (∀ k, U k → overlay [(a, v)] base k = overlay [(b, w)] base k) ↔
      (U a → base a = v) ∧ (U b → base b = w) := by
  simp only [overlay_singleton]
  constructor
  · intro h
    constructor
    · intro ha
      simpa [hab] using (h a ha).symm
    · intro hb
      simpa [hab.symm] using h b hb
  · rintro ⟨ha, hb⟩ k hk
    rcases eq_or_ne k a with rfl | hka
    · simpa [hab] using (ha hk).symm
    · rcases eq_or_ne k b with rfl | hkb
      · simpa [hka] using hb hk
      · simp [hka, hkb]

theorem eqOn_singleton_iff_eq (a : κ) (v w : α) (base : κ → α) :
    (∀ k, U k → overlay [(a, v)] base k = overlay [(a, w)] base k) ↔ (U a → v = w) := by
  simp only [overlay_singleton]
  constructor
  · intro h ha
    simpa using h a ha
  · intro h k hk
    rcases eq_or_ne k a with rfl | hka
    · simpa using h hk
    · simp [hka]

theorem ite_eq_ite_none_iff {p q : Prop} [Decidable p] [Decidable q] (x y : Option α) :
    (if p then x else none) = (if q then y else none) ↔
      (p ∧ q → x = y) ∧ (p → ¬q → x = none) ∧ (q → ¬p → y = none) := by
  split_ifs <;> simp_all [eq_comm]

/-! ### Keeping the last write only -/

def supersede (ws : List (κ × α)) (w : κ × α) : List (κ × α) :=
  ws.filter (fun w' => w'.1 ≠ w.1) ++ [w]

theorem lastWrite_map_supersede [DecidableEq κ'] (f : κ → κ') (ws : List (κ × α))
    (w : κ × α) (k : κ') :
    lastWrite ((supersede ws w).map fun w' => (f w'.1, w'.2)) k =
      lastWrite ((ws ++ [w]).map fun w' => (f w'.1, w'.2)) k := by
  rw [supersede, map_append, map_append, lastWrite_append, lastWrite_append]
  rcases eq_or_ne (f w.1) k with hk | hk
  · simp [lastWrite, hk]
  · congr 1
    induction ws with
    | nil => rfl
    | cons w' ws ih =>
      rw [filter_cons]
      split_ifs with hw'
      · rw [map_cons, lastWrite, ih, map_cons, lastWrite]
      · have hkey : w'.1 = w.1 := by simpa using hw'
        rw [ih, map_cons, lastWrite, hkey, if_neg hk, or_none]

theorem lastWrite_map_foldl_supersede [DecidableEq κ'] (f : κ → κ')
    (ws ws' : List (κ × α)) (k : κ') :
    lastWrite ((ws'.foldl supersede ws).map fun w => (f w.1, w.2)) k =
      lastWrite ((ws ++ ws').map fun w => (f w.1, w.2)) k := by
  induction ws' generalizing ws with
  | nil => rw [foldl_nil, append_nil]
  | cons w ws' ih =>
    rw [foldl_cons, ih, map_append, lastWrite_append, lastWrite_map_supersede,
      ← lastWrite_append, ← map_append, append_assoc, singleton_append]

theorem lastWrite_foldl_supersede (ws ws' : List (κ × α)) (k : κ) :
    lastWrite (ws'.foldl supersede ws) k = lastWrite (ws ++ ws') k := by
  simpa using lastWrite_map_foldl_supersede id ws ws' k

theorem foldl_supersede_filter (p : κ → Bool) (ws ws' : List (κ × α)) :
    (ws'.filter fun w => p w.1).foldl supersede (ws.filter fun w => p w.1) =
      (ws'.foldl supersede ws).filter fun w => p w.1 := by
  induction ws' generalizing ws with
  | nil => rfl
  | cons w ws' ih =>
    rw [foldl_cons, ← ih, filter_cons, supersede, filter_append,
      List.filter_filter, List.filter_singleton]
    split_ifs with hp
    · rw [List.foldl_cons, supersede, List.filter_filter, hp, cond_true]
      simp only [Bool.and_comm]
    · rw [eq_false_of_ne_true hp, cond_false, append_nil]
      congr 1
      refine filter_congr ?_
      intro w' _
      by_cases hw : w'.1 = w.1 <;> simp [hw, hp]

theorem nodup_foldl_supersede (ws : List (κ × α)) (h : (ws.map Prod.fst).Nodup)
    (ws' : List (κ × α)) : ((ws'.foldl supersede ws).map Prod.fst).Nodup := by
  induction ws' generalizing ws with
  | nil => exact h
  | cons w ws' ih =>
    refine ih _ ?_
    rw [supersede, map_append, map_singleton, nodup_append]
    refine ⟨h.sublist (filter_sublist.map _), pairwise_singleton _ _, ?_⟩
    rintro k hk _ hw rfl
    obtain ⟨w', hw', rfl⟩ := mem_map.mp hk
    rw [mem_singleton] at hw
    simp [hw] at hw'

section

variable {β : Type*} {ws : List (κ × Option β)} {base : κ → Option β}

def placed (ws : List (κ × Option β)) : List κ := ws.filterMap fun w => w.2.map fun _ => w.1

omit [DecidableEq κ] in
theorem placed_append (ws ws' : List (κ × Option β)) :
    placed (ws ++ ws') = placed ws ++ placed ws' := filterMap_append

theorem lastWrite_ne_none (h : k ∈ placed ws) : lastWrite ws k ≠ none := by
  induction ws with
  | nil => simp [placed] at h
  | cons w ws ih =>
    rw [lastWrite, Ne, or_eq_none_iff, not_and_or]
    rw [← singleton_append, placed_append, mem_append] at h
    rcases h with h | h
    · obtain ⟨w', hw', hk⟩ := mem_filterMap.mp h
      obtain ⟨-, -, rfl⟩ := map_eq_some_iff.mp hk
      obtain rfl := mem_singleton.mp hw'
      exact Or.inr (by simp)
    · exact Or.inl (ih h)

theorem mem_placed {b : β} (h : lastWrite ws k = some (some b)) : k ∈ placed ws := by
  induction ws with
  | nil => simp [lastWrite] at h
  | cons w ws ih =>
    rw [lastWrite, or_eq_some_iff] at h
    rw [← singleton_append, placed_append, mem_append]
    rcases h with h | ⟨-, h⟩
    · exact Or.inr (ih h)
    · split_ifs at h with hk
      refine Or.inl (mem_filterMap.mpr ⟨w, mem_singleton_self w, ?_⟩)
      rw [some.inj h, ← hk]
      rfl

theorem overlay_none_eq_iff {ws ws' : List (κ × Option β)} (h : ∀ w ∈ ws, w.2 ≠ none)
    (h' : ∀ w ∈ ws', w.2 ≠ none) :
    overlay ws (fun _ => none) k = overlay ws' (fun _ => none) k ↔
      lastWrite ws k = lastWrite ws' k := by
  have hput : lastWrite ws k ≠ some none := fun hnone => h _ (mem_of_lastWrite hnone) rfl
  have hput' : lastWrite ws' k ≠ some none := fun hnone => h' _ (mem_of_lastWrite hnone) rfl
  rw [overlay, overlay]
  generalize lastWrite ws k = last at hput
  generalize lastWrite ws' k = last' at hput'
  rcases last with _ | _ | v <;> rcases last' with _ | _ | v' <;> simp at hput hput' ⊢

theorem isSome_overlay (h : (k, none) ∉ ws) (hk : (base k).isSome) :
    (overlay ws base k).isSome := by
  rw [overlay]
  rcases hw : lastWrite ws k with _ | _ | b
  · exact hk
  · exact absurd (mem_of_lastWrite hw) h
  · rfl

theorem overlay_eq_none (h : k ∉ placed ws) (hk : base k = none) : overlay ws base k = none := by
  rw [overlay, hk]
  rcases hw : lastWrite ws k with _ | _ | b
  · rfl
  · rfl
  · exact absurd (mem_placed hw) h

end

end VngDatabase.Overlay
