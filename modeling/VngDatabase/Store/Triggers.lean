import Mathlib

/-!
# The trigger registry

Two vectors of triggers, each with an index from names to positions
(`crates/voltnuerongrid-store/src/triggers.rs`). The last trigger moves into the place of one that
is removed, and the index has to follow (`Named.Coherent.remove`).
-/

namespace VngDatabase.Store

open Function List

structure TriggerDefinition where
  (name table schema body : String)
  enabled : Bool

structure DdlTriggerDefinition where
  (name body : String)
  schemaFilter : Option String
  enabled : Bool

/-! ### A vector with an index of names -/

structure Named (α : Type) where
  items : List α := []
  index : String → Option ℕ := fun _ => none

/-- The last element takes the place of the one removed; `none` is the panic. -/
def swapRemove {α : Type} (l : List α) (i : ℕ) : Option (List α) :=
  if i < l.length then l.getLast?.map fun last => (l.set i last).dropLast else none

namespace Named

variable {α : Type} (name : α → String) (v : Named α)

def push (a : α) : Named α :=
  ⟨v.items ++ [a], update v.index (name a) (some v.items.length)⟩

def remove (n : String) (idx : ℕ) : Option (Named α) := do
  let items ← swapRemove v.items idx
  let index := update v.index n none
  return ⟨items, match v.items.getLast?.map name with
    | some last => if last ≠ n then update index last (some idx) else index
    | none => index⟩

/-- **The index is that of the vector**: a name leads to the position at which it stands. -/
def Coherent : Prop := ∀ n i, v.index n = some i ↔ v.items[i]?.map name = some n

end Named

structure TriggerRegistry where
  dml : Named TriggerDefinition := {}
  ddl : Named DdlTriggerDefinition := {}

namespace TriggerRegistry

variable (r : TriggerRegistry)

def register (t : TriggerDefinition) : Except String TriggerRegistry :=
  if (r.dml.index t.name).isSome || (r.ddl.index t.name).isSome then
    .error ("trigger '" ++ t.name ++ "' already exists")
  else .ok { r with dml := r.dml.push (·.name) t }

def registerDdl (t : DdlTriggerDefinition) : Except String TriggerRegistry :=
  if (r.ddl.index t.name).isSome || (r.dml.index t.name).isSome then
    .error ("trigger '" ++ t.name ++ "' already exists")
  else .ok { r with ddl := r.ddl.push (·.name) t }

def removeTrigger (n : String) : Option (Bool × TriggerRegistry) :=
  match r.dml.index n with
  | some idx => do return (true, { r with dml := ← r.dml.remove (·.name) n idx })
  | none => match r.ddl.index n with
    | some idx => do return (true, { r with ddl := ← r.ddl.remove (·.name) n idx })
    | none => some (false, r)

inductive Call
  | register (t : TriggerDefinition)
  | registerDdl (t : DdlTriggerDefinition)
  | removeTrigger (n : String)

/-- A refused registration leaves the registry as it was. -/
def call : Call → Option TriggerRegistry
  | .register t => some ((r.register t).toOption.getD r)
  | .registerDdl t => some ((r.registerDdl t).toOption.getD r)
  | .removeTrigger n => (r.removeTrigger n).map (·.2)

end TriggerRegistry

/-! ### What a removal leaves -/

section

variable {α : Type} {l l' : List α} {i : ℕ}

theorem swapRemove_eq_some (hi : i < l.length) :
    ∃ l', swapRemove l i = some l' := by
  rw [swapRemove, if_pos hi, getLast?_eq_some_getLast (ne_nil_of_length_pos (by omega))]
  exact ⟨_, rfl⟩

theorem getElem?_swapRemove (h : swapRemove l i = some l') (j : ℕ) :
    l'[j]? = if j + 1 < l.length then if j = i then l.getLast? else l[j]? else none := by
  obtain ⟨hi, last, hl, rfl⟩ : i < l.length ∧ ∃ last, l.getLast? = some last ∧
      (l.set i last).dropLast = l' := by simpa [swapRemove] using h
  rw [getElem?_dropLast, length_set, hl, getElem?_set]
  grind

end

namespace Named

variable {α : Type} {name : α → String} {v : Named α} {n : String} {i : ℕ}

theorem Coherent.index_eq_none_iff (h : v.Coherent name) :
    v.index n = none ↔ ∀ a ∈ v.items, name a ≠ n := by
  rw [Option.eq_none_iff_forall_ne_some]
  constructor
  · rintro hn a ha rfl
    obtain ⟨i, hi⟩ := mem_iff_getElem?.mp ha
    exact hn i ((h _ i).mpr (by rw [hi]; rfl))
  · intro hn i hi
    obtain ⟨a, ha, rfl⟩ := Option.map_eq_some_iff.mp ((h n i).mp hi)
    exact hn a (mem_of_getElem? ha) rfl

theorem Coherent.others (h : v.Coherent name) (hn : v.index n = none) (a : α) :
    a ∈ v.items ↔ a ∈ v.items ∧ name a ≠ n :=
  ⟨fun ha => ⟨ha, h.index_eq_none_iff.mp hn a ha⟩, And.left⟩

theorem Coherent.absent {v' : Named α} (h' : v'.Coherent name) (h : v.Coherent name)
    (hsub : v'.items ⊆ v.items) (hn : v.index n = none) : v'.index n = none :=
  h'.index_eq_none_iff.mpr fun a ha => h.index_eq_none_iff.mp hn a (hsub ha)

theorem Coherent.nodup (h : v.Coherent name) : (v.items.map name).Nodup := by
  rw [nodup_iff_getElem?_ne_getElem?]
  intro i j hij hj he
  rw [getElem?_map, getElem?_map] at he
  rw [length_map] at hj
  have ha : v.items[j]?.map name = some (name v.items[j]) := by rw [getElem?_eq_getElem hj]; rfl
  have := ((h _ i).mpr (he.trans ha)).symm.trans ((h _ j).mpr ha)
  exact absurd (Option.some.inj this) (by omega)

theorem Coherent.push (h : v.Coherent name) {a : α} (hn : v.index (name a) = none) :
    (v.push name a).Coherent name := by
  intro m j
  have hfresh (k : ℕ) : v.items[k]?.map name ≠ some (name a) := fun hk => by
    simp [(h _ _).mpr hk] at hn
  have hj : (v.items ++ [a])[j]? = if j = v.items.length then some a else v.items[j]? := by grind
  rw [Named.push]
  dsimp only
  rw [update_apply, hj]
  have := h m j
  split_ifs with he hlen hlen
  · simp [he, hlen]
  · have := hfresh j
    grind
  · grind
  · exact this

/-- **A removal does not panic, keeps the index right and takes the one of that name.** -/
theorem Coherent.remove (h : v.Coherent name) (hn : v.index n = some i) :
    ∃ v', v.remove name n i = some v' ∧ v'.Coherent name ∧
      ∀ a, a ∈ v'.items ↔ a ∈ v.items ∧ name a ≠ n := by
  obtain ⟨a, ha, rfl⟩ := Option.map_eq_some_iff.mp ((h n i).mp hn)
  have hi : i < v.items.length := (List.getElem?_eq_some_iff.mp ha).1
  obtain ⟨items, hs⟩ := swapRemove_eq_some hi
  obtain ⟨last, hl⟩ : ∃ last, v.items[v.items.length - 1]? = some last :=
    ⟨_, getElem?_eq_getElem (by omega)⟩
  have hil := h (name last) (v.items.length - 1)
  have hj := getElem?_swapRemove hs
  rw [getLast?_eq_getElem?, hl] at hj
  refine ⟨_, by rw [Named.remove, hs, getLast?_eq_getElem?, hl, Option.map_some]; rfl,
    fun m j => ?_, fun b => ?_⟩
  · have hm := h m j
    dsimp only
    rw [hj]
    grind
  · simp only [mem_iff_getElem?, hj]
    have hb := h (name b)
    constructor
    · rintro ⟨j, hjb⟩
      have := hb j
      grind
    · rintro ⟨⟨j, hjb⟩, hne⟩
      have := hb j
      by_cases hlast : j + 1 = v.items.length
      · exact ⟨i, by grind⟩
      · exact ⟨j, by grind⟩

end Named

namespace TriggerRegistry

variable {r : TriggerRegistry}

structure Sound (r : TriggerRegistry) : Prop where
  dml : r.dml.Coherent (·.name)
  ddl : r.ddl.Coherent (·.name)
  apart : ∀ n, r.dml.index n = none ∨ r.ddl.index n = none

theorem Sound.removeTrigger (h : r.Sound) (n : String) :
    ∃ removed r', r.removeTrigger n = some (removed, r') ∧ r'.Sound ∧
      (removed ↔ r.dml.index n ≠ none ∨ r.ddl.index n ≠ none) ∧
      (∀ t, t ∈ r'.dml.items ↔ t ∈ r.dml.items ∧ t.name ≠ n) ∧
      ∀ t, t ∈ r'.ddl.items ↔ t ∈ r.ddl.items ∧ t.name ≠ n := by
  rw [TriggerRegistry.removeTrigger]
  cases hm : r.dml.index n with
  | some i =>
    obtain ⟨v, hv, hc, hp⟩ := h.dml.remove hm
    refine ⟨true, { r with dml := v }, by dsimp only; rw [hv]; rfl, ⟨hc, h.ddl, fun m => ?_⟩,
      by simp, hp, h.ddl.others ((h.apart n).resolve_left (by simp [hm]))⟩
    exact (h.apart m).imp_left (hc.absent h.dml fun a ha => ((hp a).mp ha).1)
  | none =>
    cases hn : r.ddl.index n with
    | some i =>
      obtain ⟨v, hv, hc, hp⟩ := h.ddl.remove hn
      refine ⟨true, { r with ddl := v }, by dsimp only; rw [hv]; rfl, ⟨h.dml, hc, fun m => ?_⟩,
        by simp, h.dml.others hm, hp⟩
      exact (h.apart m).imp_right (hc.absent h.ddl fun a ha => ((hp a).mp ha).1)
    | none => exact ⟨false, r, rfl, h, by simp, h.dml.others hm, h.ddl.others hn⟩

theorem Sound.call (h : r.Sound) (c : Call) : ∃ r', r.call c = some r' ∧ r'.Sound := by
  cases c with
  | register t =>
    refine ⟨_, rfl, ?_⟩
    rw [register]
    split_ifs with ht
    · exact h
    · simp only [Bool.or_eq_true, not_or, Option.not_isSome_iff_eq_none] at ht
      refine ⟨h.dml.push ht.1, h.ddl, fun m => ?_⟩
      rcases eq_or_ne m t.name with rfl | hm
      · exact .inr ht.2
      · exact (h.apart m).imp_left (update_of_ne hm _ _).trans
  | registerDdl t =>
    refine ⟨_, rfl, ?_⟩
    rw [registerDdl]
    split_ifs with ht
    · exact h
    · simp only [Bool.or_eq_true, not_or, Option.not_isSome_iff_eq_none] at ht
      refine ⟨h.dml, h.ddl.push ht.1, fun m => ?_⟩
      rcases eq_or_ne m t.name with rfl | hm
      · exact .inl ht.2
      · exact (h.apart m).imp_right (update_of_ne hm _ _).trans
  | removeTrigger n =>
    obtain ⟨removed, r', hr, h', -⟩ := h.removeTrigger n
    exact ⟨r', by rw [TriggerRegistry.call, hr]; rfl, h'⟩

theorem sound_new : ({} : TriggerRegistry).Sound :=
  ⟨by simp [Named.Coherent], by simp [Named.Coherent], fun _ => .inl rfl⟩

theorem Sound.calls (h : r.Sound) (cs : List Call) :
    ∃ r', cs.foldlM TriggerRegistry.call r = some r' ∧ r'.Sound := by
  induction cs generalizing r with
  | nil => exact ⟨r, rfl, h⟩
  | cons c cs ih =>
    obtain ⟨r', hr, h'⟩ := h.call c
    rw [foldlM_cons, hr]
    exact ih h'

/-- **The registry is coherent after any calls**, and a removal takes the trigger of its name. -/
theorem registry_coherent (cs : List Call) :
    ∃ r, cs.foldlM TriggerRegistry.call {} = some r ∧
      r.dml.Coherent (·.name) ∧ r.ddl.Coherent (·.name) ∧
      (r.dml.items.map (·.name) ++ r.ddl.items.map (·.name)).Nodup ∧
      ∀ n, ∃ removed r', r.removeTrigger n = some (removed, r') ∧
        (removed ↔ n ∈ r.dml.items.map (·.name) ++ r.ddl.items.map (·.name)) ∧
        (∀ t, t ∈ r'.dml.items ↔ t ∈ r.dml.items ∧ t.name ≠ n) ∧
        ∀ t, t ∈ r'.ddl.items ↔ t ∈ r.ddl.items ∧ t.name ≠ n := by
  obtain ⟨r, hr, h⟩ := sound_new.calls cs
  refine ⟨r, hr, h.dml, h.ddl, ?_, fun n => ?_⟩
  · refine nodup_append'.mpr ⟨h.dml.nodup, h.ddl.nodup, fun n hn hn' => ?_⟩
    obtain ⟨a, ha, rfl⟩ := mem_map.mp hn
    obtain ⟨b, hb, he⟩ := mem_map.mp hn'
    rcases h.apart a.name with hn | hn
    · exact h.dml.index_eq_none_iff.mp hn a ha rfl
    · exact h.ddl.index_eq_none_iff.mp hn b hb he
  · obtain ⟨removed, r', hrem, -, hiff, hp⟩ := h.removeTrigger n
    refine ⟨removed, r', hrem, hiff.trans ?_, hp⟩
    simp [h.dml.index_eq_none_iff, h.ddl.index_eq_none_iff]

end TriggerRegistry

end VngDatabase.Store
