import VngDatabase.Overlay

/-!
# Ordered maps

A store that can be gone through in the order of the keys: a list that is sorted by them, so there
is one for each content (`OrderedMap.eq_of_mem_iff`).
-/

namespace VngDatabase

open Overlay List Option

structure OrderedMap (κ α : Type*) [LinearOrder κ] where
  entries : List (κ × α)
  sorted : entries.Pairwise fun e e' => e.1 < e'.1

namespace OrderedMap

variable {κ α : Type*} [LinearOrder κ] {m : OrderedMap κ α} {k : κ} {v : α} {e : κ × α}
  {l ws : List (κ × α)}

instance : EmptyCollection (OrderedMap κ α) := ⟨⟨[], .nil⟩⟩

def get? (m : OrderedMap κ α) (k : κ) : Option α := (m.entries.find? fun e => e.1 = k).map Prod.snd

def put (m : OrderedMap κ α) (k : κ) (v : α) : OrderedMap κ α where
  entries := m.entries.filter (·.1 < k) ++ (k, v) :: m.entries.filter (k < ·.1)
  sorted := by
    have hbelow : ∀ e ∈ m.entries.filter (·.1 < k), e.1 < k := fun e he =>
      of_decide_eq_true (List.mem_filter.mp he).2
    have habove : ∀ e ∈ m.entries.filter (k < ·.1), k < e.1 := fun e he =>
      of_decide_eq_true (List.mem_filter.mp he).2
    rw [List.pairwise_append, List.pairwise_cons]
    refine ⟨m.sorted.filter _, ⟨habove, m.sorted.filter _⟩, fun e he e' he' => ?_⟩
    rcases List.mem_cons.mp he' with rfl | he'
    · exact hbelow e he
    · exact (hbelow e he).trans (habove e' he')

def delete (m : OrderedMap κ α) (k : κ) : OrderedMap κ α :=
  ⟨m.entries.filter (·.1 ≠ k), m.sorted.filter _⟩

def iteratorFrom (m : OrderedMap κ α) (k : κ) : List (κ × α) := m.entries.filter (k ≤ ·.1)

theorem mem_put : e ∈ (m.put k v).entries ↔ e = (k, v) ∨ e ∈ m.entries ∧ e.1 ≠ k := by
  simp only [put, mem_append, mem_cons, mem_filter, decide_eq_true_eq, ne_iff_lt_or_gt]
  tauto

theorem mem_delete : e ∈ (m.delete k).entries ↔ e ∈ m.entries ∧ e.1 ≠ k := by
  simp only [delete, mem_filter, decide_eq_true_eq]

theorem eq_of_mem (hl : l.Pairwise fun e e' => e.1 < e'.1) {e e' : κ × α}
    (he : e ∈ l) (he' : e' ∈ l) (h : e.1 = e'.1) : e = e' := by
  have hnd : (l.map Prod.fst).Nodup := pairwise_map.mpr (hl.imp ne_of_lt)
  exact inj_on_of_nodup_map hnd he he' h

theorem get?_eq_some_iff : m.get? k = some v ↔ (k, v) ∈ m.entries := by
  rw [get?, map_eq_some_iff]
  constructor
  · rintro ⟨e, hfind, rfl⟩
    have hkey : e.1 = k := by simpa using find?_some hfind
    exact hkey ▸ mem_of_find?_eq_some hfind
  · intro hmem
    cases hfind : m.entries.find? fun e => e.1 = k with
    | none => exact absurd (decide_eq_true rfl) (find?_eq_none.mp hfind _ hmem)
    | some e =>
      have hkey : e.1 = k := by simpa using find?_some hfind
      refine ⟨e, rfl, ?_⟩
      rw [eq_of_mem m.sorted (mem_of_find?_eq_some hfind) hmem hkey]

theorem get?_put (m : OrderedMap κ α) (k k' : κ) (v : α) :
    (m.put k v).get? k' = if k' = k then some v else m.get? k' := by
  refine ext fun v' => ?_
  rw [get?_eq_some_iff, mem_put]
  split_ifs with hk
  · simp [hk, eq_comm]
  · simp [hk, get?_eq_some_iff]

theorem eq_of_mem_iff {l' : List (κ × α)} (hl : l.Pairwise fun e e' => e.1 < e'.1)
    (hl' : l'.Pairwise fun e e' => e.1 < e'.1) (h : ∀ e, e ∈ l ↔ e ∈ l') : l = l' := by
  have hnd {l : List (κ × α)} (hl : l.Pairwise fun e e' => e.1 < e'.1) : l.Nodup :=
    hl.imp fun hlt heq => hlt.ne (congrArg Prod.fst heq)
  have hperm := (perm_ext_iff_of_nodup (hnd hl) (hnd hl')).mpr h
  exact hperm.eq_of_pairwise (fun a b _ _ hab hba => absurd hba hab.asymm) hl hl'

theorem mem_foldl_delete {ks : List κ} :
    e ∈ (ks.foldl delete m).entries ↔ e ∈ m.entries ∧ e.1 ∉ ks := by
  induction ks generalizing m with
  | nil => simp
  | cons k ks ih => rw [foldl_cons, ih, mem_delete, mem_cons, not_or, and_assoc]

def putAll (ws : List (κ × α)) : OrderedMap κ α := ws.foldl (fun m w => m.put w.1 w.2) ∅

theorem mem_putAll [DecidableEq κ] : (k, v) ∈ (putAll ws).entries ↔ lastWrite ws k = some v := by
  induction ws using reverseRecOn with
  | nil => simp [putAll, lastWrite, EmptyCollection.emptyCollection]
  | append_singleton ws w ih =>
    rw [putAll, foldl_append] at *
    simp only [foldl_cons, foldl_nil, mem_put, ih, lastWrite_append, lastWrite]
    by_cases hk : w.1 = k <;> grind

theorem eq_of_entries_eq {m m' : OrderedMap κ α} (h : m.entries = m'.entries) : m = m' := by
  cases m
  cases m'
  cases h
  rfl

theorem entries_putAll (h : ws.Pairwise fun e e' => e.1 < e'.1) : (putAll ws).entries = ws := by
  induction ws using reverseRecOn with
  | nil => rfl
  | append_singleton ws w ih =>
    obtain ⟨hws, -, hlt⟩ := pairwise_append.mp h
    have hbel : ∀ e ∈ ws, e.1 < w.1 := fun e he => hlt e he w (mem_singleton_self w)
    rw [putAll, foldl_append, ← putAll, foldl_cons, foldl_nil, put]
    dsimp only
    rw [ih hws, filter_eq_self.mpr fun e he => decide_eq_true (hbel e he),
      filter_eq_nil_iff.mpr fun e he => by simpa using (hbel e he).le]

theorem key_eq_of_greatest {τ : Type*} [LinearOrder τ] {x y : τ} {a b : κ}
    (h : y < x ∨ y = x ∧ a ≤ b) (h' : x < y ∨ x = y ∧ b ≤ a) : a = b := by
  rcases h with hlt | ⟨heq, hle⟩
  · rcases h' with hlt' | ⟨heq', -⟩
    · exact absurd hlt hlt'.asymm
    · exact absurd heq' hlt.ne'
  · rcases h' with hlt' | ⟨-, hle'⟩
    · exact absurd heq.symm hlt'.ne
    · exact le_antisymm hle hle'

theorem argmax_eq_some_iff {τ : Type*} [LinearOrder τ] {f : κ × α → τ}
    (hl : l.Pairwise fun e e' => e.1 < e'.1) :
    l.argmax f = some e ↔ e ∈ l ∧ ∀ e' ∈ l, f e' < f e ∨ f e' = f e ∧ e.1 ≤ e'.1 := by
  have hgre : ∀ {l : List (κ × α)} {e : κ × α}, (l.Pairwise fun e e' => e.1 < e'.1) →
      l.argmax f = some e → e ∈ l ∧ ∀ e' ∈ l, f e' < f e ∨ f e' = f e ∧ e.1 ≤ e'.1 := by
    intro l
    induction l with
    | nil => intro e _ he; cases he
    | cons a l ih =>
      intro e hl he
      obtain ⟨ha, hl⟩ := pairwise_cons.mp hl
      rw [argmax_cons] at he
      cases hmax : l.argmax f with
      | none =>
        rw [hmax, some.injEq] at he
        subst he
        rw [argmax_eq_none.mp hmax]
        simp
      | some c =>
        obtain ⟨hmem, hc⟩ := ih hl hmax
        simp only [hmax] at he
        split_ifs at he with hlt
        · obtain rfl := some.inj he
          refine ⟨mem_cons_of_mem a hmem, forall_mem_cons.mpr ⟨.inl hlt, hc⟩⟩
        · obtain rfl := some.inj he
          refine ⟨mem_cons_self, forall_mem_cons.mpr ⟨.inr ⟨rfl, le_rfl⟩, ?_⟩⟩
          intro e' he'
          rcases (not_lt.mp hlt).lt_or_eq with hlt' | heq
          · exact .inl (((hc e' he').elim le_of_lt fun h => h.1.le).trans_lt hlt')
          · rw [← heq]
            exact (hc e' he').imp_right fun h => ⟨h.1, (ha e' he').le⟩
  refine ⟨hgre hl, fun ⟨hmem, he⟩ => ?_⟩
  cases hmax : l.argmax f with
  | none => rw [argmax_eq_none.mp hmax] at hmem; cases hmem
  | some c =>
    obtain ⟨hcmem, hc⟩ := hgre hl hmax
    exact congrArg some (eq_of_mem hl hcmem hmem (key_eq_of_greatest (hc e hmem) (he c hcmem)))

theorem takeWhile_eq_filter {ε : Type*} {p : ε → Bool} {l : List ε}
    (h : l.Pairwise fun e e' => p e' → p e) : l.takeWhile p = l.filter p := by
  induction l with
  | nil => rfl
  | cons e l ih =>
    obtain ⟨hhead, htail⟩ := pairwise_cons.mp h
    by_cases hp : p e
    · rw [takeWhile_cons_of_pos hp, filter_cons_of_pos hp, ih htail]
    · rw [takeWhile_cons_of_neg hp, eq_comm, filter_eq_nil_iff]
      exact forall_mem_cons.mpr ⟨hp, fun e' he' hp' => hp (hhead e' he' hp')⟩

section

variable {β : Type*} [LinearOrder β]

theorem append_lt_append_iff (p : List β) {a b : List β} : p ++ a < p ++ b ↔ a < b := by
  induction p with
  | nil => rfl
  | cons c p ih => simp only [cons_append, cons_lt_cons_iff, lt_irrefl, true_and, false_or, ih]

theorem isPrefix_of_lt {p a b : List β} (hle : p ≤ a) (hlt : a < b) (hb : p <+: b) : p <+: a := by
  obtain ⟨t, rfl⟩ := hb
  rw [← not_lt] at hle
  induction p generalizing a with
  | nil => exact nil_prefix
  | cons c p ih =>
    cases a with
    | nil => exact absurd (nil_lt_cons c p) hle
    | cons d a =>
      rw [cons_lt_cons_iff, not_or, not_and] at hle
      rcases cons_lt_cons_iff.mp hlt with hdc | ⟨rfl, hlt'⟩
      · exact absurd hdc hle.1
      · exact cons_prefix_cons.mpr ⟨rfl, ih (hle.2 rfl) hlt'⟩

theorem takeWhile_iteratorFrom (m : OrderedMap (List β) α) (p : List β) :
    (m.iteratorFrom p).takeWhile (fun e => p.isPrefixOf e.1) =
      m.entries.filter fun e => p.isPrefixOf e.1 := by
  have hsrt : (m.iteratorFrom p).Pairwise fun e e' =>
      p.isPrefixOf e'.1 → p.isPrefixOf e.1 := by
    refine (m.sorted.filter _).imp_of_mem fun {e e'} he _ hlt hp => ?_
    rw [ List.isPrefixOf_iff_prefix] at hp ⊢
    exact isPrefix_of_lt (of_decide_eq_true (List.mem_filter.mp he).2) hlt hp
  rw [takeWhile_eq_filter hsrt, iteratorFrom, List.filter_filter]
  refine List.filter_congr fun e _ => ?_
  by_cases hp : p <+: e.1
  · have hle : p ≤ e.1 := not_lt.mp hp.le
    simp [hle]
  · simp [hp]

end

end OrderedMap

end VngDatabase
