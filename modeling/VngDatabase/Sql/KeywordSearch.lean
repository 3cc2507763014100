import VngDatabase.Bytes
import VngDatabase.Words

/-!
# Searching a keyword outside literals

`find_keyword_outside_strings` of `crates/voltnuerongrid-sql/src/ast.rs` walks over a text byte by
byte and compares slices of it. It finds the first occurrence outside literals unless a slice cuts a
character in two, which is a panic.
-/

namespace VngDatabase.Sql

open List

/-! ### Slices -/

def isContinuation (b : Byte) : Bool := 0x80 ≤ b && b < 0xC0

def isCharBoundary (up : List Byte) (i : ℕ) : Bool :=
  i = 0 || i = up.length || up[i]?.any (!isContinuation ·)

/-- `none` is the panic of a slice that is not one of characters. -/
def slice (up : List Byte) (i j : ℕ) : Option (List Byte) :=
  if i ≤ j ∧ j ≤ up.length ∧ isCharBoundary up i ∧ isCharBoundary up j then
    some ((up.take j).drop i)
  else none

def quote : Byte := 39

def findFrom (up keyword : List Byte) (i : ℕ) (inStr : Bool) : Option (Option ℕ) :=
  if h : i < up.length then
    if inStr then
      if up[i] = quote then
        if up[i + 1]? = some quote then findFrom up keyword (i + 2) true
        else findFrom up keyword (i + 1) false
      else findFrom up keyword (i + 1) true
    else if up[i] = quote then findFrom up keyword (i + 1) true
    else if i + keyword.length ≤ up.length then do
      if (← slice up i (i + keyword.length)) = keyword then some (some i)
      else findFrom up keyword (i + 1) false
    else findFrom up keyword (i + 1) false
  else some none
termination_by up.length - i

def findKeywordOutsideStrings (up keyword : String) : Option (Option ℕ) :=
  findFrom (utf8 up) (utf8 keyword) 0 false

/-! ### The first occurrence outside literals -/

variable {up kw : List Byte} {i : ℕ}

/-- An even number of quotes stands before the position. -/
abbrev Outside (up : List Byte) (i : ℕ) : Prop := (up.take i).count quote % 2 = 0

def OccursAt (up kw : List Byte) (i : ℕ) : Prop := Outside up i ∧ kw <+: up.drop i

instance : Decidable (OccursAt up kw i) := inferInstanceAs (Decidable (_ ∧ _))

def firstOutside (up kw : List Byte) : Option ℕ :=
  (range up.length).find? fun i => OccursAt up kw i

/-- **No slice up to the first occurrence cuts a character.** -/
def SlicesWhole (up kw : List Byte) (i : ℕ) : Prop :=
  ∀ k ≥ i, k + kw.length ≤ up.length → Outside up k → up[k]? ≠ some quote →
    (∀ j < k, ¬OccursAt up kw j) → isCharBoundary up k ∧ isCharBoundary up (k + kw.length)

theorem count_take_succ (h : i < up.length) :
    (up.take (i + 1)).count quote = (up.take i).count quote + if up[i] = quote then 1 else 0 := by
  rw [take_succ_eq_append_getElem h, count_append, count_singleton]
  simp

theorem outside_succ (h : i < up.length) :
    Outside up (i + 1) ↔ if up[i] = quote then ¬Outside up i else Outside up i := by
  rw [Outside, count_take_succ h]
  split_ifs <;> omega

theorem not_occursAt_quote (hk : kw ≠ []) (hq : quote ∉ kw)
    (h : up[i]? = some quote) : ¬OccursAt up kw i := by
  rintro ⟨-, rest, hr⟩
  obtain ⟨b, kw, rfl⟩ := exists_cons_of_ne_nil hk
  have hb : up[i]? = some b := by rw [← head?_drop, ← hr]; rfl
  exact hq (by simp [Option.some.inj (h.symm.trans hb)])

/-- A position that is passed without a hit and without a panic. -/
theorem slicesWhole_succ (hno : ∀ j < i, ¬OccursAt up kw j) (hi : ¬OccursAt up kw i)
    (h : i + kw.length ≤ up.length → Outside up i → up[i]? ≠ some quote →
      isCharBoundary up i ∧ isCharBoundary up (i + kw.length)) :
    (∀ j < i + 1, ¬OccursAt up kw j) ∧
      (SlicesWhole up kw (i + 1) ↔ SlicesWhole up kw i) := by
  refine ⟨fun j hj => ?_, fun hs k hk => ?_, fun hs k hk => hs k (by omega)⟩
  · rcases Nat.lt_succ_iff_lt_or_eq.mp hj with hj | rfl
    · exact hno j hj
    · exact hi
  · rcases Nat.eq_or_lt_of_le hk with rfl | hk
    · exact fun hl ho hn _ => h hl ho hn
    · exact hs k hk

theorem slicesWhole_quote (hk : kw ≠ []) (hq : quote ∉ kw)
    (hno : ∀ j < i, ¬OccursAt up kw j) (h : up[i]? = some quote) :
    (∀ j < i + 1, ¬OccursAt up kw j) ∧
      (SlicesWhole up kw (i + 1) ↔ SlicesWhole up kw i) :=
  slicesWhole_succ hno (not_occursAt_quote hk hq h) fun _ _ hn => absurd h hn

/-- **From any position** that the search reaches. -/
theorem findFrom_iff (hk : kw ≠ []) (hq : quote ∉ kw) {inStr : Bool}
    (hin : inStr ↔ ¬Outside up i) (hno : ∀ j < i, ¬OccursAt up kw j) :
    findFrom up kw i inStr = some (firstOutside up kw) ↔ SlicesWhole up kw i := by
  fun_induction findFrom up kw i inStr with
  | case1 i hi he hn ih =>
    obtain ⟨hi', he'⟩ := List.getElem?_eq_some_iff.mp hn
    obtain ⟨hno, h⟩ := slicesWhole_quote hk hq hno (List.getElem?_eq_some_iff.mpr ⟨hi, he⟩)
    obtain ⟨hno, h'⟩ := slicesWhole_quote hk hq hno hn
    rw [← h, ← h']
    refine ih ?_ hno
    rw [outside_succ hi', if_pos he', outside_succ hi, if_pos he, not_not]
    exact hin
  | case2 i hi he hn ih =>
    obtain ⟨hno, h⟩ := slicesWhole_quote hk hq hno (List.getElem?_eq_some_iff.mpr ⟨hi, he⟩)
    rw [← h]
    refine ih ?_ hno
    rw [outside_succ hi, if_pos he]
    simpa using hin
  | case3 i hi he ih =>
    have ho := hin.mp rfl
    obtain ⟨hno, h⟩ := slicesWhole_succ hno (fun h => ho h.1) fun _ h => absurd h ho
    rw [← h]
    refine ih ?_ hno
    rwa [outside_succ hi, if_neg he]
  | case4 i inStr hi hs he ih =>
    obtain ⟨hno, h⟩ := slicesWhole_quote hk hq hno (List.getElem?_eq_some_iff.mpr ⟨hi, he⟩)
    rw [← h]
    refine ih ?_ hno
    rw [outside_succ hi, if_pos he]
    simpa [hs] using hin
  | case5 i inStr hi hs he hl ih =>
    have ho : Outside up i := by simpa [hs] using hin
    cases hsl : slice up i (i + kw.length) with
    | none =>
      refine iff_of_false nofun fun h => ?_
      have hb := h i le_rfl hl ho (by simpa [hi] using he) hno
      simp [slice, hl, hb] at hsl
    | some s =>
      obtain ⟨⟨-, hb⟩, rfl⟩ : (i + kw.length ≤ up.length ∧ isCharBoundary up i ∧
          isCharBoundary up (i + kw.length)) ∧ (up.drop i).take kw.length = s := by
        simpa [slice, drop_take] using hsl
      have hocc : OccursAt up kw i ↔ (up.drop i).take kw.length = kw := by
        rw [OccursAt, and_iff_right ho, prefix_iff_eq_take, eq_comm]
      change (if _ then _ else _) = _ ↔ _
      split_ifs with hkw
      · have hfirst : firstOutside up kw = some i := by
          simpa [firstOutside, find?_range_eq_some, hi, hocc.mpr hkw] using hno
        refine iff_of_true (congrArg some hfirst.symm) fun k hk hl ho hn hno' => ?_
        rcases Nat.eq_or_lt_of_le hk with rfl | hk
        · exact hb
        · exact absurd (hocc.mpr hkw) (hno' i hk)
      · obtain ⟨hno, h⟩ := slicesWhole_succ hno (mt hocc.mp hkw) fun _ _ _ => hb
        rw [← h]
        refine ih ?_ hno
        rw [outside_succ hi, if_neg he]
        simpa using ho
  | case6 i inStr hi hs he hl ih =>
    have ho : Outside up i := by simpa [hs] using hin
    have hocc : ¬OccursAt up kw i := fun h => hl (by
      have := h.2.length_le
      rw [length_drop] at this
      omega)
    obtain ⟨hno, h⟩ := slicesWhole_succ hno hocc fun h => absurd h hl
    rw [← h]
    refine ih ?_ hno
    rw [outside_succ hi, if_neg he]
    simpa using ho
  | case7 i inStr hi =>
    refine iff_of_true (congrArg some ?_) fun k hk hl => ?_
    · refine (find?_eq_none.mpr fun j hj => ?_).symm
      simpa using hno j (by rw [mem_range] at hj; omega)
    · have := length_pos_iff.mpr ‹kw ≠ []›
      omega

/-- **The search is exact** where no slice that it takes cuts a character. -/
theorem findKeywordOutsideStrings_iff {up keyword : String} (hk : keyword ≠ "")
    (hq : quote ∉ utf8 keyword) :
    findKeywordOutsideStrings up keyword = some (firstOutside (utf8 up) (utf8 keyword)) ↔
      SlicesWhole (utf8 up) (utf8 keyword) 0 :=
  findFrom_iff (fun h => hk (utf8_injective h)) hq (by simp) nofun

theorem keyword_found_after_name :
    findKeywordOutsideStrings "A BY" "BY" = some (firstOutside (utf8 "A BY") (utf8 "BY")) := by
  refine (findKeywordOutsideStrings_iff (by decide) (by decide +kernel)).mpr fun k _ hl _ _ _ => ?_
  have hk : k + 2 ≤ 4 := hl
  obtain rfl | rfl | rfl : k = 0 ∨ k = 1 ∨ k = 2 := by omega
  all_goals decide +kernel

/-- **A letter outside ASCII** is cut in two. -/
theorem search_panics : findKeywordOutsideStrings "É BY" "BY" = none ∧
    firstOutside (utf8 "É BY") (utf8 "BY") = some 3 := by
  decide +kernel

end VngDatabase.Sql
