import VngDatabase.Words

/-!
# Lines, fields and numbers

What a program writes to a text file has to come out as it went in: a **line**, but for a carriage
return at its end (`dropReturn`), a **field**, cut off at the next separator (`splitN_append_cons`),
and a **number** of `w` bits (`parseUnsigned_toDigits`).
-/

namespace VngDatabase.Text

open List Option

/-! ### Lines -/

variable {c : Char} {fields : List (List Char)}

def dropReturn (line : List Char) : List Char :=
  if line.getLast? = some '\r' then line.dropLast else line

theorem dropReturn_eq_self_iff {line : List Char} :
    dropReturn line = line ↔ line.getLast? ≠ some '\r' := by
  rw [dropReturn]
  split_ifs with h
  · refine iff_of_false (fun heq => ?_) (not_not.mpr h)
    have hlen := congrArg length heq
    have hpos : 0 < line.length := length_pos_of_mem (mem_of_getLast? h)
    rw [length_dropLast] at hlen
    omega
  · exact iff_of_true rfl h

@[simp]
theorem dropReturn_concat_return (line : List Char) : dropReturn (line ++ ['\r']) = line := by
  rw [dropReturn, if_pos getLast?_concat, dropLast_concat]

theorem dropReturn_append_cons (hc : c ≠ '\r') (pre post : List Char) :
    dropReturn (pre ++ c :: post) = pre ++ c :: dropReturn post := by
  by_cases h : post.getLast? = some '\r'
  · obtain ⟨post, rfl⟩ : ∃ rest, post = rest ++ ['\r'] :=
      ⟨_, (dropLast_append_getLast? _ h).symm⟩
    rw [← cons_append, ← append_assoc, dropReturn_concat_return, dropReturn_concat_return]
  · have hlast : (pre ++ c :: post).getLast? ≠ some '\r' := by
      cases post with
      | nil => simpa using hc
      | cons d post =>
        rwa [getLast?_append_of_ne_nil _ (by simp), getLast?_cons_cons]
    rw [dropReturn_eq_self_iff.mpr h, dropReturn_eq_self_iff.mpr hlast]

theorem linesFrom_append_newline {cs : List Char} (h : '\n' ∉ cs) (line rest : List Char) :
    linesFrom line (cs ++ '\n' :: rest) = dropReturn (line ++ cs) :: linesFrom [] rest := by
  induction cs generalizing line with
  | nil => rw [nil_append, linesFrom, if_pos rfl, append_nil, dropReturn]
  | cons c cs ih =>
    rw [mem_cons, not_or] at h
    rw [cons_append, linesFrom, if_neg (Ne.symm h.1), ih h.2, append_assoc, singleton_append]

/-! ### Fields -/

/-- The last piece is all of the rest. -/
def splitN (c : Char) : ℕ → List Char → List (List Char)
  | 0, _ => []
  | 1, cs => [cs]
  | n + 2, cs =>
    match splitAtText [c] cs with
    | none => [cs]
    | some (piece, rest) => piece :: splitN c (n + 1) rest

theorem splitN_append_cons {piece : List Char} (h : c ∉ piece) (n : ℕ) (rest : List Char) :
    splitN c (n + 2) (piece ++ c :: rest) = piece :: splitN c (n + 1) rest := by
  rw [splitN, splitAtText_append_cons h]

theorem notMem_of_splitAtText {cs piece rest : List Char}
    (h : splitAtText [c] cs = some (piece, rest)) : c ∉ piece := by
  induction cs generalizing piece rest with
  | nil => cases h
  | cons d cs ih =>
    rw [splitAtText] at h
    split_ifs at h with hd
    · obtain ⟨rfl, -⟩ := Prod.mk.inj (some.inj h)
      exact not_mem_nil
    · obtain ⟨p, hp, hpair⟩ := map_eq_some_iff.mp h
      obtain ⟨rfl, -⟩ := Prod.mk.inj hpair
      rw [mem_cons, not_or]
      exact ⟨by simpa using hd, ih hp⟩

theorem splitN_succ_ne_nil (c : Char) (n : ℕ) (cs : List Char) : splitN c (n + 1) cs ≠ [] := by
  cases n with
  | zero => exact cons_ne_nil _ _
  | succ n =>
    rw [splitN]
    split <;> exact cons_ne_nil _ _

theorem notMem_of_mem_dropLast_splitN {n : ℕ} {cs piece : List Char}
    (h : piece ∈ (splitN c (n + 1) cs).dropLast) : c ∉ piece := by
  induction n generalizing cs with
  | zero => cases h
  | succ n ih =>
    rw [splitN] at h
    cases hspl : splitAtText [c] cs with
    | none =>
      rw [hspl] at h
      cases h
    | some p =>
      rw [hspl, dropLast_cons_of_ne_nil (splitN_succ_ne_nil c n _)] at h
      rcases mem_cons.mp h with rfl | h
      · exact notMem_of_splitAtText hspl
      · exact ih h

theorem splitFrom_append {cs : List Char} (h : c ∉ cs) (piece rest : List Char) :
    splitFrom [c] 0 piece (cs ++ rest) = splitFrom [c] 0 (piece ++ cs) rest := by
  induction cs generalizing piece with
  | nil => rw [nil_append, append_nil]
  | cons d cs ih =>
    rw [mem_cons, not_or] at h
    have hnot : ¬[c].isPrefixOf (d :: (cs ++ rest)) := by simp [h.1]
    rw [cons_append, splitFrom, if_neg hnot, ih h.2, append_assoc, singleton_append]

theorem split_intercalate (hne : fields ≠ [])
    (h : ∀ field ∈ fields, c ∉ field) : split [c] ([c].intercalate fields) = fields := by
  induction fields with
  | nil => exact absurd rfl hne
  | cons field fields ih =>
    have hfie := h field mem_cons_self
    rw [split]
    cases fields with
    | nil =>
      rw [intercalate_singleton, ← append_nil field, splitFrom_append hfie,
        append_nil, nil_append, splitFrom]
    | cons field' fields =>
      have hrest := ih (cons_ne_nil _ _) fun f hf => h f (mem_cons_of_mem field hf)
      have hsep : [c].isPrefixOf (c :: [c].intercalate (field' :: fields)) := by simp
      rw [intercalate_cons_cons, append_assoc, splitFrom_append hfie, nil_append,
        singleton_append, splitFrom, if_pos hsep]
      exact congrArg _ hrest

theorem notMem_of_mem_split {cs piece : List Char} (h : piece ∈ split [c] cs) : c ∉ piece := by
  have hfrom (start : List Char) (hst0 : c ∉ start) :
      piece ∈ splitFrom [c] 0 start cs → c ∉ piece := by
    clear h
    induction cs generalizing start with
    | nil =>
      intro h
      rw [mem_singleton.mp h]
      exact hst0
    | cons d cs ih =>
      intro h
      rw [splitFrom] at h
      by_cases hd : c = d
      · subst hd
        simp only [isPrefixOf_cons_cons_self, isPrefixOf_nil_left, if_true,
          length_cons, length_nil, Nat.zero_add, Nat.sub_self, mem_cons] at h
        rcases h with rfl | h
        · exact hst0
        · exact ih [] not_mem_nil h
      · have hnot : ¬[c].isPrefixOf (d :: cs) := by simp [hd]
        rw [if_neg hnot] at h
        exact ih (start ++ [d]) (by simp [hst0, hd]) h
  exact hfrom [] not_mem_nil h

theorem intercalate_concat (hne : fields ≠ []) (field : List Char) :
    [c].intercalate (fields ++ [field]) = [c].intercalate fields ++ c :: field := by
  induction fields with
  | nil => exact absurd rfl hne
  | cons field' fields ih =>
    cases fields with
    | nil => simp [intercalate_cons_cons]
    | cons field'' fields =>
      rw [cons_append, cons_append, intercalate_cons_cons, ← cons_append,
        ih (cons_ne_nil _ _), intercalate_cons_cons]
      simp only [append_assoc]

theorem replace_singleton (c : Char) (new cs : List Char) :
    replace [c] new cs = cs.flatMap fun d => if d = c then new else [d] := by
  have hfrom (piece : List Char) : new.intercalate (splitFrom [c] 0 piece cs) =
      piece ++ cs.flatMap fun d => if d = c then new else [d] := by
    induction cs generalizing piece with
    | nil => simp [splitFrom]
    | cons d cs ih =>
      rw [splitFrom, flatMap_cons]
      by_cases hd : d = c
      · subst hd
        obtain ⟨first, hpcs⟩ := split_singleton d cs
        have hrest := ih []
        have hfst : [d].isPrefixOf (d :: cs) := by simp
        rw [← split, hpcs] at hrest
        rw [if_pos hfst, if_pos rfl, show [d].length - 1 = 0 from rfl, ← split, hpcs,
          intercalate_cons_cons, hrest, nil_append, append_assoc]
      · have hnot : ¬[c].isPrefixOf (d :: cs) := by simp [Ne.symm hd]
        rw [if_neg hnot, ih, if_neg hd, append_assoc]
  exact (hfrom []).trans (nil_append _)

def dropPlus : List Char → List Char
  | '+' :: cs => cs
  | cs => cs

/-- Digits, with an optional plus sign before them. -/
def parseUnsigned (bound : ℕ) (cs : List Char) : Option (Fin bound) :=
  let digits := dropPlus cs
  if h : digits ≠ [] ∧ digits.all Char.isDigit ∧ Nat.ofDigitChars 10 digits 0 < bound then
    some ⟨Nat.ofDigitChars 10 digits 0, h.2.2⟩
  else none

theorem isDigit_toDigits (n : ℕ) : ∀ c ∈ Nat.toDigits 10 n, c.isDigit := fun _ hc =>
  Nat.isDigit_of_mem_toDigits (by decide) (by decide) hc

theorem dropPlus_of_isDigit {cs : List Char} (h : ∀ c ∈ cs, c.isDigit) : dropPlus cs = cs := by
  rw [dropPlus.eq_def]
  split
  · exact absurd (h '+' mem_cons_self) (by decide)
  · rfl

theorem parseUnsigned_toDigits {bound : ℕ} (n : Fin bound) :
    parseUnsigned bound (Nat.toDigits 10 n) = some n := by
  have hdig := dropPlus_of_isDigit (isDigit_toDigits n)
  have hval : Nat.ofDigitChars 10 (dropPlus (Nat.toDigits 10 n)) 0 = n := by
    rw [hdig, Nat.ofDigitChars_ten_toDigits]
  have hread : dropPlus (Nat.toDigits 10 n) ≠ [] ∧ (dropPlus (Nat.toDigits 10 n)).all Char.isDigit ∧
      Nat.ofDigitChars 10 (dropPlus (Nat.toDigits 10 n)) 0 < bound := by
    rw [hval, hdig]
    exact ⟨Nat.toDigits_ne_nil, all_eq_true.mpr (isDigit_toDigits n), n.isLt⟩
  rw [parseUnsigned, dif_pos hread]
  exact congrArg some (Fin.ext hval)

section

theorem head?_trim (cs : List Char) : ∀ c ∈ (trim cs).head?, ¬isWhitespace c := by
  intro c hc
  obtain ⟨tail, htail⟩ := trim_prefix_trimStart cs
  have hhead : (trimStart cs).head? = some c := by rw [← htail, List.head?_append, hc]; rfl
  have hnot := head?_dropWhile_not isWhitespace cs
  rw [← trimStart, hhead] at hnot
  simpa using hnot

theorem trim_trim (cs : List Char) : trim (trim cs) = trim cs := by
  refine trim_eq_self (head?_trim cs) fun c hc => ?_
  have hnot := head?_dropWhile_not isWhitespace (trimStart cs).reverse
  rw [trim, getLast?_reverse] at hc
  rw [hc] at hnot
  simpa using hnot

variable {sep cs s rest : List Char}

theorem splitFrom_skip (sep : List Char) (skip : ℕ) (piece cs : List Char) :
    splitFrom sep skip piece cs = splitFrom sep 0 piece (cs.drop skip) := by
  induction cs generalizing skip with
  | nil => simp [splitFrom]
  | cons c cs ih =>
    cases skip with
    | zero => rfl
    | succ skip => rw [splitFrom, ih, drop_succ_cons]

theorem splitFrom_of_none (h : splitAtText sep cs = none) (piece : List Char) :
    splitFrom sep 0 piece cs = [piece ++ cs] := by
  induction cs generalizing piece with
  | nil => rw [splitFrom, append_nil]
  | cons c cs ih =>
    rw [splitAtText] at h
    split_ifs at h with hsep
    rw [splitFrom, if_neg hsep, ih (map_eq_none_iff.mp h), append_assoc, singleton_append]

theorem splitFrom_of_some (hne : sep ≠ []) {pre post : List Char}
    (h : splitAtText sep cs = some (pre, post)) (piece : List Char) :
    splitFrom sep 0 piece cs = (piece ++ pre) :: split sep post := by
  induction cs generalizing piece pre with
  | nil => simp [splitAtText, hne] at h
  | cons c cs ih =>
    rw [splitAtText] at h
    split_ifs at h with hsep
    · obtain ⟨rfl, rfl⟩ := Prod.mk.inj (some.inj h)
      obtain ⟨n, hn⟩ := Nat.exists_eq_succ_of_ne_zero (mt length_eq_zero_iff.mp hne)
      rw [splitFrom, if_pos hsep, splitFrom_skip, append_nil, hn, drop_succ_cons]
      rfl
    · obtain ⟨p, hp, hpair⟩ := map_eq_some_iff.mp h
      obtain ⟨rfl, rfl⟩ := Prod.mk.inj hpair
      rw [splitFrom, if_neg hsep, ih hp, append_assoc, singleton_append]

theorem splitAtText_eq_none_iff (hne : sep ≠ []) : splitAtText sep cs = none ↔ ¬sep <:+: cs := by
  induction cs with
  | nil => simp [splitAtText, hne]
  | cons c cs ih =>
    rw [splitAtText, infix_cons_iff, ← isPrefixOf_iff_prefix]
    split_ifs with hsep
    · simp [hsep]
    · simp [hsep, ih]

theorem splitAtText_append_of_some {pre post : List Char}
    (h : splitAtText sep cs = some (pre, post)) (hne : sep ≠ []) (rest : List Char) :
    splitAtText sep (cs ++ rest) = some (pre, post ++ rest) := by
  induction cs generalizing pre with
  | nil => simp [splitAtText, hne] at h
  | cons c cs ih =>
    rw [splitAtText] at h
    split_ifs at h with hsep
    · obtain ⟨rfl, rfl⟩ := Prod.mk.inj (some.inj h)
      have hle := ( isPrefixOf_iff_prefix.mp hsep).length_le
      have hlong : sep.isPrefixOf (c :: (cs ++ rest)) := isPrefixOf_iff_prefix.mpr
        (( isPrefixOf_iff_prefix.mp hsep).trans (prefix_append (c :: cs) rest))
      rw [cons_append, splitAtText, if_pos hlong, ← cons_append, drop_append_of_le_length hle]
    · obtain ⟨p, hp, hpair⟩ := map_eq_some_iff.mp h
      obtain ⟨rfl, rfl⟩ := Prod.mk.inj hpair
      have hnot : ¬sep.isPrefixOf (c :: (cs ++ rest)) := by
        have hle : sep.length ≤ (c :: cs).length := by
          rw [splitAtText_eq_some hp]
          simp only [length_cons, length_append]
          omega
        intro hlong
        exact hsep ( isPrefixOf_iff_prefix.mpr (prefix_of_prefix_length_le
          ( isPrefixOf_iff_prefix.mp hlong) ( prefix_append (c :: cs) rest) hle))
      rw [cons_append, splitAtText, if_neg hnot, ih hp]
      rfl

theorem splitAtText_append (hne : sep ≠ []) (h : ¬sep <:+: s ++ sep.dropLast) (rest : List Char) :
    splitAtText sep (s ++ (sep ++ rest)) = some (s, rest) := by
  induction s with
  | nil =>
    obtain ⟨c, sep', rfl⟩ := exists_cons_of_ne_nil hne
    simp [splitAtText]
  | cons d s ih =>
    have hpart : d :: (s ++ sep.dropLast) <+: d :: (s ++ (sep ++ rest)) :=
      cons_prefix_cons.mpr ⟨rfl, ( prefix_append_right_inj s).mpr
        (( dropLast_prefix sep).trans ( prefix_append sep rest))⟩
    rw [cons_append, infix_cons_iff, not_or] at h
    have hnot : ¬sep.isPrefixOf (d :: (s ++ (sep ++ rest))) := by
      intro hsep
      refine h.1 (prefix_of_prefix_length_le ( isPrefixOf_iff_prefix.mp hsep) hpart ?_)
      have hpos := length_pos_of_ne_nil hne
      rw [length_cons, length_append, length_dropLast]
      omega
    rw [cons_append, splitAtText, if_neg hnot, ih h.2]
    rfl

end

end VngDatabase.Text
