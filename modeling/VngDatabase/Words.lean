import VngDatabase.Text

/-!
# The first word of a text

Statements are told apart by how they start. A text which leads with a word (`Leads`) does so when
it is trimmed, cut at a separator or at a line end, or put in upper case, and its first word is this
one (`Leads.wordsFrom_eq`).
-/

namespace VngDatabase.Text

open List Option

/-! ### Letters and blanks -/

variable {d : Char}

theorem toUpper_of_isWhitespace {c : Char} (h : isWhitespace c) : c.toUpper = c := by
  rw [Char.toUpper]
  split
  · rename_i hc
    have hlow : 97 ≤ c.toNat := hc.1
    have hhigh : c.toNat ≤ 122 := hc.2
    simp only [isWhitespace, Bool.or_eq_true, Bool.and_eq_true, decide_eq_true_eq, mem_cons,
      not_mem_nil, or_false] at h
    omega
  · rfl

theorem eq_of_toUpper_eq_blank {c : Char} (h : c.toUpper = ' ') : c = ' ' := by
  rw [Char.toUpper] at h
  split at h
  · have hv := congrArg Char.val h
    grind
  · exact h

theorem notMem_of_map_toUpper {a word : List Char} (ha : a.map Char.toUpper = word)
    (hd : d.toUpper = d) (hword : d ∉ word) : d ∉ a := by
  intro hmem
  have hupp := mem_map_of_mem (f := Char.toUpper) hmem
  rw [ha, hd] at hupp
  exact hword hupp

theorem not_startsWith_of_ne {s pat : String} (h : startsWith s pat) (pat' : String)
    (hne : ¬(pat.toList <+: pat'.toList ∨ pat'.toList <+: pat.toList)) :
    startsWith s pat' = false := by
  rw [← Bool.not_eq_true]
  intro h'
  exact hne ( prefix_or_prefix_of_prefix ( isPrefixOf_iff_prefix.mp h)
    ( isPrefixOf_iff_prefix.mp h'))

/-! ### Words -/

structure IsWord (word : List Char) : Prop where
  ne_nil : word ≠ []
  noBlank : ∀ c ∈ word, ¬isWhitespace c

instance (word : List Char) : Decidable (IsWord word) :=
  decidable_of_iff (word ≠ [] ∧ word.all (fun c => !isWhitespace c)) <| by
    simp only [List.all_eq_true, Bool.not_eq_true', ← Bool.not_eq_true]
    exact ⟨fun h => ⟨h.1, h.2⟩, fun h => ⟨h.ne_nil, h.noBlank⟩⟩

/-- **The text leads with the word**, in whatever case. -/
def Leads (word cs : List Char) : Prop :=
  ∃ a tail, cs = a ++ tail ∧ a.map Char.toUpper = word ∧ (tail = [] ∨ ∃ rest, tail = ' ' :: rest)

variable {word a cs tail : List Char}

theorem IsWord.of_map_toUpper (hword : IsWord word) (ha : a.map Char.toUpper = word) :
    IsWord a where
  ne_nil := by
    rintro rfl
    exact hword.ne_nil ha.symm
  noBlank c hc hbl := by
    have hupp := mem_map_of_mem (f := Char.toUpper) hc
    rw [ha, toUpper_of_isWhitespace hbl] at hupp
    exact hword.noBlank c hupp hbl

theorem exists_of_startsWith {more : List Char} (h : word ++ ' ' :: more <+: cs.map Char.toUpper) :
    ∃ a rest, cs = a ++ ' ' :: rest ∧ a.map Char.toUpper = word ∧
      more <+: rest.map Char.toUpper := by
  obtain ⟨after, haft⟩ := h
  rw [append_assoc, cons_append] at haft
  obtain ⟨a, tail, rfl, ha, htail⟩ := map_eq_append_iff.mp haft.symm
  obtain ⟨c, rest, rfl, hc, hrest⟩ := map_eq_cons_iff.mp htail
  obtain rfl := eq_of_toUpper_eq_blank hc
  exact ⟨a, rest, rfl, ha, after, hrest.symm⟩

theorem IsWord.trimStart_append (h : IsWord a) (tail : List Char) :
    trimStart (a ++ tail) = a ++ tail := by
  obtain ⟨hne, hbl⟩ := h
  cases a with
  | nil => exact absurd rfl hne
  | cons c a =>
    rw [trimStart, cons_append, dropWhile_cons_of_neg (hbl c mem_cons_self)]

theorem IsWord.trim_append (h : IsWord a) (tail : List Char) :
    trim (a ++ tail) = a ++ (tail.reverse.dropWhile isWhitespace).reverse := by
  rw [trim, h.trimStart_append, reverse_append, dropWhile_append]
  split_ifs with hnil
  · have hst0 : a.reverse.dropWhile isWhitespace = a.reverse := by
      cases hrev : a.reverse with
      | nil => rfl
      | cons c cs =>
        have hc : c ∈ a := mem_reverse.mp (hrev ▸ mem_cons_self)
        exact dropWhile_cons_of_neg (h.noBlank c hc)
    rw [hst0, reverse_reverse, isEmpty_iff.mp hnil, reverse_nil, append_nil]
  · rw [reverse_append, reverse_reverse]

theorem blank_or_nil_of_isPrefix {t tail : List Char} (h : t <+: tail)
    (htail : tail = [] ∨ ∃ rest, tail = ' ' :: rest) : t = [] ∨ ∃ rest, t = ' ' :: rest := by
  rcases htail with rfl | ⟨rest, rfl⟩
  · exact Or.inl (prefix_nil.mp h)
  · cases t with
    | nil => exact Or.inl rfl
    | cons c t =>
      obtain ⟨rfl, -⟩ := cons_prefix_cons.mp h
      exact Or.inr ⟨t, rfl⟩

theorem Leads.shorten {t : List Char} (h : t <+: tail) (ha : a.map Char.toUpper = word)
    (htail : tail = [] ∨ ∃ rest, tail = ' ' :: rest) : Leads word (a ++ t) :=
  ⟨a, t, rfl, ha, blank_or_nil_of_isPrefix h htail⟩

theorem Leads.trim (hword : IsWord word) (h : Leads word cs) : Leads word (trim cs) := by
  obtain ⟨a, tail, rfl, ha, htail⟩ := h
  rw [(hword.of_map_toUpper ha).trim_append]
  refine .shorten ?_ ha htail
  have hsuf := reverse_prefix.mpr (dropWhile_suffix (l := tail.reverse) isWhitespace)
  rwa [reverse_reverse] at hsuf

theorem Leads.append (h : Leads word cs) (rest : List Char) : Leads word (cs ++ ' ' :: rest) := by
  obtain ⟨a, tail, rfl, ha, rfl | ⟨tail, rfl⟩⟩ := h
  · exact ⟨a, ' ' :: rest, by rw [append_nil], ha, Or.inr ⟨rest, rfl⟩⟩
  · exact ⟨a, ' ' :: (tail ++ ' ' :: rest), by simp, ha, Or.inr ⟨_, rfl⟩⟩

theorem Leads.ne_nil (hword : IsWord word) (h : Leads word cs) : cs ≠ [] := by
  obtain ⟨a, tail, rfl, ha, -⟩ := h
  intro hnil
  exact (hword.of_map_toUpper ha).ne_nil (append_eq_nil_iff.mp hnil).1

theorem Leads.of_cut {x y : List Char} (hd : d.toUpper = d) (hword : d ∉ word)
    (h : Leads word (x ++ d :: y)) : Leads word x := by
  obtain ⟨a, tail, heq, ha, htail⟩ := h
  rcases append_eq_append_iff.mp heq with ⟨c, rfl, hc⟩ | ⟨t, rfl, ht⟩
  · cases c with
    | nil => exact ⟨x, [], (append_nil x).symm, by simpa using ha, Or.inl rfl⟩
    | cons e c =>
      obtain ⟨rfl, -⟩ := cons.inj hc
      exact absurd (mem_append_right x mem_cons_self) (notMem_of_map_toUpper ha hd hword)
  · exact .shorten ⟨_, ht.symm⟩ ha htail

theorem Leads.takeWhile (hd : d.toUpper = d) (hword : d ∉ word) (h : Leads word cs) :
    Leads word (cs.takeWhile (· ≠ d)) := by
  cases hdrop : cs.dropWhile (· ≠ d) with
  | nil =>
    have hcs := takeWhile_append_dropWhile (p := (· ≠ d)) (l := cs)
    rw [hdrop, append_nil] at hcs
    rwa [hcs]
  | cons e rest =>
    have he : e = d := by
      have hne : cs.dropWhile (· ≠ d) ≠ [] := hdrop ▸ cons_ne_nil e rest
      have hhead := head_dropWhile_not (· ≠ d) hne
      simp only [hdrop, head_cons] at hhead
      simpa using hhead
    subst he
    have hcs := takeWhile_append_dropWhile (p := (· ≠ e)) (l := cs)
    rw [hdrop] at hcs
    rw [← hcs] at h
    exact h.of_cut hd hword

theorem Leads.dropWhile_eq (hword : IsWord word) (hd : d.toUpper = d) (hnot : d ∉ word)
    (h : Leads word cs) : cs.dropWhile (· = d) = cs := by
  obtain ⟨a, tail, rfl, ha, -⟩ := h
  have hmem := notMem_of_map_toUpper ha hd hnot
  cases a with
  | nil => exact absurd rfl (hword.of_map_toUpper ha).ne_nil
  | cons c a =>
    have hc : c ≠ d := fun heq => hmem (heq ▸ mem_cons_self)
    exact dropWhile_cons_of_neg (by simpa using hc)

theorem trim_prefix_trimStart (cs : List Char) : trim cs <+: trimStart cs := by
  have hsuf := reverse_prefix.mpr
    (dropWhile_suffix (l := (trimStart cs).reverse) isWhitespace)
  rwa [reverse_reverse] at hsuf

theorem trim_eq_self {cs : List Char} (hhead : ∀ c ∈ cs.head?, ¬isWhitespace c)
    (hlast : ∀ c ∈ cs.getLast?, ¬isWhitespace c) : trim cs = cs := by
  have hkeep : ∀ {l : List Char}, (∀ c ∈ l.head?, ¬isWhitespace c) →
      l.dropWhile isWhitespace = l := by
    intro l hl
    cases l with
    | nil => rfl
    | cons c l => exact dropWhile_cons_of_neg (hl c rfl)
  rw [trim, trimStart, hkeep hhead, hkeep (by rwa [head?_reverse]), reverse_reverse]

theorem trim_trimStart (cs : List Char) : trim (trimStart cs) = trim cs := by
  rw [trim, trim, trimStart, trimStart, dropWhile_idempotent]

theorem prefix_trimStart {s pat : String}
    (h : startsWith (toAsciiUppercase (String.ofList (trim s.toList))) pat) :
    pat.toList <+: (trimStart s.toList).map Char.toUpper := by
  rw [startsWith, isPrefixOf_iff_prefix, toAsciiUppercase, String.toList_ofList,
    String.toList_ofList] at h
  exact h.trans ((trim_prefix_trimStart s.toList).map Char.toUpper)

theorem trimStart_takeWhile (hd : ¬isWhitespace d) (cs : List Char) :
    trimStart (cs.takeWhile (· ≠ d)) = (trimStart cs).takeWhile (· ≠ d) := by
  induction cs with
  | nil => rfl
  | cons c cs ih =>
    by_cases hc : isWhitespace c
    · have hne : c ≠ d := by
        rintro rfl
        exact hd hc
      rw [takeWhile_cons_of_pos (by simpa using hne), trimStart, trimStart,
        dropWhile_cons_of_pos hc, dropWhile_cons_of_pos hc]
      exact ih
    · rw [trimStart, trimStart, dropWhile_cons_of_neg hc, takeWhile_cons]
      split_ifs
      · exact dropWhile_cons_of_neg hc
      · rfl

theorem wordsFrom_append {blank : Char → Bool} {a : List Char} (h : ∀ c ∈ a, ¬blank c)
    (word tail : List Char) :
    wordsFrom blank word (a ++ tail) = wordsFrom blank (word ++ a) tail := by
  induction a generalizing word with
  | nil => rw [nil_append, append_nil]
  | cons c a ih =>
    rw [cons_append, wordsFrom, if_neg (h c mem_cons_self),
      ih fun d hd => h d (mem_cons_of_mem c hd), append_assoc, singleton_append]

theorem wordsFrom_trimStart (cs : List Char) :
    wordsFrom isWhitespace [] (trimStart cs) = wordsFrom isWhitespace [] cs := by
  induction cs with
  | nil => rfl
  | cons c cs ih =>
    rw [trimStart, dropWhile_cons]
    split_ifs with hc
    · rw [wordsFrom, if_pos hc, if_pos rfl, ← ih]
      rfl
    · rfl

theorem IsWord.wordsFrom_cons (h : IsWord a) (rest : List Char) :
    wordsFrom isWhitespace [] (a ++ ' ' :: rest) = a :: wordsFrom isWhitespace [] rest := by
  rw [wordsFrom_append h.noBlank, nil_append, wordsFrom, if_pos (by decide), if_neg h.ne_nil]

theorem Leads.wordsFrom_eq (hword : IsWord word) (h : Leads word cs) :
    ∃ words, wordsFrom isWhitespace [] (cs.map Char.toUpper) = word :: words := by
  obtain ⟨a, tail, rfl, rfl, rfl | ⟨rest, rfl⟩⟩ := h
  · have hwor := wordsFrom_append hword.noBlank [] []
    rw [append_nil] at hwor ⊢
    rw [hwor, nil_append, wordsFrom, if_neg hword.ne_nil]
    exact ⟨[], rfl⟩
  · rw [map_append, map_cons]
    exact ⟨_, hword.wordsFrom_cons (rest.map Char.toUpper)⟩

theorem split_singleton (c : Char) (cs : List Char) :
    ∃ pieces, split [c] cs = cs.takeWhile (· ≠ c) :: pieces := by
  have hfrom (piece : List Char) : ∃ pieces,
      splitFrom [c] 0 piece cs = (piece ++ cs.takeWhile (· ≠ c)) :: pieces := by
    induction cs generalizing piece with
    | nil => exact ⟨[], by rw [splitFrom, takeWhile_nil, append_nil]⟩
    | cons d cs ih =>
      rw [splitFrom, takeWhile_cons]
      by_cases hd : c = d
      · subst hd
        simp
      · obtain ⟨pieces, hpcs⟩ := ih (piece ++ [d])
        have hne : ¬[c].isPrefixOf (d :: cs) := by simp [hd]
        have hne' : decide (d ≠ c) = true := decide_eq_true (Ne.symm hd)
        rw [if_neg hne, hne', if_pos rfl]
        exact ⟨pieces, hpcs.trans (by rw [append_assoc, singleton_append])⟩
  exact hfrom []

theorem linesFrom_cons {line cs : List Char} (h : line ++ cs ≠ []) :
    ∃ first lines, linesFrom line cs = first :: lines ∧
      (first = line ++ cs.takeWhile (· ≠ '\n') ∨
        first ++ ['\r'] = line ++ cs.takeWhile (· ≠ '\n')) := by
  induction cs generalizing line with
  | nil =>
    rw [append_nil] at h
    exact ⟨line, [], by rw [linesFrom, if_neg h], Or.inl (by simp)⟩
  | cons c cs ih =>
    rw [linesFrom, takeWhile_cons]
    by_cases hc : c = '\n'
    · subst hc
      rw [if_pos rfl]
      simp only [ne_eq, not_true_eq_false, decide_false, Bool.false_eq_true, if_false, append_nil]
      split_ifs with hcr
      · exact ⟨_, _, rfl, Or.inr (dropLast_append_getLast? _ hcr)⟩
      · exact ⟨_, _, rfl, Or.inl rfl⟩
    · have hne : line ++ [c] ++ cs ≠ [] := by simp
      obtain ⟨first, lines, hlin, hfst⟩ := ih hne
      rw [if_neg hc, hlin]
      refine ⟨first, lines, rfl, ?_⟩
      simpa [hc] using hfst

theorem splitAtText_eq_some {pat cs pre post : List Char}
    (h : splitAtText pat cs = some (pre, post)) : cs = pre ++ pat ++ post := by
  induction cs generalizing pre with
  | nil =>
    rw [splitAtText] at h
    split_ifs at h with hpat
    obtain ⟨rfl, rfl⟩ := Prod.mk.inj (some.inj h)
    rw [hpat]
    rfl
  | cons c cs ih =>
    rw [splitAtText] at h
    split_ifs at h with hpat
    · obtain ⟨rfl, rfl⟩ := Prod.mk.inj (some.inj h)
      obtain ⟨rest, hrest⟩ := isPrefixOf_iff_prefix.mp hpat
      rw [← hrest, drop_left, nil_append]
    · obtain ⟨p, hp, hpair⟩ := map_eq_some_iff.mp h
      obtain ⟨rfl, rfl⟩ := Prod.mk.inj hpair
      rw [ih hp]
      rfl

end VngDatabase.Text
