import VngDatabase.Fields
import VngDatabase.Sql.Analyzer
import VngDatabase.Sql.Tokenizer

/-!
# A batch of statements

`parse_batch` (`crates/voltnuerongrid-sql/src/lib.rs`) cuts a text at every semicolon, also at one
in a literal, a quoted identifier or a comment, and drops a piece of which nothing is left without
its line comments.
-/

namespace VngDatabase.Sql

open Text List

variable (stmts : List String)

structure SqlStatement where
  raw : String
  kind : SqlStatementKind
  deriving DecidableEq

def SqlStatement.ofText (raw : String) : SqlStatement := ⟨raw, classifyStatement raw⟩

def parseBatchStatements (sqlBatch : String) : List SqlStatement :=
  (parseBatch sqlBatch).map SqlStatement.ofText

def trimmed (s : String) : String := String.ofList (trim s.toList)

def joinStatements : String :=
  String.ofList ([';'].intercalate (stmts.map String.toList))

theorem parseBatch_append (a b : List Char) :
    parseBatch (String.ofList (a ++ ';' :: b)) =
      parseBatch (String.ofList a) ++ parseBatch (String.ofList b) := by
  have hspl (piece : List Char) : splitFrom [';'] 0 piece (a ++ ';' :: b) =
      splitFrom [';'] 0 piece a ++ split [';'] b := by
    induction a generalizing piece with
    | nil => simp [splitFrom, split]
    | cons c a ih =>
      rw [cons_append, splitFrom, splitFrom]
      by_cases hc : c = ';'
      · subst hc
        simp [ih]
      · have hnot (l : List Char) : ¬[';'].isPrefixOf (c :: l) := by simp [Ne.symm hc]
        rw [if_neg (hnot _), if_neg (hnot _), ih]
  simp only [parseBatch, String.toList_ofList, split]
  rw [hspl]
  simp [split]

theorem parseBatch_joinStatements :
    parseBatch (joinStatements stmts) = stmts.flatMap parseBatch := by
  induction stmts with
  | nil => decide +kernel
  | cons s stmts ih =>
    cases stmts with
    | nil => simp [joinStatements]
    | cons s' stmts =>
      rw [flatMap_cons, ← ih, joinStatements, joinStatements, map_cons, map_cons,
        intercalate_cons_cons, append_assoc, singleton_append, parseBatch_append,
        String.ofList_toList]

theorem mem_parseBatch_iff {s x : String} : x ∈ parseBatch s ↔
    (∃ piece ∈ split [';'] s.toList, String.ofList (trim piece) = x) ∧
      normalizeSqlForMatch x ≠ "" := by
  have hemp : normalizeSqlForMatch "" = "" := by decide +kernel
  simp only [parseBatch, mem_filter, mem_map, decide_eq_true_eq]
  refine and_congr_left fun hx => ⟨?_, ?_⟩
  · rintro ⟨-, ⟨⟨piece, hpie, rfl⟩, -⟩, rfl⟩
    exact ⟨piece, hpie, rfl⟩
  · rintro ⟨piece, hpie, rfl⟩
    refine ⟨trim piece, ⟨⟨piece, hpie, rfl⟩, fun hnil => hx ?_⟩, rfl⟩
    rw [hnil]
    exact hemp

theorem notMem_of_trimmed_mem_parseBatch {s b : String} (h : trimmed s ∈ parseBatch b) :
    ';' ∉ s.toList := by
  intro hsemi
  obtain ⟨⟨piece, hpie, heq⟩, -⟩ := mem_parseBatch_iff.mp h
  have hsame : trim piece = trim s.toList := String.ofList_injective heq
  have hin : ';' ∈ trim piece := hsame ▸ mem_trim hsemi (by decide)
  exact notMem_of_mem_split hpie (mem_of_mem_trim hin)

theorem split_of_notMem {s : String} (h : ';' ∉ s.toList) : split [';'] s.toList = [s.toList] := by
  have hfrom := splitFrom_append h [] []
  rwa [append_nil] at hfrom

theorem parseBatch_of_notMem {s : String} (h : ';' ∉ s.toList) :
    parseBatch s = if normalizeSqlForMatch (trimmed s) = "" then [] else [trimmed s] := by
  have hspl := split_of_notMem h
  by_cases hnil : trim s.toList = []
  · have hemp : normalizeSqlForMatch (trimmed s) = "" := by
      rw [trimmed, hnil]
      decide +kernel
    rw [if_pos hemp]
    simp [parseBatch, hspl, hnil]
  · have hone : parseBatch s = [trimmed s].filter fun stmt => normalizeSqlForMatch stmt ≠ "" := by
      rw [parseBatch, hspl, map_singleton, filter_cons_of_pos (by simpa using hnil)]
      rfl
    by_cases hnorm : normalizeSqlForMatch (trimmed s) = "" <;> simp [hone, hnorm]

theorem flatMap_eq_iff {α β : Type} {f g : α → List β} {l : List α}
    (h : ∀ a ∈ l, f a = [] ∨ f a = g a) : l.flatMap f = l.flatMap g ↔ ∀ a ∈ l, f a = g a := by
  have hle {l : List α} (h : ∀ a ∈ l, f a = [] ∨ f a = g a) :
      (l.flatMap f).length ≤ (l.flatMap g).length := by
    induction l with
    | nil => exact le_rfl
    | cons a l ih =>
      rw [forall_mem_cons] at h
      have hrest := ih h.2
      rw [flatMap_cons, flatMap_cons, length_append, length_append]
      rcases h.1 with hnil | heq
      · rw [hnil, length_nil]
        omega
      · rw [heq]
        omega
  refine ⟨fun heq => ?_, fun hall => flatMap_congr hall⟩
  induction l with
  | nil => exact forall_mem_nil _
  | cons a l ih =>
    rw [forall_mem_cons] at h ⊢
    rw [flatMap_cons, flatMap_cons] at heq
    have hsame : f a = g a := by
      rcases h.1 with hnil | hsame
      · have hsho := hle h.2
        rw [hnil, nil_append] at heq
        rw [heq, length_append] at hsho
        rw [hnil, length_eq_zero_iff.mp (by omega : (g a).length = 0)]
      · exact hsame
    rw [hsame, append_cancel_left_eq] at heq
    exact ⟨hsame, ih h.2 heq⟩

section

variable [Unicode] (s : String)

def CommentOnly : Prop := semanticTokens (trimmed s) = []

instance (s : String) : Decidable (CommentOnly s) := inferInstanceAs (Decidable (_ = _))

/-- **Trimmed, and without those that are only comments.** -/
def properStatements : List String :=
  (stmts.filter fun s => ¬CommentOnly s).map trimmed

structure KeptWhole (s : String) : Prop where
  semicolon : ';' ∈ s.toList → CommentOnly s
  dropped : (∀ piece ∈ split [';'] s.toList,
    normalizeSqlForMatch (String.ofList (trim piece)) = "") ↔ CommentOnly s

theorem properStatements_singleton :
    properStatements [s] = if CommentOnly s then [] else [trimmed s] := by
  by_cases h : CommentOnly s <;> simp [properStatements, h]

theorem parseBatch_eq_iff : parseBatch s = properStatements [s] ↔ KeptWhole s := by
  rw [properStatements_singleton]
  by_cases hsemi : ';' ∈ s.toList
  · split_ifs with hcom
    · have hnone : parseBatch s = [] ↔ ∀ piece ∈ split [';'] s.toList,
          normalizeSqlForMatch (String.ofList (trim piece)) = "" := by
        simp only [eq_nil_iff_forall_not_mem, mem_parseBatch_iff, not_and, not_not]
        exact ⟨fun h piece hpie => h _ ⟨piece, hpie, rfl⟩,
          fun h x ⟨piece, hpie, heq⟩ => heq ▸ h piece hpie⟩
      rw [hnone]
      exact ⟨fun h => ⟨fun _ => hcom, iff_of_true h hcom⟩, fun h => h.dropped.mpr hcom⟩
    · refine iff_of_false (fun h => ?_) fun h => hcom (h.semicolon hsemi)
      have hmem : trimmed s ∈ parseBatch s := by
        rw [h]
        exact mem_singleton_self _
      exact notMem_of_trimmed_mem_parseBatch hmem hsemi
  · have hkept : KeptWhole s ↔ (normalizeSqlForMatch (trimmed s) = "" ↔ CommentOnly s) := by
      refine ⟨fun h => ?_, fun h => ⟨fun hmem => absurd hmem hsemi, ?_⟩⟩
      · simpa [split_of_notMem hsemi, trimmed] using h.dropped
      · simpa [split_of_notMem hsemi, trimmed] using h
    rw [parseBatch_of_notMem hsemi, hkept]
    by_cases hnorm : normalizeSqlForMatch (trimmed s) = "" <;>
      by_cases hcom : CommentOnly s <;> simp [hnorm, hcom]

theorem properStatements_eq_flatMap :
    properStatements stmts = stmts.flatMap fun s => properStatements [s] := by
  induction stmts with
  | nil => rfl
  | cons s stmts ih =>
    rw [flatMap_cons, ← ih]
    by_cases h : CommentOnly s <;> simp [properStatements, h]

/-- **A batch is cut into its statements** iff each comes out as it went in. -/
theorem parseBatch_join_iff (stmts : List String) :
    parseBatchStatements (joinStatements stmts) =
        (properStatements stmts).map SqlStatement.ofText ↔
      ∀ s ∈ stmts, KeptWhole s := by
  have hinj : Function.Injective SqlStatement.ofText := fun _ _ h => (SqlStatement.mk.inj h).1
  rw [parseBatchStatements, map_inj_right hinj, parseBatch_joinStatements,
    properStatements_eq_flatMap, eq_comm]
  constructor
  · intro h
    simp only [← parseBatch_eq_iff, eq_comm (a := parseBatch _)]
    refine (flatMap_eq_iff fun s hs => ?_).mp h
    rw [properStatements_singleton]
    split_ifs with hcom
    · exact .inl rfl
    · have hmem : trimmed s ∈ stmts.flatMap parseBatch := by
        rw [← h, mem_flatMap]
        refine ⟨s, hs, ?_⟩
        rw [properStatements_singleton, if_neg hcom]
        exact mem_singleton_self _
      obtain ⟨batch, -, hbat⟩ := mem_flatMap.mp hmem
      rw [parseBatch_of_notMem (notMem_of_trimmed_mem_parseBatch hbat),
        if_neg (mem_parseBatch_iff.mp hbat).2]
      exact .inr rfl
  · intro h
    exact flatMap_congr fun s hs => ((parseBatch_eq_iff s).mpr (h s hs)).symm

end

theorem parseBatch_cuts_literal : letI := Unicode.ascii
    parseBatchStatements (joinStatements ["INSERT INTO t (a) VALUES ('x;y')"]) =
        [⟨"INSERT INTO t (a) VALUES ('x", .insert⟩, ⟨"y')", .unknown⟩] ∧
      (properStatements ["INSERT INTO t (a) VALUES ('x;y')"]).map SqlStatement.ofText =
        [⟨"INSERT INTO t (a) VALUES ('x;y')", .insert⟩] := by
  decide +kernel

end VngDatabase.Sql
