import VngDatabase.Sql.Analyzer

/-!
# Savepoints in SQL

What `effective_statements_after_savepoints` of `services/voltnuerongridd/src/handlers/sql.rs`
leaves of a transaction, beside what SQL leaves of it.
-/

namespace VngDatabase.Sql

open Text List

/-! ### Commands -/

inductive SavepointCommand
  | work (stmt : String)
  | savepoint (name : String)
  | rollbackTo (name : String)
  | release (name : String)
  | nothing
  deriving DecidableEq

def commandOf (stmt : String) : SavepointCommand :=
  let words := (splitAsciiWhitespace stmt).map toAsciiLowercase
  match classifyStatement stmt with
  | .savepoint => (words[1]?.map .savepoint).getD .nothing
  | .releaseSavepoint => (words[2]?.map .release).getD .nothing
  | .rollbackToSavepoint =>
    ((SavepointScan.rollbackTarget (splitAsciiWhitespace stmt)).map fun name =>
      .rollbackTo (toAsciiLowercase name)).getD .nothing
  | .begin | .commit | .rollback => .nothing
  | _ => .work stmt

def SavepointCommand.name? : SavepointCommand → Option String
  | .savepoint name | .rollbackTo name | .release name => some name
  | _ => none

def bare (name : String) : String := String.ofList (trimEndMatches (· = ';') name.toList)

/-- The live savepoints, newest first, with what was left then. -/
structure Survivors where
  applied : List String := []
  live : List (String × List String) := []

/-- **The semantics of savepoints.** -/
def Survivors.perform (s : Survivors) : SavepointCommand → Survivors
  | .work stmt => { s with applied := s.applied ++ [stmt] }
  | .savepoint name => { s with live := (bare name, s.applied) :: s.live }
  | .rollbackTo name =>
    match s.live.dropWhile (·.1 ≠ bare name) with
    | (n, saved) :: older => ⟨saved, (n, saved) :: older⟩
    | [] => s
  | .release name =>
    match s.live.dropWhile (·.1 ≠ bare name) with
    | _ :: older => { s with live := older }
    | [] => s
  | .nothing => s

def survivors (statements : List String) : List String :=
  ((statements.map commandOf).foldl Survivors.perform {}).applied

/-! ### When the source agrees -/

/-- **Only the newest savepoint is released.** -/
def ReleasesNewest : Survivors → List SavepointCommand → Prop
  | _, [] => True
  | s, c :: cs => (∀ name, c = .release name → (∃ e ∈ s.live, e.1 = bare name) →
      ∃ e ∈ s.live.head?, e.1 = bare name) ∧ ReleasesNewest (s.perform c) cs

namespace SavepointScan

variable {scan : SavepointScan} {names : List String} {s : Survivors}

def perform (scan : SavepointScan) : SavepointCommand → SavepointScan
  | .work stmt => { scan with applied := scan.applied ++ [stmt] }
  | .savepoint name => { scan with savepoints := scan.savepoints ++ [(name, scan.applied.length)] }
  | .rollbackTo name => scan.rollbackTo name
  | .release name => scan.release name
  | .nothing => scan

theorem step_eq (stmt : String) : scan.step stmt = scan.perform (commandOf stmt) := by
  unfold step commandOf
  dsimp only
  cases classifyStatement stmt with
  | savepoint => cases h : (splitAsciiWhitespace stmt)[1]? <;> simp [h, perform]
  | releaseSavepoint => cases h : (splitAsciiWhitespace stmt)[2]? <;> simp [h, perform]
  | rollbackToSavepoint =>
    cases h : rollbackTarget (splitAsciiWhitespace stmt) <;> simp [perform]
  | _ => rfl

theorem position_cases (savepoints : List (String × ℕ)) (applied : List String) (name : String) :
    (∃ pre m post, savepoints = pre ++ (name, m) :: post ∧ (∀ p ∈ post, p.1 ≠ name) ∧
        position ⟨applied, savepoints⟩ name = some pre.length) ∨
      (∀ p ∈ savepoints, p.1 ≠ name) ∧ position ⟨applied, savepoints⟩ name = none := by
  unfold position
  induction savepoints using List.reverseRecOn with
  | nil => exact .inr ⟨nofun, rfl⟩
  | append_singleton l p ih =>
    have hzip : (l ++ [p]).zipIdx = l.zipIdx ++ [(p, l.length)] := by simp [zipIdx_append]
    simp only [hzip, filter_append] at ih ⊢
    by_cases hp : p.1 = name
    · exact .inl ⟨l, p.2, [], by simp [← hp], nofun, by simp [hp]⟩
    · rw [filter_cons_of_neg (by simpa using hp), filter_nil, append_nil]
      rcases ih with ⟨pre, m, post, rfl, hpost, hpos⟩ | ⟨hnone, hpos⟩
      · exact .inl ⟨pre, m, post ++ [p], by simp,
          forall_mem_append.mpr ⟨hpost, forall_mem_singleton.mpr hp⟩, hpos⟩
      · exact .inr ⟨forall_mem_append.mpr ⟨hnone, forall_mem_singleton.mpr hp⟩, hpos⟩

/-- The number of statements stands for what was left. -/
def abstracted (scan : SavepointScan) : Survivors :=
  ⟨scan.applied, (scan.savepoints.map fun p => (bare p.1, scan.applied.take p.2)).reverse⟩

structure WellFormed (names : List String) (scan : SavepointScan) : Prop where
  sorted : scan.savepoints.Pairwise fun p q => p.2 ≤ q.2
  bounded : ∀ p ∈ scan.savepoints, p.2 ≤ scan.applied.length
  named : ∀ p ∈ scan.savepoints, p.1 ∈ names

theorem WellFormed.sublist {applied : List String} {savepoints kept : List (String × ℕ)}
    (h : WellFormed names ⟨applied, savepoints⟩) (hkept : kept <+ savepoints) :
    WellFormed names ⟨applied, kept⟩ :=
  ⟨h.sorted.sublist hkept, fun p hp => h.bounded p (hkept.subset hp),
    fun p hp => h.named p (hkept.subset hp)⟩

theorem dropWhile_live {pre post : List (String × ℕ)} {name : String} {m : ℕ}
    (hpost : ∀ p ∈ post, bare p.1 ≠ bare name) (saved : ℕ → List String) :
    ((pre ++ (name, m) :: post).map fun p => (bare p.1, saved p.2)).reverse.dropWhile
        (·.1 ≠ bare name) =
      (bare name, saved m) :: (pre.map fun p => (bare p.1, saved p.2)).reverse := by
  rw [map_append, map_cons, reverse_append, reverse_cons, append_assoc,
    dropWhile_append_of_pos fun q hq => ?_]
  · exact dropWhile_cons_of_neg (by simp)
  · obtain ⟨p, hp, rfl⟩ := mem_map.mp (mem_reverse.mp hq)
    simpa using hpost p hp

theorem abstracted_perform (hnms : ∀ n ∈ names, ∀ n' ∈ names, bare n = bare n' → n = n')
    (h : WellFormed names scan) {c : SavepointCommand} (hc : ∀ n ∈ c.name?, n ∈ names)
    (hnw : ∀ name, c = .release name → (∃ e ∈ scan.abstracted.live, e.1 = bare name) →
      ∃ e ∈ scan.abstracted.live.head?, e.1 = bare name) :
    (scan.perform c).abstracted = scan.abstracted.perform c ∧
      WellFormed names (scan.perform c) := by
  obtain ⟨applied, savepoints⟩ := scan
  obtain ⟨hsrt, hbd, hnam⟩ := h
  dsimp only at hsrt hbd hnam
  have hmiss {name : String} (hn : name ∈ names) (hnone : ∀ p ∈ savepoints, p.1 ≠ name) :
      (abstracted ⟨applied, savepoints⟩).live.dropWhile (·.1 ≠ bare name) = [] := by
    refine dropWhile_eq_nil_iff.mpr fun q hq => ?_
    obtain ⟨p, hp, rfl⟩ := mem_map.mp (mem_reverse.mp hq)
    simpa using fun heq => hnone p hp (hnms _ (hnam p hp) _ hn heq)
  have hfnd {pre post : List (String × ℕ)} {name : String} {m : ℕ}
      (heq : savepoints = pre ++ (name, m) :: post) (hpost : ∀ p ∈ post, p.1 ≠ name) :
      (abstracted ⟨applied, savepoints⟩).live.dropWhile (·.1 ≠ bare name) =
        (bare name, applied.take m) :: (abstracted ⟨applied, pre⟩).live := by
    subst heq
    exact dropWhile_live (fun p hp h => hpost p hp
      (hnms _ (hnam p (by simp [hp])) _ (hnam (name, m) (by simp)) h)) (applied.take ·)
  cases c with
  | work stmt =>
    refine ⟨?_, hsrt, fun p hp =>
      Nat.le_trans (hbd p hp) (by simp [perform]), hnam⟩
    refine congrArg (Survivors.mk _ ·.reverse) (map_congr_left fun p hp => ?_)
    dsimp only [perform]
    rw [take_append_of_le_length (hbd p hp)]
  | savepoint name =>
    refine ⟨by simp [abstracted, perform, Survivors.perform], ?_, ?_, ?_⟩
    · exact pairwise_append.mpr ⟨hsrt, pairwise_singleton _ _, fun p hp q hq => by
        rw [mem_singleton.mp hq]
        exact hbd p hp⟩
    · exact forall_mem_append.mpr ⟨hbd, forall_mem_singleton.mpr (Nat.le_refl _)⟩
    · exact forall_mem_append.mpr ⟨hnam, forall_mem_singleton.mpr (hc name rfl)⟩
  | rollbackTo name =>
    rcases position_cases savepoints applied name with
      ⟨pre, m, post, rfl, hpost, hpos⟩ | ⟨hnone, hpos⟩
    · have hspl : pre ++ (name, m) :: post = (pre ++ [(name, m)]) ++ post := by simp
      have hle : ∀ p ∈ pre ++ [(name, m)], p.2 ≤ m := forall_mem_append.mpr
        ⟨fun p hp => (pairwise_append.mp hsrt).2.2 p hp _ mem_cons_self, by simp⟩
      have hscan : perform ⟨applied, pre ++ (name, m) :: post⟩ (.rollbackTo name) =
          ⟨applied.take m, pre ++ [(name, m)]⟩ := by
        rw [perform, rollbackTo, hpos]
        simp only [getElem?_append_right (Nat.le_refl _), Nat.sub_self, getElem?_cons_zero]
        rw [hspl, take_left' (by simp)]
        rfl
      have hkept : pre ++ [(name, m)] <+ pre ++ (name, m) :: post := by simp
      obtain ⟨hsrt', hbd', hnam'⟩ := WellFormed.sublist ⟨hsrt, hbd, hnam⟩ hkept
      rw [hscan, Survivors.perform, hfnd rfl hpost]
      refine ⟨?_, hsrt', fun p hp => ?_, hnam'⟩
      · have htake : ∀ p ∈ pre ++ [(name, m)], (bare p.1, (applied.take m).take p.2) =
            (bare p.1, applied.take p.2) := fun p hp => by
          rw [take_take, Nat.min_eq_left (hle p hp)]
        rw [abstracted, map_congr_left htake]
        simp [abstracted]
      · rw [length_take, Nat.min_eq_left (hbd (name, m) (by simp))]
        exact hle p hp
    · rw [perform, rollbackTo, hpos, Survivors.perform, hmiss (hc name rfl) hnone]
      exact ⟨rfl, hsrt, hbd, hnam⟩
  | release name =>
    rcases position_cases savepoints applied name with
      ⟨pre, m, post, rfl, hpost, hpos⟩ | ⟨hnone, hpos⟩
    · -- a savepoint after it would be newer
      obtain rfl : post = [] := by
        obtain rfl | ⟨later, q, rfl⟩ := eq_nil_or_concat post
        · rfl
        · obtain ⟨e, he, heq⟩ := hnw name rfl
            ⟨(bare name, applied.take m), by simp [abstracted], rfl⟩
          have hq : (bare q.1, applied.take q.2) = e := by simpa [abstracted] using he
          exact absurd (hnms _ (hnam q (by simp)) _ (hc name rfl)
            ((congrArg Prod.fst hq).trans heq)) (hpost q (by simp))
      rw [perform, release, hpos, Survivors.perform, hfnd rfl hpost]
      have hera : (pre ++ [(name, m)]).eraseIdx pre.length = pre := by
        rw [eraseIdx_append_of_length_le (Nat.le_refl _)]
        simp
      dsimp only
      rw [hera]
      exact ⟨rfl, WellFormed.sublist ⟨hsrt, hbd, hnam⟩ (sublist_append_left _ _)⟩
    · rw [perform, release, hpos, Survivors.perform, hmiss (hc name rfl) hnone]
      exact ⟨rfl, hsrt, hbd, hnam⟩
  | nothing => exact ⟨rfl, hsrt, hbd, hnam⟩

theorem abstracted_foldl (hnms : ∀ n ∈ names, ∀ n' ∈ names, bare n = bare n' → n = n')
    (cs : List SavepointCommand) (hcs : ∀ c ∈ cs, ∀ n ∈ c.name?, n ∈ names) :
    ∀ scan : SavepointScan, WellFormed names scan → ReleasesNewest scan.abstracted cs →
      (cs.foldl perform scan).abstracted = cs.foldl Survivors.perform scan.abstracted := by
  induction cs with
  | nil => exact fun _ _ _ => rfl
  | cons c cs ih =>
    intro scan hscan hnw
    rw [forall_mem_cons] at hcs
    obtain ⟨heq, hscan'⟩ := abstracted_perform hnms hscan hcs.1 hnw.1
    rw [foldl_cons, foldl_cons, ih hcs.2 _ hscan' (heq ▸ hnw.2), heq]

end SavepointScan

/-- **The source leaves what SQL leaves** if names are written in one way, and the newest savepoint
released. -/
theorem effectiveStatements_eq_survivors {statements : List String}
    (hnames : ∀ n ∈ (statements.map commandOf).filterMap SavepointCommand.name?,
      ∀ n' ∈ (statements.map commandOf).filterMap SavepointCommand.name?, bare n = bare n' → n = n')
    (hnewest : ReleasesNewest {} (statements.map commandOf)) :
    effectiveStatementsAfterSavepoints statements = survivors statements := by
  have hrun := SavepointScan.abstracted_foldl hnames (statements.map commandOf)
    (fun c hc n hn => mem_filterMap.mpr ⟨c, hc, hn⟩) {} ⟨.nil, nofun, nofun⟩ hnewest
  rw [foldl_map, foldl_map] at hrun
  rw [survivors, effectiveStatementsAfterSavepoints, foldl_map, funext₂ @SavepointScan.step_eq]
  exact congrArg Survivors.applied hrun

theorem savepoints_differ_from_sql :
    (effectiveStatementsAfterSavepoints ["SAVEPOINT a;", "DELETE FROM t", "ROLLBACK TO a"] =
        ["DELETE FROM t"] ∧ survivors ["SAVEPOINT a;", "DELETE FROM t", "ROLLBACK TO a"] = []) ∧
      effectiveStatementsAfterSavepoints ["SAVEPOINT b", "DELETE FROM t", "SAVEPOINT a",
        "SAVEPOINT b", "RELEASE SAVEPOINT a", "DELETE FROM u", "ROLLBACK TO b"] =
          ["DELETE FROM t"] ∧
      survivors ["SAVEPOINT b", "DELETE FROM t", "SAVEPOINT a",
        "SAVEPOINT b", "RELEASE SAVEPOINT a", "DELETE FROM u", "ROLLBACK TO b"] = [] := by
  decide +kernel

theorem nested_savepoints :
    effectiveStatementsAfterSavepoints ["SAVEPOINT a", "DELETE FROM t", "SAVEPOINT b",
        "RELEASE SAVEPOINT b", "ROLLBACK TO a"] =
      survivors ["SAVEPOINT a", "DELETE FROM t", "SAVEPOINT b",
        "RELEASE SAVEPOINT b", "ROLLBACK TO a"] := by
  have hcom : ["SAVEPOINT a", "DELETE FROM t", "SAVEPOINT b", "RELEASE SAVEPOINT b",
      "ROLLBACK TO a"].map commandOf =
      [.savepoint "a", .work "DELETE FROM t", .savepoint "b", .release "b", .rollbackTo "a"] := by
    decide +kernel
  refine effectiveStatements_eq_survivors ?_ ?_
  · rw [hcom]
    decide +kernel
  · rw [hcom]
    simp [ReleasesNewest, Survivors.perform]

end VngDatabase.Sql
