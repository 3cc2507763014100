import VngDatabase.Dml.Replica
import VngDatabase.Fields

/-!
# A transaction as one command

The row statements of a transaction go through the replicated log as one text
(`encode_raft_batch_command` in `services/voltnuerongridd/src/main.rs`), with a separator that a
statement may hold in a literal.
-/

namespace VngDatabase.Dml

open Store Sql Text Overlay List Option

def dmlStatements (statements : List String) : List (List Char) :=
  (statements.map fun s => trim s.toList).filter fun s => (dmlKind (String.ofList s)).isSome

def encodeRaftBatchCommand (db : String) (statements : List String) : Option String :=
  let dml := dmlStatements statements
  if dml = [] then none
  else some (raftBatchPrefix ++ (db ++ String.ofList
    ('\n' :: raftBatchStmtSep.toList.intercalate dml)))

def batchPieces (body : List Char) : List (List Char) :=
  ((split raftBatchStmtSep.toList body).map trim).filter (· ≠ [])

def readBatch (command : String) : Option (String × List (List Char)) :=
  (stripPrefix command raftBatchPrefix).map fun rest =>
    let (db, body) := batchScope rest
    (db, batchPieces body)

/-- **No separator begins within a statement.** -/
def Separable (stmts : List (List Char)) : Prop :=
  (∀ s ∈ stmts.dropLast, ¬raftBatchStmtSep.toList <:+: s ++ raftBatchStmtSep.toList.dropLast) ∧
    ∀ s ∈ stmts.getLast?, ¬raftBatchStmtSep.toList <:+: s

theorem trim_eq_of_mem_dmlStatements {stmts : List String} {s : List Char}
    (h : s ∈ dmlStatements stmts) : trim s = s ∧ s ≠ [] := by
  obtain ⟨hmap, hkind⟩ := mem_filter.mp h
  obtain ⟨text, -, rfl⟩ := mem_map.mp hmap
  refine ⟨trim_trim text.toList, fun hnil => ?_⟩
  rw [hnil] at hkind
  exact absurd hkind (by decide +kernel)

theorem batchPieces_of_some {body pre post : List Char} (hpre : trim pre ≠ [])
    (h : splitAtText raftBatchStmtSep.toList body = some (pre, post)) :
    batchPieces body = trim pre :: batchPieces post := by
  rw [batchPieces, split, splitFrom_of_some (by decide) h, nil_append, map_cons,
    filter_cons_of_pos (by simpa using hpre), batchPieces]

theorem batchPieces_ne_cons {s more : List Char} (hs : trim s = s ∧ s ≠ [])
    (hmore : more.length < raftBatchStmtSep.toList.length)
    (h : raftBatchStmtSep.toList <:+: s ++ more) (tail : List Char) (stmts : List (List Char)) :
    batchPieces (s ++ more ++ tail) ≠ s :: stmts := by
  have hsep : raftBatchStmtSep.toList ≠ [] := by decide
  obtain ⟨⟨pre, post⟩, hfnd⟩ := ne_none_iff_exists'.mp
    (mt (splitAtText_eq_none_iff hsep).mp (not_not.mpr h))
  have heq := splitAtText_eq_some hfnd
  have hsho : pre.length < s.length := by
    have hlen := congrArg length heq
    simp only [length_append] at hlen
    omega
  have hpre : trim pre ≠ [] := by
    obtain ⟨c, s', rfl⟩ := exists_cons_of_ne_nil hs.2
    have hc : ¬isWhitespace c := head?_trim (c :: s') c (by rw [hs.1]; rfl)
    cases pre with
    | nil =>
      obtain rfl : c = '\n' := (cons.inj heq).1
      exact absurd (by decide) hc
    | cons d pre =>
      obtain rfl : c = d := (cons.inj heq).1
      exact ne_nil_of_mem (mem_trim mem_cons_self hc)
  rw [batchPieces_of_some hpre (splitAtText_append_of_some hfnd hsep tail)]
  intro hcons
  have hle := (trim_prefix_trimStart pre).length_le.trans (dropWhile_suffix _).length_le
  rw [(cons.inj hcons).1] at hle
  omega

theorem batchPieces_intercalate_iff {stmts : List (List Char)} (hne : stmts ≠ [])
    (h : ∀ s ∈ stmts, trim s = s ∧ s ≠ []) :
    batchPieces (raftBatchStmtSep.toList.intercalate stmts) = stmts ↔ Separable stmts := by
  have hsep : raftBatchStmtSep.toList ≠ [] := by decide
  induction stmts with
  | nil => exact absurd rfl hne
  | cons s stmts ih =>
    have hs := h s mem_cons_self
    cases stmts with
    | nil =>
      have hlast : Separable [s] ↔ ¬raftBatchStmtSep.toList <:+: s := by simp [Separable]
      rw [intercalate_singleton, hlast]
      by_cases hfnd : raftBatchStmtSep.toList <:+: s
      · refine iff_of_false ?_ (not_not.mpr hfnd)
        rw [← append_nil s] at hfnd
        have hcut := batchPieces_ne_cons hs (by decide) hfnd [] []
        rwa [append_nil, append_nil] at hcut
      · refine iff_of_true ?_ hfnd
        rw [batchPieces, split, splitFrom_of_none ((splitAtText_eq_none_iff hsep).mpr hfnd)]
        simp [hs]
    | cons s' stmts =>
      have hrest := ih (cons_ne_nil s' stmts) fun t ht => h t (mem_cons_of_mem s ht)
      have hfst : Separable (s :: s' :: stmts) ↔
          ¬raftBatchStmtSep.toList <:+: s ++ raftBatchStmtSep.toList.dropLast ∧
            Separable (s' :: stmts) := by
        simp [Separable, and_assoc]
      rw [intercalate_cons_cons, hfst, append_assoc]
      by_cases hfnd : raftBatchStmtSep.toList <:+: s ++ raftBatchStmtSep.toList.dropLast
      · refine iff_of_false ?_ fun hand => hand.1 hfnd
        have hcut := batchPieces_ne_cons hs (by decide) hfnd
          ('\n' :: raftBatchStmtSep.toList.intercalate (s' :: stmts)) (s' :: stmts)
        rwa [append_assoc] at hcut
      · rw [batchPieces_of_some (by rw [hs.1]; exact hs.2) (splitAtText_append hsep hfnd _),
          hs.1, cons_inj_right, and_iff_right hfnd]
        exact hrest

/-- **A batch is read as it was written** iff no separator begins within a statement. -/
theorem readBatch_encode_iff (db : DatabaseName) (statements : List String) :
    (∀ command, encodeRaftBatchCommand db.name statements = some command →
      readBatch command = some (db.name, dmlStatements statements)) ↔
    Separable (dmlStatements statements) := by
  by_cases hnil : dmlStatements statements = []
  · simp [encodeRaftBatchCommand, hnil, Separable]
  · have hread : readBatch (raftBatchPrefix ++ (db.name ++ String.ofList
        ('\n' :: raftBatchStmtSep.toList.intercalate (dmlStatements statements)))) =
        some (db.name,
          batchPieces (raftBatchStmtSep.toList.intercalate (dmlStatements statements))) := by
      rw [readBatch, stripPrefix_append, map_some, batchScope, String.toList_append,
        String.toList_ofList, splitAtText_append_cons db.newline_notMem]
      simp
    simp only [encodeRaftBatchCommand, if_neg hnil, some.injEq, forall_eq', hread,
      Prod.mk.injEq, true_and]
    exact batchPieces_intercalate_iff hnil fun s => trim_eq_of_mem_dmlStatements

def noteSeparator : String := "UPDATE t SET note = 'a\n__vng_stmt__\nb' WHERE id = '1'"

theorem statement_cut_short : encodeRaftBatchCommand "" [noteSeparator] =
      some "__vng_batch:\nUPDATE t SET note = 'a\n__vng_stmt__\nb' WHERE id = '1'" ∧
    readBatch "__vng_batch:\nUPDATE t SET note = 'a\n__vng_stmt__\nb' WHERE id = '1'" =
      some ("", ["UPDATE t SET note = 'a".toList, "b' WHERE id = '1'".toList]) ∧
    dmlStatements [noteSeparator] = [noteSeparator.toList] := by
  decide +kernel

end VngDatabase.Dml
