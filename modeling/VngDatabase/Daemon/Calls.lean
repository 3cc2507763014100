import VngDatabase.Daemon.Writes
import VngDatabase.Words

/-!
# Calling a procedure

A `CALL` is replaced by the body of its procedure before the batch is carried out
(`Access.ProcedureRegistry.dispatch`), but what is carried out are the statements that were read
before: the `CALL` itself, which the analyzer does not know (`classifyStatement_call`).
-/

namespace VngDatabase.Daemon

open Text Sql Store Dml Query DurabilityEngine BootEngine List
open Access (SessionSigner ProcedureRegistry)
open Access.ProcedureRegistry

variable {sqlBatch : String}

def callWord : List Char := "CALL".toList

theorem isWord_callWord : IsWord callWord := by decide +kernel

theorem leads_beforeComment {line : List Char} (h : Leads callWord line) :
    Leads callWord (beforeComment line) := by
  rw [beforeComment]
  split
  · rename_i content rest hspl
    rw [splitAtText_eq_some hspl, append_assoc] at h
    exact h.of_cut (by decide) (by decide)
  · exact h

theorem leads_linesFrom {cs : List Char} (h : Leads callWord cs) :
    ∃ first lines, linesFrom [] cs = first :: lines ∧ Leads callWord first := by
  have hne : [] ++ cs ≠ [] := h.ne_nil isWord_callWord
  obtain ⟨first, lines, hlin, hfst⟩ := linesFrom_cons hne
  have hline := h.takeWhile (d := '\n') (by decide) (by decide)
  refine ⟨first, lines, hlin, ?_⟩
  rcases hfst with rfl | hfst
  · exact hline
  · rw [nil_append] at hfst
    rw [← hfst] at hline
    exact hline.of_cut (by decide) (by decide)

theorem normalizeSqlForMatch_call {stmt : String} (h : Leads callWord stmt.toList) :
    ∃ cs, Leads callWord cs ∧ (normalizeSqlForMatch stmt).toList = cs.map Char.toUpper := by
  have hmark : stmt.toList.dropWhile (· = Char.ofNat 0xfeff) = stmt.toList :=
    h.dropWhile_eq isWord_callWord (by decide) (by decide)
  obtain ⟨first, lines, hlin, hfst⟩ := leads_linesFrom (h.trim isWord_callWord)
  have hcon := leads_beforeComment hfst
  rw [normalizeSqlForMatch, hmark, hlin, map_cons, filter_cons_of_pos,
    flatMap_cons, toAsciiUppercase, String.toList_ofList, String.toList_ofList]
  · refine ⟨_, Leads.trim isWord_callWord ?_, rfl⟩
    rw [append_assoc, singleton_append]
    exact hcon.append _
  · exact decide_eq_true ((hcon.trim isWord_callWord).ne_nil isWord_callWord)

theorem classifyStatement_call {stmt : String} (h : Leads callWord stmt.toList) :
    classifyStatement stmt = .unknown := by
  obtain ⟨cs, hcs, hnor⟩ := normalizeSqlForMatch_call h
  obtain ⟨words, hwor⟩ := hcs.wordsFrom_eq isWord_callWord
  rw [classifyStatement, splitWhitespace, hnor, hwor]
  rfl

def IsCall (sqlBatch : String) : Prop :=
  Access.startsWithIgnoreCase (String.ofList (trim sqlBatch.toList)) "CALL "

theorem IsCall.routesNowhere (h : IsCall sqlBatch) :
    routesNowhere (parseBatch sqlBatch) = true := by
  have hcall : callWord ++ [' '] <+: _ := prefix_trimStart h
  obtain ⟨a, rest, hst0, ha, -⟩ := exists_of_startsWith hcall
  obtain ⟨pieces, hpcs⟩ := split_singleton ';' sqlBatch.toList
  generalize hpie : sqlBatch.toList.takeWhile (· ≠ ';') = piece at hpcs
  have hfst : Leads callWord (trim piece) := by
    have hlea : Leads callWord (trimStart sqlBatch.toList) :=
      ⟨a, ' ' :: rest, hst0, ha, Or.inr ⟨rest, rfl⟩⟩
    have hcut := hlea.takeWhile (d := ';') (by decide) (by decide)
    rw [← trimStart_takeWhile (by decide), hpie] at hcut
    have htrim := hcut.trim isWord_callWord
    rwa [trim_trimStart] at htrim
  have hne := hfst.ne_nil isWord_callWord
  rw [← String.toList_ofList (l := trim piece)] at hfst
  have hnor : normalizeSqlForMatch (String.ofList (trim piece)) ≠ "" := by
    obtain ⟨cs, hcs, hnor⟩ := normalizeSqlForMatch_call hfst
    intro hemp
    rw [hemp, String.toList_empty, eq_comm, map_eq_nil_iff] at hnor
    exact hcs.ne_nil isWord_callWord hnor
  have hmem : String.ofList (trim piece) ∈ parseBatch sqlBatch := by
    rw [parseBatch, hpcs, map_cons, mem_filter]
    refine ⟨mem_map_of_mem (mem_filter.mpr ⟨mem_cons_self, ?_⟩), ?_⟩
    · exact decide_eq_true hne
    · exact decide_eq_true hnor
  rw [Daemon.routesNowhere, Bool.or_eq_true, any_eq_true]
  exact Or.inr ⟨_, hmem, decide_eq_true (classifyStatement_call hfst)⟩

def databaseWords (sql : String) : List String :=
  ((splitWhitespace sql).map fun w => String.ofList (trimEndMatches (· = ';') w.toList)).filter
    (· ≠ "")

theorem parseDbDdlStatement_eq_none {sql first : String} {rest : List String}
    (hwor : databaseWords sql = first :: rest)
    (h : (toAsciiUppercase first ≠ "CREATE" ∧ toAsciiUppercase first ≠ "DROP") ∨
      ∃ second words, rest = second :: words ∧ toAsciiUppercase second ≠ "DATABASE") :
    Access.parseDbDdlStatement sql = none := by
  unfold Access.parseDbDdlStatement
  rw [← databaseWords, hwor]
  match rest with
  | [] | [_] => rfl
  | second :: third :: words =>
    dsimp only
    have hcr : ¬(toAsciiUppercase first = "CREATE" ∧ toAsciiUppercase second = "DATABASE") := by
      rintro ⟨hfst, hsec⟩
      rcases h with h | ⟨_, _, hrest, h⟩
      · exact h.1 hfst
      · exact h ((cons.inj hrest).1 ▸ hsec)
    have hdrop : ¬(toAsciiUppercase first = "DROP" ∧ toAsciiUppercase second = "DATABASE") := by
      rintro ⟨hfst, hsec⟩
      rcases h with h | ⟨_, _, hrest, h⟩
      · exact h.2 hfst
      · exact h ((cons.inj hrest).1 ▸ hsec)
    rw [if_neg hcr, if_neg hdrop]

theorem databaseWords_cons {sql : String} {a rest word : List Char} (hword : IsWord word)
    (hnot : ';' ∉ word) (ha : a.map Char.toUpper = word)
    (hst0 : trimStart sql.toList = a ++ ' ' :: rest) :
    databaseWords sql = String.ofList a :: databaseWords (String.ofList rest) := by
  have hkept : trimEndMatches (· = ';') a = a := by
    have hmem := notMem_of_map_toUpper ha (by decide) hnot
    rw [trimEndMatches, dropWhile_eq_self_iff.mpr, reverse_reverse]
    intro hlen hfst
    have hin := mem_reverse.mp (getElem_mem (l := a.reverse) hlen)
    exact hmem (decide_eq_true_eq.mp hfst ▸ hin)
  have hne : String.ofList a ≠ "" := by
    intro hemp
    have hnil := congrArg String.toList hemp
    rw [String.toList_ofList, String.toList_empty] at hnil
    exact (hword.of_map_toUpper ha).ne_nil hnil
  rw [databaseWords, databaseWords, splitWhitespace, splitWhitespace, ← wordsFrom_trimStart, hst0,
    (hword.of_map_toUpper ha).wordsFrom_cons, map_cons, map_cons, String.toList_ofList,
    hkept, filter_cons_of_pos (by simpa using hne), String.toList_ofList]

theorem toAsciiUppercase_ofList {a word : List Char} (ha : a.map Char.toUpper = word) :
    toAsciiUppercase (String.ofList a) = String.ofList word := by
  rw [toAsciiUppercase, String.toList_ofList, ha]

theorem parseDbDdlStatement_of_words (word word' more : List Char)
    (hword : IsWord word) (hword' : IsWord word') (hnot : ';' ∉ word) (hnot' : ';' ∉ word')
    (hoth : String.ofList word' ≠ "DATABASE")
    (h : word ++ ' ' :: (word' ++ ' ' :: more) <+: (trimStart sqlBatch.toList).map Char.toUpper) :
    Access.parseDbDdlStatement sqlBatch = none := by
  obtain ⟨a, rest, hst0, ha, hmore⟩ := exists_of_startsWith h
  obtain ⟨b, rest', rfl, hb, -⟩ := exists_of_startsWith hmore
  have hst0' : trimStart (String.ofList (b ++ ' ' :: rest')).toList = b ++ ' ' :: rest' := by
    rw [String.toList_ofList]
    exact (hword'.of_map_toUpper hb).trimStart_append _
  have hwor := databaseWords_cons hword hnot ha hst0
  rw [databaseWords_cons hword' hnot' hb hst0'] at hwor
  refine parseDbDdlStatement_eq_none hwor (Or.inr ⟨_, _, rfl, ?_⟩)
  rwa [toAsciiUppercase_ofList hb]

theorem not_isAboutProcedures (h : (Access.parseDbDdlStatement sqlBatch).isSome) :
    ProcedureRegistry.isAboutProcedures sqlBatch = false := by
  have hnone (habo : ProcedureRegistry.isAboutProcedures sqlBatch) :
      Access.parseDbDdlStatement sqlBatch = none := by
    rw [ProcedureRegistry.isAboutProcedures, ProcedureRegistry.isCreateProcedure, Bool.or_eq_true,
      Bool.or_eq_true, Bool.or_eq_true] at habo
    rcases habo with ((hrep | hcr) | hdrop) | hcall
    · exact parseDbDdlStatement_of_words "CREATE".toList "OR".toList
        "REPLACE PROCEDURE ".toList (by decide +kernel) (by decide +kernel) (by decide)
        (by decide) (by decide) (prefix_trimStart hrep)
    · exact parseDbDdlStatement_of_words "CREATE".toList "PROCEDURE".toList []
        (by decide +kernel) (by decide +kernel) (by decide) (by decide) (by decide)
        (prefix_trimStart hcr)
    · exact parseDbDdlStatement_of_words "DROP".toList "PROCEDURE".toList []
        (by decide +kernel) (by decide +kernel) (by decide) (by decide) (by decide)
        (prefix_trimStart hdrop)
    · have hst0 : callWord ++ [' '] <+: _ := prefix_trimStart hcall
      obtain ⟨a, rest, hst0, ha, -⟩ := exists_of_startsWith hst0
      have hwor := databaseWords_cons isWord_callWord (by decide) ha hst0
      refine parseDbDdlStatement_eq_none hwor (Or.inl ?_)
      rw [toAsciiUppercase_ofList ha]
      decide
  cases habo : ProcedureRegistry.isAboutProcedures sqlBatch with
  | false => rfl
  | true =>
    rw [hnone habo] at h
    cases h

namespace Node

section

variable {E C : Type} [DatabaseEngine E] [SchemaCatalog C] [CheckPredicate] [ColumnOrder]
  [Unicode] [F64] [QueryParser] [SqlRuntime] [SessionSigner] {w : Circumstances}
  {req : ExecuteRequest} {body : String} {n : Node E C}

/-- **A call of a registered procedure**, with the arguments written in. -/
structure Calls (n : Node E C) (sqlBatch body : String) : Prop where
  call : IsCall sqlBatch
  resolves : ∃ name args proc,
    Access.parseCallArgs (trim ((trim sqlBatch.toList).drop 5)) = some (name, args) ∧
      n.procedures.lookup (toAsciiLowercase name) = some proc ∧ proc.builtin = false ∧
      args.length = proc.params.length ∧ body = proc.expand args

omit [SchemaCatalog C] [CheckPredicate] [ColumnOrder] [Unicode] [F64] [QueryParser] [SqlRuntime]
  [SessionSigner] in
theorem Calls.dispatch_eq (h : n.Calls req.sqlBatch body) :
    n.procedures.dispatch req.sqlBatch = .carryOut body := by
  obtain ⟨hcall, name, args, proc, hprs, hlk, hbi, hari, rfl⟩ := h
  have hnot (pat : String)
      (hne : ¬("CALL ".toList <+: pat.toList ∨ pat.toList <+: "CALL ".toList)) :
      Access.startsWithIgnoreCase (String.ofList (trim req.sqlBatch.toList)) pat = false :=
    not_startsWith_of_ne hcall pat hne
  have hres : n.procedures.resolveCall (String.ofList (trim req.sqlBatch.toList)) =
      .ok (some (proc.expand args)) := by
    rw [ProcedureRegistry.resolveCall, String.toList_ofList, hprs]
    simp only [hlk, hbi, hari, Bool.false_eq_true, if_false, ne_eq, not_true_eq_false]
  have hcall' : Access.startsWithIgnoreCase (String.ofList (trim req.sqlBatch.toList)) "CALL " =
    true := hcall
  simp only [ProcedureRegistry.dispatch, ProcedureRegistry.isCreateProcedure,
    hnot "CREATE OR REPLACE PROCEDURE " (by decide), hnot "CREATE PROCEDURE " (by decide),
    hnot "DROP PROCEDURE " (by decide), hcall', hres, Bool.or_self, Bool.false_eq_true,
    if_false, if_true]

def strayActions (w : Circumstances) (req : ExecuteRequest) (body : String) (n : Node E C) :
    List Action :=
  if (n.admitted w req.headers).isNone ∨ (databaseHeader req.headers ≠ "" ∧ ¬w.permit) ∨
      isVirtualCatalogQuery body ∨ (SqlRuntime.udfError body).isSome then []
  else ((Access.earlyMatviewCommand body (parseBatch req.sqlBatch)).map
    (n.matviewActions w (databaseHeader req.headers))).getD []

theorem Calls.change_eq (h : n.Calls req.sqlBatch body)
    (hddl : Access.parseDbDdlStatement body = none) :
    n.change w req = { actions := n.strayActions w req body } := by
  rw [change, strayActions]
  cases hadm : n.admitted w req.headers with
  | none => rfl
  | some conn =>
    dsimp only
    rw [connectionChange, h.dispatch_eq]
    by_cases hpmt : databaseHeader req.headers ≠ "" ∧ ¬w.permit
    · rw [if_pos hpmt, if_pos (Or.inr (Or.inl hpmt))]
    by_cases hans : isVirtualCatalogQuery body ∨ (SqlRuntime.udfError body).isSome
    · rw [if_neg hpmt, if_pos (Or.inr (Or.inr hans))]
      dsimp only
      rw [batchChange, hddl]
      exact if_pos hans
    · rw [if_neg hpmt, if_neg (not_or.mpr ⟨by simp, not_or.mpr ⟨hpmt, hans⟩⟩)]
      dsimp only
      rw [batchChange, hddl]
      dsimp only
      rw [if_neg hans]
      cases Access.earlyMatviewCommand body (parseBatch req.sqlBatch) with
      | some cmd => rfl
      | none => exact if_pos h.call.routesNowhere

theorem Calls.change_eq_of_ddl (h : n.Calls req.sqlBatch body)
    (hddl : (Access.parseDbDdlStatement body).isSome) :
    n.change w req = n.change w { req with sqlBatch := body } := by
  have hbody := ProcedureRegistry.dispatch_of_not_isAboutProcedures n.procedures
    (not_isAboutProcedures hddl)
  obtain ⟨ddl, hprs⟩ := Option.isSome_iff_exists.mp hddl
  rw [change, change]
  dsimp only
  cases n.admitted w req.headers with
  | none => rfl
  | some conn =>
    dsimp only
    rw [connectionChange, connectionChange, h.dispatch_eq, hbody]
    dsimp only
    rw [batchChange, batchChange, hprs]

def StandsFor (w : Circumstances) (req : ExecuteRequest) (body : String) (n : Node E C) : Prop :=
  (Access.parseDbDdlStatement body).isSome ∨ Concur n.toServer
    { actions := n.strayActions w req body } (n.change w { req with sqlBatch := body })

end

end Node

namespace Shopkeeper

open Daemon.Sample
open scoped Dml.Sample

def addRow : Access.StoredProcedure where
  name := "add_row"
  params := ["id"]
  body := "INSERT INTO t (id) VALUES ($1)"
  builtin := false

def openShop : Access.StoredProcedure where
  name := "open_shop"
  params := ["name"]
  body := "CREATE DATABASE $1"
  builtin := false

def clerk : Node InMemoryEngine Unit :=
  { node noRows with
    procedures := Finmap.insert "add_row" addRow (Finmap.insert "open_shop" openShop
      ProcedureRegistry.registerBuiltins) }

def addRequest : ExecuteRequest := { headers := headers none, sqlBatch := "CALL add_row(1)" }

def openRequest : ExecuteRequest := { headers := headers none, sqlBatch := "CALL open_shop(toys)" }

theorem calls_addRow : clerk.Calls addRequest.sqlBatch "INSERT INTO t (id) VALUES (1)" where
  call := by
    rw [IsCall]
    decide +kernel
  resolves := ⟨"add_row", ["1"], addRow, by decide +kernel⟩

theorem calls_openShop : clerk.Calls openRequest.sqlBatch "CREATE DATABASE toys" where
  call := by
    rw [IsCall]
    decide +kernel
  resolves := ⟨"open_shop", ["toys"], openShop, by decide +kernel⟩

end Shopkeeper

namespace Node

open Daemon.Sample Shopkeeper
open scoped Dml.Sample

end Node

end VngDatabase.Daemon
