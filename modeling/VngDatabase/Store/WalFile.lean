import VngDatabase.Bytes
import VngDatabase.Fields

/-!
# The write-ahead log in a text file

`FileWalAdapter` keeps the log in a file, one record a line, with tabs between its four fields.
-/

namespace VngDatabase

open Text List

/-! ### Records -/

variable (record : WalRecord) (cs : List Char)

structure WalRecord where
  sequence : Fin (2 ^ 64)
  timestampEpochMs : Fin (2 ^ 128)
  key : String
  value : String
  deriving DecidableEq

inductive WalAdapterError
  | corruptRecord (line : String)
  deriving DecidableEq

def escapeField (value : List Char) : List Char :=
  replace ['\n'] ['\\', 'n'] (replace ['\t'] ['\\', 't'] (replace ['\\'] ['\\', '\\'] value))

def unescapeField : List Char → List Char
  | '\\' :: 't' :: cs => '\t' :: unescapeField cs
  | '\\' :: 'n' :: cs => '\n' :: unescapeField cs
  | '\\' :: '\\' :: cs => '\\' :: unescapeField cs
  | '\\' :: other :: cs => '\\' :: other :: unescapeField cs
  | c :: cs => c :: unescapeField cs
  | [] => []

def encodeRecord : List Char :=
  Nat.toDigits 10 record.sequence ++ '\t' :: (Nat.toDigits 10 record.timestampEpochMs ++
    '\t' :: (escapeField record.key.toList ++ '\t' :: escapeField record.value.toList))

def decodeRecord (line : List Char) : Except WalAdapterError WalRecord :=
  match splitN '\t' 4 line with
  | [sequence, timestampEpochMs, key, value] =>
    match parseUnsigned (2 ^ 64) sequence, parseUnsigned (2 ^ 128) timestampEpochMs with
    | some sequence, some timestampEpochMs =>
      .ok ⟨sequence, timestampEpochMs, String.ofList (unescapeField key),
        String.ofList (unescapeField value)⟩
    | _, _ => .error (.corruptRecord (String.ofList line))
  | _ => .error (.corruptRecord (String.ofList line))

structure FileWalAdapter where
  wal : List Char := []

namespace FileWalAdapter

variable (adapter : FileWalAdapter)

def append (record : WalRecord) : FileWalAdapter :=
  ⟨adapter.wal ++ (encodeRecord record ++ ['\n'])⟩

/-- The first line that is no record ends the reading. -/
def readLines : List (List Char) → Except WalAdapterError (List WalRecord)
  | [] => .ok []
  | line :: lines =>
    if trim line = [] then readLines lines
    else do
      let record ← decodeRecord line
      let records ← readLines lines
      return record :: records

def readAll : Except WalAdapterError (List WalRecord) :=
  readLines (linesFrom [] adapter.wal)

def appendAll (records : List WalRecord) : FileWalAdapter :=
  records.foldl append adapter

end FileWalAdapter

def escapeChar (c : Char) : List Char :=
  if c = '\\' then ['\\', '\\'] else if c = '\t' then ['\\', 't']
  else if c = '\n' then ['\\', 'n'] else [c]

theorem escapeField_eq_flatMap : escapeField cs = cs.flatMap escapeChar := by
  rw [escapeField, replace_singleton, replace_singleton, replace_singleton, flatMap_assoc,
    flatMap_assoc]
  congr 1
  funext c
  rw [escapeChar]
  split_ifs with hsl htab hnew
  · simp
  · simp [htab]
  · simp [hnew]
  · simp [htab, hnew]

theorem unescapeField_escapeField : unescapeField (escapeField cs) = cs := by
  rw [escapeField_eq_flatMap]
  induction cs with
  | nil => rfl
  | cons c cs ih =>
    rw [flatMap_cons, escapeChar]
    split_ifs with hsl htab hnew
    · rw [hsl, cons_append, singleton_append, unescapeField, ih]
    · rw [htab, cons_append, singleton_append, unescapeField, ih]
    · rw [hnew, cons_append, singleton_append, unescapeField, ih]
    · rw [singleton_append, unescapeField.eq_def]
      split <;> simp_all

theorem notMem_escapeField {c : Char} (h : c = '\t' ∨ c = '\n') (cs : List Char) :
    c ∉ escapeField cs := by
  rw [escapeField_eq_flatMap, mem_flatMap]
  rintro ⟨d, -, hd⟩
  rw [escapeChar] at hd
  split_ifs at hd with hsl htab hnew
  · rcases h with rfl | rfl <;> simp at hd
  · rcases h with rfl | rfl <;> simp at hd
  · rcases h with rfl | rfl <;> simp at hd
  · obtain rfl := mem_singleton.mp hd
    exact h.elim htab hnew

theorem escapeField_append (cs' : List Char) :
    escapeField (cs ++ cs') = escapeField cs ++ escapeField cs' := by
  rw [escapeField_eq_flatMap, flatMap_append, ← escapeField_eq_flatMap, ← escapeField_eq_flatMap]

theorem getLast?_escapeField : (escapeField cs).getLast? = some '\r' ↔ cs.getLast? = some '\r' := by
  rcases eq_nil_or_concat cs with rfl | ⟨cs, c, rfl⟩
  · rfl
  · rw [concat_eq_append, escapeField_append, getLast?_concat, Option.some.injEq,
      escapeField_eq_flatMap [c], flatMap_singleton, escapeChar]
    split_ifs <;> simp_all

theorem dropReturn_escapeField : dropReturn (escapeField cs) = escapeField (dropReturn cs) := by
  by_cases h : cs.getLast? = some '\r'
  · obtain ⟨cs, rfl⟩ : ∃ rest, cs = rest ++ ['\r'] := ⟨_, (dropLast_append_getLast? _ h).symm⟩
    have hret : escapeField ['\r'] = ['\r'] := by rw [escapeField_eq_flatMap]; rfl
    rw [escapeField_append, hret, dropReturn_concat_return, dropReturn_concat_return]
  · rw [dropReturn_eq_self_iff.mpr h,
      dropReturn_eq_self_iff.mpr (mt (getLast?_escapeField cs).mp h)]

/-! ### Lines of the file -/

theorem decodeRecord_encodeRecord : decodeRecord (encodeRecord record) = .ok record := by
  have hdig (n : ℕ) : '\t' ∉ Nat.toDigits 10 n := fun h =>
    absurd (isDigit_toDigits n '\t' h) (by decide)
  have hkey := notMem_escapeField (Or.inl rfl) record.key.toList
  rw [decodeRecord, encodeRecord, splitN_append_cons (hdig _), splitN_append_cons (hdig _),
    splitN_append_cons hkey, splitN]
  simp only [parseUnsigned_toDigits, unescapeField_escapeField, String.ofList_toList]

theorem newline_notMem_encodeRecord : '\n' ∉ encodeRecord record := by
  have hdig (n : ℕ) : '\n' ∉ Nat.toDigits 10 n := fun h =>
    absurd (isDigit_toDigits n '\n' h) (by decide)
  have hfie := notMem_escapeField (Or.inr rfl)
  simp [encodeRecord, hdig, hfie]

theorem trim_encodeRecord_ne_nil : trim (encodeRecord record) ≠ [] := by
  obtain ⟨c, hc⟩ := exists_mem_of_ne_nil _ (Nat.toDigits_ne_nil (b := 10) (n := record.sequence))
  have hdig := isDigit_toDigits _ c hc
  have hbl : ¬isWhitespace c := by
    simp only [Char.isDigit, Bool.and_eq_true, decide_eq_true_eq] at hdig
    have hlow : 48 ≤ c.toNat := hdig.1
    have hhigh : c.toNat ≤ 57 := hdig.2
    simp only [isWhitespace, Bool.or_eq_true, Bool.and_eq_true, decide_eq_true_eq, mem_cons,
      not_mem_nil, or_false]
    omega
  exact ne_nil_of_mem (mem_trim (mem_append_left _ hc) hbl)

/-- A carriage return at the end of the value is gone. -/
def WalRecord.readBack : WalRecord :=
  { record with value := String.ofList (dropReturn record.value.toList) }

theorem dropReturn_encodeRecord :
    dropReturn (encodeRecord record) = encodeRecord record.readBack := by
  have htab : '\t' ≠ '\r' := by decide
  rw [encodeRecord, dropReturn_append_cons htab, dropReturn_append_cons htab,
    dropReturn_append_cons htab, dropReturn_escapeField, encodeRecord, WalRecord.readBack,
    String.toList_ofList]

theorem WalRecord.readBack_eq_self_iff :
    record.readBack = record ↔ record.value.toList.getLast? ≠ some '\r' := by
  rw [← dropReturn_eq_self_iff]
  constructor
  · intro h
    rw [← String.toList_ofList (l := dropReturn record.value.toList)]
    exact congrArg (fun record => record.value.toList) h
  · intro h
    rw [WalRecord.readBack, h, String.ofList_toList]

namespace FileWalAdapter

variable (adapter : FileWalAdapter) (records : List WalRecord)

theorem appendAll_concat (record : WalRecord) :
    adapter.appendAll (records ++ [record]) = (adapter.appendAll records).append record :=
  foldl_concat _ _ _ _

theorem wal_appendAll : (adapter.appendAll records).wal =
      adapter.wal ++ records.flatMap fun record => encodeRecord record ++ ['\n'] := by
  induction records generalizing adapter with
  | nil => exact (append_nil _).symm
  | cons record records ih =>
    rw [appendAll, foldl_cons, ← appendAll, ih, append, flatMap_cons, append_assoc]

theorem readLines_flatMap :
    readLines (linesFrom [] (records.flatMap fun record => encodeRecord record ++ ['\n'])) =
      .ok (records.map WalRecord.readBack) := by
  induction records with
  | nil => rfl
  | cons record records ih =>
    rw [flatMap_cons, append_assoc, singleton_append,
      linesFrom_append_newline (newline_notMem_encodeRecord record), nil_append,
      dropReturn_encodeRecord, readLines, if_neg (trim_encodeRecord_ne_nil _),
      decodeRecord_encodeRecord, ih]
    rfl

theorem readAll_appendAll :
    (appendAll {} records).readAll = .ok (records.map WalRecord.readBack) := by
  rw [readAll, wal_appendAll, nil_append, readLines_flatMap]

/-- **The log is read as it was written iff no value ends in a carriage return.** -/
theorem readAll_appendAll_iff (records : List WalRecord) :
    (appendAll {} records).readAll = .ok records ↔
      ∀ record ∈ records, record.value.toList.getLast? ≠ some '\r' := by
  have hself := map_eq_map_iff (f := WalRecord.readBack) (g := id) (l := records)
  rw [map_id] at hself
  simp only [readAll_appendAll, Except.ok.injEq, hself, id_eq, WalRecord.readBack_eq_self_iff]

def returned : WalRecord := ⟨1, 1000, "region", "us-east-1\r"⟩

/-- **The carriage return is lost.** -/
theorem readAll_returned :
    (appendAll {} [returned]).readAll = .ok [⟨1, 1000, "region", "us-east-1"⟩] ∧
      (appendAll {} [returned]).readAll ≠ .ok [returned] := by
  decide +kernel

end FileWalAdapter

end VngDatabase
