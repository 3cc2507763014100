import VngDatabase.Access.Logins

/-!
# Users after a restart

Of the user accounts the stream of DDL statements outlives the process: every creation and every
deletion adds a line (`services/voltnuerongridd/src/handlers/user_mgmt.rs`), and the accounts are
made again from it at boot (`replay_user_store_into` of `helpers/boot.rs`).
-/

namespace VngDatabase.Access

open Text Transition List Option

/-! ### The line of an account -/

variable (store : UserStore) (req : CreateUserRequest)

def userToWal (account : UserAccount) : String :=
  "CREATE USER " ++ "\t".intercalate [account.username, account.role,
    account.tenantId.getD "null", account.userId, toString account.createdMs, account.passwordHash]

def userFromWal (line : String) : Option UserAccount :=
  (stripPrefix line "CREATE USER ").bind fun rest =>
    match splitN '\t' 6 rest.toList with
    | [username, role, tenant, userId, createdMs, passwordHash] =>
      (parseUnsigned (2 ^ 64) createdMs).map fun createdMs : Fin (2 ^ 64) =>
        { userId := String.ofList userId
          username := String.ofList username
          role := String.ofList role
          tenantId := if String.ofList tenant = "null" then none else some (String.ofList tenant)
          createdMs := createdMs.val
          passwordHash := String.ofList passwordHash }
    | _ => none

structure UserAccount.Fits (account : UserAccount) : Prop where
  username : '\t' ∉ account.username.toList
  role : '\t' ∉ account.role.toList
  tenantId : ∀ tenant ∈ account.tenantId, '\t' ∉ tenant.toList ∧ tenant ≠ "null"

theorem userFromWal_fits {line : String} {acc : UserAccount}
    (h : userFromWal line = some acc) : acc.Fits := by
  obtain ⟨rest, -, h⟩ := bind_eq_some_iff.mp h
  have hpcs : ∀ piece ∈ (splitN '\t' 6 rest.toList).dropLast, '\t' ∉ piece := fun _ =>
    notMem_of_mem_dropLast_splitN
  split at h
  · next username role tenant userId createdMs passwordHash hspl =>
    obtain ⟨n, -, rfl⟩ := map_eq_some_iff.mp h
    rw [hspl] at hpcs
    refine ⟨?_, ?_, ?_⟩
    · rw [String.toList_ofList]
      exact hpcs username (by simp)
    · rw [String.toList_ofList]
      exact hpcs role (by simp)
    · intro t ht
      dsimp only at ht
      split_ifs at ht with hnull
      · cases ht
      · obtain rfl := some.inj ht
        rw [String.toList_ofList]
        exact ⟨hpcs tenant (by simp), hnull⟩
  · cases h

structure Plain (s : String) : Prop where
  ne : s ≠ ""
  plain : ∀ c ∈ s.toList, ¬isWhitespace c

instance (s : String) : Decidable (Plain s) :=
  decidable_of_iff (s ≠ "" ∧ s.toList.all (fun c => !isWhitespace c) = true)
    ⟨fun h => ⟨h.1, by simpa using h.2⟩, fun h => ⟨h.ne, by simpa using h.plain⟩⟩

theorem Plain.tab {s : String} (h : Plain s) : '\t' ∉ s.toList :=
  fun hmem => h.plain _ hmem (by decide)

theorem toList_userFields (acc : UserAccount) :
    ("\t".intercalate [acc.username, acc.role, acc.tenantId.getD "null",
      acc.userId, toString acc.createdMs, acc.passwordHash]).toList =
      acc.username.toList ++ '\t' :: (acc.role.toList ++ '\t' ::
        ((acc.tenantId.getD "null").toList ++ '\t' :: (acc.userId.toList ++ '\t' ::
          (Nat.toDigits 10 acc.createdMs ++ '\t' :: acc.passwordHash.toList)))) := by
  rw [String.toList_intercalate]
  simp [intercalate_cons_cons]

theorem userFromWal_userToWal {account : UserAccount} (h : account.Fits)
    (hid : Plain account.userId) (hms : account.createdMs < 2 ^ 64) :
    userFromWal (userToWal account) = some account := by
  have hten : '\t' ∉ (account.tenantId.getD "null").toList := by
    cases ht : account.tenantId with
    | none => decide
    | some tenant => exact (h.tenantId tenant ht).1
  have hdig : '\t' ∉ Nat.toDigits 10 account.createdMs := fun hmem =>
    absurd (isDigit_toDigits _ _ hmem) (by decide)
  have htena : (if account.tenantId.getD "null" = "null" then none
      else some (account.tenantId.getD "null")) = account.tenantId := by
    cases ht : account.tenantId with
    | none => rfl
    | some tenant => exact if_neg (h.tenantId tenant ht).2
  rw [userFromWal, userToWal, stripPrefix_append, bind_some, toList_userFields,
    splitN_append_cons h.username, splitN_append_cons h.role, splitN_append_cons hten,
    splitN_append_cons hid.tab, splitN_append_cons hdig, splitN]
  dsimp only
  rw [parseUnsigned_toDigits ⟨account.createdMs, hms⟩]
  simp only [map_some, String.ofList_toList, htena]

def replayUser (stmt : String) : UserStore :=
  if startsWith (toAsciiUppercase (String.ofList (trimStart stmt.toList))) "CREATE USER " then
    match userFromWal (String.ofList (trim stmt.toList)) with
    | some account => store.insert account
    | none => store
  else
    match stripPrefix (String.ofList (trim stmt.toList)) "DROP USER " with
    | some rest => (store.removeById (String.ofList (trim rest.toList))).1
    | none => store

def replayUserStoreInto (stmts : List String) : UserStore :=
  stmts.foldl replayUser store

theorem Plain.trim_eq_self {s : String} (h : Plain s) : trim s.toList = s.toList :=
  Text.trim_eq_self (fun c hc => h.plain c (mem_of_mem_head? hc))
    fun c hc => h.plain c (mem_of_mem_getLast? hc)

theorem toAsciiUppercase_append (a b : String) :
    toAsciiUppercase (a ++ b) = toAsciiUppercase a ++ toAsciiUppercase b := by
  rw [toAsciiUppercase, String.toList_append, map_append, String.ofList_append]
  rfl

theorem trim_append_plain {c : Char} (hc : ¬isWhitespace c) (cs : List Char) {s : String}
    (h : Plain s) : trim (c :: cs ++ s.toList) = c :: cs ++ s.toList := by
  refine Text.trim_eq_self (fun d hd => ?_) fun d hd => ?_
  · obtain rfl : c = d := some.inj hd
    exact hc
  · have hne : s.toList ≠ [] := fun hnil => h.ne (String.toList_eq_nil_iff.mp hnil)
    rw [getLast?_append_of_ne_nil _ hne] at hd
    exact h.plain d (mem_of_mem_getLast? hd)

theorem replayUser_userToWal {acc : UserAccount}
    (hhash : Plain acc.passwordHash) :
    replayUser store (userToWal acc) =
      match userFromWal (userToWal acc) with
      | some acc => store.insert acc
      | none => store := by
  obtain ⟨cs, hcs⟩ : ∃ cs, (userToWal acc).toList =
      'C' :: cs ++ acc.passwordHash.toList := by
    rw [userToWal, String.toList_append, toList_userFields]
    exact ⟨"REATE USER ".toList ++ (acc.username.toList ++ '\t' :: (acc.role.toList ++
      '\t' :: ((acc.tenantId.getD "null").toList ++ '\t' :: (acc.userId.toList ++ '\t' ::
        (Nat.toDigits 10 acc.createdMs ++ ['\t']))))), by simp⟩
  have htrim : trim (userToWal acc).toList = (userToWal acc).toList := by
    rw [hcs]
    exact trim_append_plain (by decide) cs hhash
  have hst0 : trimStart (userToWal acc).toList = (userToWal acc).toList := by
    rw [hcs]
    exact dropWhile_cons_of_neg (by decide)
  have hcr : startsWith (toAsciiUppercase (userToWal acc)) "CREATE USER " := by
    rw [userToWal, toAsciiUppercase_append,
      show toAsciiUppercase "CREATE USER " = "CREATE USER " by decide]
    exact startsWith_append _ _
  rw [replayUser, hst0, htrim, String.ofList_toList (s := userToWal acc), if_pos hcr]

theorem replayUser_drop {uid : String} (h : Plain uid) :
    replayUser store ("DROP USER " ++ uid) = (store.removeById uid).1 := by
  have htrim : trim ("DROP USER " ++ uid).toList = ("DROP USER " ++ uid).toList := by
    rw [String.toList_append]
    exact trim_append_plain (by decide) _ h
  have hst0 : trimStart ("DROP USER " ++ uid).toList = ("DROP USER " ++ uid).toList := by
    rw [String.toList_append]
    exact dropWhile_cons_of_neg (by decide)
  have hdrop : startsWith (toAsciiUppercase ("DROP USER " ++ uid)) "DROP USER " := by
    rw [toAsciiUppercase_append, show toAsciiUppercase "DROP USER " = "DROP USER " by decide]
    exact startsWith_append _ _
  have hcr := not_startsWith_of_ne hdrop "CREATE USER " (by decide)
  rw [replayUser, hst0, htrim, String.ofList_toList (s := "DROP USER " ++ uid), hcr,
    if_neg Bool.false_ne_true, stripPrefix_append]
  dsimp only
  rw [h.trim_eq_self, String.ofList_toList]

/-! ### The requests -/

structure Issued where
  userId : String
  createdMs : ℕ
  passwordHash : String
  plain_userId : Plain userId
  createdMs_lt : createdMs < 2 ^ 64
  plain_passwordHash : Plain passwordHash

structure CreateUserRequest where
  username : String
  role : Option String
  tenantId : Option String

def CreateUserRequest.account (issued : Issued) : UserAccount where
  userId := issued.userId
  username := toAsciiLowercase (String.ofList (trim req.username.toList))
  role := toAsciiLowercase (req.role.getD "operator")
  tenantId := req.tenantId
  createdMs := issued.createdMs
  passwordHash := issued.passwordHash

theorem CreateUserRequest.plain_account (iss : Issued) :
    Plain (req.account iss).userId :=
  iss.plain_userId

/-- **The users, and the stream of statements about them.** -/
structure UserLog where
  users : UserStore
  ddl : List String
  plain : ∀ userId, (users.byId.lookup userId).isSome → Plain userId

inductive UserCall
  | create (req : CreateUserRequest) (issued : Issued)
  | delete (userId : String)

namespace UserLog

def new : UserLog where
  users := {}
  ddl := []
  plain := by
    intro userId h
    rw [Finmap.lookup_empty] at h
    cases h

variable (s : UserLog)

def recordCreate (account : UserAccount) (h : Plain account.userId) : UserLog where
  users := s.users.insert account
  ddl := s.ddl ++ [userToWal account]
  plain := by
    intro userId hsome
    rw [UserStore.insert] at hsome
    by_cases heq : userId = account.userId
    · exact heq ▸ h
    · rw [Finmap.lookup_insert_of_ne _ heq] at hsome
      exact s.plain userId hsome

def recordDrop (userId : String) : UserLog where
  users := (s.users.removeById userId).1
  ddl := s.ddl ++ ["DROP USER " ++ userId]
  plain := by
    intro userId' hsome
    refine s.plain userId' ?_
    rw [UserStore.removeById] at hsome
    cases hfound : s.users.byId.lookup userId with
    | none =>
      rw [hfound] at hsome
      exact hsome
    | some username =>
      rw [hfound] at hsome
      by_cases heq : userId' = userId
      · rw [heq, Finmap.lookup_erase] at hsome
        cases hsome
      · rwa [Finmap.lookup_erase_ne heq] at hsome

def adminCreateUser (issued : Issued) :
    UserLog × Except (ℕ × String) UserAccount :=
  let account := req.account issued
  if account.username = "" then (s, .error (400, "username is required"))
  else if (s.users.getByUsername account.username).isSome then
    (s, .error (409, "user '" ++ account.username ++ "' already exists"))
  else (s.recordCreate account (req.plain_account issued), .ok account)

def adminDeleteUser (userId : String) : UserLog × Except (ℕ × String) String :=
  if (s.users.removeById userId).2 then (s.recordDrop userId, .ok userId)
  else (s, .error (404, "user '" ++ userId ++ "' not found"))

def step : UserCall → UserLog
  | .create req issued => (s.adminCreateUser req issued).1
  | .delete userId => (s.adminDeleteUser userId).1

def Survives (s : UserLog) : Prop :=
  (replayUserStoreInto {} s.ddl).byUsername = s.users.byUsername

def Fits (s : UserLog) : UserCall → Prop
  | .create req issued =>
    (s.adminCreateUser req issued).2.isOk → (req.account issued).Fits
  | .delete _ => True

/-! ### Restarts -/

variable {s}

def Same (s : UserLog) : Prop := replayUserStoreInto {} s.ddl = s.users

theorem replay_concat (stmts : List String) (stmt : String) :
    replayUserStoreInto {} (stmts ++ [stmt]) = replayUser (replayUserStoreInto {} stmts) stmt := by
  rw [replayUserStoreInto, foldl_concat]
  rfl

theorem same_new : new.Same := rfl

theorem adminCreateUser_cases (s : UserLog) (req : CreateUserRequest) (iss : Issued) :
    ((s.adminCreateUser req iss).2.isOk = false ∧ s.step (.create req iss) = s) ∨
      ((s.adminCreateUser req iss).2.isOk = true ∧
        s.users.byUsername.lookup (toAsciiLowercase (req.account iss).username) = none ∧
        s.step (.create req iss) = s.recordCreate (req.account iss) (req.plain_account iss)) := by
  rw [step, adminCreateUser]
  split_ifs with hemp hfnd
  · exact Or.inl ⟨rfl, rfl⟩
  · exact Or.inl ⟨rfl, rfl⟩
  · exact Or.inr ⟨rfl, not_isSome_iff_eq_none.mp hfnd, rfl⟩

theorem Same.create (h : s.Same) {req : CreateUserRequest} {iss : Issued}
    (hfits : s.Fits (.create req iss)) : (s.step (.create req iss)).Same := by
  rcases s.adminCreateUser_cases req iss with ⟨-, hstep⟩ | ⟨hok, -, hstep⟩
  · rw [hstep]
    exact h
  · rw [hstep, Same, recordCreate]
    dsimp only
    rw [replay_concat, h, replayUser_userToWal _ iss.plain_passwordHash,
      userFromWal_userToWal (hfits hok) iss.plain_userId iss.createdMs_lt]

theorem Same.delete (h : s.Same) (userId : String) : (s.step (.delete userId)).Same := by
  rw [step, adminDeleteUser]
  split_ifs with hrem
  · have hpl : Plain userId := by
      refine s.plain userId ?_
      rw [UserStore.removeById] at hrem
      cases hfnd : s.users.byId.lookup userId with
      | none => simp [hfnd] at hrem
      | some username => rfl
    rw [Same, recordDrop]
    dsimp only
    rw [replay_concat, h, replayUser_drop _ hpl]
  · exact h

theorem fits_of_survives (h : s.Same) {req : CreateUserRequest} {iss : Issued}
    (hsur : (s.step (.create req iss)).Survives) : s.Fits (.create req iss) := by
  intro hok
  rcases s.adminCreateUser_cases req iss with ⟨hno, -⟩ | ⟨-, hnew, hstep⟩
  · rw [hno] at hok
    cases hok
  · rw [hstep, Survives, recordCreate] at hsur
    dsimp only at hsur
    rw [replay_concat, h, replayUser_userToWal _ iss.plain_passwordHash] at hsur
    have hlk := congrArg
      (Finmap.lookup (toAsciiLowercase (req.account iss).username)) hsur
    rw [UserStore.insert, Finmap.lookup_insert] at hlk
    cases hread : userFromWal (userToWal (req.account iss)) with
    | none =>
      rw [hread, hnew] at hlk
      cases hlk
    | some account =>
      rw [hread] at hlk
      dsimp only [UserStore.insert] at hlk
      by_cases hname : toAsciiLowercase (req.account iss).username =
          toAsciiLowercase account.username
      · rw [hname, Finmap.lookup_insert] at hlk
        exact some.inj hlk ▸ userFromWal_fits hread
      · rw [Finmap.lookup_insert_of_ne _ hname, hnew] at hlk
        cases hlk

/-- **Accounts survive a restart iff** every user fits into a line. -/
theorem survives_iff (calls : List UserCall) :
    Always step Survives new calls ↔ Throughout step Fits new calls := by
  refine always_iff_throughout_of_imp (P := Same) (fun s h => congrArg UserStore.byUsername h)
    (fun s call h hfits => ?_) (fun s call h hsur => ?_) same_new calls
  · cases call with
    | create req issued => exact h.create hfits
    | delete userId => exact h.delete userId
  · cases call with
    | create req issued => exact fits_of_survives h hsur
    | delete userId => trivial

def drawn : Issued :=
  ⟨"6f1c2d3e", 1700000000000, "$2b$12$abc", by decide, by decide, by decide⟩

def ofTenantNull : UserLog :=
  new.step (.create ⟨"ann", some "tenant_user", some "null"⟩ drawn)

def withTab : UserLog := new.step (.create ⟨"ann\tlee", none, none⟩ drawn)

/-- **After a restart** one user has no tenant, and one no account. -/
theorem accounts_lost :
    (ofTenantNull.users.getByUsername "ann").map UserAccount.tenantId = some (some "null") ∧
      ((replayUserStoreInto {} ofTenantNull.ddl).getByUsername "ann").map UserAccount.tenantId =
        some none ∧
      (withTab.users.getByUsername "ann\tlee").map UserAccount.role = some "operator" ∧
      (replayUserStoreInto {} withTab.ddl).getByUsername "ann\tlee" = none := by
  decide +kernel

end UserLog

end VngDatabase.Access
