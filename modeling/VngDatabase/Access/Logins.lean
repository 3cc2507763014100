import VngDatabase.Access.Sessions
import VngDatabase.Transition

/-!
# Logging in while a user is deleted

Requests to log in, to rotate a token, to revoke the sessions of a user and to delete a user
(`services/voltnuerongridd/src/handlers/user_mgmt.rs`) run at the same time.
-/

namespace VngDatabase.Access

open Text List Option Finmap

/-! ### Users -/

structure UserAccount where
  userId : String
  username : String
  role : String
  tenantId : Option String
  createdMs : ℕ
  passwordHash : String
  deriving DecidableEq

structure UserStore where
  byUsername : Finmap fun _ : String => UserAccount := ∅
  byId : Finmap fun _ : String => String := ∅

namespace UserStore

variable (store : UserStore)

def insert (account : UserAccount) : UserStore where
  byId := store.byId.insert account.userId account.username
  byUsername := store.byUsername.insert (toAsciiLowercase account.username) account

def getByUsername (username : String) : Option UserAccount :=
  store.byUsername.lookup (toAsciiLowercase username)

def getById (userId : String) : Option UserAccount :=
  (store.byId.lookup userId).bind fun username => store.byUsername.lookup username

def removeById (userId : String) : UserStore × Bool :=
  match store.byId.lookup userId with
  | some username => (⟨store.byUsername.erase username, store.byId.erase userId⟩, true)
  | none => (store, false)

def Lacks (userId : String) : Prop :=
  ∀ name account, store.byUsername.lookup name = some account → account.userId ≠ userId

/-- **The id of an account leads to its name.** -/
def Ordered : Prop :=
  ∀ name account, store.byUsername.lookup name = some account →
    store.byId.lookup account.userId = some name

theorem ordered_empty : Ordered {} := fun name account h => by
  rw [lookup_empty] at h
  cases h

theorem Ordered.insert {store : UserStore} (h : store.Ordered) {acc : UserAccount}
    (hname : toAsciiLowercase acc.username = acc.username)
    (hnew : store.Lacks acc.userId) : (store.insert acc).Ordered := by
  intro name account' hlk
  rw [UserStore.insert] at hlk ⊢
  simp only [hname] at hlk ⊢
  by_cases heq : name = acc.username
  · subst heq
    rw [lookup_insert, some.injEq] at hlk
    rw [← hlk, lookup_insert]
  · rw [lookup_insert_of_ne _ heq] at hlk
    rw [lookup_insert_of_ne _ (hnew name account' hlk)]
    exact h name account' hlk

theorem Ordered.removeById {store : UserStore} (h : store.Ordered) (userId : String) :
    (store.removeById userId).1.Ordered ∧
      (∀ userId', store.Lacks userId' → (store.removeById userId).1.Lacks userId') ∧
      ((store.removeById userId).2 → (store.removeById userId).1.Lacks userId) := by
  rw [UserStore.removeById]
  cases hfnd : store.byId.lookup userId with
  | none => exact ⟨h, fun _ h => h, fun hfal => absurd hfal Bool.false_ne_true⟩
  | some username =>
    have hkept {name : String} {account : UserAccount}
        (hlk : (store.byUsername.erase username).lookup name = some account) :
        name ≠ username ∧ store.byUsername.lookup name = some account := by
      by_cases heq : name = username
      · rw [heq, lookup_erase] at hlk
        cases hlk
      · exact ⟨heq, lookup_erase_ne heq ▸ hlk⟩
    have hgone : Lacks ⟨store.byUsername.erase username, store.byId.erase userId⟩ userId := by
      rintro name account hlk rfl
      obtain ⟨hne, hlk⟩ := hkept hlk
      rw [h name account hlk, some.injEq] at hfnd
      exact hne hfnd
    refine ⟨fun name account hlk => ?_, fun userId' hlac name account hlk => ?_, fun _ => hgone⟩
    · rw [lookup_erase_ne (hgone name account hlk)]
      exact h name account (hkept hlk).2
    · exact hlac name account (hkept hlk).2

end UserStore

namespace SessionStore

variable {store : SessionStore} {userId : String} {entry : SessionEntry}

def Lacks (store : SessionStore) (userId : String) : Prop :=
  ∀ fp entry, store.sessions fp = some entry → entry.userId ≠ userId

theorem Lacks.insert (h : store.Lacks userId) {fp : String}
    (hent : entry.userId ≠ userId) : (store.insert fp entry).Lacks userId := by
  intro fp' entry' hlk
  simp only [SessionStore.insert, Function.update_apply] at hlk
  split_ifs at hlk
  · rwa [← some.inj hlk]
  · exact h fp' entry' hlk

theorem Lacks.removeByFingerprint (h : store.Lacks userId)
    (fp : String) : (store.removeByFingerprint fp).Lacks userId := by
  intro fp' entry' hlk
  simp only [SessionStore.removeByFingerprint, Function.update_apply] at hlk
  split_ifs at hlk
  exact h fp' entry' hlk

theorem Lacks.removeByUser (h : store.Lacks userId)
    (uid' : String) : (store.removeByUser uid').Lacks userId :=
  fun fp entry hlk => h fp entry (filter_eq_some_iff.mp hlk).1

theorem lacks_removeByUser (store : SessionStore) (userId : String) :
    (store.removeByUser userId).Lacks userId :=
  fun _ _ hlk => of_decide_eq_true (filter_eq_some_iff.mp hlk).2

theorem Lacks.of_lookup (h : store.Lacks userId) {now : ℕ} {fp : String}
    (hlk : store.lookup now fp = some entry) : entry.userId ≠ userId :=
  h fp entry (filter_eq_some_iff.mp hlk).1

end SessionStore

class PasswordHash where
  verify : (password passwordHash : String) → Bool

/-! ### Requests and their critical sections -/

inductive UserRequest
  | login (username password : String)
  | rotate (headers : HeaderMap)
  | revoke (userId : String)
  | delete (userId : String)

def UserRequest.deletes : UserRequest → Option String
  | .delete userId => some userId
  | _ => none

theorem UserRequest.eq_delete {rq : UserRequest} {userId : String}
    (h : userId ∈ rq.deletes) : rq = .delete userId := by
  cases rq with
  | delete userId' => exact congrArg delete (some.inj h)
  | _ => cases h

inductive Stage
  | begun
  | loginSign (account : UserAccount)
  | loginStore (token : String) (entry : SessionEntry)
  | rotateFind (token userId : String)
  | rotateSign (token userId : String) (entry : SessionEntry)
  | rotateStore (token newToken : String) (entry : SessionEntry)
  | removeSessions
  | record
  | finished (ok : Bool)
  deriving DecidableEq

structure RunningRequest where
  request : UserRequest
  stage : Stage

/-- **Users, sessions, the clock and the requests** in order. -/
structure UserSystem where
  users : UserStore
  auth : AuthState
  nowSecs : ℕ
  running : List RunningRequest := []

inductive UserAction
  | start (request : UserRequest)
  | tick (secs : ℕ)
  | advance (i elapsed : ℕ)

namespace UserSystem

section

variable [TokenCrypto] [PasswordHash]

def advance (key : SigningKey) (s : UserSystem) (elapsed : ℕ) :
    UserRequest → Stage → Option (UserStore × SessionStore × Stage)
  | .login username password, .begun =>
    match s.users.getByUsername (toAsciiLowercase (String.ofList (trim username.toList))) with
    | none => some (s.users, s.auth.sessionStore, .finished false)
    | some account =>
      if PasswordHash.verify password account.passwordHash then
        some (s.users, s.auth.sessionStore, .loginSign account)
      else some (s.users, s.auth.sessionStore, .finished false)
  | .login _ _, .loginSign account =>
    match key.issueVerified s.nowSecs (s.nowSecs + elapsed) account.userId with
    | none => some (s.users, s.auth.sessionStore, .finished false)
    | some (token, expiresAtSecs) =>
      some (s.users, s.auth.sessionStore,
        .loginStore token ⟨account.userId, account.role, account.tenantId, expiresAtSecs⟩)
  | .login _ _, .loginStore token entry =>
    some (s.users, s.auth.sessionStore.insert (SessionSigner.fingerprint token) entry,
      .finished true)
  | .rotate headers, .begun =>
    match currentToken headers with
    | none => some (s.users, s.auth.sessionStore, .finished false)
    | some token =>
      match key.verify s.nowSecs token with
      | none => some (s.users, s.auth.sessionStore, .finished false)
      | some (userId, _) => some (s.users, s.auth.sessionStore, .rotateFind token userId)
  | .rotate _, .rotateFind token userId =>
    match s.auth.sessionStore.lookup s.nowSecs (SessionSigner.fingerprint token) with
    | none => some (s.users, s.auth.sessionStore, .finished false)
    | some entry => some (s.users, s.auth.sessionStore, .rotateSign token userId entry)
  | .rotate _, .rotateSign token userId entry =>
    match key.issueVerified s.nowSecs (s.nowSecs + elapsed) userId with
    | none => some (s.users, s.auth.sessionStore, .finished false)
    | some (newToken, expiresAtSecs) =>
      some (s.users, s.auth.sessionStore,
        .rotateStore token newToken { entry with expiresAtSecs })
  | .rotate _, .rotateStore token newToken entry =>
    some (s.users, s.auth.sessionStore.rotate token newToken entry, .finished true)
  | .revoke userId, .begun =>
    if (s.users.getById userId).isNone then
      some (s.users, s.auth.sessionStore, .finished false)
    else some (s.users, s.auth.sessionStore, .removeSessions)
  | .revoke userId, .removeSessions =>
    some (s.users, s.auth.sessionStore.removeByUser userId, .finished true)
  | .delete userId, .begun =>
    let removed := s.users.removeById userId
    some (removed.1, s.auth.sessionStore, if removed.2 then .removeSessions else .finished false)
  | .delete userId, .removeSessions =>
    some (s.users, s.auth.sessionStore.removeByUser userId, .record)
  | .delete _, .record => some (s.users, s.auth.sessionStore, .finished true)
  | _, _ => none

def step (key : SigningKey) (s : UserSystem) : UserAction → Option UserSystem
  | .start request => some { s with running := s.running ++ [⟨request, .begun⟩] }
  | .tick secs => some { s with nowSecs := s.nowSecs + secs }
  | .advance i elapsed =>
    s.running[i]?.bind fun r =>
      (s.advance key elapsed r.request r.stage).map fun (users, sessionStore, stage) =>
        { users
          auth := { s.auth with sessionStore }
          nowSecs := s.nowSecs + elapsed
          running := s.running.set i { r with stage } }

def userOf : RuntimeAccessPrincipal → String
  | .operator op => op.operatorId
  | .tenantUser user => user.userId

omit [TokenCrypto] [PasswordHash] in
theorem userOf_principal (entry : SessionEntry) : userOf entry.principal = entry.userId := by
  rw [SessionEntry.principal]
  split <;> rfl

/-- **Deleted users stay out** once earlier requests have finished. -/
def StaysOut (s : UserSystem) : Prop :=
  ∀ d : ℕ, ∀ r ∈ s.running[d]?, ∀ userId ∈ r.request.deletes, r.stage = .finished true →
    (∀ i : ℕ, i < d → ∀ r' ∈ s.running[i]?, ∃ ok, r'.stage = .finished ok) →
      ∀ headers nowSecs principal, s.nowSecs ≤ nowSecs →
        sessionIdentityFromHeaders s.auth headers nowSecs = some principal →
          userOf principal ≠ userId

def reads : Stage → Option String
  | .loginSign account => some account.userId
  | .loginStore _ entry | .rotateSign _ _ entry | .rotateStore _ _ entry => some entry.userId
  | _ => none

def Cleared (stage : Stage) : Prop := stage = .record ∨ stage = .finished true

/-- **No login or rotation has read the user** when their sessions go. -/
def Timely (s : UserSystem) : UserAction → Prop
  | .advance i _ => ∀ r ∈ s.running[i]?, r.stage = .removeSessions →
    ∀ userId ∈ r.request.deletes, ∀ r' ∈ s.running, reads r'.stage ≠ some userId
  | _ => True

instance (s : UserSystem) : ∀ a, Decidable (s.Timely a)
  | .start _ | .tick _ => .isTrue trivial
  | .advance i _ => inferInstanceAs (Decidable (∀ r ∈ s.running[i]?, r.stage = .removeSessions →
      ∀ userId ∈ r.request.deletes, ∀ r' ∈ s.running, reads r'.stage ≠ some userId))

open Transition

variable {key : SigningKey} {s s' : UserSystem} {elapsed : ℕ} {request : UserRequest}
  {stage stage' : Stage} {users' : UserStore} {sessions' : SessionStore} {userId : String}

theorem users_advance (hord : s.users.Ordered)
    (h : s.advance key elapsed request stage = some (users', sessions', stage')) :
    users'.Ordered ∧ ∀ userId, s.users.Lacks userId → users'.Lacks userId := by
  have hrem := hord.removeById
  unfold advance at h
  split at h <;> (repeat' split at h) <;> cases h <;>
    first | exact ⟨hord, fun _ h => h⟩ | exact ⟨(hrem _).1, (hrem _).2.1⟩

theorem sessions_advance
    (h : s.advance key elapsed request stage = some (users', sessions', stage'))
    (hold : s.auth.sessionStore.Lacks userId) (hrd : reads stage ≠ some userId) :
    sessions'.Lacks userId := by
  unfold advance at h
  split at h <;> (repeat' split at h) <;> cases h <;> try exact hold
  case h_3 entry => exact hold.insert fun heq => hrd (congrArg some heq)
  case h_7 entry => exact (hold.removeByFingerprint _).insert fun heq => hrd (congrArg some heq)
  case h_9 => exact hold.removeByUser _
  case h_11 => exact hold.removeByUser _

theorem reads_advance (h : s.advance key elapsed request stage = some (users', sessions', stage'))
    (huse : s.users.Lacks userId) (hses : s.auth.sessionStore.Lacks userId)
    (hrd : reads stage ≠ some userId) : reads stage' ≠ some userId := by
  unfold advance at h
  have hnone : reads (.finished true) ≠ some userId := (some_ne_none _).symm
  split at h <;> (repeat' split at h) <;> cases h <;> try first | exact hrd | exact hnone
  case h_2.isTrue account hfnd _ => exact fun heq => huse _ _ hfnd (some.inj heq)
  case h_2 entry hfnd => exact fun heq => hses.of_lookup hfnd (some.inj heq)
  case h_10 =>
    split
    · exact hnone
    · exact hnone

omit [TokenCrypto] [PasswordHash] in
theorem Cleared.reads_eq_none (h : Cleared stage) : reads stage = none := by
  rcases h with rfl | rfl <;> rfl

theorem deletion_advance (hord : s.users.Ordered)
    (h : s.advance key elapsed (.delete userId) stage = some (users', sessions', stage')) :
    (stage' = .removeSessions → users'.Lacks userId) ∧
      (Cleared stage' → (stage = .removeSessions ∧ sessions'.Lacks userId) ∨ Cleared stage) := by
  cases stage with
  | begun =>
    obtain ⟨rfl, rfl, rfl⟩ := some.inj h
    cases hrem : (s.users.removeById userId).2 with
    | false => simp [Cleared]
    | true => exact ⟨fun _ => (hord.removeById userId).2.2 hrem, by simp [Cleared]⟩
  | removeSessions =>
    obtain ⟨rfl, rfl, rfl⟩ := some.inj h
    exact ⟨nofun, fun _ => .inl ⟨rfl, SessionStore.lacks_removeByUser _ _⟩⟩
  | record =>
    obtain ⟨rfl, rfl, rfl⟩ := some.inj h
    exact ⟨nofun, fun _ => .inr (.inl rfl)⟩
  | _ => cases h

structure Inv (s : UserSystem) : Prop where
  ordered : s.users.Ordered
  account : ∀ r ∈ s.running, ∀ userId ∈ r.request.deletes,
    r.stage = .removeSessions ∨ Cleared r.stage → s.users.Lacks userId
  session : ∀ r ∈ s.running, ∀ userId ∈ r.request.deletes, Cleared r.stage →
    s.auth.sessionStore.Lacks userId ∧ ∀ r' ∈ s.running, reads r'.stage ≠ some userId

omit [TokenCrypto] [PasswordHash] in
theorem Inv.start (h : Inv s) (rq : UserRequest) :
    Inv { s with running := s.running ++ [⟨rq, .begun⟩] } := by
  have hmem {r : RunningRequest} (hr : r ∈ s.running ++ [⟨rq, .begun⟩]) :
      r ∈ s.running ∨ r.stage = .begun := by
    rcases mem_append.mp hr with hr | hr
    · exact .inl hr
    · exact .inr (mem_singleton.mp hr ▸ rfl)
  refine ⟨h.ordered, fun r hr userId hrq hstg => ?_, fun r hr userId hrq hstg => ?_⟩
  · rcases hmem hr with hr | hr
    · exact h.account r hr userId hrq hstg
    · simp [hr, Cleared] at hstg
  · rcases hmem hr with hr | hr
    · obtain ⟨hlac, hrd⟩ := h.session r hr userId hrq hstg
      refine ⟨hlac, fun r' hr' => ?_⟩
      rcases hmem hr' with hr' | hr'
      · exact hrd r' hr'
      · exact hr' ▸ (some_ne_none _).symm
    · simp [hr, Cleared] at hstg

theorem Inv.advance (h : Inv s) {i : ℕ} {r : RunningRequest} (hr : s.running[i]? = some r)
    (htim : s.Timely (.advance i elapsed))
    (hadv : s.advance key elapsed r.request r.stage = some (users', sessions', stage')) :
    Inv ⟨users', { s.auth with sessionStore := sessions' }, s.nowSecs + elapsed,
      s.running.set i { r with stage := stage' }⟩ := by
  have hrun : r ∈ s.running := mem_of_getElem? hr
  obtain ⟨hord, huse⟩ := users_advance h.ordered hadv
  -- what deletions had achieved before the step, they have achieved after it
  have hacc {r' : RunningRequest} (hr' : r' ∈ s.running) {userId : String}
      (hrq : userId ∈ r'.request.deletes)
      (hstg : r'.stage = .removeSessions ∨ Cleared r'.stage) : users'.Lacks userId :=
    huse userId (h.account r' hr' userId hrq hstg)
  have hses {r' : RunningRequest} (hr' : r' ∈ s.running) {userId : String}
      (hrq : userId ∈ r'.request.deletes) (hstg : Cleared r'.stage) :
      sessions'.Lacks userId ∧
        ∀ r' ∈ s.running.set i { r with stage := stage' }, reads r'.stage ≠ some userId := by
    obtain ⟨hlac, hrd⟩ := h.session r' hr' userId hrq hstg
    refine ⟨sessions_advance hadv hlac (hrd r hrun), fun r'' hr'' => ?_⟩
    rcases mem_or_eq_of_mem_set hr'' with hr'' | rfl
    · exact hrd r'' hr''
    · exact reads_advance hadv (h.account r' hr' userId hrq (.inr hstg)) hlac
        (hrd r hrun)
  refine ⟨hord, fun r' hr' userId hrq hstg => ?_, fun r' hr' userId hrq hstg => ?_⟩
  · rcases mem_or_eq_of_mem_set hr' with hr' | rfl
    · exact hacc hr' hrq hstg
    · simp only at hrq hstg
      rw [UserRequest.eq_delete hrq] at hadv
      obtain ⟨hremo, hcle⟩ := deletion_advance h.ordered hadv
      rcases hstg with hstg | hstg
      · exact hremo hstg
      · exact hacc hrun hrq ((hcle hstg).imp_left And.left)
  · rcases mem_or_eq_of_mem_set hr' with hr' | rfl
    · exact hses hr' hrq hstg
    · simp only at hrq hstg
      rw [UserRequest.eq_delete hrq] at hadv
      rcases (deletion_advance h.ordered hadv).2 hstg with ⟨hrem, hlac⟩ | hcle
      · refine ⟨hlac, fun r'' hr'' => ?_⟩
        rcases mem_or_eq_of_mem_set hr'' with hr'' | rfl
        · exact htim r hr hrem userId hrq r'' hr''
        · rw [hstg.reads_eq_none]
          exact (some_ne_none _).symm
      · exact hses hrun hrq hcle

theorem Inv.step {a : UserAction} (h : Inv s) (htim : s.Timely a)
    (hstep : s.step key a = some s') : Inv s' := by
  cases a with
  | start request =>
    obtain rfl := some.inj hstep
    exact h.start request
  | tick secs =>
    obtain rfl := some.inj hstep
    exact ⟨h.ordered, h.account, h.session⟩
  | advance i elapsed =>
    obtain ⟨r, hr, hstep⟩ := bind_eq_some_iff.mp hstep
    obtain ⟨⟨users', sessions', stage'⟩, hadv, rfl⟩ := map_eq_some_iff.mp hstep
    exact h.advance hr htim hadv

/-- **Deleted users stay out** if all steps are in time. -/
theorem staysOut_of_reachable {s₀ : UserSystem} (hordered : s₀.users.Ordered)
    (h₀ : s₀.running = []) (h : ReachableIf (step key) Timely s₀ s) : s.StaysOut := by
  have hinv : Inv s := h.invariant ⟨hordered, by simp [h₀], by simp [h₀]⟩
    fun hinv htim => hinv.step htim
  intro d r hr userId hrq hstg _ headers nowSecs principal _ hident
  obtain ⟨entry, hent, rfl⟩ := map_eq_some_iff.mp hident
  obtain ⟨token, -, hlk⟩ := bind_eq_some_iff.mp hent
  have hlac := (hinv.session r (mem_of_getElem? hr) userId hrq (.inr hstg)).1
  rw [userOf_principal]
  exact hlac.of_lookup hlk

end

open Transition

open scoped Rotation

local instance : PasswordHash := ⟨fun password passwordHash => password == passwordHash⟩

def atStart : UserSystem where
  users := UserStore.insert {} ⟨"u-1", "ann", "analyst", none, 0, "secret"⟩
  auth := { Rotation.auth with sessionStore := ⟨fun _ => none⟩ }
  nowSecs := 100

/-- **A user who is deleted during a login gets in.** -/
theorem staysOut_fails : ∃ s, run (step Rotation.key) atStart
    [.start (.login "ann" "secret"), .advance 0 0, .start (.delete "u-1"), .advance 1 0,
      .advance 1 0, .advance 1 0, .advance 0 0, .advance 0 0] = some s ∧ ¬s.StaysOut := by
  obtain ⟨s, hs, hnow, hrun, hident⟩ := exists_of_run (step Rotation.key) atStart
    [.start (.login "ann" "secret"), .advance 0 0, .start (.delete "u-1"), .advance 1 0,
      .advance 1 0, .advance 1 0, .advance 0 0, .advance 0 0]
    (fun s => s.nowSecs = 100 ∧ s.running.map (fun r => (r.request.deletes, r.stage)) =
      [(none, .finished true), (some "u-1", .finished true)] ∧
      sessionIdentityFromHeaders s.auth Rotation.headers 100 =
        some (.tenantUser ⟨"u-1", "", "analyst"⟩)) (by decide +kernel)
  refine ⟨s, hs, fun h => ?_⟩
  obtain ⟨login, rest, hrest, hlog, htail⟩ := map_eq_cons_iff.mp hrun
  obtain ⟨deletion, rest', rfl, hdeletion, hnil⟩ := map_eq_cons_iff.mp htail
  obtain rfl := map_eq_nil_iff.mp hnil
  obtain ⟨-, hlog⟩ := Prod.mk.inj hlog
  obtain ⟨hdele, hdeletion⟩ := Prod.mk.inj hdeletion
  refine h 1 deletion (by rw [hrest]; rfl) "u-1" hdele hdeletion (fun i hi r hr => ?_)
    Rotation.headers 100 _ hnow.le hident rfl
  obtain rfl : i = 0 := by omega
  rw [hrest] at hr
  exact ⟨true, some.inj hr ▸ hlog⟩

theorem staysOut_afterLogin : ∃ s, ReachableIf (step Rotation.key) Timely atStart s ∧
    s.running.map (fun r => (r.request.deletes, r.stage)) =
      [(none, .finished true), (some "u-1", .finished true)] ∧ s.StaysOut := by
  obtain ⟨s, hs, hsta⟩ := exists_of_runIf (step Rotation.key) Timely atStart
    [.start (.login "ann" "secret"), .advance 0 0, .advance 0 0, .advance 0 0,
      .start (.delete "u-1"), .advance 1 0, .advance 1 0, .advance 1 0]
    (fun s => s.running.map (fun r => (r.request.deletes, r.stage)) =
      [(none, .finished true), (some "u-1", .finished true)]) (by decide +kernel)
  exact ⟨s, hs, hsta, staysOut_of_reachable (UserStore.ordered_empty.insert (by decide +kernel)
      fun name account h => by cases h) rfl hs⟩

end UserSystem

end VngDatabase.Access
