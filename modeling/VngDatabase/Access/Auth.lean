import VngDatabase.Text

/-!
# Who makes a request

Every handler first asks `require_runtime_principal` (`services/voltnuerongridd/src/auth.rs`) who is
calling, and for which resource, scope and action.
-/

namespace VngDatabase.Access

open Text

/-! ### The matrix of privileges -/

variable (matrix : RbacPrivilegeMatrix)

inductive PrivilegeAction
  | read
  | write
  | execute
  | manage
  deriving DecidableEq

def scopeSegments (scope : String) : List String :=
  ((split ['/'] (trim scope.toList)).filter (· ≠ [])).map String.ofList

def isPlaceholder (segment : String) : Bool :=
  segment.toList.head? = some '\x7b' && segment.toList.getLast? = some '\x7d'

def segmentsMatch : List String → List String → Bool
  | [], [] => true
  | [], _ :: _ => false
  | [allowed], [] => allowed = "*"
  | _ :: _ :: _, [] => false
  | allowed :: rest, requested :: rest' =>
    if allowed = "*" then true
    else if isPlaceholder allowed then segmentsMatch rest rest'
    else eqIgnoreAsciiCase allowed requested && segmentsMatch rest rest'

def scopeMatches (allowedScope requestedScope : String) : Bool :=
  trim allowedScope.toList = ['*'] ||
    segmentsMatch (scopeSegments allowedScope) (scopeSegments requestedScope)

structure ResourceGrant where
  resource : String
  scopes : List String
  actions : List PrivilegeAction

def ResourceGrant.allows (grant : ResourceGrant) (resource scope : String)
    (action : PrivilegeAction) : Bool :=
  eqIgnoreAsciiCase grant.resource resource && grant.actions.contains action &&
    grant.scopes.any (scopeMatches · scope)

structure RbacPrivilegeMatrix where
  grantsByRole : String → List ResourceGrant

namespace RbacPrivilegeMatrix

def grantsForRole (role : String) : List ResourceGrant :=
  matrix.grantsByRole (toAsciiLowercase (String.ofList (trim role.toList)))

def allows (role resource scope : String) (action : PrivilegeAction) : Bool :=
  (matrix.grantsForRole role).any (·.allows resource scope action)

end RbacPrivilegeMatrix

inductive OperatorRole
  | dba
  | sre
  | security
  | aiOperator
  deriving DecidableEq

namespace OperatorRole

@[irreducible]
def parse (value : String) : Option OperatorRole :=
  let name := toAsciiLowercase (String.ofList (trim value.toList))
  if name ∈ ["dba", "admin"] then some dba
  else if name = "sre" then some sre
  else if name ∈ ["security", "secops"] then some security
  else if name ∈ ["ai_operator", "ai-operator", "autonomous"] then some aiOperator
  else none

def asStr : OperatorRole → String
  | dba => "dba"
  | sre => "sre"
  | security => "security"
  | aiOperator => "ai_operator"

end OperatorRole

structure OperatorIdentity where
  operatorId : String
  role : OperatorRole
  deriving DecidableEq

structure TenantUserIdentity where
  userId : String
  tenantId : String
  role : String
  deriving DecidableEq

inductive RuntimeAccessPrincipal
  | operator (op : OperatorIdentity)
  | tenantUser (user : TenantUserIdentity)
  deriving DecidableEq

inductive HeaderValue
  | text (s : String)
  | bytes

abbrev HeaderMap := String → Option HeaderValue

namespace HeaderMap

variable (headers : HeaderMap)

def containsKey (name : String) : Bool := (headers name).isSome

def text (name : String) : Option String :=
  match headers name with
  | some (.text s) => some s
  | _ => none

def trimmed (name : String) : Option String :=
  (headers.text name).map fun s => String.ofList (trim s.toList)

end HeaderMap

structure TenantUserBinding where
  tenantId : String
  role : String

structure SessionEntry where
  userId : String
  role : String
  tenantId : Option String
  expiresAtSecs : ℕ
  deriving DecidableEq

structure SessionStore where
  sessions : String → Option SessionEntry

def SessionStore.lookup (store : SessionStore) (nowSecs : ℕ) (tokenFingerprint : String) :
    Option SessionEntry :=
  (store.sessions tokenFingerprint).filter fun entry => nowSecs ≤ entry.expiresAtSecs

structure AuthState where
  adminApiKey : Option String
  allowedOperatorRoles : Finset OperatorRole
  operatorRoleBindings : String → Option OperatorRole
  tenantUserBindings : String → Option TenantUserBinding
  rbacPrivilegeMatrix : RbacPrivilegeMatrix
  sessionStore : SessionStore

inductive AuthError
  | unauthorized (reason : String)
  | forbidden (reason : String)
  deriving DecidableEq

def controlPlaneOperatorRoles : List OperatorRole := [.dba, .sre, .security, .aiOperator]

class SessionSigner where
  fingerprint : String → String

/-! ### The three routes -/

section

variable (auth : AuthState) (headers : HeaderMap) (nowSecs : ℕ)

def operatorIdentityFromHeaders : Option OperatorIdentity :=
  (headers.trimmed "x-vng-operator-id").bind fun operatorId =>
    if operatorId = "" then none
    else (auth.operatorRoleBindings operatorId).map fun role => ⟨operatorId, role⟩

def requireOperatorAuth : Except AuthError Unit :=
  match auth.adminApiKey with
  | none => .error (.unauthorized "missing_or_invalid_admin_key")
  | some requiredKey =>
    if (headers.text "x-vng-admin-key").getD "" ≠ requiredKey then
      .error (.unauthorized "missing_or_invalid_admin_key")
    else
      match operatorIdentityFromHeaders auth headers with
      | none => .error (.unauthorized "missing_or_invalid_operator_identity")
      | some operator =>
        if operator.role ∉ auth.allowedOperatorRoles then
          .error (.unauthorized "operator_role_not_allowed")
        else if operator.role ∉ controlPlaneOperatorRoles then
          .error (.unauthorized "operator_role_not_authorized")
        else .ok ()

def requireOperatorPrivilege (resource scope : String) (action : PrivilegeAction) :
    Except AuthError OperatorIdentity :=
  match operatorIdentityFromHeaders auth headers with
  | none => .error (.unauthorized "missing_or_invalid_operator_identity")
  | some operator =>
    if auth.rbacPrivilegeMatrix.allows operator.role.asStr resource scope action then .ok operator
    else .error (.forbidden "insufficient_privilege")

def tenantUserIdentityFromHeaders : Option TenantUserIdentity :=
  (headers.trimmed "x-vng-user-id").bind fun userId =>
    (headers.trimmed "x-vng-tenant-id").bind fun tenantId =>
      if userId = "" ∨ tenantId = "" then none
      else (auth.tenantUserBindings userId).bind fun binding =>
        if eqIgnoreAsciiCase binding.tenantId tenantId then some ⟨userId, tenantId, binding.role⟩
        else none

def tenantScopedScope (tenantId scope : String) : String :=
  "tenants/" ++ tenantId ++ "/" ++ String.ofList (scope.toList.dropWhile (· = '/'))

def requireTenantUserPrivilege (resource scope : String) (action : PrivilegeAction) :
    Except AuthError TenantUserIdentity :=
  match tenantUserIdentityFromHeaders auth headers with
  | none => .error (.unauthorized "missing_or_invalid_user_identity")
  | some user =>
    if auth.rbacPrivilegeMatrix.allows user.role resource (tenantScopedScope user.tenantId scope)
        action then .ok user
    else .error (.forbidden "insufficient_privilege")

def bearerToken : Option String :=
  (headers.text "authorization").bind fun value =>
    (stripPrefix value "Bearer ").bind fun token =>
      let token := String.ofList (trim token.toList)
      if token = "" then none else some token

def sessionEntryFromHeaders [SessionSigner] : Option SessionEntry :=
  (bearerToken headers).bind fun token =>
    auth.sessionStore.lookup nowSecs (SessionSigner.fingerprint token)

def SessionEntry.principal (entry : SessionEntry) : RuntimeAccessPrincipal :=
  match OperatorRole.parse entry.role with
  | some role => .operator ⟨entry.userId, role⟩
  | none => .tenantUser ⟨entry.userId, entry.tenantId.getD "", entry.role⟩

def sessionIdentityFromHeaders [SessionSigner] : Option RuntimeAccessPrincipal :=
  (sessionEntryFromHeaders auth headers nowSecs).map SessionEntry.principal

def hasOperatorHeaders : Bool :=
  headers.containsKey "x-vng-admin-key" || headers.containsKey "x-vng-operator-id"

/-- Operators first, then sessions, then tenant users. -/
def requireRuntimePrincipal [SessionSigner] (resource scope : String)
    (action : PrivilegeAction) : Except AuthError RuntimeAccessPrincipal :=
  if hasOperatorHeaders headers then
    match requireOperatorAuth auth headers with
    | .error e => .error e
    | .ok () => (requireOperatorPrivilege auth headers resource scope action).map .operator
  else
    match sessionIdentityFromHeaders auth headers nowSecs with
    | some principal => .ok principal
    | none => (requireTenantUserPrivilege auth headers resource scope action).map .tenantUser

def requireSqlRuntimePrincipal [SessionSigner] (action : PrivilegeAction)
    (sqlScope : String) : Except AuthError RuntimeAccessPrincipal :=
  requireRuntimePrincipal auth headers nowSecs "sql.runtime" sqlScope action

end

def Authorized (resource scope : String) (action : PrivilegeAction) : RuntimeAccessPrincipal → Prop
  | .operator op => matrix.allows op.role.asStr resource scope action
  | .tenantUser user =>
    matrix.allows user.role resource (tenantScopedScope user.tenantId scope) action

section

variable {auth : AuthState} {headers : HeaderMap} {resource scope : String}
  {action : PrivilegeAction}

theorem exists_of_map_eq_ok {α β ε : Type} {f : α → β} {x : Except ε α} {b : β}
    (h : x.map f = .ok b) : ∃ a, x = .ok a ∧ f a = b := by
  cases x with
  | error e => cases h
  | ok a => exact ⟨a, rfl, Except.ok.inj h⟩

variable [SessionSigner] {nowSecs : ℕ}

theorem authorized_of_requireRuntimePrincipal {principal : RuntimeAccessPrincipal}
    (hrou : hasOperatorHeaders headers ∨ sessionEntryFromHeaders auth headers nowSecs = none)
    (h : requireRuntimePrincipal auth headers nowSecs resource scope action = .ok principal) :
    Authorized auth.rbacPrivilegeMatrix resource scope action principal := by
  rw [requireRuntimePrincipal] at h
  split_ifs at h with hop
  · split at h
    · cases h
    · obtain ⟨op, hok, rfl⟩ := exists_of_map_eq_ok h
      rw [requireOperatorPrivilege] at hok
      split at hok
      · cases hok
      · split_ifs at hok with hall
        exact Except.ok.inj hok ▸ hall
  · rw [sessionIdentityFromHeaders, hrou.resolve_left hop] at h
    obtain ⟨user, hok, rfl⟩ := exists_of_map_eq_ok h
    rw [requireTenantUserPrivilege] at hok
    split at hok
    · cases hok
    · split_ifs at hok with hall
      exact Except.ok.inj hok ▸ hall

theorem requireRuntimePrincipal_of_session {entry : SessionEntry}
    (hop : ¬hasOperatorHeaders headers)
    (hent : sessionEntryFromHeaders auth headers nowSecs = some entry) :
    requireRuntimePrincipal auth headers nowSecs resource scope action = .ok entry.principal := by
  rw [requireRuntimePrincipal, if_neg hop, sessionIdentityFromHeaders, hent]
  rfl

end

/-- **A returned principal is allowed the action** iff it is an operator's, or the session's is. -/
theorem requireRuntimePrincipal_authorized_iff [SessionSigner] (auth : AuthState)
    (headers : HeaderMap) (nowSecs : ℕ) (resource scope : String) (action : PrivilegeAction) :
    (∀ principal,
      requireRuntimePrincipal auth headers nowSecs resource scope action = .ok principal →
        Authorized auth.rbacPrivilegeMatrix resource scope action principal) ↔
    (hasOperatorHeaders headers ∨
      ∀ entry, sessionEntryFromHeaders auth headers nowSecs = some entry →
        Authorized auth.rbacPrivilegeMatrix resource scope action entry.principal) := by
  constructor
  · intro h
    by_cases hop : hasOperatorHeaders headers
    · exact Or.inl hop
    · refine Or.inr fun entry hent => h entry.principal ?_
      exact requireRuntimePrincipal_of_session hop hent
  · rintro hrou principal hok
    by_cases hop : hasOperatorHeaders headers
    · exact authorized_of_requireRuntimePrincipal (Or.inl hop) hok
    · cases hent : sessionEntryFromHeaders auth headers nowSecs with
      | none => exact authorized_of_requireRuntimePrincipal (Or.inr hent) hok
      | some entry =>
        rw [requireRuntimePrincipal_of_session hop hent] at hok
        rw [← Except.ok.inj hok]
        exact hrou.resolve_left hop entry hent

section

local instance : SessionSigner := ⟨id⟩

def analystMatrix : RbacPrivilegeMatrix where
  grantsByRole role :=
    if role = "tenant_analyst" then
      [⟨"storage.catalog",
        ["tenants/\x7btenant\x7d/store/indexes", "tenants/\x7btenant\x7d/store/indexes/lookup",
          "tenants/\x7btenant\x7d/store/constraints/validate"], [.read]⟩]
    else []

def analystAuth : AuthState where
  adminApiKey := none
  allowedOperatorRoles := {.dba, .sre, .security, .aiOperator}
  operatorRoleBindings _ := none
  tenantUserBindings user :=
    if user = "analyst-acme" then some ⟨"acme", "tenant_analyst"⟩ else none
  rbacPrivilegeMatrix := analystMatrix
  sessionStore := ⟨fun token =>
    if token = "t" then some ⟨"analyst-acme", "tenant_analyst", some "acme", 100⟩ else none⟩

def tenantHeaders : HeaderMap
  | "x-vng-user-id" => some (.text "analyst-acme")
  | "x-vng-tenant-id" => some (.text "acme")
  | _ => none

def sessionHeaders : HeaderMap
  | "authorization" => some (.text "Bearer t")
  | _ => none

theorem analystMatrix_allows :
    analystMatrix.allows "tenant_analyst" "storage.catalog"
      (tenantScopedScope "acme" "store/constraints") .manage = false := by
  decide +kernel

/-- **With a session an analyst may change constraints.** -/
theorem session_skips_the_matrix :
    requireRuntimePrincipal analystAuth sessionHeaders 50 "storage.catalog" "store/constraints"
        .manage = .ok (.tenantUser ⟨"analyst-acme", "acme", "tenant_analyst"⟩) ∧
      ¬Authorized analystMatrix "storage.catalog" "store/constraints" .manage
        (.tenantUser ⟨"analyst-acme", "acme", "tenant_analyst"⟩) ∧
      requireRuntimePrincipal analystAuth tenantHeaders 50 "storage.catalog" "store/constraints"
        .manage = .error (.forbidden "insufficient_privilege") := by
  have hent : sessionEntryFromHeaders analystAuth sessionHeaders 50 =
      some ⟨"analyst-acme", "tenant_analyst", some "acme", 100⟩ := by decide +kernel
  have hrole : OperatorRole.parse "tenant_analyst" = none := by decide +kernel
  have hnone : sessionEntryFromHeaders analystAuth tenantHeaders 50 = none := by decide +kernel
  have huser : tenantUserIdentityFromHeaders analystAuth tenantHeaders =
      some ⟨"analyst-acme", "acme", "tenant_analyst"⟩ := by decide +kernel
  refine ⟨?_, ?_, ?_⟩
  · rw [requireRuntimePrincipal_of_session (by decide +kernel) hent, SessionEntry.principal,
      hrole]
    rfl
  · rw [Authorized, analystMatrix_allows]
    exact Bool.false_ne_true
  · rw [requireRuntimePrincipal, if_neg (by decide +kernel), sessionIdentityFromHeaders, hnone]
    simp only [Option.map_none, requireTenantUserPrivilege, huser]
    simp only [analystAuth, analystMatrix_allows]
    rfl

end

end VngDatabase.Access
