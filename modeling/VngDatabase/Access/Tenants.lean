import VngDatabase.Access.Auth
import VngDatabase.Fields

/-!
# The tables of a tenant

A table belongs to a tenant by how its name begins (`ensure_store_table_access` of
`services/voltnuerongridd/src/auth.rs`), and the id of a tenant may hold what ends it there.
-/

namespace VngDatabase.Access

open Text List

def normalized (name : String) : String := toAsciiLowercase (String.ofList (trim name.toList))

def tenantNamespaces (tenantId : String) : List String :=
  let tenant := normalized tenantId
  ["tenant/" ++ tenant ++ "/", "tenant_" ++ tenant ++ "_", tenant ++ "."]

def storeTableMatchesTenantNamespace (table tenantId : String) : Bool :=
  (tenantNamespaces tenantId).any (startsWith (normalized table))

def ensureStoreTableAccess (table : String) : RuntimeAccessPrincipal → Except AuthError Unit
  | .operator _ => .ok ()
  | .tenantUser user =>
    if storeTableMatchesTenantNamespace table user.tenantId then .ok ()
    else .error (.forbidden "insufficient_privilege")

theorem ensureStoreTableAccess_tenantUser (table : String) (user : TenantUserIdentity) :
    ensureStoreTableAccess table (.tenantUser user) = .ok () ↔
      storeTableMatchesTenantNamespace table user.tenantId := by
  rw [ensureStoreTableAccess]
  split_ifs with h
  · exact iff_of_true rfl h
  · exact iff_of_false nofun h

theorem normalized_append {pre post : String} (hpre : ∀ d ∈ pre.toList.head?, ¬isWhitespace d)
    {c : Char} (hpost : post = String.ofList [c]) (hc : ¬isWhitespace c)
    (hlowe : toAsciiLowercase pre = pre ∧ toAsciiLowercase post = post) (tenantId : String) :
    normalized (pre ++ String.ofList (trim tenantId.toList) ++ post) =
      pre ++ normalized tenantId ++ post := by
  have htrim : trim (pre.toList ++ (trim tenantId.toList ++ [c])) =
      pre.toList ++ (trim tenantId.toList ++ [c]) := by
    refine trim_eq_self (fun d hd => ?_) fun d hd => ?_
    · have := head?_trim tenantId.toList d
      cases hp : pre.toList <;> cases ht : trim tenantId.toList <;> simp_all
    · simp_all
  obtain ⟨hlow, hlow'⟩ := hlowe
  nth_rewrite 2 [← hlow, ← hlow']
  subst hpost
  apply String.toList_inj.mp
  simp [normalized, toAsciiLowercase, htrim]

/-- **A tenant's namespace is itself the name of a table.** -/
theorem exists_normalized_eq {tenantId p : String} (hp : p ∈ tenantNamespaces tenantId) :
    ∃ table, normalized table = p := by
  simp only [tenantNamespaces, mem_cons, not_mem_nil, or_false] at hp
  rcases hp with rfl | rfl | rfl
  · exact ⟨_, normalized_append (c := '/') (by simp [isWhitespace]) (by decide) (by decide)
      (by decide) tenantId⟩
  · exact ⟨_, normalized_append (c := '_') (by simp [isWhitespace]) (by decide) (by decide)
      (by decide) tenantId⟩
  · rw [← String.empty_append (s := normalized tenantId)]
    exact ⟨_, normalized_append (c := '.') (by simp) (by decide) (by decide) (by decide) tenantId⟩

/-- **Two tenants share no table** iff no namespace begins with one of the other. -/
theorem tenants_share_no_table_iff (user user' : TenantUserIdentity) :
    (∀ table, ¬(storeTableMatchesTenantNamespace table user.tenantId ∧
        storeTableMatchesTenantNamespace table user'.tenantId) ∧
      ¬(ensureStoreTableAccess table (.tenantUser user) = .ok () ∧
        ensureStoreTableAccess table (.tenantUser user') = .ok ())) ↔
    ∀ p ∈ tenantNamespaces user.tenantId, ∀ q ∈ tenantNamespaces user'.tenantId,
      ¬startsWith p q ∧ ¬startsWith q p := by
  simp only [ensureStoreTableAccess_tenantUser, and_self_iff, storeTableMatchesTenantNamespace,
    any_eq_true]
  constructor
  · refine fun h p hp q hq => ⟨fun hpq => ?_, fun hqp => ?_⟩
    · obtain ⟨table, rfl⟩ := exists_normalized_eq hp
      exact h table ⟨⟨_, hp, by simp [startsWith]⟩, q, hq, hpq⟩
    · obtain ⟨table, rfl⟩ := exists_normalized_eq hq
      exact h table ⟨⟨p, hp, hqp⟩, _, hq, by simp [startsWith]⟩
  · rintro h table ⟨⟨p, hp, hpt⟩, q, hq, hqt⟩
    obtain ⟨hpq, hqp⟩ := h p hp q hq
    simp only [startsWith, isPrefixOf_iff_prefix] at *
    exact ( prefix_or_prefix_of_prefix hpt hqt).elim hqp hpq

theorem table_of_two_tenants :
    normalized "a" ≠ normalized "a_b" ∧
      ensureStoreTableAccess "tenant_a_b_x" (.tenantUser ⟨"u", "a", "r"⟩) = .ok () ∧
      ensureStoreTableAccess "tenant_a_b_x" (.tenantUser ⟨"v", "a_b", "r"⟩) = .ok () := by
  simp only [ensureStoreTableAccess_tenantUser]
  decide +kernel

end VngDatabase.Access
