import VngDatabase.Access.Auth
import VngDatabase.Bytes
import VngDatabase.Fields

/-!
# Tokens of sessions and their rotation

A session belongs to a token, which names the user and the second at which it expires, and which is
signed (`services/voltnuerongridd/src/user_store.rs`).
-/

namespace VngDatabase.Access

open Text List Option

/-! ### Tokens -/

/-- **Digests, signatures and their encoding**, without points and blanks. -/
class TokenCrypto extends SessionSigner where
  base64 : List Byte → String
  unbase64 : String → Option (List Byte)
  hmacSha256 : (secret message : List Byte) → List Byte
  unbase64_base64 : ∀ bytes, unbase64 (base64 bytes) = some bytes
  base64_of_unbase64 : ∀ text bytes, unbase64 text = some bytes → base64 bytes = text
  base64_alphabet : ∀ bytes, ∀ c ∈ (base64 bytes).toList, c ≠ '.' ∧ ¬isWhitespace c
  fingerprint_injective : Function.Injective fingerprint

def splitOnce (c : Char) (s : String) : Option (String × String) :=
  (splitAtText [c] s.toList).map fun p => (String.ofList p.1, String.ofList p.2)

structure SigningKey where
  secret : List Byte
  ttlSecs : ℕ

section

variable [TokenCrypto]

namespace SigningKey

open TokenCrypto

variable (key : SigningKey)

def sign (data : String) : String :=
  base64 (hmacSha256 key.secret (utf8 data))

def signed (header : String) : String :=
  base64 (utf8 header) ++ "." ++ key.sign (base64 (utf8 header))

def issue (nowSecs : ℕ) (userId : String) : String :=
  key.signed (userId ++ ":" ++ toString (nowSecs + key.ttlSecs))

def verify (nowSecs : ℕ) (token : String) : Option (String × ℕ) := do
  let (headerB64, sigB64) ← splitOnce '.' token
  if key.sign headerB64 ≠ sigB64 then none
  else
    let headerBytes ← unbase64 headerB64
    let header ← fromUtf8 headerBytes
    let (userId, expiresStr) ← splitOnce ':' header
    let expiresAt ← parseUnsigned (2 ^ 64) expiresStr.toList
    if expiresAt < nowSecs then none else some (userId, expiresAt)

def issueVerified (nowSecs nowSecs' : ℕ) (userId : String) :
    Option (String × ℕ) :=
  let token := key.issue nowSecs userId
  (key.verify nowSecs' token).map fun verified => (token, verified.2)

end SigningKey

namespace SessionStore

variable (store : SessionStore)

def insert (tokenFingerprint : String) (entry : SessionEntry) :
    SessionStore :=
  ⟨Function.update store.sessions tokenFingerprint (some entry)⟩

def removeByFingerprint (tokenFingerprint : String) : SessionStore :=
  ⟨Function.update store.sessions tokenFingerprint none⟩

def removeByUser (userId : String) : SessionStore :=
  ⟨fun tokenFingerprint =>
    (store.sessions tokenFingerprint).filter fun entry => entry.userId ≠ userId⟩

end SessionStore

structure LoginResponse where
  token : String
  userId : String
  role : String
  expiresAtSecs : ℕ
  deriving DecidableEq

inductive RotateAnswer
  | ok (response : LoginResponse)
  | error (e : AuthError)
  | panicked
  deriving DecidableEq

structure RotateClock where
  verified : ℕ
  found : ℕ
  issued : ℕ
  checked : ℕ

def currentToken (headers : HeaderMap) : Option String :=
  (headers.text "authorization").bind fun value =>
    (stripPrefix value "Bearer ").map fun token => String.ofList (trim token.toList)

def SessionStore.rotate (store : SessionStore) (token newToken : String) (entry : SessionEntry) :
    SessionStore :=
  (store.removeByFingerprint (SessionSigner.fingerprint token)).insert
    (SessionSigner.fingerprint newToken) entry

def authTokenRotate (auth : AuthState) (key : SigningKey) (clock : RotateClock)
    (headers : HeaderMap) : AuthState × RotateAnswer :=
  match currentToken headers with
  | none => (auth, .error (.unauthorized "missing_token"))
  | some token =>
    match key.verify clock.verified token with
    | none => (auth, .error (.unauthorized "invalid_or_expired_token"))
    | some (userId, _) =>
      match auth.sessionStore.lookup clock.found (SessionSigner.fingerprint token) with
      | none => (auth, .error (.unauthorized "session_not_found"))
      | some entry =>
        match key.issueVerified clock.issued clock.checked userId with
        | none => (auth, .panicked)
        | some (newToken, expiresAtSecs) =>
          ({ auth with
              sessionStore :=
                auth.sessionStore.rotate token newToken { entry with expiresAtSecs } },
            .ok ⟨newToken, entry.userId, entry.role, expiresAtSecs⟩)

/-! ### What a token says -/

def tokenHeader (token : String) : Option String :=
  (splitOnce '.' token).bind fun parts =>
    (TokenCrypto.unbase64 parts.1).bind fromUtf8

def expiryText (token : String) : Option String :=
  (tokenHeader token).bind fun header => (splitOnce ':' header).map Prod.snd

omit [TokenCrypto] in
theorem splitOnce_append {c : Char} {s : String} (h : c ∉ s.toList) (t : String) :
    splitOnce c (s ++ String.singleton c ++ t) = some (s, t) := by
  rw [splitOnce, String.toList_append, String.toList_append, String.toList_singleton,
    append_assoc, singleton_append, splitAtText_append_cons h]
  simp

omit [TokenCrypto] in
theorem eq_of_splitOnce {c : Char} {s : String} {p : String × String}
    (h : splitOnce c s = some p) : s = p.1 ++ String.singleton c ++ p.2 := by
  obtain ⟨⟨pre, post⟩, hspl, rfl⟩ := map_eq_some_iff.mp h
  have hlist := splitAtText_eq_some hspl
  rw [← String.toList_inj, hlist]
  simp

namespace SigningKey

open TokenCrypto

variable {key : SigningKey} {token userId : String} {nowSecs expiresAt : ℕ}

theorem tokenHeader_issue (key : SigningKey) (now : ℕ) (uid : String) :
    tokenHeader (key.issue now uid) =
      some (uid ++ ":" ++ toString (now + key.ttlSecs)) := by
  have hdot : '.' ∉ (base64 (utf8 (uid ++ ":" ++ toString (now + key.ttlSecs)))).toList :=
    fun hmem => (base64_alphabet _ _ hmem).1 rfl
  rw [tokenHeader, issue, signed, show "." = String.singleton '.' from rfl, splitOnce_append hdot,
    bind_some, unbase64_base64, bind_some, fromUtf8_utf8]

theorem exists_of_verify (h : key.verify nowSecs token = some (userId, expiresAt)) :
    ∃ expiresStr, tokenHeader token = some (userId ++ ":" ++ expiresStr) ∧
      expiryText token = some expiresStr ∧
      token = key.signed (userId ++ ":" ++ expiresStr) ∧ nowSecs ≤ expiresAt := by
  simp only [verify, bind, bind_eq_some_iff, Prod.exists] at h
  obtain ⟨heade64, sigB64, hspl, h⟩ := h
  split_ifs at h with hsig
  simp only [bind_eq_some_iff, Prod.exists] at h
  obtain ⟨headerBytes, hbyt, heade, hhea, userId', expiresStr, hcol, expires, -, h⟩ := h
  split_ifs at h with hlive
  obtain ⟨rfl, rfl⟩ := Prod.mk.inj (some.inj h)
  have hval : heade = userId' ++ ":" ++ expiresStr := eq_of_splitOnce hcol
  have htok : tokenHeader token = some heade := by
    rw [tokenHeader, hspl, bind_some, hbyt, bind_some, hhea]
  have hbase : base64 (utf8 heade) = heade64 := by
    rw [utf8_of_fromUtf8 hhea, base64_of_unbase64 _ _ hbyt]
  refine ⟨expiresStr, hval ▸ htok, ?_, ?_, Nat.le_of_not_lt hlive⟩
  · rw [expiryText, htok, bind_some, hcol, map_some]
  · rw [← hval, signed, hbase, not_not.mp hsig]
    exact eq_of_splitOnce hspl

theorem ne_empty_of_verify (h : key.verify nowSecs token = some (userId, expiresAt)) :
    token ≠ "" := by
  obtain ⟨expiresStr, -, -, rfl, -⟩ := exists_of_verify h
  intro hemp
  have hlist := congrArg String.toList hemp
  simp [signed] at hlist

/-- **A valid token is the one issued now** iff it expires at the same second. -/
theorem eq_issue_iff {now' : ℕ} (h : key.verify nowSecs token = some (userId, expiresAt)) :
    token = key.issue now' userId ↔
      expiryText token = some (toString (now' + key.ttlSecs)) := by
  obtain ⟨expiresStr, hhea, hexp, htok, -⟩ := exists_of_verify h
  constructor
  · intro heq
    rw [heq, tokenHeader_issue, some.injEq, String.append_right_inj] at hhea
    rw [hexp, hhea]
  · intro heq
    rw [hexp, some.injEq] at heq
    rw [htok, heq]
    rfl

theorem bearerToken_issue (key : SigningKey) (now : ℕ) (uid : String) :
    bearerToken (fun name => if name = "authorization" then
      some (.text ("Bearer " ++ key.issue now uid)) else none) =
        some (key.issue now uid) := by
  have hword : IsWord (key.issue now uid).toList := by
    refine ⟨by simp [issue, signed], fun c hc => ?_⟩
    rw [issue, signed, sign, String.toList_append, String.toList_append, mem_append,
      mem_append] at hc
    rcases hc with (hc | hc) | hc
    · exact (base64_alphabet _ c hc).2
    · rw [mem_singleton.mp hc]
      decide
    · exact (base64_alphabet _ c hc).2
  have htrim : trim (key.issue now uid).toList = (key.issue now uid).toList := by
    have happ := hword.trim_append []
    rwa [append_nil, reverse_nil, dropWhile_nil, reverse_nil, append_nil] at happ
  have hne : key.issue now uid ≠ "" := fun hemp => hword.ne_nil (by rw [hemp]; rfl)
  rw [bearerToken, HeaderMap.text]
  simp only [if_pos, bind_some, stripPrefix_append, htrim, String.ofList_toList, if_neg hne]

end SigningKey

structure Rotates (auth : AuthState) (found : Option RuntimeAccessPrincipal) (checked : ℕ)
    (token : String) (response : LoginResponse) : Prop where
  revoked : ∀ headers nowSecs, checked ≤ nowSecs → bearerToken headers = some token →
    sessionIdentityFromHeaders auth headers nowSecs = none
  renewed : ∀ headers nowSecs, checked ≤ nowSecs → nowSecs ≤ response.expiresAtSecs →
    bearerToken headers = some response.token →
      sessionIdentityFromHeaders auth headers nowSecs = found
  known : found.isSome
  presentable : ∃ headers, bearerToken headers = some response.token

variable {auth auth' : AuthState} {key : SigningKey} {clock : RotateClock} {headers : HeaderMap}
  {token : String} {response : LoginResponse}

theorem exists_of_authTokenRotate (htok : currentToken headers = some token)
    (h : authTokenRotate auth key clock headers = (auth', .ok response)) :
    ∃ userId expiresAt entry,
      key.verify clock.verified token = some (userId, expiresAt) ∧
      auth.sessionStore.lookup clock.found (SessionSigner.fingerprint token) = some entry ∧
      key.issueVerified clock.issued clock.checked userId =
        some (response.token, response.expiresAtSecs) ∧
      auth' = { auth with
        sessionStore := auth.sessionStore.rotate token response.token
          { entry with expiresAtSecs := response.expiresAtSecs } } := by
  rw [authTokenRotate, htok] at h
  simp only at h
  split at h
  · cases h
  · rename_i userId expiresAt hver
    split at h
    · cases h
    · rename_i entry hfnd
      split at h
      · cases h
      · rename_i newToken expiresAtSecs hiss
        obtain ⟨rfl, hres⟩ := Prod.mk.inj h
        obtain rfl := RotateAnswer.ok.inj hres
        exact ⟨userId, expiresAt, entry, hver, hfnd, hiss, rfl⟩

theorem lookup_rotate (store : SessionStore) (token newToken token' : String) (entry : SessionEntry)
    (now : ℕ) :
    (store.rotate token newToken entry).lookup now (SessionSigner.fingerprint token') =
      if token' = newToken then (some entry).filter fun entry => now ≤ entry.expiresAtSecs
      else if token' = token then none
      else store.lookup now (SessionSigner.fingerprint token') := by
  have hinj := TokenCrypto.fingerprint_injective
  rw [SessionStore.lookup, SessionStore.rotate, SessionStore.insert,
    SessionStore.removeByFingerprint]
  simp only [Function.update_apply, hinj.eq_iff]
  split_ifs <;> rfl

omit [TokenCrypto] in
theorem bearerToken_of_currentToken (htok : currentToken headers = some token)
    (hne : token ≠ "") : bearerToken headers = some token := by
  obtain ⟨value, hval, htok⟩ := bind_eq_some_iff.mp htok
  obtain ⟨rest, hrest, rfl⟩ := map_eq_some_iff.mp htok
  rw [bearerToken, hval, bind_some, hrest, bind_some]
  exact if_neg hne

theorem sessionIdentity_of_bearerToken (auth : AuthState) (now : ℕ)
    (htok : bearerToken headers = some token) :
    sessionIdentityFromHeaders auth headers now =
      (auth.sessionStore.lookup now (SessionSigner.fingerprint token)).map
        SessionEntry.principal := by
  rw [sessionIdentityFromHeaders, sessionEntryFromHeaders, htok, bind_some]

/-- **A rotation puts the old token out of use iff** the two expire in different seconds. -/
theorem rotates_iff (htoken : currentToken headers = some token)
    (h : authTokenRotate auth key clock headers = (auth', .ok response)) :
    Rotates auth' (sessionIdentityFromHeaders auth headers clock.found) clock.checked token
        response ↔
      expiryText token ≠ some (toString (clock.issued + key.ttlSecs)) := by
  obtain ⟨userId, expiresAt, entry, hver, hfnd, hiss, rfl⟩ := exists_of_authTokenRotate htoken h
  obtain ⟨verified, hchk, hnew⟩ := map_eq_some_iff.mp hiss
  obtain ⟨hnewT, hexp⟩ := Prod.mk.inj hnew
  obtain ⟨-, -, -, -, hlive⟩ := SigningKey.exists_of_verify hchk
  rw [hexp] at hlive
  have hbea : bearerToken headers = some token :=
    bearerToken_of_currentToken htoken (SigningKey.ne_empty_of_verify hver)
  have hident (headers' : HeaderMap) (token' : String) (nowSecs : ℕ)
      (htok' : bearerToken headers' = some token') :=
    (sessionIdentity_of_bearerToken { auth with
      sessionStore := auth.sessionStore.rotate token response.token
        { entry with expiresAtSecs := response.expiresAtSecs } } nowSecs htok').trans
      (congrArg (Option.map SessionEntry.principal) (lookup_rotate auth.sessionStore token
        response.token token' { entry with expiresAtSecs := response.expiresAtSecs } nowSecs))
  rw [ne_eq, ← SigningKey.eq_issue_iff hver, hnewT]
  have hpr : sessionIdentityFromHeaders auth headers clock.found = some entry.principal := by
    rw [sessionIdentity_of_bearerToken auth clock.found hbea, hfnd, map_some]
  constructor
  · intro hrot heq
    have hnone := hrot.revoked headers clock.checked le_rfl hbea
    rw [hident headers token clock.checked hbea, if_pos heq, filter_some,
      if_pos (decide_eq_true hlive)] at hnone
    cases hnone
  · intro hne
    refine ⟨fun headers' nowSecs _ htok' => ?_, fun headers' nowSecs _ hle htok' => ?_, ?_, ?_⟩
    · rw [hident headers' token nowSecs htok', if_neg hne, if_pos rfl, map_none]
    · rw [hident headers' _ nowSecs htok', if_pos rfl, filter_some,
        if_pos (decide_eq_true hle), hpr]
      rfl
    · rw [hpr, isSome_some]
    · exact ⟨_, hnewT ▸ SigningKey.bearerToken_issue key clock.issued userId⟩

end

/-! ### Two rotations -/

namespace Rotation

def letter (b : Byte) : Char := Char.ofNat (b + 256)

def ofLetter (c : Char) : Option Byte :=
  if h : 256 ≤ c.toNat ∧ c.toNat - 256 < 256 then some ⟨c.toNat - 256, h.2⟩ else none

def ofLetters : List Char → Option (List Byte)
  | [] => some []
  | c :: cs => (ofLetter c).bind fun b => (ofLetters cs).map (b :: ·)

theorem ofLetter_letter : ∀ b, ofLetter (letter b) = some b := by decide +kernel

theorem letter_ne_point : ∀ b, letter b ≠ '.' ∧ ¬isWhitespace (letter b) := by decide +kernel

theorem ofLetters_map (bytes : List Byte) : ofLetters (bytes.map letter) = some bytes := by
  induction bytes with
  | nil => rfl
  | cons b bytes ih => rw [map_cons, ofLetters, ofLetter_letter, ih, bind_some, map_some]

theorem map_of_ofLetters {cs : List Char} {bytes : List Byte} (h : ofLetters cs = some bytes) :
    bytes.map letter = cs := by
  induction cs generalizing bytes with
  | nil =>
    obtain rfl := some.inj h
    rfl
  | cons c cs ih =>
    obtain ⟨b, hb, h⟩ := bind_eq_some_iff.mp h
    obtain ⟨bytes, hbyt, rfl⟩ := map_eq_some_iff.mp h
    rw [ofLetter] at hb
    split_ifs at hb with hc
    obtain rfl := some.inj hb
    rw [map_cons, ih hbyt, letter]
    simp only [Nat.sub_add_cancel hc.1, Char.ofNat_toNat]

scoped instance : TokenCrypto where
  fingerprint := id
  base64 bytes := String.ofList (bytes.map letter)
  unbase64 text := ofLetters text.toList
  hmacSha256 _ _ := []
  unbase64_base64 bytes := by rw [String.toList_ofList, ofLetters_map]
  base64_of_unbase64 text bytes h := by rw [map_of_ofLetters h, String.ofList_toList]
  base64_alphabet bytes c hc := by
    rw [String.toList_ofList] at hc
    obtain ⟨b, -, rfl⟩ := List.mem_map.mp hc
    exact letter_ne_point b
  fingerprint_injective := Function.injective_id

def key : SigningKey := ⟨[], 86400⟩

def token : String := key.issue 100 "u-1"

def headers : HeaderMap := fun name =>
  if name = "authorization" then some (.text ("Bearer " ++ token)) else none

def auth : AuthState where
  adminApiKey := none
  allowedOperatorRoles := ∅
  operatorRoleBindings _ := none
  tenantUserBindings _ := none
  rbacPrivilegeMatrix := ⟨fun _ => []⟩
  sessionStore := ⟨fun fp => if fp = token then some ⟨"u-1", "analyst", none, 86500⟩ else none⟩

/-- **A token rotated in the second of its issue stays in use.** -/
theorem token_accepted :
    (authTokenRotate auth key ⟨100, 100, 100, 100⟩ headers).2 =
        .ok ⟨token, "u-1", "analyst", 86500⟩ ∧
      sessionIdentityFromHeaders (authTokenRotate auth key ⟨100, 100, 100, 100⟩ headers).1 headers
        100 = some (.tenantUser ⟨"u-1", "", "analyst"⟩) := by
  decide +kernel

theorem token_replaced : Rotates (authTokenRotate auth key ⟨101, 101, 101, 101⟩ headers).1
    (sessionIdentityFromHeaders auth headers 101) 101 token
    ⟨key.issue 101 "u-1", "u-1", "analyst", 86501⟩ := by
  have hok : (authTokenRotate auth key ⟨101, 101, 101, 101⟩ headers).2 =
      .ok ⟨key.issue 101 "u-1", "u-1", "analyst", 86501⟩ := by
    decide +kernel
  have htok : currentToken headers = some token := by decide +kernel
  exact (rotates_iff htok (Prod.ext rfl hok)).mpr (by decide +kernel)

end Rotation

end VngDatabase.Access
