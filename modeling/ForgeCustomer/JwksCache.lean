import Mathlib

/-!
# Keys of customer tokens

`auth::customer`: tokens are verified with the keys that the identity provider publishes. Fetched keys are kept
for ten minutes, and fetches are a minute apart.
-/
namespace ForgeCustomer.JwksCache

/-- The monotonic clock counts nanoseconds. -/
def seconds (n : ℕ) : ℕ := n * 10 ^ 9

def cacheTtl : ℕ := seconds 600

def refreshInterval : ℕ := seconds 60

def maxJwksBytes : ℕ := 64 * 1024

def maxKeys : ℕ := 32

def maxTokenBytes : ℕ := 16 * 1024

inductive ErrorCode where
  | invalidToken
  | tokenExpired
  | wrongAudience
  | serviceUnavailable
  | internal
deriving DecidableEq

structure AppError where
  code : ErrorCode
  message : String
deriving DecidableEq

def invalidToken : AppError := ⟨.invalidToken, "The access token is invalid."⟩

def unavailable : AppError :=
  ⟨.serviceUnavailable, "Customer identity verification is temporarily unavailable."⟩

structure Claims where
  sub : String
  email : Option String
  role : Option String
  aal : Option String
  roles : List String
  scope : Option String
  exp : ℕ
deriving DecidableEq

inductive Algorithm where
  | hs256
  | es256
  | other
deriving DecidableEq

structure Header where
  alg : Algorithm
  kid : Option String

inductive JwtErrorKind where
  | expiredSignature
  | invalidAudience
  | invalidIssuer
  | invalidSignature
  | other
deriving DecidableEq

inductive KeyAlgorithm where
  | es256
  | other
deriving DecidableEq

inductive PublicKeyUse where
  | signature
  | other
deriving DecidableEq

inductive KeyOperation where
  | verify
  | other
deriving DecidableEq

inductive AlgorithmParameters where
  | ellipticCurveP256 (x y : String)
  | other
deriving DecidableEq

structure Jwk where
  keyId : Option String
  keyAlgorithm : Option KeyAlgorithm
  publicKeyUse : Option PublicKeyUse
  keyOperations : Option (List KeyOperation)
  algorithm : AlgorithmParameters
deriving DecidableEq

/-- What `jsonwebtoken` and `serde_json` do; `decode` checks issuer, audience and expiry as configured. -/
structure JwtLibrary (κ : Type) where
  decodeHeader : String → Option Header
  parseJwkSet : List UInt8 → Option (List Jwk)
  fromJwk : Jwk → Option κ
  decode : String → κ → Except JwtErrorKind Claims
  decodeLegacy : String → Except JwtErrorKind Claims

def mapJwtError : JwtErrorKind → AppError
  | .expiredSignature => ⟨.tokenExpired, "The access token has expired."⟩
  | .invalidAudience => ⟨.wrongAudience, "The token audience is invalid."⟩
  | .invalidIssuer => ⟨.invalidToken, "The token issuer is invalid."⟩
  | .invalidSignature => ⟨.invalidToken, "The token signature is invalid."⟩
  | .other => ⟨.invalidToken, "The access token is invalid."⟩

variable {κ : Type}

structure VerificationKey (κ : Type) where
  kid : String
  key : κ
deriving DecidableEq

structure CustomerJwtValidator (κ : Type) where
  library : JwtLibrary κ
  legacyConfigured : Bool
  jwksUrl : Option String

/-- An answer of the provider; a chunk is `none` where the transfer breaks off. -/
structure Response where
  success : Bool
  contentLength : Option ℕ
  chunks : List (Option (List UInt8))

def readBody : List (Option (List UInt8)) → List UInt8 → Option (List UInt8)
  | [], bytes => some bytes
  | none :: _, _ => none
  | some chunk :: rest, bytes =>
    if maxJwksBytes < bytes.length + chunk.length then none else readBody rest (bytes ++ chunk)

def usableKid (kid : String) : Bool := kid != "" && decide (kid.utf8ByteSize ≤ 128)

/-- The key may verify signatures of ES256. -/
def verifies (jwk : Jwk) : Bool :=
  jwk.keyAlgorithm == some .es256 && jwk.publicKeyUse.all (· == .signature) &&
    jwk.keyOperations.all (·.contains .verify) &&
    match jwk.algorithm with
    | .ellipticCurveP256 _ _ => true
    | .other => false

/-- The loop of `parse_keys`; a repeated key id spoils the whole set. -/
def collectKeys (library : JwtLibrary κ) : List Jwk → List String → List (VerificationKey κ) →
    Except AppError (List (VerificationKey κ))
  | [], _, keys => .ok keys
  | jwk :: rest, seen, keys =>
    match jwk.keyId.filter usableKid with
    | none => collectKeys library rest seen keys
    | some kid =>
      if kid ∈ seen then .error unavailable
      else if verifies jwk = false then collectKeys library rest (kid :: seen) keys
      else match library.fromJwk jwk with
        | none => .error unavailable
        | some key => collectKeys library rest (kid :: seen) (keys ++ [⟨kid, key⟩])

def parseKeys (library : JwtLibrary κ) (bytes : List UInt8) : Except AppError (List (VerificationKey κ)) :=
  match library.parseJwkSet bytes with
  | none => .error unavailable
  | some keys => if maxKeys < keys.length then .error unavailable else collectKeys library keys [] []

/-- `none` is a request that was not answered. -/
def fetchKeys (v : CustomerJwtValidator κ) (response : Option Response) :
    Except AppError (List (VerificationKey κ)) :=
  match v.jwksUrl, response with
  | some _, some response =>
    if response.success = false ∨ response.contentLength.any (fun size => decide (maxJwksBytes < size)) = true then
      .error unavailable
    else match readBody response.chunks [] with
      | none => .error unavailable
      | some bytes => parseKeys v.library bytes
  | _, _ => .error unavailable

structure KeyCache (κ : Type) where
  keys : List (VerificationKey κ)
  fetchedAt : Option ℕ
  attemptedAt : Option ℕ

/-- `KeyCache::default()`. -/
def emptyCache : KeyCache κ := ⟨[], none, none⟩

/-- A call with what the clock shows in it, from one reading to the next, and the answer to its fetch, if it
makes one. -/
structure ValidateCall where
  token : String
  looked : ℕ
  cooled : ℕ
  attempted : ℕ
  fetched : ℕ
  looked_le : looked ≤ cooled
  cooled_le : cooled ≤ attempted
  attempted_le : attempted ≤ fetched
  response : Option Response

inductive Event (κ : Type) where
  | fetchStarted (t : ℕ)
  | fetchFailed
  | fetchSucceeded (t : ℕ) (keys : List (VerificationKey κ))

/-- The answer of a call, the cache after it, what happened on the network, and the last look at the clock. -/
structure Outcome (κ : Type) where
  result : Except AppError Claims
  cache : KeyCache κ
  events : List (Event κ)
  clock : ℕ

def verify (v : CustomerJwtValidator κ) (token : String) (key : κ) : Except AppError Claims :=
  (v.library.decode token key).mapError mapJwtError

/-- `JwtValidator::validate` for tokens of the shared secret. -/
def validateLegacy (v : CustomerJwtValidator κ) (token : String) : Except AppError Claims :=
  if v.legacyConfigured = false then .error ⟨.internal, "token verification is not configured"⟩
  else (v.library.decodeLegacy token).mapError mapJwtError

def keyNamed (kid : String) (keys : List (VerificationKey κ)) : Option (VerificationKey κ) :=
  keys.find? fun key => key.kid == kid

/-- `at.elapsed() < CACHE_TTL` for the last fetch. -/
def isFresh (now : ℕ) (cache : KeyCache κ) : Bool :=
  cache.fetchedAt.any fun t => decide (now - t < cacheTtl)

def coolingDown (now : ℕ) (cache : KeyCache κ) : Bool :=
  cache.attemptedAt.any fun t => decide (now - t < refreshInterval)

/-- What is done under the lock. -/
def validateWithCache (v : CustomerJwtValidator κ) (c : ValidateCall) (kid : String) (cache : KeyCache κ) : Outcome κ :=
  let fresh := isFresh c.looked cache
  match if fresh then keyNamed kid cache.keys else none with
  | some key => ⟨verify v c.token key.key, cache, [], c.looked⟩
  | none =>
    if coolingDown c.cooled cache then
      ⟨.error (if fresh then invalidToken else unavailable), cache, [], c.cooled⟩
    else match fetchKeys v c.response with
      | .error e =>
        ⟨.error e, { cache with attemptedAt := some c.attempted }, [.fetchStarted c.attempted, .fetchFailed], c.attempted⟩
      | .ok keys =>
        let result := match keyNamed kid keys with
          | none => .error invalidToken
          | some key => verify v c.token key.key
        ⟨result, ⟨keys, some c.fetched, some c.attempted⟩,
          [.fetchStarted c.attempted, .fetchSucceeded c.fetched keys], c.fetched⟩

def validate (v : CustomerJwtValidator κ) (c : ValidateCall) (cache : KeyCache κ) : Outcome κ :=
  let answer (result : Except AppError Claims) : Outcome κ := ⟨result, cache, [], c.looked⟩
  if maxTokenBytes < c.token.utf8ByteSize then answer (.error invalidToken)
  else match v.library.decodeHeader c.token with
    | none => answer (.error invalidToken)
    | some header =>
      match header.alg with
      | .hs256 => answer (validateLegacy v c.token)
      | .other => answer (.error invalidToken)
      | .es256 =>
        match header.kid.filter usableKid with
        | none => answer (.error invalidToken)
        | some kid => validateWithCache v c kid cache

/-- The cache and everything that happened on the network. -/
structure Run (κ : Type) where
  cache : KeyCache κ
  trace : List (Event κ)

def Run.validate (v : CustomerJwtValidator κ) (r : Run κ) (c : ValidateCall) : Run κ :=
  let outcome := JwksCache.validate v c r.cache
  ⟨outcome.cache, r.trace ++ outcome.events⟩

/-- Calls one after the other; they wait for the lock of the cache. -/
def run (v : CustomerJwtValidator κ) (calls : List ValidateCall) : Run κ := calls.foldl (Run.validate v) ⟨emptyCache, []⟩

def startOf : Event κ → Option ℕ
  | .fetchStarted t => some t
  | _ => none

def starts (trace : List (Event κ)) : List ℕ := trace.filterMap startOf

def fetchOf : Event κ → Option (ℕ × List (VerificationKey κ))
  | .fetchSucceeded t keys => some (t, keys)
  | _ => none

/-- The most recent successful fetch. -/
def lastFetch (trace : List (Event κ)) : Option (ℕ × List (VerificationKey κ)) :=
  (trace.filterMap fetchOf).getLast?

/-- The token was verified with a key of the most recent successful fetch, and less than ten minutes after it. -/
def Backed (v : CustomerJwtValidator κ) (c : ValidateCall) (header : Header) (trace : List (Event κ))
    (outcome : Outcome κ) (claims : Claims) : Prop :=
  ∃ t keys key, lastFetch (trace ++ outcome.events) = some (t, keys) ∧ key ∈ keys ∧ header.kid = some key.kid ∧
    v.library.decode c.token key.key = .ok claims ∧ outcome.clock < t + cacheTtl

structure SafeCall (v : CustomerJwtValidator κ) (r : Run κ) (c : ValidateCall) : Prop where
  accepted : ∀ header claims, v.library.decodeHeader c.token = some header → header.alg = .es256 →
    (validate v c r.cache).result = .ok claims → Backed v c header r.trace (validate v c r.cache) claims
  failed : (∃ e ∈ (validate v c r.cache).events, e matches .fetchFailed) →
    (validate v c r.cache).cache.keys = r.cache.keys ∧ (validate v c r.cache).cache.fetchedAt = r.cache.fetchedAt

/-- Fetches are started a minute apart. -/
def Spaced (trace : List (Event κ)) : Prop := (starts trace).Pairwise fun t t' => t + refreshInterval ≤ t'

/-- The cache holds the last fetch and knows the last attempt. -/
structure Mirrors (r : Run κ) : Prop where
  fetched : ∀ t, r.cache.fetchedAt = some t → lastFetch r.trace = some (t, r.cache.keys)
  attempted : (starts r.trace).getLast? = r.cache.attemptedAt
  spaced : Spaced r.trace

variable {v : CustomerJwtValidator κ} {c : ValidateCall} {cache : KeyCache κ} {kid : String} {r : Run κ}

lemma keyNamed_some {keys : List (VerificationKey κ)} {key : VerificationKey κ} (h : keyNamed kid keys = some key) :
    key ∈ keys ∧ key.kid = kid := by
  have hkid := List.find?_some h
  exact ⟨List.mem_of_find?_eq_some h, by simpa using hkid⟩

lemma verify_ok {token : String} {key : κ} {claims : Claims} (h : verify v token key = .ok claims) :
    v.library.decode token key = .ok claims := by
  unfold verify at h
  cases hdecode : v.library.decode token key with
  | error e =>
    rw [hdecode] at h
    cases h
  | ok claims' =>
    rw [hdecode] at h
    exact congrArg Except.ok (Except.ok.inj h)

lemma isFresh_iff {now : ℕ} : isFresh now cache = true ↔ ∃ t, cache.fetchedAt = some t ∧ now - t < cacheTtl := by
  simp [isFresh, Option.any_eq_true]

/-- The four ways through the critical section. -/
lemma validateWithCache_cases (v : CustomerJwtValidator κ) (c : ValidateCall) (kid : String) (cache : KeyCache κ) :
    (∃ key, isFresh c.looked cache = true ∧ keyNamed kid cache.keys = some key ∧
      validateWithCache v c kid cache = ⟨verify v c.token key.key, cache, [], c.looked⟩) ∨
    (∃ e, validateWithCache v c kid cache = ⟨.error e, cache, [], c.cooled⟩) ∨
    (∃ e, coolingDown c.cooled cache = false ∧ validateWithCache v c kid cache =
      ⟨.error e, { cache with attemptedAt := some c.attempted }, [.fetchStarted c.attempted, .fetchFailed], c.attempted⟩) ∨
    (∃ keys result, coolingDown c.cooled cache = false ∧ validateWithCache v c kid cache =
      ⟨result, ⟨keys, some c.fetched, some c.attempted⟩, [.fetchStarted c.attempted, .fetchSucceeded c.fetched keys],
        c.fetched⟩ ∧
      ∀ claims, result = .ok claims → ∃ key, keyNamed kid keys = some key ∧ verify v c.token key.key = .ok claims) := by
  unfold validateWithCache
  dsimp only
  split
  · rename_i key hkey
    split_ifs at hkey with hfresh
    exact .inl ⟨key, hfresh, hkey, rfl⟩
  · split
    · exact .inr (.inl ⟨_, rfl⟩)
    · rename_i hcool
      have hcool : coolingDown c.cooled cache = false := by simpa using hcool
      split
      · exact .inr (.inr (.inl ⟨_, hcool, rfl⟩))
      · rename_i keys _
        refine .inr (.inr (.inr ⟨keys, _, hcool, rfl, ?_⟩))
        intro claims hclaims
        cases hnamed : keyNamed kid keys with
        | none =>
          rw [hnamed] at hclaims
          cases hclaims
        | some key =>
          rw [hnamed] at hclaims
          exact ⟨key, rfl, hclaims⟩

/-- Tokens that are not of ES256, or name no key, never reach the cache. -/
lemma validate_cases (v : CustomerJwtValidator κ) (c : ValidateCall) (cache : KeyCache κ) :
    (∃ result, validate v c cache = ⟨result, cache, [], c.looked⟩ ∧ ∀ header claims,
      v.library.decodeHeader c.token = some header → header.alg = .es256 → result ≠ .ok claims) ∨
    ∃ header kid, v.library.decodeHeader c.token = some header ∧ header.kid = some kid ∧
      validate v c cache = validateWithCache v c kid cache := by
  unfold validate
  dsimp only
  split_ifs with hlong
  · exact .inl ⟨_, rfl, by simp⟩
  cases hheader : v.library.decodeHeader c.token with
  | none => exact .inl ⟨_, rfl, by simp⟩
  | some header =>
    dsimp only
    cases halg : header.alg with
    | hs256 =>
      refine .inl ⟨_, rfl, ?_⟩
      rintro header' claims hheader' hes256
      obtain rfl := Option.some.inj hheader'
      rw [halg] at hes256
      cases hes256
    | other => exact .inl ⟨_, rfl, by simp⟩
    | es256 =>
      dsimp only
      cases hkid : header.kid.filter usableKid with
      | none => exact .inl ⟨_, rfl, by simp⟩
      | some kid => exact .inr ⟨header, kid, rfl, (Option.filter_eq_some_iff.mp hkid).1, rfl⟩

lemma lastFetch_append_nil (trace : List (Event κ)) : lastFetch (trace ++ []) = lastFetch trace := by
  rw [List.append_nil]

lemma lastFetch_failed (trace : List (Event κ)) (t : ℕ) :
    lastFetch (trace ++ [.fetchStarted t, .fetchFailed]) = lastFetch trace := by
  have hnone : ([.fetchStarted t, .fetchFailed] : List (Event κ)).filterMap fetchOf = [] := rfl
  rw [lastFetch, List.filterMap_append, hnone, List.append_nil, lastFetch]

lemma lastFetch_succeeded (trace : List (Event κ)) (t t' : ℕ) (keys : List (VerificationKey κ)) :
    lastFetch (trace ++ [.fetchStarted t, .fetchSucceeded t' keys]) = some (t', keys) := by
  have hone : [.fetchStarted t, .fetchSucceeded t' keys].filterMap fetchOf = [(t', keys)] := rfl
  rw [lastFetch, List.filterMap_append, hone, List.getLast?_append]
  rfl

lemma starts_append {trace : List (Event κ)} {t : ℕ} {e : Event κ} (he : startOf e = none) :
    starts (trace ++ [.fetchStarted t, e]) = starts trace ++ [t] := by
  have hone : [.fetchStarted t, e].filterMap startOf = [t] := by
    have hstart : startOf (.fetchStarted t : Event κ) = some t := rfl
    simp only [List.filterMap_cons, hstart, he, List.filterMap_nil]
  rw [starts, List.filterMap_append, hone, starts]

/-- A new start comes a minute after the last one. -/
lemma spaced_append {trace : List (Event κ)} {t : ℕ} {e : Event κ} (h : Spaced trace) (he : startOf e = none)
    (hlast : ∀ t', (starts trace).getLast? = some t' → t' + refreshInterval ≤ t) : Spaced (trace ++ [.fetchStarted t, e]) := by
  unfold Spaced at h ⊢
  rw [starts_append he]
  refine List.pairwise_append.mpr ⟨h, List.pairwise_singleton _ _, fun t₁ ht₁ t₂ ht₂ => ?_⟩
  obtain rfl := List.mem_singleton.mp ht₂
  cases hl : (starts trace).getLast? with
  | none =>
    rw [List.getLast?_eq_none_iff.mp hl] at ht₁
    cases ht₁
  | some t' =>
    have hbound := hlast t' hl
    obtain ⟨init, hinit⟩ := List.getLast?_eq_some_iff.mp hl
    rw [hinit] at h ht₁
    obtain ⟨-, -, hle⟩ := List.pairwise_append.mp h
    rcases List.mem_append.mp ht₁ with ht₁ | ht₁
    · have := hle t₁ ht₁ t' (by simp)
      omega
    · rw [List.mem_singleton.mp ht₁]
      exact hbound

lemma Mirrors.next_start (h : Mirrors r) (hcool : coolingDown c.cooled r.cache = false) :
    ∀ t, (starts r.trace).getLast? = some t → t + refreshInterval ≤ c.attempted := by
  intro t ht
  rw [h.attempted] at ht
  unfold coolingDown at hcool
  rw [ht] at hcool
  have hle := c.cooled_le
  have hpos : 0 < refreshInterval := by decide
  simp only [Option.any_some, decide_eq_false_iff_not] at hcool
  omega

/-- A call keeps the trace in step with the cache. -/
theorem Mirrors.validate (h : Mirrors r) (v : CustomerJwtValidator κ) (c : ValidateCall) : Mirrors (r.validate v c) := by
  unfold Run.validate
  have hquiet : Mirrors (⟨r.cache, r.trace ++ []⟩ : Run κ) := by
    rw [List.append_nil]
    exact h
  rcases validate_cases v c r.cache with ⟨result, hresult, -⟩ | ⟨header, kid, -, -, hresult⟩
  · rw [hresult]
    exact hquiet
  rcases validateWithCache_cases v c kid r.cache with ⟨key, -, -, hout⟩ | ⟨e, hout⟩ | ⟨e, hcool, hout⟩ |
    ⟨keys, result, hcool, hout, -⟩
  · rw [hresult, hout]
    exact hquiet
  · rw [hresult, hout]
    exact hquiet
  · rw [hresult, hout]
    exact
      { fetched := fun t ht => by
          rw [lastFetch_failed]
          exact h.fetched t ht
        attempted := by rw [starts_append rfl, List.getLast?_concat]
        spaced := spaced_append h.spaced rfl (h.next_start hcool) }
  · rw [hresult, hout]
    exact
      { fetched := fun t ht => by
          rw [lastFetch_succeeded, Option.some.inj ht]
        attempted := by rw [starts_append rfl, List.getLast?_concat]
        spaced := spaced_append h.spaced rfl (h.next_start hcool) }

/-- A call is answered from the most recent successful fetch. -/
theorem Mirrors.safeCall (h : Mirrors r) (v : CustomerJwtValidator κ) (c : ValidateCall) : SafeCall v r c := by
  rcases validate_cases v c r.cache with ⟨result, hresult, hreject⟩ | ⟨header, kid, hheader, hkid, hresult⟩
  · constructor
    · intro header claims hheader hes256 hok
      rw [hresult] at hok
      exact absurd hok (hreject header claims hheader hes256)
    · rw [hresult]
      exact fun _ => ⟨rfl, rfl⟩
  rcases validateWithCache_cases v c kid r.cache with ⟨key, hfresh, hkey, hout⟩ | ⟨e, hout⟩ | ⟨e, -, hout⟩ |
    ⟨keys, result, -, hout, hverified⟩
  · constructor
    · intro header' claims hheader' hes256 hok
      rw [hheader] at hheader'
      obtain rfl := Option.some.inj hheader'
      rw [hresult, hout] at hok ⊢
      obtain ⟨t, ht, hage⟩ := isFresh_iff.mp hfresh
      obtain ⟨hmem, hname⟩ := keyNamed_some hkey
      have hpos : 0 < cacheTtl := by decide
      have hclock : c.looked < t + cacheTtl := by omega
      exact ⟨t, r.cache.keys, key, (lastFetch_append_nil _).trans (h.fetched t ht), hmem, by rw [hkid, hname],
        verify_ok hok, hclock⟩
    · rw [hresult, hout]
      exact fun _ => ⟨rfl, rfl⟩
  · constructor
    · intro header' claims hheader' hes256 hok
      rw [hresult, hout] at hok
      cases hok
    · rw [hresult, hout]
      exact fun _ => ⟨rfl, rfl⟩
  · constructor
    · intro header' claims hheader' hes256 hok
      rw [hresult, hout] at hok
      cases hok
    · rw [hresult, hout]
      exact fun _ => ⟨rfl, rfl⟩
  · constructor
    · intro header' claims hheader' hes256 hok
      rw [hheader] at hheader'
      obtain rfl := Option.some.inj hheader'
      rw [hresult, hout] at hok ⊢
      obtain ⟨key, hkey, hverify⟩ := hverified claims hok
      obtain ⟨hmem, hname⟩ := keyNamed_some hkey
      have hpos : 0 < cacheTtl := by decide
      have hclock : c.fetched < c.fetched + cacheTtl := by omega
      exact ⟨c.fetched, keys, key, lastFetch_succeeded _ _ _ _, hmem, by rw [hkid, hname], verify_ok hverify, hclock⟩
    · rw [hresult, hout]
      rintro ⟨e, he, hfailed⟩
      rcases List.mem_pair.mp he with rfl | rfl
      · cases hfailed
      · cases hfailed

lemma run_append (v : CustomerJwtValidator κ) (calls : List ValidateCall) (c : ValidateCall) :
    run v (calls ++ [c]) = (run v calls).validate v c := by
  simp [run]

theorem mirrors_run (v : CustomerJwtValidator κ) (calls : List ValidateCall) : Mirrors (run v calls) := by
  induction calls using List.reverseRecOn with
  | nil =>
    constructor
    · intro t ht
      cases ht
    · rfl
    · exact List.Pairwise.nil
  | append_singleton calls c ih =>
    rw [run_append]
    exact ih.validate v c

/-- In every run fetches are a minute apart, tokens are accepted with keys of the most recent successful fetch
only, while these are less than ten minutes old, and a failed fetch changes nothing about them. -/
theorem jwks_cache_safe (v : CustomerJwtValidator κ) (calls : List ValidateCall) :
    Spaced (run v calls).trace ∧
    ∀ before c after, calls = before ++ c :: after → SafeCall v (run v before) c :=
  ⟨(mirrors_run v calls).spaced, fun before c _ _ => (mirrors_run v before).safeCall v c⟩

end ForgeCustomer.JwksCache
