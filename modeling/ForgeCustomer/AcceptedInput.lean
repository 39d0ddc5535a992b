import ForgeCustomer.AdminRequests
import ForgeCustomer.AuditedActions
import ForgeCustomer.FleetPolicies
import ForgeCustomer.SqlChecks

/-!
# Accepted input and check constraints

The handlers measure texts in bytes and trim Unicode white space. The checks of the tables count characters, trim
spaces and match regular expressions.
-/
namespace ForgeCustomer.AcceptedInput
open SqlTables SqlPrograms SqlStatements SqlChecks StripeEvents DatabaseTables AuditWriters AdminRepository
  LicensingRepository CommercialPolicy CommerceRepository UsagePeriods UpdatesRepository AdminReleases
  CustomerRepository OperatorRequests ProvisionProfiles AdminRequests AuditedActions TableName

lemma utf8Size_of_ascii {c : Char} (h : c.val.toNat ≤ 127) : c.utf8Size = 1 := by
  rw [Char.utf8Size_eq_one_iff, UInt32.le_iff_toNat_le]
  exact h

/-- A text whose characters are all in ASCII has as many bytes as characters. -/
lemma utf8ByteSize_of_ascii {s : String} {ok : Char → Bool} (hascii : ∀ c, ok c = true → c.val.toNat ≤ 127)
    (h : s.toList.all ok = true) : s.utf8ByteSize = s.toList.length := by
  rw [utf8ByteSize_eq]
  exact byteLen_of_ascii fun c hc => utf8Size_of_ascii (hascii c (List.all_eq_true.mp h c hc))

lemma isLower_eq (c : Char) : c.isLower = ('a' ≤ c && c ≤ 'z') := by
  simp [Char.isLower, Char.le_def]

lemma isUpper_eq (c : Char) : c.isUpper = ('A' ≤ c && c ≤ 'Z') := by
  simp [Char.isUpper, Char.le_def]

lemma isSlugChar_ascii (c : Char) (h : isSlugChar c = true) : c.val.toNat ≤ 127 := by
  simp only [isSlugChar, isLowerOrDigit, Char.isLower, Char.isDigit, Bool.or_eq_true, Bool.and_eq_true,
    decide_eq_true_eq, beq_iff_eq, UInt32.le_iff_toNat_le, ge_iff_le] at h
  rcases h with ((⟨-, h⟩ | ⟨-, h⟩) | rfl) | rfl
  · exact h.trans (by decide)
  · exact h.trans (by decide)
  · decide
  · decide

lemma isHexDigit_ascii (c : Char) (h : isHexDigit c = true) : c.val.toNat ≤ 127 := by
  simp only [isHexDigit, Char.isDigit, Bool.or_eq_true, Bool.and_eq_true, decide_eq_true_eq, Char.le_def,
    UInt32.le_iff_toNat_le, ge_iff_le] at h
  rcases h with (⟨-, h⟩ | ⟨-, h⟩) | ⟨-, h⟩ <;> exact h.trans (by decide)

lemma cleanOneOf_ok {allowed : List String} {field message value cleaned : String}
    (h : cleanOneOf allowed field message value = .ok cleaned) : allowed.contains cleaned = true := by
  unfold cleanOneOf at h
  dsimp only at h
  split_ifs at h with hmem
  obtain rfl := Except.ok.inj h
  simpa using hmem

lemma cleanCampaignSlug_ok {value slug : String} (h : cleanCampaignSlug value = .ok slug) : slugOk slug = true := by
  unfold cleanCampaignSlug at h
  dsimp only at h
  split_ifs at h with hvalid
  obtain rfl := Except.ok.inj h
  obtain ⟨hlow, hhigh, hhead, hall⟩ := hvalid
  rw [utf8ByteSize_of_ascii isSlugChar_ascii hall] at hlow hhigh
  unfold slugOk
  cases hchars : (trim value).toList with
  | nil =>
    rw [hchars] at hlow
    simp at hlow
  | cons c cs =>
    rw [hchars] at hlow hhigh hhead hall
    have htail : cs.all isSlugChar = true := by
      rw [List.all_cons, Bool.and_eq_true] at hall
      exact hall.2
    have hlength : 2 ≤ cs.length ∧ cs.length ≤ 79 := by
      rw [List.length_cons] at hlow hhigh
      omega
    have hchar : ∀ d : Char, (('a' ≤ d && d ≤ 'z') || d.isDigit) = isLowerOrDigit d := fun d => by
      rw [isLowerOrDigit, isLower_eq]
    have hbody : (fun d : Char => (('a' ≤ d && d ≤ 'z') || d.isDigit) || d == '_' || d == '-') = isSlugChar :=
      funext fun d => by rw [hchar, isSlugChar]
    dsimp only
    rw [hbody, hchar, htail, show isLowerOrDigit c = true from hhead]
    simp [hlength]

lemma cleanSha256_ok {value sha256 : String} (h : cleanSha256 value = .ok sha256) :
    sha256.toList.length = 64 ∧ sha256.toList.all (fun c => ('a' ≤ c && c ≤ 'f') || c.isDigit) = true := by
  unfold cleanSha256 at h
  dsimp only at h
  split_ifs at h with hvalid
  obtain rfl := Except.ok.inj h
  obtain ⟨hlen, hall⟩ := hvalid
  rw [utf8ByteSize_of_ascii isHexDigit_ascii hall] at hlen
  refine ⟨hlen, List.all_eq_true.mpr fun c hc => ?_⟩
  have hhex := List.all_eq_true.mp hall c hc
  -- Nothing that has been lowered is an upper-case digit.
  have hupper : c.isUpper = false := by
    rw [asciiLowercase, String.toList_ofList] at hc
    obtain ⟨d, -, rfl⟩ := List.mem_map.mp hc
    exact Char.isUpper_toLower_eq_false d
  simp only [isHexDigit, Bool.or_eq_true] at hhex
  rcases hhex with (hdigit | hlower) | hbig
  · simp [hdigit]
  · simp [hlower]
  · simp only [Bool.and_eq_true, decide_eq_true_eq] at hbig
    have hZ : c ≤ 'Z' := hbig.2.trans (by decide)
    rw [isUpper_eq, decide_eq_true hbig.1, decide_eq_true hZ] at hupper
    cases hupper

lemma cleanSizeBytes_ok {value sizeBytes : ℤ} (h : cleanSizeBytes value = .ok sizeBytes) : 0 < sizeBytes := by
  unfold cleanSizeBytes at h
  split_ifs at h with hsize
  obtain rfl := Except.ok.inj h
  omega

lemma cleanReason_ok {value reason : String} (h : cleanReason value = .ok reason) : reason = trim value := by
  unfold cleanReason at h
  dsimp only at h
  split_ifs at h
  exact (Except.ok.inj h).symm

lemma countryCodeOk_of {code : String} (h : IsCountryCode code) : countryCodeOk code = true := by
  obtain ⟨a, b, hcode, ha, hb⟩ := h
  rw [isUpper_eq] at ha hb
  simp [countryCodeOk, hcode, ha, hb]

lemma dropSpaces_of_trimmed {cs : List Char} (h : cs.dropWhile isWhitespace = cs) : cs.dropWhile (· == ' ') = cs := by
  rw [List.dropWhile_eq_self_iff] at h ⊢
  intro hpos hspace
  apply h hpos
  rw [eq_of_beq hspace]
  decide

/-- A trimmed reason is checked as it is. -/
lemma holdReasonOk_trim (value : String) : holdReasonOk (trim value) = decide (3 ≤ (trim value).toList.length) := by
  have hchars : (trim value).toList = (value.toList.dropWhile isWhitespace).rdropWhile isWhitespace := by
    rw [trim_eq, String.toList_ofList]
  have hfront : (trim value).toList.dropWhile isWhitespace = (trim value).toList := by
    rw [hchars, dropWhile_rdropWhile]
  have hback : (trim value).toList.reverse.dropWhile isWhitespace = (trim value).toList.reverse := by
    rw [← List.reverse_inj, List.reverse_reverse]
    change (trim value).toList.rdropWhile isWhitespace = (trim value).toList
    rw [hchars, List.rdropWhile_idempotent]
  rw [holdReasonOk, dropSpaces_of_trimmed hfront, dropSpaces_of_trimmed hback, List.length_reverse]

section Requests
variable {call : AdminCall} {id : Option ℕ}

lemma adminUpdateCampaignHoldAdd_ok {request : AdminFleetHoldRequest} {hold : FleetHoldRequest}
    (h : adminUpdateCampaignHoldAdd call id request = .ok hold) :
    id = some hold.campaignId ∧ hold.fleetId = request.fleetId ∧ hold.reason = trim request.reason := by
  unfold adminUpdateCampaignHoldAdd at h
  obtain ⟨-, -, h⟩ := except_bind_ok h
  obtain ⟨campaignId, hid, h⟩ := except_bind_ok h
  obtain ⟨reason, hreason, h⟩ := except_bind_ok h
  cases h
  refine ⟨?_, rfl, cleanReason_ok (validated_ok hreason)⟩
  cases id with
  | none => cases hid
  | some n => exact congrArg some (Except.ok.inj hid)

lemma adminUpdateCampaignCreate_ok {request : AdminCampaignCreateRequest} {input : CreateCampaignInput}
    (h : adminUpdateCampaignCreate call request = .ok input) (clock : Clock) (productId channelId : ℕ) :
    campaignOk (newCampaign clock input productId channelId) = true := by
  unfold adminUpdateCampaignCreate at h
  obtain ⟨-, -, h⟩ := except_bind_ok h
  obtain ⟨productKey, -, h⟩ := except_bind_ok h
  obtain ⟨slug, hslug, h⟩ := except_bind_ok h
  obtain ⟨channel, -, h⟩ := except_bind_ok h
  obtain ⟨ring, hring, h⟩ := except_bind_ok h
  obtain ⟨rollout, -, h⟩ := except_bind_ok h
  have hring := cleanOneOf_ok (validated_ok hring)
  have hslug := cleanCampaignSlug_ok (validated_ok hslug)
  dsimp only at h
  split_ifs at h
  · cases h
  obtain ⟨startsAt, -, h⟩ := except_bind_ok h
  obtain ⟨reason, -, h⟩ := except_bind_ok h
  cases h
  rw [campaignOk]
  dsimp only [newCampaign]
  rw [hslug, updateRings, hring]
  rfl

lemma adminUpdateCampaignRollout_ok {request : AdminCampaignRolloutRequest} {accepted : ℤ × OperatorRequest}
    (h : adminUpdateCampaignRollout call id request = .ok accepted) : 0 ≤ accepted.1 ∧ accepted.1 ≤ 100 := by
  unfold adminUpdateCampaignRollout at h
  obtain ⟨-, -, h⟩ := except_bind_ok h
  obtain ⟨campaignId, -, h⟩ := except_bind_ok h
  obtain ⟨rollout, hrollout, h⟩ := except_bind_ok h
  obtain ⟨reason, -, h⟩ := except_bind_ok h
  cases h
  have hrollout := validated_ok hrollout
  unfold cleanRolloutPercentage at hrollout
  split_ifs at hrollout with hrange
  obtain rfl := Except.ok.inj hrollout
  exact hrange

lemma adminReleaseArtifactRegister_ok {request : AdminArtifactRegisterRequest} {input : RegisterArtifactInput}
    (h : adminReleaseArtifactRegister call id request = .ok input) : artifactOk (newArtifact input) = true := by
  unfold adminReleaseArtifactRegister at h
  obtain ⟨-, -, h⟩ := except_bind_ok h
  obtain ⟨releaseId, -, h⟩ := except_bind_ok h
  obtain ⟨platform, hplatform, h⟩ := except_bind_ok h
  obtain ⟨architecture, harchitecture, h⟩ := except_bind_ok h
  obtain ⟨packageFormat, -, h⟩ := except_bind_ok h
  obtain ⟨artifactRole, -, h⟩ := except_bind_ok h
  obtain ⟨storageKey, -, h⟩ := except_bind_ok h
  obtain ⟨sizeBytes, hsize, h⟩ := except_bind_ok h
  obtain ⟨sha256, hsha, h⟩ := except_bind_ok h
  obtain ⟨tauriSignature, -, h⟩ := except_bind_ok h
  obtain ⟨signingKeyId, -, h⟩ := except_bind_ok h
  obtain ⟨osSignatureStatus, hstatus, h⟩ := except_bind_ok h
  obtain ⟨reason, -, h⟩ := except_bind_ok h
  cases h
  have hplatform := cleanOneOf_ok (validated_ok hplatform)
  have harchitecture := cleanOneOf_ok (validated_ok harchitecture)
  have hsize := cleanSizeBytes_ok (validated_ok hsize)
  obtain ⟨hlength, hdigits⟩ := cleanSha256_ok (validated_ok hsha)
  have hstatus := cleanOneOf_ok (validated_ok hstatus)
  have hstatus : ["pending", "verified", "not_applicable", "failed"].contains osSignatureStatus = true := by
    have hcases : osSignatureStatus = "verified" ∨ osSignatureStatus = "not_applicable" := by
      simpa using hstatus
    rcases hcases with rfl | rfl <;> rfl
  simp only [artifactOk, newArtifact, Bool.and_eq_true, beq_iff_eq]
  exact ⟨⟨⟨⟨⟨hplatform, harchitecture⟩, decide_eq_true hsize⟩, hlength⟩, hdigits⟩, hstatus⟩

lemma adminIssueLicense_ok {request : AdminIssueLicenseRequest} {accepted : ℤ × IssueLicenseInput}
    (h : adminIssueLicense call request = .ok accepted) : 0 ≤ accepted.1 := by
  unfold adminIssueLicense at h
  obtain ⟨-, -, h⟩ := except_bind_ok h
  obtain ⟨customerId, -, h⟩ := except_bind_ok h
  obtain ⟨productKey, -, h⟩ := except_bind_ok h
  obtain ⟨limit, hlimit, h⟩ := except_bind_ok h
  obtain ⟨expiresAt, -, h⟩ := except_bind_ok h
  obtain ⟨reason, -, h⟩ := except_bind_ok h
  cases h
  have hlimit := validated_ok hlimit
  unfold cleanDeviceLimit at hlimit
  dsimp only at hlimit
  split_ifs at hlimit with hrange
  obtain rfl := Except.ok.inj hlimit
  exact hrange.1

end Requests

lemma accountProvision_ok {authUserId : ℕ} {email : Option String} {request : ProvisionProfileInput}
    {input : ProvisionInput} (h : accountProvision authUserId email request = some (.ok input)) :
    input.countryCode.all countryCodeOk = true := by
  obtain ⟨result, hresult, h⟩ := Option.map_eq_some_iff.mp h
  cases result with
  | error e => cases h
  | ok profile =>
    cases h
    have hcode := (validateProvisionProfile_ok hresult).countryCode
    dsimp only
    cases hcountry : profile.countryCode with
    | none => rfl
    | some code => exact countryCodeOk_of (hcode code hcountry)

/-- The checks of artifacts, campaigns and holds; the remaining ones of releases are the types of their columns. -/
structure ReleaseChecks (s : ReleaseStore) : Prop where
  artifacts : ∀ e ∈ s.artifacts, artifactOk e.val = true
  campaigns : ∀ e ∈ s.campaigns, campaignOk e.val = true
  holds : ∀ e ∈ s.holds, holdReasonOk e.val.reason = true

/-- A database as it is kept: generated keys are unique, and every row passes the checks of its table. -/
structure CheckedStore extends OperatorStore where
  keyed : store.Keyed
  tables : ChecksHold store.db
  rows : ReleaseChecks releases

/-- The error of the database that an answer is made from; all of them become internal errors. -/
def databaseError {ε α : Type} (cause : ε → Option SqlError) : Except ε α → Option SqlError
  | .ok _ => none
  | .error e => cause e

def releaseCause : AdminReleases.AdminError → Option SqlError
  | .db e => some e
  | _ => none

def adminCause : AdminRepository.AdminError → Option SqlError
  | .db e => some e
  | _ => none

structure Outcome where
  error : Option SqlError
  store : OperatorStore

/-- No check is violated, and all rows pass theirs. -/
structure Outcome.Satisfies (o : Outcome) : Prop where
  unviolated : o.error ≠ some .checkViolation
  tables : ChecksHold o.store.store.db
  rows : ReleaseChecks o.store.releases

inductive Submission where
  | fleetHold (call : AdminCall) (campaignId : Option ℕ) (request : AdminFleetHoldRequest)
  | campaign (call : AdminCall) (request : AdminCampaignCreateRequest)
  | rollout (call : AdminCall) (campaignId : Option ℕ) (request : AdminCampaignRolloutRequest)
  | artifact (call : AdminCall) (releaseId : Option ℕ) (request : AdminArtifactRegisterRequest)
  | release (call : AdminCall) (request : AdminReleaseCreateRequest)
  | license (call : AdminCall) (request : AdminIssueLicenseRequest)
  | account (authUserId : ℕ) (email : Option String) (request : ProvisionProfileInput)

/-- What an accepted request hands to its transaction. -/
inductive Accepted where
  | fleetHold (request : FleetHoldRequest)
  | campaign (input : CreateCampaignInput)
  | rollout (rolloutPercentage : ℤ) (request : OperatorRequest)
  | artifact (input : RegisterArtifactInput)
  | release (input : CreateReleaseInput)
  | license (deviceLimit : ℤ) (input : IssueLicenseInput)
  | account (input : ProvisionInput)

/-- `none` is a request that its handler rejects. -/
def Submission.accepted : Submission → Option Accepted
  | .fleetHold call id request => (adminUpdateCampaignHoldAdd call id request).toOption.map .fleetHold
  | .campaign call request => (adminUpdateCampaignCreate call request).toOption.map .campaign
  | .rollout call id request => (adminUpdateCampaignRollout call id request).toOption.map fun x => .rollout x.1 x.2
  | .artifact call id request => (adminReleaseArtifactRegister call id request).toOption.map .artifact
  | .release call request => (adminReleaseCreate call request).toOption.map .release
  | .license call request => (adminIssueLicense call request).toOption.map fun x => .license x.1 x.2
  | .account id email request => ((accountProvision id email request).bind Except.toOption).map .account

/-- The insert fails on the check `device_limit >= 0`, which the column of the model cannot violate. -/
def issueLicenseLimited (clock : Clock) (deviceLimit : ℤ) (input : IssueLicenseInput) :
    Tx AdminRepository.AdminError (Entry License) := do
  let license ← issueLicense clock input
  if deviceLimit < 0 then .fail (.db .checkViolation) else pure license

def inReleases {α : Type} (x : OperatorStore) (r : Except AdminReleases.AdminError α × ReleaseStore) : Outcome :=
  ⟨databaseError releaseCause r.1, { x with releases := r.2 }⟩

def inTables {ε α : Type} (cause : ε → Option SqlError) (x : OperatorStore) (r : Except ε α × DbStore) : Outcome :=
  ⟨databaseError cause r.1, { x with store := r.2 }⟩

def Accepted.run (clock : Clock) (x : OperatorStore) : Accepted → Outcome
  | .fleetHold request => inReleases x (addFleetHold (x.store.db fleets) request x.releases)
  | .campaign input => inReleases x (createCampaign clock input x.releases)
  | .rollout percentage request => inReleases x (setCampaignRollout percentage request x.releases)
  | .artifact input => inReleases x (registerArtifact input x.releases)
  | .release input => inReleases x (createRelease input x.releases)
  | .license limit input => inTables adminCause x ((issueLicenseLimited clock limit input).execute x.store)
  | .account input => inTables some x ((provisionForAuthUser clock input : Tx SqlError _).execute x.store)

/-- A hold of a known campaign and fleet whose reason has fewer than three characters. -/
def Submission.BriefHold (x : OperatorStore) : Submission → Prop
  | .fleetHold _ (some campaignId) request => (x.releases.campaign campaignId).isSome = true ∧
      (∃ e ∈ x.store.db fleets, e.id = request.fleetId ∧ e.val.status ≠ .deleted) ∧
      (trim request.reason).toList.length < 3
  | _ => False

lemma toOption_ok {ε α : Type} {r : Except ε α} {a : α} (h : r.toOption = some a) : r = .ok a := by
  cases r with
  | ok b => exact congrArg Except.ok (Option.some.inj h)
  | error e => cases h

lemma sql_injective : Function.Injective (FromSql.sql : SqlError → SqlError) := Function.injective_id

lemma ensureProfile_keepsChecks (clock : Clock) {input : ProvisionInput} (h : input.countryCode.all countryCodeOk = true) :
    KeepsChecks (ensureProfile clock input : Tx SqlError _) := by
  refine (KeepsChecks.insertUnless sql_injective h).bind fun inserted => ?_
  cases inserted with
  | none => exact (KeepsChecks.selectOne sql_injective _).bind fun profile => .pure (profile, false)
  | some profile =>
    refine (KeepsChecks.insertRow sql_injective rfl).bind fun _ => ?_
    refine KeepsChecks.bind ?_ fun _ => .pure (profile, true)
    exact (KeepsChecks.insertUnless sql_injective rfl).bind fun _ => .pure ()

/-- A new customer with a checked country code. -/
lemma provisionForAuthUser_keepsChecks (clock : Clock) {input : ProvisionInput}
    (h : input.countryCode.all countryCodeOk = true) :
    KeepsChecks (provisionForAuthUser clock input : Tx SqlError _) := by
  refine (ensureProfile_keepsChecks clock h).bind fun profile => ?_
  refine (KeepsChecks.select _).bind fun channel => ?_
  refine (KeepsChecks.insertOrFind sql_injective rfl _).bind fun fleet => ?_
  refine (KeepsChecks.select _).bind fun product => ?_
  refine KeepsChecks.bind ?_ fun _ => ?_
  · cases product with
    | none => exact .pure ()
    | some productId => exact (KeepsChecks.insertUnless sql_injective rfl).bind fun _ => .pure ()
  refine KeepsChecks.bind ?_ fun _ => .pure _
  cases input.email with
  | none => exact .pure ()
  | some email => exact (KeepsChecks.insertUnless sql_injective rfl).bind fun _ => .pure ()

lemma issueLicenseLimited_keepsChecks (clock : Clock) {deviceLimit : ℤ} (input : IssueLicenseInput)
    (h : 0 ≤ deviceLimit) : KeepsChecks (issueLicenseLimited clock deviceLimit input) := by
  have hsql : Function.Injective (FromSql.sql : SqlError → AdminRepository.AdminError) :=
    fun e e' h => AdminRepository.AdminError.db.inj h
  refine KeepsChecks.bind ?_ fun license => ?_
  · refine (KeepsChecks.select _).bind fun known => ?_
    split
    · exact .fail (by decide)
    refine (KeepsChecks.select _).bind fun product => ?_
    split
    · exact .fail (by decide)
    refine (KeepsChecks.insertRow hsql rfl).bind fun license => ?_
    refine KeepsChecks.bind ?_ fun _ => .pure license
    exact (KeepsChecks.insertRow hsql rfl).bind fun _ => .pure ()
  · rw [if_neg (by omega)]
    exact .pure license

/-- A transaction of the tables whose new rows pass their checks. -/
lemma inTables_satisfies {ε α : Type} [FromSql ε] {cause : ε → Option SqlError}
    (hcause : ∀ e, cause e = some .checkViolation → e = FromSql.sql .checkViolation) {p : Tx ε α} (hp : KeepsChecks p)
    (x : CheckedStore) : (inTables cause x.toOperatorStore (p.execute x.store)).Satisfies := by
  obtain ⟨hanswer, htables⟩ := hp.execute x.keyed x.tables
  refine ⟨fun hviolated => hanswer ?_, htables, x.rows⟩
  unfold inTables databaseError at hviolated
  dsimp only at hviolated
  split at hviolated
  · cases hviolated
  · rename_i e he
    rw [he, hcause e hviolated]

section Releases
variable {α : Type} {s s' : ReleaseStore}

/-- The transaction violates no check, and the rows it leaves pass theirs. -/
def Passes : Except AdminReleases.AdminError (α × ReleaseStore) → Prop
  | .ok x => ReleaseChecks x.2
  | .error e => e ≠ .db .checkViolation

lemma databaseError_of_ne {e : AdminReleases.AdminError} (h : e ≠ .db .checkViolation) :
    releaseCause e ≠ some .checkViolation := by
  intro hcause
  unfold releaseCause at hcause
  split at hcause
  · exact h (congrArg AdminReleases.AdminError.db (Option.some.inj hcause))
  · cases hcause

variable {x : CheckedStore}

lemma Passes.conclude {tx : Except AdminReleases.AdminError (α × ReleaseStore)} (h : Passes tx) :
    (inReleases x.toOperatorStore (conclude x.releases tx)).Satisfies := by
  cases tx with
  | ok r => exact ⟨by simp [inReleases, AdminReleases.conclude, databaseError], x.tables, h⟩
  | error e => exact ⟨databaseError_of_ne h, x.tables, x.rows⟩

lemma Passes.answer {read : ReleaseStore → ℕ → Except AdminReleases.AdminError α}
    (hread : ∀ t id e, read t id = .error e → e ≠ .db .checkViolation)
    {tx : Except AdminReleases.AdminError (ℕ × ReleaseStore)} (h : Passes tx) :
    (inReleases x.toOperatorStore (answer read x.releases tx)).Satisfies := by
  cases tx with
  | ok r =>
    refine ⟨?_, x.tables, h⟩
    change databaseError releaseCause (read r.2 r.1) ≠ some .checkViolation
    cases hr : read r.2 r.1 with
    | ok a => simp [databaseError]
    | error e => exact databaseError_of_ne (hread r.2 r.1 e hr)
  | error e => exact ⟨databaseError_of_ne h, x.tables, x.rows⟩

lemma readRelease_error {id : ℕ} {e : AdminReleases.AdminError} (h : readRelease s id = .error e) :
    e ≠ .db .checkViolation := by
  unfold readRelease at h
  split at h <;> cases h
  decide

lemma readCampaign_error {id : ℕ} {e : AdminReleases.AdminError} (h : readCampaign s id = .error e) :
    e ≠ .db .checkViolation := by
  unfold readCampaign at h
  split at h <;> cases h
  decide

lemma productAndChannel_error {productKey channelKey : String} {e : AdminReleases.AdminError}
    (h : productAndChannel s productKey channelKey = .error e) : e ≠ .db .checkViolation := by
  unfold productAndChannel at h
  split at h
  · cases h
    decide
  · split at h <;> cases h
    decide

lemma createRelease_satisfies (input : CreateReleaseInput) :
    (inReleases x.toOperatorStore (createRelease input x.releases)).Satisfies := by
  refine Passes.answer (fun _ _ _ => readRelease_error) ?_
  cases hfound : productAndChannel x.releases input.productKey input.releaseChannelKey with
  | error e => exact productAndChannel_error hfound
  | ok ids =>
    dsimp only [Except.bind]
    split
    · split
      · exact fun h => nomatch h
      · exact x.rows
    · exact ⟨x.rows.artifacts, x.rows.campaigns, x.rows.holds⟩

lemma registerArtifact_satisfies {input : RegisterArtifactInput} (h : artifactOk (newArtifact input) = true) :
    (inReleases x.toOperatorStore (registerArtifact input x.releases)).Satisfies := by
  refine Passes.conclude ?_
  split
  · exact fun h => nomatch h
  split
  · exact fun h => nomatch h
  split
  · exact fun h => nomatch h
  rw [if_neg (by simp [h])]
  split
  · split
    · exact fun h => nomatch h
    · exact x.rows
  · refine ⟨fun e he => ?_, x.rows.campaigns, x.rows.holds⟩
    rcases List.mem_append.mp he with he | he
    · exact x.rows.artifacts e he
    · obtain rfl := List.mem_singleton.mp he
      exact h

lemma createCampaign_satisfies {clock : Clock} {input : CreateCampaignInput}
    (h : ∀ productId channelId, campaignOk (newCampaign clock input productId channelId) = true) :
    (inReleases x.toOperatorStore (createCampaign clock input x.releases)).Satisfies := by
  refine Passes.answer (fun _ _ _ => readCampaign_error) ?_
  cases hfound : productAndChannel x.releases input.productKey input.releaseChannelKey with
  | error e => exact productAndChannel_error hfound
  | ok ids =>
    dsimp only [Except.bind]
    split
    · exact fun h => nomatch h
    split
    · exact fun h => nomatch h
    split
    · exact fun h => nomatch h
    rw [if_neg (by simp [h])]
    split
    · exact x.rows
    · refine ⟨x.rows.artifacts, fun e he => ?_, x.rows.holds⟩
      rcases List.mem_append.mp he with he | he
      · exact x.rows.campaigns e he
      · obtain rfl := List.mem_singleton.mp he
        exact h ids.1 ids.2

lemma setCampaignRollout_satisfies {percentage : ℤ} (h : 0 ≤ percentage ∧ percentage ≤ 100) (request : OperatorRequest) :
    (inReleases x.toOperatorStore (setCampaignRollout percentage request x.releases)).Satisfies := by
  refine Passes.answer (fun _ _ _ => readCampaign_error) ?_
  split
  · exact fun h => nomatch h
  split
  · exact fun h => nomatch h
  split
  · exact x.rows
  refine ⟨x.rows.artifacts, fun e he => ?_, x.rows.holds⟩
  obtain ⟨old, hold, rfl⟩ := mem_updateRows.mp he
  have hchecked := x.rows.campaigns old hold
  split
  · simp only [campaignOk, Bool.and_eq_true] at hchecked
    simp only [campaignOk, setRollout, hchecked.1.1.1, hchecked.1.1.2, h.1, h.2, decide_true, Bool.and_self]
  · exact hchecked

/-- Whichever row holds the new reason passes its check. -/
lemma putHold_checks {request : FleetHoldRequest} (hs : ReleaseChecks s) (h : holdReasonOk request.reason = true) :
    ReleaseChecks (s.putHold request).2 := by
  unfold ReleaseStore.putHold
  split
  · refine ⟨hs.artifacts, hs.campaigns, fun e he => ?_⟩
    dsimp only at he
    obtain ⟨old, hold, rfl⟩ := mem_updateRows.mp he
    split
    · exact h
    · exact hs.holds old hold
  · refine ⟨hs.artifacts, hs.campaigns, fun e he => ?_⟩
    rcases List.mem_append.mp he with he | he
    · exact hs.holds e he
    · obtain rfl := List.mem_singleton.mp he
      exact h

/-- A hold is refused by its check only, and only once its campaign and its fleet have been found. -/
lemma addFleetHold_satisfies_iff (request : FleetHoldRequest) :
    (inReleases x.toOperatorStore (addFleetHold (x.store.db fleets) request x.releases)).Satisfies ↔
      ¬((x.releases.campaign request.campaignId).isSome = true ∧
        (∃ e ∈ x.store.db fleets, e.id = request.fleetId ∧ e.val.status ≠ .deleted) ∧
        holdReasonOk request.reason = false) := by
  unfold addFleetHold
  cases hcampaign : x.releases.campaign request.campaignId with
  | none =>
    simp only [Option.isSome_none, Bool.false_eq_true, false_and, not_false_eq_true, iff_true]
    refine Passes.conclude ?_
    simp [Passes]
  | some campaign =>
    cases hfleet : (x.store.db fleets).find? fun e => e.id == request.fleetId && e.val.status != .deleted with
    | none =>
      have hmissing : ¬∃ e ∈ x.store.db fleets, e.id = request.fleetId ∧ e.val.status ≠ .deleted := by
        rintro ⟨e, he, hid, hstatus⟩
        have hnot := List.find?_eq_none.mp hfleet e he
        simp [hid, hstatus] at hnot
      simp only [hmissing, false_and, and_false, not_false_eq_true, iff_true]
      refine Passes.conclude ?_
      simp [Passes]
    | some fleet =>
      have hfound : ∃ e ∈ x.store.db fleets, e.id = request.fleetId ∧ e.val.status ≠ .deleted := by
        have hfind := List.find?_some hfleet
        simp only [Bool.and_eq_true, beq_iff_eq, bne_iff_ne, ne_eq] at hfind
        exact ⟨fleet, List.mem_of_find?_eq_some hfleet, hfind⟩
      simp only [hfound, Option.isSome_some, true_and]
      cases hreason : holdReasonOk request.reason with
      | true =>
        simp only [Bool.true_eq_false, not_false_eq_true, iff_true]
        refine Passes.conclude ?_
        obtain ⟨hartifacts, hcampaigns, hholds⟩ := putHold_checks x.rows hreason
        exact ⟨hartifacts, hcampaigns, hholds⟩
      | false =>
        simp only [not_true_eq_false, iff_false]
        intro hsatisfies
        exact hsatisfies.unviolated rfl

end Releases

variable {submission : Submission} {accepted : Accepted}

/-- Whatever is accepted passes the checks of the database, except for a hold with a reason of one or two
characters in more than two bytes. -/
theorem accepted_input_satisfies_checks_iff (h : submission.accepted = some accepted) (clock : Clock) (x : CheckedStore) :
    (accepted.run clock x.toOperatorStore).Satisfies ↔ ¬submission.BriefHold x.toOperatorStore := by
  cases submission with
  | fleetHold call id request =>
    obtain ⟨hold, hok, rfl⟩ := Option.map_eq_some_iff.mp h
    obtain ⟨rfl, hfleet, hreason⟩ := adminUpdateCampaignHoldAdd_ok (toOption_ok hok)
    have hbrief : holdReasonOk hold.reason = false ↔ (trim request.reason).toList.length < 3 := by
      rw [hreason, holdReasonOk_trim, decide_eq_false_iff_not]
      omega
    rw [Accepted.run, addFleetHold_satisfies_iff, hbrief, hfleet]
    rfl
  | campaign call request =>
    obtain ⟨input, hok, rfl⟩ := Option.map_eq_some_iff.mp h
    exact iff_of_true (createCampaign_satisfies (adminUpdateCampaignCreate_ok (toOption_ok hok) clock)) not_false
  | rollout call id request =>
    obtain ⟨input, hok, rfl⟩ := Option.map_eq_some_iff.mp h
    exact iff_of_true (setCampaignRollout_satisfies (adminUpdateCampaignRollout_ok (toOption_ok hok)) _) not_false
  | artifact call id request =>
    obtain ⟨input, hok, rfl⟩ := Option.map_eq_some_iff.mp h
    exact iff_of_true (registerArtifact_satisfies (adminReleaseArtifactRegister_ok (toOption_ok hok))) not_false
  | release call request =>
    obtain ⟨input, hok, rfl⟩ := Option.map_eq_some_iff.mp h
    exact iff_of_true (createRelease_satisfies input) not_false
  | license call request =>
    obtain ⟨input, hok, rfl⟩ := Option.map_eq_some_iff.mp h
    have hkeeps := issueLicenseLimited_keepsChecks clock input.2 (adminIssueLicense_ok (toOption_ok hok))
    refine iff_of_true (inTables_satisfies (fun e he => ?_) hkeeps x) not_false
    cases e with
    | db e => exact congrArg AdminRepository.AdminError.db (Option.some.inj he)
    | _ => cases he
  | account id email request =>
    obtain ⟨input, hok, rfl⟩ := Option.map_eq_some_iff.mp h
    obtain ⟨result, hresult, hok⟩ := Option.bind_eq_some_iff.mp hok
    have hcountry := accountProvision_ok (hresult.trans (congrArg some (toOption_ok hok)))
    exact iff_of_true (inTables_satisfies (fun e he => Option.some.inj he) (provisionForAuthUser_keepsChecks clock hcountry) x)
      not_false

/-- A campaign that has not started. -/
def plannedReleases : ReleaseStore :=
  { products := [⟨1, ⟨"authorforge", .active⟩⟩]
    channels := [⟨2, ⟨1, "stable"⟩⟩]
    releases := [⟨6, ⟨⟨1, "1.2.0", "build-1", 2, .published, none, none, none, some 5⟩, "op", some 4⟩⟩]
    artifacts := []
    campaigns := [⟨7, ⟨⟨1, 6, .draft, 2, "standard", 0, false, none, 5⟩, "spring", none, "op"⟩⟩]
    holds := []
    audits := []
    seq := 8 }

lemma fleetStore_checksHold : ChecksHold FleetPolicies.fleetStore.db := by
  intro t
  cases t <;> decide

lemma fleetStore_keyed : FleetPolicies.fleetStore.Keyed := by
  constructor <;> intro t <;> cases t <;> decide

def plannedStore : CheckedStore :=
  { store := FleetPolicies.fleetStore
    releases := plannedReleases
    keyed := fleetStore_keyed
    tables := fleetStore_checksHold
    rows := ⟨by decide, by decide, by decide⟩ }

def holdFor (reason : String) : Submission :=
  .fleetHold ⟨supportOperator, some "key_1", none⟩ (some 7) ⟨3, reason⟩

def holdOf (reason : String) : Accepted := .fleetHold ⟨"op", 7, 3, reason, none⟩

/-- Two accented letters are four bytes, which the handler accepts. -/
theorem accented_reason_violates_check : (holdFor "éé").accepted = some (holdOf "éé") ∧
    ((holdOf "éé").run ⟨9, 9⟩ plannedStore.toOperatorStore).error = some .checkViolation ∧
    ¬((holdOf "éé").run ⟨9, 9⟩ plannedStore.toOperatorStore).Satisfies := by
  have herror : ((holdOf "éé").run ⟨9, 9⟩ plannedStore.toOperatorStore).error = some .checkViolation := by decide
  exact ⟨by rfl, herror, fun h => h.unviolated herror⟩

theorem accepted_input_satisfies_checks_plain : (holdFor "été").accepted = some (holdOf "été") ∧
    ((holdOf "été").run ⟨9, 9⟩ plannedStore.toOperatorStore).Satisfies := by
  have haccepted : (holdFor "été").accepted = some (holdOf "été") := by rfl
  refine ⟨haccepted, (accepted_input_satisfies_checks_iff haccepted ⟨9, 9⟩ plannedStore).mpr ?_⟩
  intro hbrief
  exact absurd hbrief.2.2 (by decide)

end ForgeCustomer.AcceptedInput
