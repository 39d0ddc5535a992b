import ForgeCustomer.AdminReleases
import ForgeCustomer.OverrideEvaluation
import ForgeCustomer.ProvisionProfiles
import ForgeCustomer.UpdateChecks

/-!
# Requests of the admin surface

The handlers of releases, artifacts, campaigns, fleet holds and licenses up to their transactions, with the
checks of `domain::admin` that they make, and the handler that provisions an account.
-/
namespace ForgeCustomer.AdminRequests
open SqlTables StripeEvents DatabaseTables AuditWriters AdminRepository CommercialPolicy UsagePeriods UpdatesRepository
  AdminReleases CustomerRepository MeterQuotas OperatorRequests OverrideEvaluation ProvisionProfiles
open UpdateChecks (parseU64)

/-- A text that is one of a few. -/
def cleanOneOf (allowed : List String) (field message value : String) : Except AdminValidationError String :=
  let value := trim value
  if value ∈ allowed then .ok value else .error ⟨field, message⟩

def cleanUpdateRing : String → Except AdminValidationError String :=
  cleanOneOf ["canary", "preview", "standard", "delayed"] "update_ring" "must be canary, preview, standard, or delayed"

def cleanArtifactPlatform : String → Except AdminValidationError String :=
  cleanOneOf ["windows", "linux", "darwin"] "platform" "must be windows, linux, or darwin"

def cleanArtifactArchitecture : String → Except AdminValidationError String :=
  cleanOneOf ["x86_64", "aarch64", "i686", "armv7"] "architecture" "must be x86_64, aarch64, i686, or armv7"

def cleanOsSignatureStatus : String → Except AdminValidationError String :=
  cleanOneOf ["verified", "not_applicable"] "os_signature_status"
    "must be verified or not_applicable for validated artifact registration"

def cleanArtifactRole (value : String) : Except AdminValidationError ArtifactRole :=
  match trim value with
  | "bootstrap" => .ok .bootstrap
  | "updater" => .ok .updater
  | "recovery" => .ok .recovery
  | _ => .error ⟨"artifact_role", "must be bootstrap, updater, or recovery"⟩

/-- A text of `low` to `high` bytes, of certain characters. -/
def cleanText (field : String) (low high : ℕ) (lengthMessage : String) (allowed : Char → Bool) (message value : String) :
    Except AdminValidationError String :=
  let value := trim value
  if value.utf8ByteSize < low ∨ high < value.utf8ByteSize then .error ⟨field, lengthMessage⟩
  else if value.toList.all allowed then .ok value
  else .error ⟨field, message⟩

def isLowerOrDigit (c : Char) : Bool := c.isLower || c.isDigit

def isSlugChar (c : Char) : Bool := isLowerOrDigit c || c == '_' || c == '-'

def cleanReleaseChannelKey : String → Except AdminValidationError String :=
  cleanText "release_channel" 2 40 "must be 2-40 characters" isSlugChar
    "must contain lowercase letters, digits, hyphen, or underscore"

def isIdChar (c : Char) : Bool := c.isAlphanum || ['.', '-', '_', ':'].contains c

def cleanBuildId : String → Except AdminValidationError String :=
  cleanText "build_id" 3 120 "must be 3-120 characters" isIdChar
    "must contain only letters, numbers, '.', '-', '_', or ':'"

def cleanSigningKeyId : String → Except AdminValidationError String :=
  cleanText "signing_key_id" 3 120 "must be 3-120 characters" isIdChar
    "must contain only letters, numbers, '.', '-', '_', or ':'"

/-- Only a text that is too long has a message of its own. -/
def cleanPackageFormat (value : String) : Except AdminValidationError String :=
  let value := trim value
  if 40 < value.utf8ByteSize then .error ⟨"package_format", "must be at most 40 characters"⟩
  else if value = "" ∨ value.toList.all (fun c => c.isAlphanum || ['.', '-', '_'].contains c) = false then
    .error ⟨"package_format", "must contain only letters, numbers, '.', '-', or '_'"⟩
  else .ok value

/-- The first character is neither a hyphen nor an underscore. -/
def cleanCampaignSlug (value : String) : Except AdminValidationError String :=
  let value := trim value
  if 3 ≤ value.utf8ByteSize ∧ value.utf8ByteSize ≤ 80 ∧ value.toList.head?.any isLowerOrDigit = true ∧
      value.toList.all isSlugChar = true then .ok value
  else .error ⟨"campaign_slug", "must be 3-80 lowercase letters, digits, hyphen, or underscore"⟩

def cleanRolloutPercentage (value : ℤ) : Except AdminValidationError ℤ :=
  if 0 ≤ value ∧ value ≤ 100 then .ok value else .error ⟨"rollout_percentage", "must be between 0 and 100"⟩

/-- Three numbers, with whatever follows a hyphen or a plus sign. -/
def cleanReleaseVersion (value : String) : Except AdminValidationError String :=
  let value := trim value
  if 64 < value.utf8ByteSize then .error ⟨"version", "must be at most 64 characters"⟩
  else
    let nums := (value.toList.takeWhile fun c => c != '-' && c != '+').splitOn '.'
    if nums.length ≠ 3 ∨ nums.any (·.isEmpty) = true then .error ⟨"version", "must be SemVer major.minor.patch"⟩
    else if nums.any (fun part => (parseU64 part).isNone) = true then
      .error ⟨"version", "must be SemVer major.minor.patch"⟩
    else if value.toList.all (fun c => c.isAlphanum || ['.', '-', '_', '+'].contains c) then .ok value
    else .error ⟨"version", "must contain only letters, numbers, '.', '-', '_', or '+'"⟩

/-- `None` stays absent. -/
def cleanOptional {α β : Type} (clean : α → Except AdminValidationError β) :
    Option α → Except AdminValidationError (Option β)
  | none => .ok none
  | some value => (clean value).map some

def cleanOptionalMarkdown (field : String) (maxLen : ℕ) (value : Option String) :
    Except AdminValidationError (Option String) :=
  match present value with
  | none => .ok none
  | some value =>
    if maxLen < value.utf8ByteSize then .error ⟨field, "is too long"⟩
    else if value.toList.any (fun c => isControl c && !(['\n', '\r', '\t'].contains c)) then
      .error ⟨field, "must not contain control characters"⟩
    else .ok (some value)

def cleanStorageKey (value : String) : Except AdminValidationError String :=
  let value := trim value
  if value.utf8ByteSize < 3 ∨ 512 < value.utf8ByteSize then .error ⟨"storage_key", "must be 3-512 characters"⟩
  else if ['.', '.'] <:+: value.toList ∨ value.toList.any isControl = true then
    .error ⟨"storage_key", "must be a bounded immutable object key"⟩
  else .ok value

/-- `to_ascii_lowercase`. -/
def asciiLowercase (s : String) : String := String.ofList (s.toList.map Char.toLower)

/-- `u8::is_ascii_hexdigit`. -/
def isHexDigit (c : Char) : Bool := c.isDigit || ('a' ≤ c && c ≤ 'f') || ('A' ≤ c && c ≤ 'F')

def cleanSha256 (value : String) : Except AdminValidationError String :=
  let value := asciiLowercase (trim value)
  if value.utf8ByteSize = 64 ∧ value.toList.all isHexDigit = true then .ok value
  else .error ⟨"sha256", "must be a lowercase 64-character hex digest"⟩

def cleanTauriSignature (value : Option String) : Except AdminValidationError (Option String) :=
  match present value with
  | none => .ok none
  | some value =>
    if 2048 < value.utf8ByteSize then .error ⟨"tauri_signature", "must be at most 2048 characters"⟩
    else if value.toList.any isControl then .error ⟨"tauri_signature", "must not contain control characters"⟩
    else .ok (some value)

def cleanSizeBytes (value : ℤ) : Except AdminValidationError ℤ :=
  if value ≤ 0 then .error ⟨"size_bytes", "must be positive"⟩ else .ok value

/-- One device, unless the request says otherwise. -/
def cleanDeviceLimit (value : Option ℤ) : Except AdminValidationError ℤ :=
  let value := value.getD 1
  if 0 ≤ value ∧ value ≤ 10000 then .ok value else .error ⟨"device_limit", "must be between 0 and 10000"⟩

def normalizeEmailClaim (value : Option String) : Option String :=
  (value.map fun email => asciiLowercase (trim email)).filter fun email =>
    email.toList.contains '@' && decide (email.utf8ByteSize ≤ 320)

/-- What the handlers of operators have in common. -/
structure AdminCall where
  operator : AdminContext
  header : Option String
  correlationId : Option String

/-- An operator with the role `admin`, and a key that is not blank. -/
def AdminCall.authorize (call : AdminCall) (what : String) : Except RequestError Unit := do
  requireRole call.operator "admin"
  if (idempotencyKey call.header).isNone then
    .error (.badRequest (what ++ " an Idempotency-Key header."))

/-- `parse_path_id` has read the id, or has failed. -/
def parsedPathId : Option ℕ → Except RequestError ℕ
  | some id => .ok id
  | none => .error (.badRequest "Path id must be a UUID.")

def productKeyOf (value : Option String) : Except RequestError String :=
  inField "product_key" ((cleanProductKey value).mapError RouteError.message)

/-- The channel of a request, under either of its names. -/
def requestedChannel (releaseChannel releaseChannelKey : Option String) : Except AdminValidationError String :=
  cleanReleaseChannelKey ((releaseChannel.or releaseChannelKey).getD "stable")

structure AdminReleaseCreateRequest where
  productKey : String
  version : String
  buildId : String
  releaseChannel : Option String
  releaseChannelKey : Option String
  changelogMarkdown : Option String
  releaseNotes : Option String
  minimumSupportedVersion : Option String
  minimumUpdaterVersion : Option String
  reason : String

def adminReleaseCreate (call : AdminCall) (request : AdminReleaseCreateRequest) : Except RequestError CreateReleaseInput := do
  call.authorize "Release registration requires"
  let productKey ← productKeyOf (some request.productKey)
  let version ← validated (cleanReleaseVersion request.version)
  let buildId ← validated (cleanBuildId request.buildId)
  let releaseChannelKey ← validated (requestedChannel request.releaseChannel request.releaseChannelKey)
  let changelogMarkdown ← validated
    (cleanOptionalMarkdown "changelog_markdown" 16000 (request.changelogMarkdown.or request.releaseNotes))
  let minimumSupportedVersion ← validated (cleanOptional cleanReleaseVersion request.minimumSupportedVersion)
  let minimumUpdaterVersion ← validated (cleanOptional cleanReleaseVersion request.minimumUpdaterVersion)
  let reason ← validated (cleanReason request.reason)
  .ok
    { operatorId := call.operator.operatorId
      productKey := productKey
      version := version
      buildId := buildId
      releaseChannelKey := releaseChannelKey
      changelogMarkdown := changelogMarkdown
      minimumSupportedVersion := minimumSupportedVersion
      minimumUpdaterVersion := minimumUpdaterVersion
      reason := reason
      correlationId := call.correlationId }

structure AdminArtifactRegisterRequest where
  platform : String
  architecture : String
  packageFormat : String
  artifactRole : String
  storageKey : String
  sizeBytes : ℤ
  sha256 : String
  tauriSignature : Option String
  signingKeyId : String
  osSignatureStatus : String
  reason : String

def adminReleaseArtifactRegister (call : AdminCall) (releaseId : Option ℕ) (request : AdminArtifactRegisterRequest) :
    Except RequestError RegisterArtifactInput := do
  call.authorize "Artifact registration requires"
  let releaseId ← parsedPathId releaseId
  let platform ← validated (cleanArtifactPlatform request.platform)
  let architecture ← validated (cleanArtifactArchitecture request.architecture)
  let packageFormat ← validated (cleanPackageFormat request.packageFormat)
  let artifactRole ← validated (cleanArtifactRole request.artifactRole)
  let storageKey ← validated (cleanStorageKey request.storageKey)
  let sizeBytes ← validated (cleanSizeBytes request.sizeBytes)
  let sha256 ← validated (cleanSha256 request.sha256)
  let tauriSignature ← validated (cleanTauriSignature request.tauriSignature)
  let signingKeyId ← validated (cleanSigningKeyId request.signingKeyId)
  let osSignatureStatus ← validated (cleanOsSignatureStatus request.osSignatureStatus)
  let reason ← validated (cleanReason request.reason)
  .ok
    { operatorId := call.operator.operatorId
      releaseId := releaseId
      platform := platform
      architecture := architecture
      packageFormat := packageFormat
      artifactRole := artifactRole
      storageKey := storageKey
      sizeBytes := sizeBytes
      sha256 := sha256
      tauriSignature := tauriSignature
      signingKeyId := signingKeyId
      osSignatureStatus := osSignatureStatus
      reason := reason
      correlationId := call.correlationId }

structure AdminCampaignCreateRequest where
  productKey : String
  targetReleaseId : ℕ
  campaignSlug : String
  releaseChannel : Option String
  releaseChannelKey : Option String
  targetUpdateRing : Option String
  rolloutPercentage : Option ℤ
  startsAt : Option (Option Time)
  emergency : Option Bool
  reason : String

def adminUpdateCampaignCreate (call : AdminCall) (request : AdminCampaignCreateRequest) :
    Except RequestError CreateCampaignInput := do
  call.authorize "Campaign creation requires"
  let productKey ← productKeyOf (some request.productKey)
  let campaignSlug ← validated (cleanCampaignSlug request.campaignSlug)
  let releaseChannelKey ← validated (requestedChannel request.releaseChannel request.releaseChannelKey)
  let targetUpdateRing ← validated (cleanUpdateRing (request.targetUpdateRing.getD "standard"))
  let rolloutPercentage ← validated (cleanRolloutPercentage (request.rolloutPercentage.getD 0))
  if rolloutPercentage ≠ 0 then
    .error (.validation "campaign creation starts at 0% rollout" "rollout_percentage")
  let startsAt ← parsedTime "starts_at" request.startsAt
  let reason ← validated (cleanReason request.reason)
  .ok
    { operatorId := call.operator.operatorId
      productKey := productKey
      targetReleaseId := request.targetReleaseId
      campaignSlug := campaignSlug
      releaseChannelKey := releaseChannelKey
      targetUpdateRing := targetUpdateRing
      startsAt := startsAt
      emergency := request.emergency.getD false
      reason := reason
      correlationId := call.correlationId }

structure AdminCampaignRolloutRequest where
  rolloutPercentage : ℤ
  reason : String

def adminUpdateCampaignRollout (call : AdminCall) (campaignId : Option ℕ) (request : AdminCampaignRolloutRequest) :
    Except RequestError (ℤ × OperatorRequest) := do
  call.authorize "Rollout changes require"
  let campaignId ← parsedPathId campaignId
  let rolloutPercentage ← validated (cleanRolloutPercentage request.rolloutPercentage)
  let reason ← validated (cleanReason request.reason)
  .ok (rolloutPercentage, ⟨call.operator.operatorId, campaignId, reason, call.correlationId⟩)

structure AdminFleetHoldRequest where
  fleetId : ℕ
  reason : String

def adminUpdateCampaignHoldAdd (call : AdminCall) (campaignId : Option ℕ) (request : AdminFleetHoldRequest) :
    Except RequestError FleetHoldRequest := do
  call.authorize "Fleet holds require"
  let campaignId ← parsedPathId campaignId
  let reason ← validated (cleanReason request.reason)
  .ok ⟨call.operator.operatorId, campaignId, request.fleetId, reason, call.correlationId⟩

structure AdminIssueLicenseRequest where
  customerId : Option ℕ
  productKey : Option String
  deviceLimit : Option ℤ
  expiresAt : Option (Option Time)
  reason : String

/-- The limit as it is bound, beside the rest of the license; a key is not asked for. -/
def adminIssueLicense (call : AdminCall) (request : AdminIssueLicenseRequest) :
    Except RequestError (ℤ × IssueLicenseInput) := do
  requireRole call.operator "admin"
  let customerId ← parsedUuid "customer_id" request.customerId
  let productKey ← productKeyOf request.productKey
  let deviceLimit ← validated (cleanDeviceLimit request.deviceLimit)
  let expiresAt ← parsedTime "expires_at" request.expiresAt
  let reason ← validated (cleanReason request.reason)
  .ok (deviceLimit,
    { operatorId := call.operator.operatorId
      customerId := customerId
      productKey := productKey
      deviceLimit := deviceLimit.toNat
      expiresAt := expiresAt
      reason := reason
      correlationId := call.correlationId })

/-- A profile whose cut panics is not answered at all. -/
def accountProvision (authUserId : ℕ) (email : Option String) (request : ProvisionProfileInput) :
    Option (Except ProvisionProfileValidationError ProvisionInput) :=
  (validateProvisionProfile request).map fun result => result.map fun profile =>
    { authUserId := authUserId
      email := normalizeEmailClaim email
      displayName := profile.displayName
      countryCode := profile.countryCode
      timezone := profile.timezone }

end ForgeCustomer.AdminRequests
