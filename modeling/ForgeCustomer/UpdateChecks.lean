import ForgeCustomer.CommercialPolicy
import ForgeCustomer.CustomerRepository
import ForgeCustomer.UpdatesRepository

/-!
# Update checks

`routes::authorforge_update_check` with the gates of `domain::updates`. One half of the gates is in the query
that looks up candidates, the other half in a loop over the rows it returns.
-/
namespace ForgeCustomer.UpdateChecks
open SqlTables JsonValue StripeEvents DatabaseTables AuditWriters CommercialPolicy CustomerRepository UpdatesRepository
  TableName

structure UpdateValidationError where
  field : String
  message : String
deriving DecidableEq

/-- `str::parse::<u64>`. -/
def parseU64 (cs : List Char) : Option ℕ :=
  let digits := match cs with
    | '+' :: digits => digits
    | digits => digits
  if digits ≠ [] ∧ digits.all Char.isDigit = true then
    (some (Nat.ofDigitChars 10 digits 0)).filter fun n => n < 2 ^ 64
  else none

/-- The numbers before a pre-release or build suffix. -/
def versionParts (value : String) : Option (List ℕ) :=
  let core := trim (String.ofList (value.toList.takeWhile fun c => c != '-' && c != '+'))
  if core = "" then none else (core.toList.splitOn '.').mapM parseU64

/-- Missing numbers count as zero. -/
def compareParts (left right : List ℕ) : Ordering :=
  let len := max (max left.length right.length) 3
  (((List.range len).map fun i => compare (left.getD i 0) (right.getD i 0)).find? (· != .eq)).getD .eq

def versionGreater (target current : String) : Bool :=
  match versionParts target, versionParts current with
  | some target, some current => compareParts target current == .gt
  | _, _ => false

def versionAtLeast (value minimum : String) : Bool :=
  match versionParts value, versionParts minimum with
  | some value, some minimum => compareParts value minimum != .lt
  | _, _ => false

/-- The lower-case hyphenated form of a UUID. -/
def uuidText (id : ℕ) : String :=
  let digits := (List.range 32).map fun i => Nat.digitChar (id / 16 ^ (31 - i) % 16)
  String.ofList (digits.take 8 ++ '-' :: (digits.drop 8).take 4 ++ '-' :: (digits.drop 12).take 4 ++
    '-' :: (digits.drop 16).take 4 ++ '-' :: digits.drop 20)

/-- `u64::from_be_bytes` of the first eight bytes. -/
def leadingU64 (digest : List UInt8) : ℕ := (digest.take 8).foldl (fun n b => 256 * n + b.toNat) 0

/-- `as u16`. -/
def asU16 (n : ℤ) : ℕ := (n % 2 ^ 16).toNat

section Rollout
variable (hmacSha256 : List UInt8 → List UInt8 → List UInt8)

def rolloutBucket (secret : String) (campaignId installationId : ℕ) : Except UpdateValidationError ℕ :=
  if trim secret = "" then .error ⟨"update_rollout_secret", "is not configured"⟩
  else
    let message := uuidText campaignId ++ ":" ++ uuidText installationId
    .ok (leadingU64 (hmacSha256 secret.toUTF8.toList message.toUTF8.toList) % 10000)

def rolloutAllows (secret : String) (campaignId installationId : ℕ) (rolloutPercentage : ℤ) :
    Except UpdateValidationError Bool :=
  if trim secret = "" then .error ⟨"update_rollout_secret", "is not configured"⟩
  else if rolloutPercentage ≤ 0 then .ok false
  else if 100 ≤ rolloutPercentage then .ok true
  else (rolloutBucket hmacSha256 secret campaignId installationId).map fun bucket =>
    decide (bucket < asU16 rolloutPercentage * 100)

end Rollout

inductive UpdateCheckError where
  | access (e : AccessError)
  | serviceUnavailable (message : String)
  | badRequest (message field : String)
  | validation (message field : String)
deriving DecidableEq

def present (value : Option String) : Option String := (value.map trim).filter (· ≠ "")

def cleanUpdatePlatform (value : String) : Except UpdateValidationError String :=
  if ["windows", "linux", "darwin"].contains (trim value) then .ok (trim value)
  else .error ⟨"target", "must be windows, linux, or darwin"⟩

def cleanUpdateArchitecture (value : String) : Except UpdateValidationError String :=
  if ["x86_64", "aarch64", "i686", "armv7"].contains (trim value) then .ok (trim value)
  else .error ⟨"arch", "must be x86_64, aarch64, i686, or armv7"⟩

/-- At most `maxLen` bytes, and only letters, numbers and the characters of `extra`. -/
def cleanToken (field : String) (maxLen : ℕ) (extra : List Char) (lengthMessage charsMessage value : String) :
    Except UpdateValidationError String :=
  if maxLen < value.utf8ByteSize then .error ⟨field, lengthMessage⟩
  else if value.toList.all (fun c => c.isAlphanum || extra.contains c) then .ok value
  else .error ⟨field, charsMessage⟩

def cleanUpdatePackageFormat (value : Option String) : Except UpdateValidationError String :=
  cleanToken "package_format" 40 ['.', '-', '_'] "must be at most 40 characters"
    "must contain only letters, numbers, '.', '-', or '_'" ((present value).getD "nsis")

def cleanUpdateFailureCode (value : Option String) (field : String) :
    Except UpdateValidationError (Option String) :=
  match present value with
  | none => .ok none
  | some value => (cleanToken field 80 ['.', '-', '_', ':'] "must be at most 80 characters"
      "must contain only letters, numbers, '.', '-', '_', or ':'" value).map some

/-- `clean_app_version`, with the error under the name of the field. -/
def cleanOptionalUpdateVersion (value : Option String) (field : String) :
    Except UpdateValidationError (Option String) :=
  match present value with
  | none => .ok none
  | some value => (cleanToken field 64 ['.', '-', '_', '+'] "must be at most 64 characters"
      "must contain only letters, numbers, '.', '-', '_', or '+'" value).map some

structure UpdateHeaders where
  installationId : Option String
  buildId : Option String
  updaterVersion : Option String
  packageFormat : Option String

structure UpdatePath where
  target : String
  arch : String
  currentVersion : String

/-- What a request says about the client. -/
structure UpdateCheck where
  installationId : ℕ
  currentBuildId : Option String
  updaterVersion : Option String
  packageFormat : String
  platform : String
  architecture : String
  currentVersion : String
deriving DecidableEq

def validated {α : Type} : Except UpdateValidationError α → Except UpdateCheckError α
  | .ok a => .ok a
  | .error e => .error (.validation e.message e.field)

def installationHeader (headers : UpdateHeaders) : Except UpdateCheckError ℕ :=
  match present headers.installationId with
  | none => .error (.badRequest "x-forge-installation-id header is required." "x-forge-installation-id")
  | some text =>
    match parseUuid text with
    | none => .error (.badRequest "header must be a UUID" "x-forge-installation-id")
    | some id => .ok id

def readUpdateCheck (headers : UpdateHeaders) (path : UpdatePath) : Except UpdateCheckError UpdateCheck := do
  let installationId ← installationHeader headers
  let currentBuildId ← validated (cleanUpdateFailureCode (present headers.buildId) "x-forge-build-id")
  let updaterVersion ← validated
    (cleanOptionalUpdateVersion (present headers.updaterVersion) "x-forge-updater-version")
  let packageFormat ← validated (cleanUpdatePackageFormat (present headers.packageFormat))
  let platform ← validated (cleanUpdatePlatform path.target)
  let architecture ← validated (cleanUpdateArchitecture path.arch)
  let currentVersion ← validated (cleanOptionalUpdateVersion (some path.currentVersion) "current_version")
  match currentVersion with
  | none => .error (.validation "current_version is required" "current_version")
  | some currentVersion =>
    .ok
      { installationId := installationId
        currentBuildId := currentBuildId
        updaterVersion := updaterVersion
        packageFormat := packageFormat
        platform := platform
        architecture := architecture
        currentVersion := currentVersion }

structure UpdateConfig where
  updateRolloutSecret : String
  releaseArtifactBaseUrl : String

def artifactUrl (config : UpdateConfig) (storageKey : String) : Except UpdateCheckError String :=
  let storageKey := trim storageKey
  if "https://".toList.isPrefixOf storageKey.toList || "http://".toList.isPrefixOf storageKey.toList then
    .ok storageKey
  else
    let base := trim config.releaseArtifactBaseUrl
    if base = "" then .error (.serviceUnavailable "Release artifact URL base is not configured.")
    else .ok (String.ofList ((base.toList.reverse.dropWhile (· == '/')).reverse ++
      '/' :: storageKey.toList.dropWhile (· == '/')))

structure UpdateOutcomeTicket where
  installationId : ℕ
  campaignId : ℕ
  releaseId : ℕ
  expiresAt : Time
  issuedAt : Time
deriving DecidableEq

/-- The state that a check reads, and the tickets that it writes. -/
structure UpdateStore where
  db : Database
  catalog : UpdateCatalog
  tickets : List (Entry UpdateOutcomeTicket)
  seq : ℕ

def oneHour : Time := 3600 * 1000000

/-- One ticket for the installation, the campaign and the release. -/
def issueUpdateTicket (now : Time) (installationId campaignId releaseId : ℕ) (s : UpdateStore) : ℕ × UpdateStore :=
  let ticket : UpdateOutcomeTicket := ⟨installationId, campaignId, releaseId, now + oneHour, now⟩
  let isTicket := fun e : Entry UpdateOutcomeTicket =>
    e.val.installationId == installationId && e.val.campaignId == campaignId && e.val.releaseId == releaseId
  match s.tickets.find? isTicket with
  | some existing => (existing.id, { s with tickets := updateRows isTicket (fun _ => ticket) s.tickets })
  | none =>
    (s.seq, { s with
      tickets := s.tickets ++ [⟨s.seq, ticket⟩]
      seq := s.seq + 1 })

structure TauriUpdateResponse where
  version : String
  url : String
  signature : String
  notes : Option String
  pubDate : Time
  updateTicket : ℕ
deriving DecidableEq

section Route
variable (hmacSha256 : List UInt8 → List UInt8 → List UInt8)

/-- The gates of the loop; an accepted row has a signature and a publish date. -/
def offerGates (secret : String) (check : UpdateCheck) (row : UpdateCandidateRow) :
    Except UpdateValidationError (Option (String × Time)) :=
  match present row.tauriSignature, row.publishedAt with
  | some signature, some publishedAt =>
    if versionGreater row.version check.currentVersion = false then .ok none
    else if row.minimumSupportedVersion.all (fun minimum => versionAtLeast check.currentVersion minimum) = false then
      .ok none
    else if row.minimumUpdaterVersion.all
        (fun minimum => check.updaterVersion.any fun version => versionAtLeast version minimum) = false then
      .ok none
    else if check.currentBuildId = some row.buildId then .ok none
    else (rolloutAllows hmacSha256 secret row.campaignId check.installationId row.rolloutPercentage).map fun allowed =>
      if allowed then some (signature, publishedAt) else none
  | _, _ => .ok none

/-- The first row that passes. -/
def firstOffer (secret : String) (check : UpdateCheck) :
    List UpdateCandidateRow → Except UpdateValidationError (Option (UpdateCandidateRow × String × Time))
  | [] => .ok none
  | row :: rows =>
    match offerGates hmacSha256 secret check row with
    | .error e => .error e
    | .ok (some offer) => .ok (some (row, offer))
    | .ok none => firstOffer secret check rows

def lookupInput (customerId : ℕ) (check : UpdateCheck) : UpdateLookupInput :=
  { customerId := customerId
    installationId := check.installationId
    productKey := "authorforge"
    platform := check.platform
    architecture := check.architecture
    packageFormat := check.packageFormat }

def offerResponse (config : UpdateConfig) (now : Time) (check : UpdateCheck) (row : UpdateCandidateRow)
    (signature : String) (publishedAt : Time) (s : UpdateStore) :
    Except UpdateCheckError (Option TauriUpdateResponse) × UpdateStore :=
  let (ticket, s') := issueUpdateTicket now check.installationId row.campaignId row.releaseId s
  ((artifactUrl config row.storageKey).map fun url => some
    { version := row.version
      url := url
      signature := signature
      notes := row.changelogMarkdown
      pubDate := publishedAt
      updateTicket := ticket }, s')

/-- `none` is the answer `204 No Content`. -/
def authorforgeUpdateCheck (config : UpdateConfig) (clock : Clock) (ctx : CustomerContext) (headers : UpdateHeaders)
    (path : UpdatePath) (s : UpdateStore) : Except UpdateCheckError (Option TauriUpdateResponse) × UpdateStore :=
  match ctx.requireActive clock with
  | .error e => (.error (.access e), s)
  | .ok customerId =>
    let secret := trim config.updateRolloutSecret
    if secret = "" then (.error (.serviceUnavailable "Update rollout secret is not configured."), s)
    else match readUpdateCheck headers path with
    | .error e => (.error e, s)
    | .ok check =>
      match firstOffer hmacSha256 secret check
          (candidateRows clock.now s.catalog (lookupInput customerId check) s.db) with
      | .error e => (.error (.validation e.message e.field), s)
      | .ok none => (.ok none, s)
      | .ok (some (row, signature, publishedAt)) => offerResponse config clock.now check row signature publishedAt s

/-- The gates on the rows of the service and of the catalog. -/
structure Listed (now : Time) (catalog : UpdateCatalog) (input : UpdateLookupInput) (d : Database)
    (x : LookupContext) (c : Candidate) : Prop where
  installation : x.installation ∈ d installations ∧ x.installation.id = input.installationId ∧
    x.installation.val.customerId = input.customerId ∧ x.installation.val.status = .active
  fleet : x.fleet ∈ d fleets ∧ x.installation.val.fleetId = some x.fleet.id ∧
    x.fleet.val.customerId = x.installation.val.customerId ∧ x.fleet.val.status = .active
  product : x.product ∈ d products ∧ x.product.val.key = input.productKey ∧ x.product.val.status = .active
  application : x.application ∈ d fleetApplications ∧ x.application.val.fleetId = x.fleet.id ∧
    x.application.val.productId = x.product.id ∧ x.application.val.status = .active
  campaign : c.campaign ∈ catalog.campaigns ∧ c.campaign.val.productId = x.product.id ∧ c.campaign.val.status = .active
  started : ∀ t, c.campaign.val.startsAt = some t → t ≤ now
  notHeld : ∀ h ∈ catalog.holds, h.val.campaignId = c.campaign.id → h.val.fleetId ≠ x.fleet.id
  channel : some c.campaign.val.releaseChannelId = x.application.val.releaseChannelId
  ring : c.campaign.val.targetUpdateRing = x.application.val.updateRing
  release : c.release ∈ catalog.releases ∧ c.release.id = c.campaign.val.targetReleaseId ∧
    c.release.val.productId = x.product.id ∧ c.release.val.releaseChannelId = c.campaign.val.releaseChannelId ∧
    c.release.val.status = .published
  artifact : c.artifact ∈ catalog.artifacts ∧ c.artifact.val.releaseId = c.release.id ∧
    c.artifact.val.status = .validated ∧ c.artifact.val.artifactRole = .updater ∧
    c.artifact.val.platform = input.platform ∧ c.artifact.val.architecture = input.architecture ∧
    c.artifact.val.packageFormat = input.packageFormat

/-- The bucket of the installation is below the percentage. -/
def InRollout (secret : String) (campaignId installationId : ℕ) (rolloutPercentage : ℤ) : Prop :=
  leadingU64 (hmacSha256 secret.toUTF8.toList
    (uuidText campaignId ++ ":" ++ uuidText installationId).toUTF8.toList) % 10000 < rolloutPercentage * 100

/-- The gates on what the client says about itself. -/
structure Accepted (secret : String) (check : UpdateCheck) (row : UpdateCandidateRow) : Prop where
  signed : ∃ signature, present row.tauriSignature = some signature
  dated : ∃ publishedAt, row.publishedAt = some publishedAt
  newer : versionGreater row.version check.currentVersion = true
  supported : ∀ minimum, row.minimumSupportedVersion = some minimum → versionAtLeast check.currentVersion minimum = true
  updater : ∀ minimum, row.minimumUpdaterVersion = some minimum →
    ∃ version, check.updaterVersion = some version ∧ versionAtLeast version minimum = true
  otherBuild : check.currentBuildId ≠ some row.buildId
  inRollout : InRollout hmacSha256 secret row.campaignId check.installationId row.rolloutPercentage

/-- A campaign that passes every gate for a request. -/
def Eligible (config : UpdateConfig) (clock : Clock) (ctx : CustomerContext) (headers : UpdateHeaders)
    (path : UpdatePath) (s : UpdateStore) (x : LookupContext) (c : Candidate) : Prop :=
  ∃ customerId check, ctx.requireActive clock = .ok customerId ∧ readUpdateCheck headers path = .ok check ∧
    Listed clock.now s.catalog (lookupInput customerId check) s.db x c ∧
    Accepted hmacSha256 (trim config.updateRolloutSecret) check (candidateRow c)

/-- The response is about the candidate. -/
structure Offers (config : UpdateConfig) (c : Candidate) (response : TauriUpdateResponse) : Prop where
  version : response.version = c.release.val.version
  url : artifactUrl config c.artifact.val.storageKey = .ok response.url
  signature : present c.artifact.val.tauriSignature = some response.signature
  notes : response.notes = c.release.val.changelogMarkdown
  pubDate : c.release.val.publishedAt = some response.pubDate

/-- There is an offer just when there is an eligible campaign, and what is offered is eligible. -/
structure Complete (config : UpdateConfig) (clock : Clock) (ctx : CustomerContext) (headers : UpdateHeaders)
    (path : UpdatePath) (s : UpdateStore) : Prop where
  offered_iff : (∃ response, (authorforgeUpdateCheck hmacSha256 config clock ctx headers path s).1 = .ok (some response)) ↔
    ∃ x c, Eligible hmacSha256 config clock ctx headers path s x c
  sound : ∀ response, (authorforgeUpdateCheck hmacSha256 config clock ctx headers path s).1 = .ok (some response) →
    ∃ x c, Eligible hmacSha256 config clock ctx headers path s x c ∧ Offers config c response

/-- The artifact has a download URL: its storage key is one, or there is a base that the key is appended to. -/
def HasUrl (config : UpdateConfig) (storageKey : String) : Prop :=
  "https://".toList.isPrefixOf (trim storageKey).toList = true ∨ "http://".toList.isPrefixOf (trim storageKey).toList = true ∨
    trim config.releaseArtifactBaseUrl ≠ ""

/-- All rows of a lookup, as it orders them. -/
def orderedRows (now : Time) (catalog : UpdateCatalog) (input : UpdateLookupInput) (d : Database) :
    List UpdateCandidateRow :=
  (((lookupContexts input d).flatMap (candidates now catalog input)).mergeSort precedes).map candidateRow

/-- The row passes the gates of the loop. -/
def passes (secret : String) (check : UpdateCheck) (row : UpdateCandidateRow) : Bool :=
  match offerGates hmacSha256 secret check row with
  | .ok (some _) => true
  | _ => false

/-- If a row passes the gates of the loop, then one of the first twenty does, and the first of these has a URL. -/
def Deliverable (config : UpdateConfig) (clock : Clock) (customerId : ℕ) (check : UpdateCheck) (s : UpdateStore) :
    Prop :=
  let rows := orderedRows clock.now s.catalog (lookupInput customerId check) s.db
  let passing := passes hmacSha256 (trim config.updateRolloutSecret) check
  rows.any passing = true → ∃ row, (rows.take 20).find? passing = some row ∧ HasUrl config row.storageKey

variable {config : UpdateConfig} {clock : Clock} {ctx : CustomerContext} {headers : UpdateHeaders}
  {path : UpdatePath} {s : UpdateStore} {now : Time} {catalog : UpdateCatalog} {input : UpdateLookupInput}
  {d : Database} {secret : String} {check : UpdateCheck} {row : UpdateCandidateRow}

lemma mem_candidates {x : LookupContext} {c : Candidate} :
    x ∈ lookupContexts input d ∧ c ∈ candidates now catalog input x ↔ Listed now catalog input d x c := by
  simp only [mem_lookupContexts, candidates, openCandidates, campaignOpen, targets, List.mem_filter, List.mem_flatMap,
    List.mem_map, Bool.and_eq_true, beq_iff_eq, Bool.not_eq_true', List.any_eq_false, Option.all_eq_true,
    decide_eq_true_eq]
  constructor
  · rintro ⟨⟨hi, hf, hp, ha⟩, ⟨c, ⟨hc, ⟨⟨h₁, h₂⟩, h₃⟩, h₄⟩, r, ⟨hr, ⟨⟨h₅, h₆⟩, h₇⟩, h₈⟩, a, ⟨ha', h⟩, rfl⟩, h₉, h₁₀⟩
    obtain ⟨⟨⟨⟨⟨h₁₁, h₁₂⟩, h₁₃⟩, h₁₄⟩, h₁₅⟩, h₁₆⟩ := h
    exact
      { installation := hi
        fleet := hf
        product := hp
        application := ha
        campaign := ⟨hc, h₁, h₂⟩
        started := h₃
        notHeld := fun h hh hcampaign hfleet => h₄ h hh ⟨hcampaign, hfleet⟩
        channel := h₉
        ring := h₁₀
        release := ⟨hr, h₅, h₆, h₇, h₈⟩
        artifact := ⟨ha', h₁₁, h₁₂, h₁₃, h₁₄, h₁₅, h₁₆⟩ }
  · intro h
    obtain ⟨hc, h₁, h₂⟩ := h.campaign
    obtain ⟨hr, h₅, h₆, h₇, h₈⟩ := h.release
    obtain ⟨ha', h₁₁, h₁₂, h₁₃, h₁₄, h₁₅, h₁₆⟩ := h.artifact
    have hheld : ∀ e ∈ catalog.holds, ¬(e.val.campaignId = c.campaign.id ∧ e.val.fleetId = x.fleet.id) :=
      fun e he hboth => h.notHeld e he hboth.1 hboth.2
    exact ⟨⟨h.installation, h.fleet, h.product, h.application⟩, ⟨c.campaign, ⟨hc, ⟨⟨h₁, h₂⟩, h.started⟩, hheld⟩,
      c.release, ⟨hr, ⟨⟨h₅, h₆⟩, h₇⟩, h₈⟩, c.artifact, ⟨ha', ⟨⟨⟨⟨⟨h₁₁, h₁₂⟩, h₁₃⟩, h₁₄⟩, h₁₅⟩, h₁₆⟩⟩, rfl⟩,
      h.channel, h.ring⟩

/-- The query lists the rows that pass its gates. -/
lemma mem_orderedRows :
    row ∈ orderedRows now catalog input d ↔ ∃ x c, Listed now catalog input d x c ∧ candidateRow c = row := by
  simp only [orderedRows, List.mem_map, List.mem_mergeSort, List.mem_flatMap]
  constructor
  · rintro ⟨c, ⟨x, hx, hc⟩, rfl⟩
    exact ⟨x, c, mem_candidates.mp ⟨hx, hc⟩, rfl⟩
  · rintro ⟨x, c, h, rfl⟩
    obtain ⟨hx, hc⟩ := mem_candidates.mpr h
    exact ⟨c, ⟨x, hx, hc⟩, rfl⟩

lemma candidateRows_eq : candidateRows now catalog input d = (orderedRows now catalog input d).take 20 := by
  simp [candidateRows, orderedRows, List.map_take]

/-- Both shortcuts agree with the bucket. -/
lemma rolloutAllows_eq (hsecret : trim secret ≠ "") (campaignId installationId : ℕ) (rolloutPercentage : ℤ) :
    ∃ allowed, rolloutAllows hmacSha256 secret campaignId installationId rolloutPercentage = .ok allowed ∧
      (allowed = true ↔ InRollout hmacSha256 secret campaignId installationId rolloutPercentage) := by
  unfold rolloutAllows InRollout
  rw [if_neg hsecret]
  split_ifs with hzero hfull
  · refine ⟨false, rfl, ?_⟩
    simp only [Bool.false_eq_true, false_iff]
    omega
  · refine ⟨true, rfl, ?_⟩
    simp only [true_iff]
    omega
  · refine ⟨_, by rw [rolloutBucket, if_neg hsecret]; rfl, ?_⟩
    have hcast : (asU16 rolloutPercentage : ℤ) = rolloutPercentage := by
      unfold asU16
      omega
    rw [decide_eq_true_eq]
    omega

/-- A row is accepted with its signature and publish date, or passed over because a gate fails. -/
lemma offerGates_cases (hsecret : trim secret ≠ "") (check : UpdateCheck) (row : UpdateCandidateRow) :
    (∃ signature publishedAt, offerGates hmacSha256 secret check row = .ok (some (signature, publishedAt)) ∧
        present row.tauriSignature = some signature ∧ row.publishedAt = some publishedAt ∧
        Accepted hmacSha256 secret check row) ∨
      (offerGates hmacSha256 secret check row = .ok none ∧ ¬Accepted hmacSha256 secret check row) := by
  obtain ⟨allowed, hrollout, hallowed⟩ :=
    rolloutAllows_eq hmacSha256 hsecret row.campaignId check.installationId row.rolloutPercentage
  unfold offerGates
  split
  · rename_i signature publishedAt hsigned hdated
    split_ifs with hnewer hsupported hupdater hbuild
    · exact .inr ⟨rfl, fun h => by simp [h.newer] at hnewer⟩
    · refine .inr ⟨rfl, fun h => ?_⟩
      simp only [Option.all_eq_false] at hsupported
      obtain ⟨minimum, hminimum, hlow⟩ := hsupported
      simp [h.supported minimum hminimum] at hlow
    · refine .inr ⟨rfl, fun h => ?_⟩
      simp only [Option.all_eq_false] at hupdater
      obtain ⟨minimum, hminimum, hlow⟩ := hupdater
      obtain ⟨version, hversion, hleast⟩ := h.updater minimum hminimum
      simp [hversion, hleast] at hlow
    · exact .inr ⟨rfl, fun h => h.otherBuild hbuild⟩
    · rw [hrollout]
      cases allowed with
      | false => exact .inr ⟨rfl, fun h => by simpa using hallowed.mpr h.inRollout⟩
      | true =>
        refine .inl ⟨signature, publishedAt, rfl, hsigned, hdated, ?_⟩
        simp only [Bool.not_eq_false, Option.all_eq_true, Option.any_eq_true] at hnewer hsupported hupdater
        exact
          { signed := ⟨signature, hsigned⟩
            dated := ⟨publishedAt, hdated⟩
            newer := hnewer
            supported := hsupported
            updater := hupdater
            otherBuild := hbuild
            inRollout := hallowed.mp rfl }
  · rename_i hmissing
    refine .inr ⟨rfl, fun h => ?_⟩
    obtain ⟨signature, hsigned⟩ := h.signed
    obtain ⟨publishedAt, hdated⟩ := h.dated
    exact hmissing signature publishedAt hsigned hdated

/-- The loop accepts the rows that pass its gates. -/
lemma passes_iff (hsecret : trim secret ≠ "") (check : UpdateCheck) (row : UpdateCandidateRow) :
    passes hmacSha256 secret check row = true ↔ Accepted hmacSha256 secret check row := by
  unfold passes
  obtain ⟨signature, publishedAt, hgates, -, -, haccepted⟩ | ⟨hgates, hrejected⟩ :=
    offerGates_cases hmacSha256 hsecret check row
  · simp [hgates, haccepted]
  · simp [hgates, hrejected]

/-- What the loop finds is an accepted row with its data, and it finds nothing only if no row is accepted. -/
lemma firstOffer_cases (hsecret : trim secret ≠ "") (check : UpdateCheck) (rows : List UpdateCandidateRow) :
    (∃ row signature publishedAt, firstOffer hmacSha256 secret check rows = .ok (some (row, signature, publishedAt)) ∧
        row ∈ rows ∧ present row.tauriSignature = some signature ∧ row.publishedAt = some publishedAt ∧
        Accepted hmacSha256 secret check row) ∨
      (firstOffer hmacSha256 secret check rows = .ok none ∧ ∀ row ∈ rows, ¬Accepted hmacSha256 secret check row) := by
  induction rows with
  | nil => exact .inr ⟨rfl, by simp⟩
  | cons row rows ih =>
    unfold firstOffer
    obtain ⟨signature, publishedAt, hgates, hsigned, hdated, haccepted⟩ | ⟨hgates, hrejected⟩ :=
      offerGates_cases hmacSha256 hsecret check row
    · rw [hgates]
      exact .inl ⟨row, signature, publishedAt, rfl, List.mem_cons_self, hsigned, hdated, haccepted⟩
    · rw [hgates]
      obtain ⟨found, signature, publishedAt, hfirst, hmem, hfacts⟩ | ⟨hnone, hall⟩ := ih
      · exact .inl ⟨found, signature, publishedAt, hfirst, List.mem_cons_of_mem _ hmem, hfacts⟩
      · exact .inr ⟨hnone, by simpa using ⟨hrejected, hall⟩⟩

/-- The loop ends with the first row that passes. -/
lemma firstOffer_find {rows : List UpdateCandidateRow} {offer : String × Time}
    (h : firstOffer hmacSha256 secret check rows = .ok (some (row, offer))) :
    rows.find? (passes hmacSha256 secret check) = some row := by
  induction rows with
  | nil => cases h
  | cons first rows ih =>
    unfold firstOffer at h
    rw [List.find?_cons]
    unfold passes
    split at h
    · cases h
    · rename_i hgates
      cases h
      rw [hgates]
    · rename_i hgates
      rw [hgates]
      exact ih h

lemma artifactUrl_ok_iff (storageKey : String) :
    (∃ url, artifactUrl config storageKey = .ok url) ↔ HasUrl config storageKey := by
  unfold artifactUrl HasUrl
  dsimp only
  split_ifs with habsolute hbase
  · refine iff_of_true ⟨_, rfl⟩ ?_
    exact (Bool.or_eq_true_iff.mp habsolute).imp_right .inl
  · refine iff_of_false (fun ⟨_, h⟩ => by cases h) ?_
    rintro (h | h | h)
    · exact habsolute (by rw [h, Bool.true_or])
    · exact habsolute (by rw [h, Bool.or_true])
    · exact h hbase
  · exact iff_of_true ⟨_, rfl⟩ (.inr (.inr hbase))

/-- An offer for the first of the twenty rows that passes, an error because it has no URL, or no offer because none of
them passes. -/
lemma authorforgeUpdateCheck_cases (hsecret : trim config.updateRolloutSecret ≠ "") {customerId : ℕ}
    (hactive : ctx.requireActive clock = .ok customerId) (hread : readUpdateCheck headers path = .ok check)
    (s : UpdateStore) :
    let rows := (orderedRows clock.now s.catalog (lookupInput customerId check) s.db).take 20
    let passing := passes hmacSha256 (trim config.updateRolloutSecret) check
    (∃ response x c, (authorforgeUpdateCheck hmacSha256 config clock ctx headers path s).1 = .ok (some response) ∧
        Listed clock.now s.catalog (lookupInput customerId check) s.db x c ∧
        Accepted hmacSha256 (trim config.updateRolloutSecret) check (candidateRow c) ∧
        rows.find? passing = some (candidateRow c) ∧ HasUrl config (candidateRow c).storageKey ∧
        Offers config c response) ∨
      (∃ row e, (authorforgeUpdateCheck hmacSha256 config clock ctx headers path s).1 = .error e ∧
        rows.find? passing = some row ∧ ¬HasUrl config row.storageKey) ∨
      ((authorforgeUpdateCheck hmacSha256 config clock ctx headers path s).1 = .ok none ∧ rows.find? passing = none) := by
  intro rows passing
  have htrimmed : trim (trim config.updateRolloutSecret) ≠ "" := by rwa [trim_trim]
  unfold authorforgeUpdateCheck
  simp only [hactive, hread, if_neg hsecret, candidateRows_eq]
  obtain ⟨row, signature, publishedAt, hfirst, hmem, hsigned, hdated, haccepted⟩ | ⟨hfirst, hnone⟩ :=
    firstOffer_cases hmacSha256 htrimmed check rows
  · rw [hfirst]
    have hfind := firstOffer_find hmacSha256 hfirst
    obtain ⟨x, c, hlisted, rfl⟩ := mem_orderedRows.mp (List.mem_of_mem_take hmem)
    by_cases hurl : HasUrl config (candidateRow c).storageKey
    · obtain ⟨url, hurl'⟩ := (artifactUrl_ok_iff (candidateRow c).storageKey).mpr hurl
      refine .inl ⟨_, x, c, by simp only [offerResponse, hurl']; rfl, hlisted, haccepted, hfind, hurl, ?_⟩
      exact
        { version := rfl
          url := hurl'
          signature := hsigned
          notes := rfl
          pubDate := hdated }
    · cases hurl' : artifactUrl config (candidateRow c).storageKey with
      | ok url => exact absurd ((artifactUrl_ok_iff _).mp ⟨url, hurl'⟩) hurl
      | error e => exact .inr (.inl ⟨_, e, by simp only [offerResponse, hurl']; rfl, hfind, hurl⟩)
  · rw [hfirst]
    refine .inr (.inr ⟨rfl, List.find?_eq_none.mpr fun row hrow => ?_⟩)
    rw [passes_iff hmacSha256 htrimmed]
    exact hnone row hrow

/-- The rows that pass are those of the candidates that the loop accepts. -/
lemma any_passes_iff (hsecret : trim config.updateRolloutSecret ≠ "") {customerId : ℕ} :
    (orderedRows clock.now s.catalog (lookupInput customerId check) s.db).any
        (passes hmacSha256 (trim config.updateRolloutSecret) check) = true ↔
      ∃ x c, Listed clock.now s.catalog (lookupInput customerId check) s.db x c ∧
        Accepted hmacSha256 (trim config.updateRolloutSecret) check (candidateRow c) := by
  have htrimmed : trim (trim config.updateRolloutSecret) ≠ "" := by rwa [trim_trim]
  simp only [List.any_eq_true, passes_iff hmacSha256 htrimmed, mem_orderedRows]
  constructor
  · rintro ⟨-, ⟨x, c, hlisted, rfl⟩, haccepted⟩
    exact ⟨x, c, hlisted, haccepted⟩
  · rintro ⟨x, c, hlisted, haccepted⟩
    exact ⟨_, ⟨x, c, hlisted, rfl⟩, haccepted⟩

/-- Twenty rows or fewer hide nothing. -/
lemma deliverable_of_length {customerId : ℕ}
    (h : (orderedRows clock.now s.catalog (lookupInput customerId check) s.db).length ≤ 20)
    (hurl : ∀ row ∈ orderedRows clock.now s.catalog (lookupInput customerId check) s.db, HasUrl config row.storageKey) :
    Deliverable hmacSha256 config clock customerId check s := by
  intro hany
  rw [List.take_of_length_le h]
  obtain ⟨row, hrow⟩ := Option.isSome_iff_exists.mp (List.find?_isSome.mpr (List.any_eq_true.mp hany))
  exact ⟨row, hrow, hurl row (List.mem_of_find?_eq_some hrow)⟩

lemma authorforgeUpdateCheck_not_active {e : AccessError} (h : ctx.requireActive clock = .error e) :
    authorforgeUpdateCheck hmacSha256 config clock ctx headers path s = (.error (.access e), s) := by
  simp only [authorforgeUpdateCheck, h]

/-- A request that cannot be read is refused, with an error of its own or for the missing configuration. -/
lemma authorforgeUpdateCheck_unread {e : UpdateCheckError} (h : readUpdateCheck headers path = .error e)
    (response : TauriUpdateResponse) :
    (authorforgeUpdateCheck hmacSha256 config clock ctx headers path s).1 ≠ .ok (some response) := by
  unfold authorforgeUpdateCheck
  cases hactive : ctx.requireActive clock with
  | error e => simp
  | ok customerId =>
    simp only [h]
    split_ifs <;> simp

/-- Where lookups are complete, the row that is to be offered is among the first twenty. -/
lemma Complete.deliverable (h : Complete hmacSha256 config clock ctx headers path s)
    (hsecret : trim config.updateRolloutSecret ≠ "") {customerId : ℕ}
    (hactive : ctx.requireActive clock = .ok customerId) (hread : readUpdateCheck headers path = .ok check) :
    Deliverable hmacSha256 config clock customerId check s := by
  intro hany
  obtain ⟨x, c, hlisted, haccepted⟩ := (any_passes_iff hmacSha256 hsecret).mp hany
  obtain ⟨response, hoffer⟩ := h.offered_iff.mpr ⟨x, c, customerId, check, hactive, hread, hlisted, haccepted⟩
  obtain ⟨-, -, c', -, -, -, hfind, hurl, -⟩ | ⟨-, e, hanswer, -⟩ | ⟨hanswer, -⟩ :=
    authorforgeUpdateCheck_cases hmacSha256 hsecret hactive hread s
  · exact ⟨_, hfind, hurl⟩
  · simp [hoffer] at hanswer
  · simp [hoffer] at hanswer

/-- A lookup is complete just when the rows that pass the gates of the loop are not hidden behind twenty that do not, and
the first one has a URL. -/
theorem update_lookup_complete_iff (hmacSha256 : List UInt8 → List UInt8 → List UInt8) (config : UpdateConfig)
    (clock : Clock) (ctx : CustomerContext) (headers : UpdateHeaders) (path : UpdatePath) (s : UpdateStore)
    (hsecret : trim config.updateRolloutSecret ≠ "") :
    Complete hmacSha256 config clock ctx headers path s ↔
      ∀ customerId check, ctx.requireActive clock = .ok customerId → readUpdateCheck headers path = .ok check →
        Deliverable hmacSha256 config clock customerId check s := by
  constructor
  · intro hcomplete customerId check hactive hread
    exact hcomplete.deliverable hmacSha256 hsecret hactive hread
  · intro hfree
    have hsound : ∀ response, (authorforgeUpdateCheck hmacSha256 config clock ctx headers path s).1 = .ok (some response) →
        ∃ x c, Eligible hmacSha256 config clock ctx headers path s x c ∧ Offers config c response := by
      intro response hanswer
      cases hactive : ctx.requireActive clock with
      | error e => simp [authorforgeUpdateCheck_not_active hmacSha256 hactive] at hanswer
      | ok customerId =>
        cases hread : readUpdateCheck headers path with
        | error e => exact absurd hanswer (authorforgeUpdateCheck_unread hmacSha256 hread response)
        | ok check =>
          obtain ⟨offered, x, c, hoffer, hlisted, haccepted, -, -, hoffers⟩ | ⟨-, e, herror, -⟩ | ⟨hnone, -⟩ :=
            authorforgeUpdateCheck_cases hmacSha256 hsecret hactive hread s
          · obtain rfl : offered = response := by simpa [hoffer] using hanswer
            exact ⟨x, c, ⟨customerId, check, hactive, hread, hlisted, haccepted⟩, hoffers⟩
          · simp [herror] at hanswer
          · simp [hnone] at hanswer
    refine ⟨⟨fun ⟨response, hanswer⟩ => ?_, fun ⟨x, c, customerId, check, hactive, hread, hlisted, haccepted⟩ => ?_⟩, hsound⟩
    · obtain ⟨x, c, heligible, -⟩ := hsound response hanswer
      exact ⟨x, c, heligible⟩
    · have hany := (any_passes_iff hmacSha256 hsecret).mpr ⟨x, c, hlisted, haccepted⟩
      obtain ⟨row, hfirst, hurl⟩ := hfree customerId check hactive hread hany
      obtain ⟨response, -, -, hoffer, -⟩ | ⟨row', -, -, hfind, hlost⟩ | ⟨-, hfind⟩ :=
        authorforgeUpdateCheck_cases hmacSha256 hsecret hactive hread s
      · exact ⟨response, hoffer⟩
      · obtain rfl := Option.some.inj (hfirst.symm.trans hfind)
        exact absurd hurl hlost
      · cases hfirst.symm.trans hfind

end Route

/-- An account with a registered installation in the standard ring. -/
def clientRows : ∀ t, List (Entry (Row t))
  | .customerProfiles => [⟨0, ⟨100, .individual, none, .active, none, none, false, none, 0⟩⟩]
  | .products => [⟨1, ⟨"authorforge", .active⟩⟩]
  | .releaseChannels => [⟨2, ⟨1, "stable"⟩⟩]
  | .fleets => [⟨3, ⟨0, "Default fleet", .default, .active, "standard", some 2, false⟩⟩]
  | .fleetApplications => [⟨4, ⟨3, 1, .active, "standard", some 2⟩⟩]
  | .installations => [⟨5, ⟨0, none, some 3, "key_1", 1, none, none, none, none, none, none, .active, none⟩⟩]
  | _ => []

def clientCampaign (i : ℕ) (rolloutPercentage : ℤ) : Entry UpdateCampaign :=
  ⟨10 + i, ⟨1, 6, .active, 2, "standard", rolloutPercentage, false, none, 100 - i⟩⟩

/-- Newer campaigns that have not started their rollout, and an older one for everybody. -/
def clientCampaigns (n : ℕ) : List (Entry UpdateCampaign) :=
  (List.range n).map (fun i => clientCampaign i 0) ++ [clientCampaign n 100]

def clientRelease : Entry ProductRelease :=
  ⟨6, ⟨1, "2.0.0", "build-2", 2, .published, none, none, none, some 50⟩⟩

def clientArtifact : Entry ReleaseArtifact :=
  ⟨7, ⟨6, "linux", "x86_64", "nsis", .updater, "authorforge/2.0.0", some "sig", .validated⟩⟩

def clientStore (n : ℕ) : UpdateStore := ⟨clientRows, ⟨clientCampaigns n, [clientRelease], [clientArtifact], []⟩, [], 60⟩

def clientConfig : UpdateConfig := ⟨"rollout-secret", "releases.example"⟩

def clientContext : CustomerContext := customerContext 100 none clientRows

def clientHeaders : UpdateHeaders := ⟨some "00000000-0000-0000-0000-000000000005", none, none, none⟩

def clientPath : UpdatePath := ⟨"linux", "x86_64", "1.0.0"⟩

def clientCheck : UpdateCheck := ⟨5, none, none, "nsis", "linux", "x86_64", "1.0.0"⟩

lemma clientConfig_secret : trim clientConfig.updateRolloutSecret ≠ "" := by decide

lemma clientContext_active : clientContext.requireActive ⟨100, 100⟩ = .ok 0 := rfl

lemma clientPath_read : readUpdateCheck clientHeaders clientPath = .ok clientCheck := by decide +kernel

lemma clientRows_ordered : orderedRows 100 (clientStore 20).catalog (lookupInput 0 clientCheck) clientRows =
    (clientCampaigns 20).map fun c => candidateRow ⟨c, clientRelease, clientArtifact⟩ := by
  have hsorted : ((lookupContexts (lookupInput 0 clientCheck) clientRows).flatMap
      (candidates 100 (clientStore 20).catalog (lookupInput 0 clientCheck))).Pairwise
        (fun c c' => precedes c c' = true) := by
    decide +kernel
  rw [orderedRows, List.mergeSort_of_pairwise hsorted]
  decide +kernel

lemma clientRelease_newer : versionGreater "2.0.0" "1.0.0" = true := by decide +kernel

lemma clientArtifact_signed : present (some "sig") = some "sig" := by decide

lemma last_accepted (hmacSha256 : List UInt8 → List UInt8 → List UInt8) (n : ℕ) :
    Accepted hmacSha256 (trim clientConfig.updateRolloutSecret) clientCheck
      (candidateRow ⟨clientCampaign n 100, clientRelease, clientArtifact⟩) where
  signed := ⟨"sig", clientArtifact_signed⟩
  dated := ⟨50, rfl⟩
  newer := clientRelease_newer
  supported := by
    intro minimum h
    cases h
  updater := by
    intro minimum h
    cases h
  otherBuild := by
    intro h
    cases h
  inRollout := by
    show _ < 100 * 100
    omega

lemma clientRows_unstarted : ∀ row ∈ ((clientCampaigns 20).map fun c =>
    candidateRow ⟨c, clientRelease, clientArtifact⟩).take 20, row.rolloutPercentage = 0 := by
  decide

/-- None of the first twenty rows passes, and the last one does. -/
lemma clientStore_crowded (hmacSha256 : List UInt8 → List UInt8 → List UInt8) :
    ¬Deliverable hmacSha256 clientConfig ⟨100, 100⟩ 0 clientCheck (clientStore 20) := by
  intro hdeliverable
  have htrimmed : trim (trim clientConfig.updateRolloutSecret) ≠ "" := by decide
  have hlast : candidateRow ⟨clientCampaign 20 100, clientRelease, clientArtifact⟩ ∈
      orderedRows 100 (clientStore 20).catalog (lookupInput 0 clientCheck) clientRows := by
    rw [clientRows_ordered]
    exact List.mem_map.mpr ⟨_, by simp [clientCampaigns], rfl⟩
  obtain ⟨row, hfind, -⟩ := hdeliverable (List.any_eq_true.mpr
    ⟨_, hlast, (passes_iff hmacSha256 htrimmed clientCheck _).mpr (last_accepted hmacSha256 20)⟩)
  have haccepted := (passes_iff hmacSha256 htrimmed clientCheck row).mp (List.find?_some hfind)
  have hrow := List.mem_of_find?_eq_some hfind
  change row ∈ (orderedRows 100 (clientStore 20).catalog (lookupInput 0 clientCheck) clientRows).take 20 at hrow
  rw [clientRows_ordered] at hrow
  have hin := haccepted.inRollout
  rw [clientRows_unstarted row hrow, InRollout] at hin
  omega

/-- Twenty newer campaigns at zero percent hide an older one that passes every gate. -/
theorem crowded_lookup_incomplete :
    ¬∃ hmacSha256, Complete hmacSha256 clientConfig ⟨100, 100⟩ clientContext clientHeaders clientPath (clientStore 20) := by
  rintro ⟨hmacSha256, hcomplete⟩
  exact clientStore_crowded hmacSha256
    (hcomplete.deliverable hmacSha256 clientConfig_secret clientContext_active clientPath_read)

/-- The storage key is a URL. -/
def linkedArtifact : Entry ReleaseArtifact :=
  ⟨7, ⟨6, "linux", "x86_64", "nsis", .updater, "https://releases.example/authorforge/2.0.0", some "sig", .validated⟩⟩

def linkedStore (n : ℕ) : UpdateStore := ⟨clientRows, ⟨clientCampaigns n, [clientRelease], [linkedArtifact], []⟩, [], 60⟩

/-- The configuration as it is documented: no base. -/
def defaultConfig : UpdateConfig := ⟨"rollout-secret", ""⟩

theorem update_lookup_complete_iff_client :
    ¬∃ hmacSha256,
      ¬Complete hmacSha256 defaultConfig ⟨100, 100⟩ clientContext clientHeaders clientPath (linkedStore 19) := by
  rintro ⟨hmacSha256, hincomplete⟩
  have hsecret : trim defaultConfig.updateRolloutSecret ≠ "" := by decide
  refine hincomplete ((update_lookup_complete_iff hmacSha256 defaultConfig ⟨100, 100⟩ clientContext clientHeaders
    clientPath (linkedStore 19) hsecret).mpr fun customerId check hactive hread => ?_)
  obtain rfl : 0 = customerId := by simpa [clientContext_active] using hactive
  obtain rfl : clientCheck = check := by simpa [clientPath_read] using hread
  refine deliverable_of_length hmacSha256 ?_ fun row hrow => ?_
  · rw [orderedRows, List.length_map, List.length_mergeSort]
    decide +kernel
  · obtain ⟨x, c, hlisted, rfl⟩ := mem_orderedRows.mp hrow
    have hartifact : c.artifact = linkedArtifact := List.mem_singleton.mp hlisted.artifact.1
    have habsolute : "https://".toList.isPrefixOf (trim linkedArtifact.val.storageKey).toList = true := by decide
    rw [← hartifact] at habsolute
    exact .inl habsolute

end ForgeCustomer.UpdateChecks
