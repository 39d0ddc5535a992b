import ForgeCustomer.AuditWriters
import ForgeCustomer.UpdatesRepository

/-!
# Releases and campaigns

What operators do to releases, their artifacts and the campaigns that roll them out
(`repositories::admin`). Each operation is one transaction.
-/
namespace ForgeCustomer.UpdatesRepository

def ReleaseStatus.asStr : ReleaseStatus → String
  | .draft => "draft"
  | .artifactsPending => "artifacts_pending"
  | .validated => "validated"
  | .published => "published"
  | .blocked => "blocked"
  | .retired => "retired"

def CampaignStatus.asStr : CampaignStatus → String
  | .draft => "draft"
  | .active => "active"
  | .paused => "paused"
  | .completed => "completed"
  | .revoked => "revoked"

def ArtifactStatus.asStr : ArtifactStatus → String
  | .pending => "pending"
  | .validated => "validated"
  | .quarantined => "quarantined"
  | .retired => "retired"

def ArtifactRole.asStr : ArtifactRole → String
  | .bootstrap => "bootstrap"
  | .updater => "updater"
  | .recovery => "recovery"

end ForgeCustomer.UpdatesRepository

namespace ForgeCustomer.AdminReleases
open SqlTables JsonValue StripeEvents DatabaseTables AuditWriters UpdatesRepository

/-- A release with the columns that only operators see. -/
structure AdminRelease extends ProductRelease where
  createdBy : String
  validatedAt : Option Time
deriving DecidableEq

structure AdminArtifact extends ReleaseArtifact where
  sizeBytes : ℤ
  sha256 : String
  signingKeyId : String
  osSignatureStatus : String
deriving DecidableEq

structure AdminCampaign extends UpdateCampaign where
  campaignSlug : String
  completedAt : Option Time
  createdBy : String
deriving DecidableEq

structure AdminHold extends CampaignHold where
  reason : String
  createdBy : String
deriving DecidableEq

/-- The tables; `seq` is the next generated key. Products and channels are only read. -/
structure ReleaseStore where
  products : List (Entry Product)
  channels : List (Entry ReleaseChannel)
  releases : List (Entry AdminRelease)
  artifacts : List (Entry AdminArtifact)
  campaigns : List (Entry AdminCampaign)
  holds : List (Entry AdminHold)
  audits : List (Entry AuditEvent)
  seq : ℕ

inductive AdminError where
  | productNotFound
  | releaseNotFound
  | artifactNotFound
  | campaignNotFound
  | fleetNotFound
  | fleetHoldNotFound
  | invalidState (message : String)
  | db (e : SqlError)
deriving DecidableEq

/-- The check constraints of `release_artifacts`. -/
def artifactOk (r : AdminArtifact) : Bool :=
  ["windows", "linux", "darwin"].contains r.platform &&
    ["x86_64", "aarch64", "i686", "armv7"].contains r.architecture && decide (0 < r.sizeBytes) &&
    r.sha256.toList.length == 64 && r.sha256.toList.all (fun c => ('a' ≤ c && c ≤ 'f') || c.isDigit) &&
    ["pending", "verified", "not_applicable", "failed"].contains r.osSignatureStatus

/-- `campaign_slug ~ '^[a-z0-9][a-z0-9_-]{2,79}$'`. -/
def slugOk (slug : String) : Bool :=
  let alphanumeric := fun c : Char => ('a' ≤ c && c ≤ 'z') || c.isDigit
  match slug.toList with
  | [] => false
  | c :: cs => alphanumeric c && decide (2 ≤ cs.length) && decide (cs.length ≤ 79) &&
      cs.all fun c => alphanumeric c || c == '_' || c == '-'

/-- The check constraints of `update_campaigns`. -/
def campaignOk (r : AdminCampaign) : Bool :=
  slugOk r.campaignSlug && updateRings.contains r.targetUpdateRing && decide (0 ≤ r.rolloutPercentage) &&
    decide (r.rolloutPercentage ≤ 100)

structure AdminReleaseRow where
  release : Entry AdminRelease
  productKey : String
  releaseChannelKey : String
  artifactCount : ℕ
  validatedArtifactCount : ℕ
deriving DecidableEq

structure AdminCampaignRow where
  campaign : Entry AdminCampaign
  productKey : String
  releaseChannelKey : String
  holdCount : ℕ
deriving DecidableEq

section Reads
variable (s : ReleaseStore)

def ReleaseStore.product (id : ℕ) : Option (Entry Product) := s.products.find? fun e => e.id == id

def ReleaseStore.channel (id : ℕ) : Option (Entry ReleaseChannel) := s.channels.find? fun e => e.id == id

def ReleaseStore.release (id : ℕ) : Option (Entry AdminRelease) := s.releases.find? fun e => e.id == id

def ReleaseStore.artifact (id : ℕ) : Option (Entry AdminArtifact) := s.artifacts.find? fun e => e.id == id

def ReleaseStore.campaign (id : ℕ) : Option (Entry AdminCampaign) := s.campaigns.find? fun e => e.id == id

/-- The validated artifacts of a release. -/
def ReleaseStore.validatedArtifacts (releaseId : ℕ) : ℕ :=
  (s.artifacts.filter fun e => e.val.releaseId == releaseId && e.val.status == .validated).length

def readRelease (releaseId : ℕ) : Except AdminError AdminReleaseRow :=
  match (do
    let release ← s.release releaseId
    let product ← s.product release.val.productId
    let channel ← s.channel release.val.releaseChannelId
    return {
      release := release
      productKey := product.val.key
      releaseChannelKey := channel.val.key
      artifactCount := (s.artifacts.filter fun e => e.val.releaseId == releaseId).length
      validatedArtifactCount := s.validatedArtifacts releaseId : AdminReleaseRow }) with
  | some row => .ok row
  | none => .error .releaseNotFound

def readCampaign (campaignId : ℕ) : Except AdminError AdminCampaignRow :=
  match (do
    let campaign ← s.campaign campaignId
    let product ← s.product campaign.val.productId
    let channel ← s.channel campaign.val.releaseChannelId
    return {
      campaign := campaign
      productKey := product.val.key
      releaseChannelKey := channel.val.key
      holdCount := (s.holds.filter fun e => e.val.campaignId == campaignId).length : AdminCampaignRow }) with
  | some row => .ok row
  | none => .error .campaignNotFound

/-- The active product and the channel that a request names. -/
def productAndChannel (productKey channelKey : String) : Except AdminError (ℕ × ℕ) :=
  match s.products.find? fun e => e.val.key == productKey && e.val.status == .active with
  | none => .error .productNotFound
  | some product =>
    match s.channels.find? fun e => e.val.productId == product.id && e.val.key == channelKey with
    | none => .error .productNotFound
    | some channel => .ok (product.id, channel.id)

end Reads

/-- Every admin mutation writes one. -/
def ReleaseStore.audit (s : ReleaseStore) (record : OperatorAudit) : ReleaseStore :=
  { s with
    audits := s.audits ++ [⟨s.seq,
      { eventType := record.eventType
        actorType := .operator
        actorId := record.operatorId
        customerId := record.customerId
        targetType := some record.targetType
        targetId := some record.targetId
        reason := record.reason
        beforeState := record.beforeState.map sanitize
        afterState := record.afterState.map sanitize
        correlationId := record.correlationId }⟩]
    seq := s.seq + 1 }

def ReleaseStore.updateRelease (s : ReleaseStore) (releaseId : ℕ) (f : AdminRelease → AdminRelease) :
    ReleaseStore := { s with releases := updateRows (fun e => e.id == releaseId) f s.releases }

def ReleaseStore.updateCampaign (s : ReleaseStore) (campaignId : ℕ) (f : AdminCampaign → AdminCampaign) :
    ReleaseStore := { s with campaigns := updateRows (fun e => e.id == campaignId) f s.campaigns }

/-- An active campaign of the release. -/
def isRunning (releaseId : ℕ) (e : Entry AdminCampaign) : Bool :=
  e.val.targetReleaseId == releaseId && e.val.status == .active

def setStatus (status : CampaignStatus) (r : AdminCampaign) : AdminCampaign := { r with status := status }

def ReleaseStore.pauseCampaigns (s : ReleaseStore) (releaseId : ℕ) : ReleaseStore :=
  { s with campaigns := updateRows (isRunning releaseId) (setStatus .paused) s.campaigns }

/-- A transaction's answer and the store after it; a failed one is rolled back. -/
def conclude {α : Type} (s : ReleaseStore) : Except AdminError (α × ReleaseStore) → Except AdminError α × ReleaseStore
  | .ok (a, s') => (.ok a, s')
  | .error e => (.error e, s)

/-- The same with the row that is read once the transaction has been committed. A read that gets no connection is
`AuditedActions.readBack`. -/
def answer {α : Type} (read : ReleaseStore → ℕ → Except AdminError α) (s : ReleaseStore) :
    Except AdminError (ℕ × ReleaseStore) → Except AdminError α × ReleaseStore
  | .ok (id, s') => (read s' id, s')
  | .error e => (.error e, s)

structure CreateReleaseInput where
  operatorId : String
  productKey : String
  version : String
  buildId : String
  releaseChannelKey : String
  changelogMarkdown : Option String
  minimumSupportedVersion : Option String
  minimumUpdaterVersion : Option String
  reason : String
  correlationId : Option String

def newRelease (input : CreateReleaseInput) (productId channelId : ℕ) : AdminRelease :=
  { productId := productId
    version := input.version
    buildId := input.buildId
    releaseChannelId := channelId
    status := .draft
    changelogMarkdown := input.changelogMarkdown
    minimumSupportedVersion := input.minimumSupportedVersion
    minimumUpdaterVersion := input.minimumUpdaterVersion
    publishedAt := none
    createdBy := input.operatorId
    validatedAt := none }

/-- A release that is there already is answered again, if its channel is the same. -/
def createRelease (input : CreateReleaseInput) (s : ReleaseStore) :
    Except AdminError AdminReleaseRow × ReleaseStore := answer readRelease s <|
  (productAndChannel s input.productKey input.releaseChannelKey).bind fun (productId, channelId) =>
  match s.releases.find? fun e => e.val.productId == productId && e.val.version == input.version &&
      e.val.buildId == input.buildId with
  | some existing =>
    if existing.val.releaseChannelId ≠ channelId then
      .error (.invalidState "release already exists with a different channel")
    else .ok (existing.id, s)
  | none =>
    let inserted : ReleaseStore := { s with
      releases := s.releases ++ [⟨s.seq, newRelease input productId channelId⟩]
      seq := s.seq + 1 }
    let s' := inserted.audit
      { eventType := "release_registered"
        operatorId := input.operatorId
        customerId := none
        targetType := "product_release"
        targetId := toString s.seq
        reason := input.reason
        beforeState := none
        afterState := some (.obj [("product_key", .str input.productKey), ("version", .str input.version),
          ("build_id", .str input.buildId), ("release_channel", .str input.releaseChannelKey),
          ("status", .str "draft")])
        correlationId := input.correlationId }
    .ok (s.seq, s')

structure RegisterArtifactInput where
  operatorId : String
  releaseId : ℕ
  platform : String
  architecture : String
  packageFormat : String
  artifactRole : ArtifactRole
  storageKey : String
  sizeBytes : ℤ
  sha256 : String
  tauriSignature : Option String
  signingKeyId : String
  osSignatureStatus : String
  reason : String
  correlationId : Option String

def newArtifact (input : RegisterArtifactInput) : AdminArtifact :=
  { releaseId := input.releaseId
    platform := input.platform
    architecture := input.architecture
    packageFormat := input.packageFormat
    artifactRole := input.artifactRole
    storageKey := input.storageKey
    tauriSignature := input.tauriSignature
    status := .validated
    sizeBytes := input.sizeBytes
    sha256 := input.sha256
    signingKeyId := input.signingKeyId
    osSignatureStatus := input.osSignatureStatus }

/-- The same release, platform, architecture, format and role. -/
def sameTuple (a b : AdminArtifact) : Bool :=
  a.releaseId == b.releaseId && a.platform == b.platform && a.architecture == b.architecture &&
    a.packageFormat == b.packageFormat && a.artifactRole == b.artifactRole

def sameMetadata (a b : AdminArtifact) : Bool :=
  a.storageKey == b.storageKey && a.sizeBytes == b.sizeBytes && a.sha256 == b.sha256 &&
    a.tauriSignature == b.tauriSignature && a.signingKeyId == b.signingKeyId &&
    a.osSignatureStatus == b.osSignatureStatus

/-- The statuses in which a release takes no more artifacts. -/
def immutableStatus : ReleaseStatus → Bool
  | .published | .blocked | .retired => true
  | _ => false

def markPending (r : AdminRelease) : AdminRelease :=
  if r.status = .draft then { r with status := .artifactsPending } else r

def registerArtifact (input : RegisterArtifactInput) (s : ReleaseStore) :
    Except AdminError (Entry AdminArtifact) × ReleaseStore := conclude s <|
  if input.artifactRole = .updater ∧ input.tauriSignature = none then
    .error (.invalidState "updater artifacts require a Tauri signature")
  else match s.release input.releaseId with
  | none => .error .releaseNotFound
  | some release =>
    if immutableStatus release.val.status then
      .error (.invalidState "published, blocked, or retired releases are immutable")
    else if !artifactOk (newArtifact input) then .error (.db .checkViolation)
    else match s.artifacts.find? fun e => sameTuple e.val (newArtifact input) with
    | some existing =>
      if !sameMetadata existing.val (newArtifact input) then
        .error (.invalidState "artifact tuple already exists with different immutable metadata")
      else .ok (existing, s)
    | none =>
      let artifact : Entry AdminArtifact := ⟨s.seq, newArtifact input⟩
      let inserted : ReleaseStore := { s with
        artifacts := s.artifacts ++ [artifact]
        seq := s.seq + 1 }
      let s' := (inserted.updateRelease input.releaseId markPending).audit
        { eventType := "release_artifact_registered"
          operatorId := input.operatorId
          customerId := none
          targetType := "release_artifact"
          targetId := toString artifact.id
          reason := input.reason
          beforeState := none
          afterState := some (.obj [("release_id", .uuid input.releaseId), ("platform", .str input.platform),
            ("architecture", .str input.architecture), ("package_format", .str input.packageFormat),
            ("artifact_role", .str input.artifactRole.asStr), ("storage_key", .str input.storageKey),
            ("size_bytes", .int input.sizeBytes), ("sha256", .str input.sha256),
            ("signing_key_id", .str input.signingKeyId),
            ("os_signature_status", .str input.osSignatureStatus), ("status", .str "validated")])
          correlationId := input.correlationId }
      .ok (artifact, s')

/-- The request of an operator about a release, an artifact or a campaign. -/
structure OperatorRequest where
  operatorId : String
  targetId : ℕ
  reason : String
  correlationId : Option String

def ReleaseStore.auditRequest (s : ReleaseStore) (request : OperatorRequest) (eventType targetType : String)
    (beforeState afterState : Value) : ReleaseStore :=
  s.audit
    { eventType := eventType
      operatorId := request.operatorId
      customerId := none
      targetType := targetType
      targetId := toString request.targetId
      reason := request.reason
      beforeState := some beforeState
      afterState := some afterState
      correlationId := request.correlationId }

def markValidated (now : Time) (r : AdminRelease) : AdminRelease :=
  { r with
    status := .validated
    validatedAt := r.validatedAt.or (some now) }

def markPublished (now : Time) (r : AdminRelease) : AdminRelease :=
  { r with
    status := .published
    publishedAt := r.publishedAt.or (some now) }

def markBlocked (r : AdminRelease) : AdminRelease := { r with status := .blocked }

def quarantine (r : AdminArtifact) : AdminArtifact := { r with status := .quarantined }

def setRollout (rolloutPercentage : ℤ) (r : AdminCampaign) : AdminCampaign :=
  { r with rolloutPercentage := rolloutPercentage }

def statusJson (status : String) : Value := .obj [("status", .str status)]

def validateRelease (clock : Clock) (request : OperatorRequest) (s : ReleaseStore) :
    Except AdminError AdminReleaseRow × ReleaseStore := answer readRelease s <|
  match s.release request.targetId with
  | none => .error .releaseNotFound
  | some release =>
    match release.val.status with
    | .blocked | .retired => .error (.invalidState "blocked or retired releases cannot be validated")
    | .validated | .published => .ok (request.targetId, s)
    | .draft | .artifactsPending =>
      if s.validatedArtifacts request.targetId = 0 then
        .error (.invalidState "at least one validated artifact is required")
      else
        let updated := s.updateRelease request.targetId (markValidated clock.now)
        let s' := updated.auditRequest request "release_validated" "product_release"
          (statusJson release.val.status.asStr) (statusJson "validated")
        .ok (request.targetId, s')

def publishRelease (clock : Clock) (request : OperatorRequest) (s : ReleaseStore) :
    Except AdminError AdminReleaseRow × ReleaseStore := answer readRelease s <|
  match s.release request.targetId with
  | none => .error .releaseNotFound
  | some release =>
    match release.val.status with
    | .published => .ok (request.targetId, s)
    | .validated =>
      let updated := s.updateRelease request.targetId (markPublished clock.now)
      let s' := updated.auditRequest request "release_published" "product_release"
        (statusJson release.val.status.asStr) (statusJson "published")
      .ok (request.targetId, s')
    | _ => .error (.invalidState "only validated releases can be published")

/-- Blocking a release pauses its active campaigns. -/
def blockRelease (request : OperatorRequest) (s : ReleaseStore) :
    Except AdminError AdminReleaseRow × ReleaseStore := answer readRelease s <|
  match s.release request.targetId with
  | none => .error .releaseNotFound
  | some release =>
    match release.val.status with
    | .blocked => .ok (request.targetId, s)
    | .retired => .error (.invalidState "retired releases cannot be blocked")
    | _ =>
      let updated := s.updateRelease request.targetId markBlocked
      let s' := (updated.pauseCampaigns request.targetId).auditRequest request "release_blocked"
        "product_release" (statusJson release.val.status.asStr) (statusJson "blocked")
      .ok (request.targetId, s')

structure ArtifactQuarantineRow where
  artifactId : ℕ
  releaseId : ℕ
  status : String
  pausedCampaigns : ℕ
deriving DecidableEq

/-- Quarantining an artifact pauses the active campaigns of its release. -/
def quarantineArtifact (request : OperatorRequest) (s : ReleaseStore) :
    Except AdminError ArtifactQuarantineRow × ReleaseStore := conclude s <|
  match s.artifact request.targetId with
  | none => .error .artifactNotFound
  | some artifact =>
    let releaseId := artifact.val.releaseId
    let updated := { s with
      artifacts := updateRows (fun e => e.id == request.targetId && e.val.status != ArtifactStatus.quarantined)
        quarantine s.artifacts }
    let pausedCampaigns := (s.campaigns.filter (isRunning releaseId)).length
    let s' := (updated.pauseCampaigns releaseId).auditRequest request "release_artifact_quarantined"
      "release_artifact" (statusJson artifact.val.status.asStr)
      (.obj [("status", .str "quarantined"), ("paused_campaigns", .int pausedCampaigns)])
    .ok (⟨request.targetId, releaseId, "quarantined", pausedCampaigns⟩, s')

structure CreateCampaignInput where
  operatorId : String
  productKey : String
  targetReleaseId : ℕ
  campaignSlug : String
  releaseChannelKey : String
  targetUpdateRing : String
  startsAt : Option Time
  emergency : Bool
  reason : String
  correlationId : Option String

def newCampaign (clock : Clock) (input : CreateCampaignInput) (productId channelId : ℕ) : AdminCampaign :=
  { productId := productId
    targetReleaseId := input.targetReleaseId
    status := .draft
    releaseChannelId := channelId
    targetUpdateRing := input.targetUpdateRing
    rolloutPercentage := 0
    emergency := input.emergency
    startsAt := input.startsAt
    createdAt := clock.now
    campaignSlug := input.campaignSlug
    completedAt := none
    createdBy := input.operatorId }

/-- A campaign of the same name is answered as it is. -/
def createCampaign (clock : Clock) (input : CreateCampaignInput) (s : ReleaseStore) :
    Except AdminError AdminCampaignRow × ReleaseStore := answer readCampaign s <|
  (productAndChannel s input.productKey input.releaseChannelKey).bind fun (productId, channelId) =>
  match s.release input.targetReleaseId with
  | none => .error .releaseNotFound
  | some release =>
    if release.val.productId ≠ productId then
      .error (.invalidState "campaign release must belong to the product")
    else if release.val.status = .blocked ∨ release.val.status = .retired then
      .error (.invalidState "blocked or retired releases cannot be targeted")
    else if !campaignOk (newCampaign clock input productId channelId) then .error (.db .checkViolation)
    else match s.campaigns.find? fun e => e.val.productId == productId &&
        e.val.campaignSlug == input.campaignSlug with
    | some existing => .ok (existing.id, s)
    | none =>
      let inserted : ReleaseStore := { s with
        campaigns := s.campaigns ++ [⟨s.seq, newCampaign clock input productId channelId⟩]
        seq := s.seq + 1 }
      let s' := inserted.audit
        { eventType := "update_campaign_created"
          operatorId := input.operatorId
          customerId := none
          targetType := "update_campaign"
          targetId := toString s.seq
          reason := input.reason
          beforeState := none
          afterState := some (.obj [("campaign_slug", .str input.campaignSlug),
            ("target_release_id", .uuid input.targetReleaseId), ("status", .str "draft"),
            ("rollout_percentage", .int 0)])
          correlationId := input.correlationId }
      .ok (s.seq, s')

def isPublished (s : ReleaseStore) (releaseId : ℕ) : Bool :=
  s.releases.any fun e => e.id == releaseId && e.val.status == .published

/-- Only a campaign of a published release becomes active, and a revoked one stays. -/
def campaignStatusMutation (toStatus : CampaignStatus) (eventType : String) (request : OperatorRequest)
    (s : ReleaseStore) : Except AdminError AdminCampaignRow × ReleaseStore := answer readCampaign s <|
  match s.campaign request.targetId with
  | none => .error .campaignNotFound
  | some campaign =>
    if campaign.val.status = toStatus then .ok (request.targetId, s)
    else if toStatus = .active ∧ isPublished s campaign.val.targetReleaseId = false then
      .error (.invalidState "only campaigns targeting published releases can resume")
    else if campaign.val.status = .revoked then
      .error (.invalidState "revoked campaigns cannot transition")
    else
      let s' := (s.updateCampaign request.targetId (setStatus toStatus)).auditRequest request eventType
        "update_campaign" (statusJson campaign.val.status.asStr) (statusJson toStatus.asStr)
      .ok (request.targetId, s')

def pauseCampaign := campaignStatusMutation .paused "update_campaign_paused"

def resumeCampaign := campaignStatusMutation .active "update_campaign_resumed"

def revokeCampaign := campaignStatusMutation .revoked "update_campaign_revoked"

def rolloutJson (percentage : ℤ) : Value := .obj [("rollout_percentage", .int percentage)]

def setCampaignRollout (rolloutPercentage : ℤ) (request : OperatorRequest) (s : ReleaseStore) :
    Except AdminError AdminCampaignRow × ReleaseStore := answer readCampaign s <|
  match s.campaign request.targetId with
  | none => .error .campaignNotFound
  | some campaign =>
    if campaign.val.status = .revoked then
      .error (.invalidState "revoked campaigns cannot change rollout")
    else if campaign.val.rolloutPercentage = rolloutPercentage then .ok (request.targetId, s)
    else if ¬(0 ≤ rolloutPercentage ∧ rolloutPercentage ≤ 100) then .error (.db .checkViolation)
    else
      let updated := s.updateCampaign request.targetId (setRollout rolloutPercentage)
      let s' := updated.auditRequest request "update_campaign_rollout_changed" "update_campaign"
        (rolloutJson campaign.val.rolloutPercentage) (rolloutJson rolloutPercentage)
      .ok (request.targetId, s')

structure FleetHoldRequest where
  operatorId : String
  campaignId : ℕ
  fleetId : ℕ
  reason : String
  correlationId : Option String

/-- `length(trim(reason)) >= 3`. -/
def holdReasonOk (reason : String) : Bool :=
  decide (3 ≤ ((reason.toList.dropWhile (· == ' ')).reverse.dropWhile (· == ' ')).length)

def isHoldOf (request : FleetHoldRequest) (e : Entry AdminHold) : Bool :=
  e.val.campaignId == request.campaignId && e.val.fleetId == request.fleetId

def newHold (request : FleetHoldRequest) : AdminHold :=
  { campaignId := request.campaignId
    fleetId := request.fleetId
    reason := request.reason
    createdBy := request.operatorId }

/-- A fleet that is held already gets the new reason and operator. -/
def ReleaseStore.putHold (s : ReleaseStore) (request : FleetHoldRequest) : Entry AdminHold × ReleaseStore :=
  match s.holds.find? (isHoldOf request) with
  | some existing =>
    (⟨existing.id, newHold request⟩,
      { s with holds := updateRows (fun e => e.id == existing.id) (fun _ => newHold request) s.holds })
  | none =>
    (⟨s.seq, newHold request⟩,
      { s with
        holds := s.holds ++ [⟨s.seq, newHold request⟩]
        seq := s.seq + 1 })

def holdJson (request : FleetHoldRequest) : Value :=
  .obj [("campaign_id", .uuid request.campaignId), ("fleet_id", .uuid request.fleetId)]

/-- Keep a campaign from a fleet; `fleets` is the table of fleets, which is only read. -/
def addFleetHold (fleets : List (Entry Fleet)) (request : FleetHoldRequest) (s : ReleaseStore) :
    Except AdminError (Entry AdminHold) × ReleaseStore := conclude s <|
  if (s.campaign request.campaignId).isNone then .error .campaignNotFound
  else match fleets.find? fun e => e.id == request.fleetId && e.val.status != .deleted with
  | none => .error .fleetNotFound
  | some fleet =>
    if !holdReasonOk request.reason then .error (.db .checkViolation)
    else
      let (hold, stored) := s.putHold request
      let s' := stored.audit
        { eventType := "fleet_hold_added"
          operatorId := request.operatorId
          customerId := some fleet.val.customerId
          targetType := "update_campaign_hold"
          targetId := toString hold.id
          reason := request.reason
          beforeState := none
          afterState := some (holdJson request)
          correlationId := request.correlationId }
      .ok (hold, s')

def removeFleetHold (fleets : List (Entry Fleet)) (request : FleetHoldRequest) (s : ReleaseStore) :
    Except AdminError (Entry AdminHold) × ReleaseStore := conclude s <|
  match s.holds.find? (isHoldOf request) with
  | none => .error .fleetHoldNotFound
  | some hold =>
    let stored : ReleaseStore := { s with holds := s.holds.filter fun e => !isHoldOf request e }
    let s' := stored.audit
      { eventType := "fleet_hold_removed"
        operatorId := request.operatorId
        customerId := (fleets.find? fun e => e.id == request.fleetId).map (·.val.customerId)
        targetType := "update_campaign_hold"
        targetId := toString hold.id
        reason := request.reason
        beforeState := some (holdJson request)
        afterState := none
        correlationId := request.correlationId }
    .ok (hold, s')

inductive ReleaseOperation where
  | createRelease (input : CreateReleaseInput)
  | registerArtifact (input : RegisterArtifactInput)
  | validateRelease (clock : Clock) (request : OperatorRequest)
  | publishRelease (clock : Clock) (request : OperatorRequest)
  | blockRelease (request : OperatorRequest)
  | quarantineArtifact (request : OperatorRequest)
  | createCampaign (clock : Clock) (input : CreateCampaignInput)
  | pauseCampaign (request : OperatorRequest)
  | resumeCampaign (request : OperatorRequest)
  | revokeCampaign (request : OperatorRequest)
  | setCampaignRollout (rolloutPercentage : ℤ) (request : OperatorRequest)

def ReleaseOperation.apply (s : ReleaseStore) : ReleaseOperation → ReleaseStore
  | .createRelease input => (AdminReleases.createRelease input s).2
  | .registerArtifact input => (AdminReleases.registerArtifact input s).2
  | .validateRelease clock request => (AdminReleases.validateRelease clock request s).2
  | .publishRelease clock request => (AdminReleases.publishRelease clock request s).2
  | .blockRelease request => (AdminReleases.blockRelease request s).2
  | .quarantineArtifact request => (AdminReleases.quarantineArtifact request s).2
  | .createCampaign clock input => (AdminReleases.createCampaign clock input s).2
  | .pauseCampaign request => (AdminReleases.pauseCampaign request s).2
  | .resumeCampaign request => (AdminReleases.resumeCampaign request s).2
  | .revokeCampaign request => (AdminReleases.revokeCampaign request s).2
  | .setCampaignRollout rollout request => (AdminReleases.setCampaignRollout rollout request s).2

def runAll (ops : List ReleaseOperation) (s : ReleaseStore) : ReleaseStore :=
  ops.foldl (fun s op => op.apply s) s

end ForgeCustomer.AdminReleases
