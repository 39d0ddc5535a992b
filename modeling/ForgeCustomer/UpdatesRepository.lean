import ForgeCustomer.DatabaseTables

/-!
# Update lookup

The candidates that a client is offered: the installation's fleet, the fleet's application row for the
product, and the campaigns this row selects. Releases and campaigns form a catalog of its own.
-/
namespace ForgeCustomer.UpdatesRepository
open SqlTables StripeEvents DatabaseTables TableName

inductive CampaignStatus where
  | draft | active | paused | completed | revoked
deriving DecidableEq

structure UpdateCampaign where
  productId : ℕ
  targetReleaseId : ℕ
  status : CampaignStatus
  releaseChannelId : ℕ
  targetUpdateRing : String
  rolloutPercentage : ℤ
  emergency : Bool
  startsAt : Option Time
  createdAt : Time
deriving DecidableEq

inductive ReleaseStatus where
  | draft | artifactsPending | validated | published | blocked | retired
deriving DecidableEq

structure ProductRelease where
  productId : ℕ
  version : String
  buildId : String
  releaseChannelId : ℕ
  status : ReleaseStatus
  changelogMarkdown : Option String
  minimumSupportedVersion : Option String
  minimumUpdaterVersion : Option String
  publishedAt : Option Time
deriving DecidableEq

inductive ArtifactRole where
  | bootstrap | updater | recovery
deriving DecidableEq

inductive ArtifactStatus where
  | pending | validated | quarantined | retired
deriving DecidableEq

structure ReleaseArtifact where
  releaseId : ℕ
  platform : String
  architecture : String
  packageFormat : String
  artifactRole : ArtifactRole
  storageKey : String
  tauriSignature : Option String
  status : ArtifactStatus
deriving DecidableEq

structure CampaignHold where
  campaignId : ℕ
  fleetId : ℕ
deriving DecidableEq

/-- Releases and campaigns as operators have set them up. -/
structure UpdateCatalog where
  campaigns : List (Entry UpdateCampaign)
  releases : List (Entry ProductRelease)
  artifacts : List (Entry ReleaseArtifact)
  holds : List (Entry CampaignHold)

structure UpdateLookupInput where
  customerId : ℕ
  installationId : ℕ
  productKey : String
  platform : String
  architecture : String
  packageFormat : String
deriving DecidableEq

structure UpdateCandidateRow where
  campaignId : ℕ
  releaseId : ℕ
  version : String
  buildId : String
  changelogMarkdown : Option String
  publishedAt : Option Time
  minimumSupportedVersion : Option String
  minimumUpdaterVersion : Option String
  storageKey : String
  tauriSignature : Option String
  rolloutPercentage : ℤ
deriving DecidableEq

/-- The rows of the service that a lookup joins. -/
structure LookupContext where
  installation : Entry Installation
  fleet : Entry Fleet
  product : Entry Product
  application : Entry FleetApplication
deriving DecidableEq

def lookupContexts (input : UpdateLookupInput) (d : Database) : List LookupContext :=
  ((d .installations).filter fun i => i.id == input.installationId &&
    i.val.customerId == input.customerId && i.val.status == .active).flatMap fun i =>
  ((d .fleets).filter fun f => i.val.fleetId == some f.id && f.val.customerId == i.val.customerId &&
    f.val.status == .active).flatMap fun f =>
  ((d .products).filter fun p => p.val.key == input.productKey && p.val.status == .active).flatMap fun p =>
  ((d .fleetApplications).filter fun a => a.val.fleetId == f.id && a.val.productId == p.id &&
    a.val.status == .active).map fun a => ⟨i, f, p, a⟩

/-- A campaign with its release and an artifact. -/
structure Candidate where
  campaign : Entry UpdateCampaign
  release : Entry ProductRelease
  artifact : Entry ReleaseArtifact
deriving DecidableEq

/-- The conditions on a campaign apart from ring and channel. -/
def campaignOpen (now : Time) (catalog : UpdateCatalog) (x : LookupContext) (c : Entry UpdateCampaign) : Bool :=
  c.val.productId == x.product.id && c.val.status == .active &&
    c.val.startsAt.all (fun t => decide (t ≤ now)) &&
    !catalog.holds.any fun h => h.val.campaignId == c.id && h.val.fleetId == x.fleet.id

/-- The candidates of a fleet before its ring and channel are looked at. -/
def openCandidates (now : Time) (catalog : UpdateCatalog) (input : UpdateLookupInput) (x : LookupContext) :
    List Candidate :=
  (catalog.campaigns.filter (campaignOpen now catalog x)).flatMap fun c =>
  (catalog.releases.filter fun r => r.id == c.val.targetReleaseId && r.val.productId == x.product.id &&
    r.val.releaseChannelId == c.val.releaseChannelId && r.val.status == .published).flatMap fun r =>
  (catalog.artifacts.filter fun a => a.val.releaseId == r.id && a.val.status == .validated &&
    a.val.artifactRole == .updater && a.val.platform == input.platform &&
    a.val.architecture == input.architecture && a.val.packageFormat == input.packageFormat).map fun a =>
    ⟨c, r, a⟩

/-- The campaign targets the ring and the channel. -/
def targets (ring : String) (channel : Option ℕ) (c : Candidate) : Bool :=
  some c.campaign.val.releaseChannelId == channel && c.campaign.val.targetUpdateRing == ring

/-- The join condition reads ring and channel of the application row. -/
def candidates (now : Time) (catalog : UpdateCatalog) (input : UpdateLookupInput) (x : LookupContext) :
    List Candidate :=
  (openCandidates now catalog input x).filter
    (targets x.application.val.updateRing x.application.val.releaseChannelId)

/-- `order by c.emergency desc, c.created_at desc`. -/
def precedes (c c' : Candidate) : Bool :=
  if c.campaign.val.emergency == c'.campaign.val.emergency then
    decide (c'.campaign.val.createdAt ≤ c.campaign.val.createdAt)
  else c.campaign.val.emergency

def candidateRow (c : Candidate) : UpdateCandidateRow :=
  { campaignId := c.campaign.id
    releaseId := c.release.id
    version := c.release.val.version
    buildId := c.release.val.buildId
    changelogMarkdown := c.release.val.changelogMarkdown
    publishedAt := c.release.val.publishedAt
    minimumSupportedVersion := c.release.val.minimumSupportedVersion
    minimumUpdaterVersion := c.release.val.minimumUpdaterVersion
    storageKey := c.artifact.val.storageKey
    tauriSignature := c.artifact.val.tauriSignature
    rolloutPercentage := c.campaign.val.rolloutPercentage }

/-- The rows of a lookup, the most urgent ones first. -/
def candidateRows (now : Time) (catalog : UpdateCatalog) (input : UpdateLookupInput) (d : Database) :
    List UpdateCandidateRow :=
  ((((lookupContexts input d).flatMap (candidates now catalog input)).mergeSort precedes).take 20).map
    candidateRow

lemma mem_lookupContexts {input : UpdateLookupInput} {d : Database} {x : LookupContext} :
    x ∈ lookupContexts input d ↔
      (x.installation ∈ d installations ∧ x.installation.id = input.installationId ∧
        x.installation.val.customerId = input.customerId ∧ x.installation.val.status = .active) ∧
      (x.fleet ∈ d fleets ∧ x.installation.val.fleetId = some x.fleet.id ∧
        x.fleet.val.customerId = x.installation.val.customerId ∧ x.fleet.val.status = .active) ∧
      (x.product ∈ d products ∧ x.product.val.key = input.productKey ∧ x.product.val.status = .active) ∧
      (x.application ∈ d fleetApplications ∧ x.application.val.fleetId = x.fleet.id ∧
        x.application.val.productId = x.product.id ∧ x.application.val.status = .active) := by
  unfold lookupContexts
  simp only [List.mem_flatMap, List.mem_map, List.mem_filter, Bool.and_eq_true, beq_iff_eq]
  constructor
  · rintro ⟨i, ⟨hi, ⟨h₁, h₂⟩, h₃⟩, f, ⟨hf, ⟨h₄, h₅⟩, h₆⟩, p, ⟨hp, h₇, h₈⟩, a, ⟨ha, ⟨h₉, h₁₀⟩, h₁₁⟩, rfl⟩
    exact ⟨⟨hi, h₁, h₂, h₃⟩, ⟨hf, h₄, h₅, h₆⟩, ⟨hp, h₇, h₈⟩, ha, h₉, h₁₀, h₁₁⟩
  · rintro ⟨⟨hi, h₁, h₂, h₃⟩, ⟨hf, h₄, h₅, h₆⟩, ⟨hp, h₇, h₈⟩, ha, h₉, h₁₀, h₁₁⟩
    exact ⟨x.installation, ⟨hi, ⟨h₁, h₂⟩, h₃⟩, x.fleet, ⟨hf, ⟨h₄, h₅⟩, h₆⟩, x.product, ⟨hp, h₇, h₈⟩,
      x.application, ⟨ha, ⟨h₉, h₁₀⟩, h₁₁⟩, rfl⟩

end ForgeCustomer.UpdatesRepository
