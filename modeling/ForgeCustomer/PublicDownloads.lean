import ForgeCustomer.AdminRequests
import ForgeCustomer.UpdateOutcomes

/-!
# Public downloads

The endpoints without a login that name the latest release of a product and the file to install it from
(`repositories::updates`), and what becomes of software that operators withdraw.
-/
namespace ForgeCustomer.PublicDownloads
open SqlTables SqlSessions StripeEvents DatabaseTables AuditWriters CommercialPolicy CustomerRepository UpdatesRepository
  UpdateChecks AdminReleases AdminRequests ReleaseSafety ServiceOperations LastingRows UpdateOutcomes UpdateSystem
open MeterQuotas (RouteError cleanProductKey)
open UsagePeriods (AdminValidationError)
open RunOrigins (run_append run_invariant run_related)

structure PublicReleaseRow where
  productKey : String
  version : String
  buildId : String
  releaseChannelKey : String
  releaseNotes : Option String
  publishedAt : Option Time
deriving DecidableEq

structure BootstrapDownloadRow where
  productKey : String
  version : String
  buildId : String
  releaseChannelKey : String
  platform : String
  architecture : String
  packageFormat : String
  storageKey : String
  sha256 : String
  sizeBytes : ℤ
  releaseNotes : Option String
  publishedAt : Option Time
deriving DecidableEq

structure BootstrapDownloadInput where
  productKey : String
  channelKey : String
  platform : String
  architecture : String
  packageFormat : Option String
deriving DecidableEq

/-- A release with its product and channel. -/
structure Listing where
  release : Entry AdminRelease
  product : Entry Product
  channel : Entry ReleaseChannel
deriving DecidableEq

/-- A release with an artifact to install it from. -/
structure Download extends Listing where
  artifact : Entry AdminArtifact
deriving DecidableEq

/-- The published releases of a product in a channel. -/
def publishedListings (productKey channelKey : String) (s : ReleaseStore) : List Listing :=
  (s.releases.filter fun r => r.val.status == .published).flatMap fun r =>
  (s.products.filter fun p => p.id == r.val.productId && p.val.key == productKey &&
    p.val.status == .active).flatMap fun p =>
  (s.channels.filter fun rc => rc.id == r.val.releaseChannelId && rc.val.key == channelKey).map fun rc => ⟨r, p, rc⟩

/-- Their validated bootstrap artifacts for the platform. -/
def bootstrapDownloads (input : BootstrapDownloadInput) (s : ReleaseStore) : List Download :=
  (publishedListings input.productKey input.channelKey s).flatMap fun l =>
  (s.artifacts.filter fun a => a.val.releaseId == l.release.id && a.val.status == .validated &&
    a.val.artifactRole == .bootstrap && a.val.platform == input.platform &&
    a.val.architecture == input.architecture &&
    input.packageFormat.all (a.val.packageFormat == ·)).map fun a => ⟨l, a⟩

section Orders
-- `created_at`, which only this order reads, and the collation of `package_format`.
variable (createdAt : ℕ → Time) (formatLe : String → String → Bool)

/-- `published_at desc nulls last`; equal ones are left to `tie`. -/
def publishedFirst (t t' : Option Time) (tie : Bool) : Bool :=
  match t, t' with
  | some t, some t' => if t = t' then tie else decide (t' < t)
  | some _, none => true
  | none, some _ => false
  | none, none => tie

def newer (l l' : Listing) : Bool :=
  publishedFirst l.release.val.publishedAt l'.release.val.publishedAt
    (decide (createdAt l'.release.id ≤ createdAt l.release.id))

/-- The same with `a.package_format asc` at the end. -/
def newerDownload (x x' : Download) : Bool :=
  publishedFirst x.release.val.publishedAt x'.release.val.publishedAt
    (if createdAt x.release.id = createdAt x'.release.id then
      formatLe x.artifact.val.packageFormat x'.artifact.val.packageFormat
    else decide (createdAt x'.release.id < createdAt x.release.id))

def latestListing (productKey channelKey : String) (s : ReleaseStore) : Option Listing :=
  ((publishedListings productKey channelKey s).mergeSort (newer createdAt)).head?

def bootstrapListing (input : BootstrapDownloadInput) (s : ReleaseStore) : Option Download :=
  ((bootstrapDownloads input s).mergeSort (newerDownload createdAt formatLe)).head?

def releaseRow (l : Listing) : PublicReleaseRow :=
  { productKey := l.product.val.key
    version := l.release.val.version
    buildId := l.release.val.buildId
    releaseChannelKey := l.channel.val.key
    releaseNotes := l.release.val.changelogMarkdown
    publishedAt := l.release.val.publishedAt }

def downloadRow (x : Download) : BootstrapDownloadRow :=
  { productKey := x.product.val.key
    version := x.release.val.version
    buildId := x.release.val.buildId
    releaseChannelKey := x.channel.val.key
    platform := x.artifact.val.platform
    architecture := x.artifact.val.architecture
    packageFormat := x.artifact.val.packageFormat
    storageKey := x.artifact.val.storageKey
    sha256 := x.artifact.val.sha256
    sizeBytes := x.artifact.val.sizeBytes
    releaseNotes := x.release.val.changelogMarkdown
    publishedAt := x.release.val.publishedAt }

def latestPublishedRelease (productKey channelKey : String) (s : ReleaseStore) : Option PublicReleaseRow :=
  (latestListing createdAt productKey channelKey s).map releaseRow

def bootstrapDownload (input : BootstrapDownloadInput) (s : ReleaseStore) : Option BootstrapDownloadRow :=
  (bootstrapListing createdAt formatLe input s).map downloadRow

end Orders

structure PublicDownloadQuery where
  platform : String
  arch : String
  channel : Option String
  packageFormat : Option String

inductive DownloadError where
  | validation (message field : String)
  | notFound (message : String)
  | url (e : UpdateCheckError)
deriving DecidableEq

def adminValidationError {α : Type} : Except AdminValidationError α → Except DownloadError α
  | .ok a => .ok a
  | .error e => .error (.validation e.message e.field)

def productKeyError {α : Type} : Except RouteError α → Except DownloadError α
  | .ok a => .ok a
  | .error (.validation message field) => .error (.validation message field)
  | .error (.notFound message) => .error (.notFound message)

def cleanPublicReleaseChannel (value : Option String) : Except DownloadError String :=
  adminValidationError (cleanReleaseChannelKey (value.getD "stable"))

/-- `public_latest_release`; the query has a channel or none. -/
def publicLatestRelease (createdAt : ℕ → Time) (productKey : String) (channel : Option String) (s : ReleaseStore) :
    Except DownloadError PublicReleaseRow := do
  let productKey ← productKeyError (cleanProductKey (some productKey))
  let channel ← cleanPublicReleaseChannel channel
  match latestPublishedRelease createdAt productKey channel s with
  | some release => .ok release
  | none => .error (.notFound "Published release not found.")

/-- What `public_bootstrap_download` looks up. -/
def readDownloadQuery (productKey : String) (query : PublicDownloadQuery) : Except DownloadError BootstrapDownloadInput := do
  let productKey ← productKeyError (cleanProductKey (some productKey))
  let channel ← cleanPublicReleaseChannel query.channel
  let platform ← adminValidationError (cleanArtifactPlatform query.platform)
  let architecture ← adminValidationError (cleanArtifactArchitecture query.arch)
  let packageFormat ← match query.packageFormat with
    | some value => (adminValidationError (cleanPackageFormat value)).map some
    | none => .ok none
  return ⟨productKey, channel, platform, architecture, packageFormat⟩

/-- The row, and the URL to download the artifact from. -/
def publicBootstrapDownload (createdAt : ℕ → Time) (formatLe : String → String → Bool) (config : UpdateConfig)
    (productKey : String) (query : PublicDownloadQuery) (s : ReleaseStore) :
    Except DownloadError (BootstrapDownloadRow × String) := do
  let input ← readDownloadQuery productKey query
  match bootstrapDownload createdAt formatLe input s with
  | none => .error (.notFound "Bootstrap download not found.")
  | some row =>
    match artifactUrl config row.storageKey with
    | .ok url => .ok (row, url)
    | .error e => .error (.url e)

/-- The conditions on a release. -/
structure Published (productKey channelKey : String) (s : ReleaseStore) (l : Listing) : Prop where
  release : l.release ∈ s.releases ∧ l.release.val.status = .published
  product : l.product ∈ s.products ∧ l.product.id = l.release.val.productId ∧ l.product.val.key = productKey ∧
    l.product.val.status = .active
  channel : l.channel ∈ s.channels ∧ l.channel.id = l.release.val.releaseChannelId ∧ l.channel.val.key = channelKey

/-- The conditions on an artifact, too. -/
structure Installable (input : BootstrapDownloadInput) (s : ReleaseStore) (x : Download) : Prop where
  published : Published input.productKey input.channelKey s x.toListing
  artifact : x.artifact ∈ s.artifacts ∧ x.artifact.val.releaseId = x.release.id ∧ x.artifact.val.status = .validated ∧
    x.artifact.val.artifactRole = .bootstrap
  target : x.artifact.val.platform = input.platform ∧ x.artifact.val.architecture = input.architecture
  format : ∀ packageFormat, input.packageFormat = some packageFormat → x.artifact.val.packageFormat = packageFormat

lemma mem_publishedListings {productKey channelKey : String} {s : ReleaseStore} {l : Listing} :
    l ∈ publishedListings productKey channelKey s ↔ Published productKey channelKey s l := by
  simp only [publishedListings, List.mem_flatMap, List.mem_map, List.mem_filter, Bool.and_eq_true, beq_iff_eq]
  constructor
  · rintro ⟨r, ⟨hr, hstatus⟩, p, ⟨hp, ⟨hid, hkey⟩, hactive⟩, rc, ⟨hrc, hchannel, hname⟩, rfl⟩
    exact ⟨⟨hr, hstatus⟩, ⟨hp, hid, hkey, hactive⟩, hrc, hchannel, hname⟩
  · rintro ⟨⟨hr, hstatus⟩, ⟨hp, hid, hkey, hactive⟩, hrc, hchannel, hname⟩
    exact ⟨l.release, ⟨hr, hstatus⟩, l.product, ⟨hp, ⟨hid, hkey⟩, hactive⟩, l.channel, ⟨hrc, hchannel, hname⟩, rfl⟩

lemma mem_bootstrapDownloads {input : BootstrapDownloadInput} {s : ReleaseStore} {x : Download} :
    x ∈ bootstrapDownloads input s ↔ Installable input s x := by
  simp only [bootstrapDownloads, List.mem_flatMap, List.mem_map, List.mem_filter, mem_publishedListings,
    Bool.and_eq_true, beq_iff_eq, Option.all_eq_true]
  constructor
  · rintro ⟨l, hl, a, ⟨ha, ⟨⟨⟨⟨hid, hstatus⟩, hrole⟩, hplatform⟩, harch⟩, hformat⟩, rfl⟩
    exact ⟨hl, ⟨ha, hid, hstatus, hrole⟩, ⟨hplatform, harch⟩, hformat⟩
  · rintro ⟨hl, ⟨ha, hid, hstatus, hrole⟩, ⟨hplatform, harch⟩, hformat⟩
    exact ⟨x.toListing, hl, x.artifact, ⟨ha, ⟨⟨⟨⟨hid, hstatus⟩, hrole⟩, hplatform⟩, harch⟩, hformat⟩, rfl⟩

section First
variable {α : Type} {le : α → α → Bool} {l : List α} {a : α}

lemma mem_of_first (h : (l.mergeSort le).head? = some a) : a ∈ l := List.mem_mergeSort.mp (List.mem_of_mem_head? h)

lemma first_eq_none : (l.mergeSort le).head? = none ↔ l = [] := by
  rw [List.head?_eq_none_iff, ← List.length_eq_zero_iff, List.length_mergeSort, List.length_eq_zero_iff]

/-- Nothing comes before the first one. -/
lemma le_of_first (htrans : ∀ a b c, le a b = true → le b c = true → le a c = true)
    (htotal : ∀ a b, (le a b || le b a) = true) (h : (l.mergeSort le).head? = some a) {b : α} (hb : b ∈ l) :
    le a b = true := by
  have hsorted := List.pairwise_mergeSort htrans htotal l
  obtain ⟨rest, hrest⟩ : ∃ rest, l.mergeSort le = a :: rest := by
    cases hl : l.mergeSort le with
    | nil => simp [hl] at h
    | cons c rest => exact ⟨rest, by simpa [hl] using h⟩
  rw [hrest, List.pairwise_cons] at hsorted
  have hmem : b ∈ a :: rest := hrest ▸ List.mem_mergeSort.mpr hb
  rcases List.mem_cons.mp hmem with rfl | hmem
  · simpa using htotal b b
  · exact hsorted.1 b hmem

end First

section Orders
variable {createdAt : ℕ → Time} {formatLe : String → String → Bool}

@[simp] lemma publishedFirst_some {a b : Time} {tie : Bool} :
    publishedFirst (some a) (some b) tie = true ↔ b < a ∨ a = b ∧ tie = true := by
  unfold publishedFirst
  dsimp only
  split_ifs with h
  · simp [h]
  · simp [h]

lemma publishedFirst_trans {t t' t'' : Option Time} {tie tie' tie'' : Bool}
    (htie : tie = true → tie' = true → tie'' = true) (h : publishedFirst t t' tie = true)
    (h' : publishedFirst t' t'' tie' = true) : publishedFirst t t'' tie'' = true := by
  cases t with
  | none =>
    cases t' with
    | none =>
      cases t'' with
      | none => exact htie h h'
      | some c => cases h'
    | some b => cases h
  | some a =>
    cases t'' with
    | none => rfl
    | some c =>
      cases t' with
      | none => cases h'
      | some b =>
        rw [publishedFirst_some] at h h' ⊢
        rcases h with hab | ⟨rfl, htied⟩
        · rcases h' with hbc | ⟨rfl, -⟩
          · exact .inl (hbc.trans hab)
          · exact .inl hab
        · rcases h' with hbc | ⟨rfl, htied'⟩
          · exact .inl hbc
          · exact .inr ⟨rfl, htie htied htied'⟩

lemma publishedFirst_total (t t' : Option Time) {tie tie' : Bool} (htie : (tie || tie') = true) :
    (publishedFirst t t' tie || publishedFirst t' t tie') = true := by
  cases t with
  | none =>
    cases t' with
    | none => exact htie
    | some b => rfl
  | some a =>
    cases t' with
    | none => rfl
    | some b =>
      rw [Bool.or_eq_true, publishedFirst_some, publishedFirst_some]
      rcases lt_trichotomy a b with hlt | rfl | hlt
      · exact .inr (.inl hlt)
      · rcases (Bool.or_eq_true _ _).mp htie with htied | htied
        · exact .inl (.inr ⟨rfl, htied⟩)
        · exact .inr (.inr ⟨rfl, htied⟩)
      · exact .inl (.inl hlt)

/-- Creation times break ties, and a third order breaks their ties. -/
def tieBreak (t t' : Time) (rest : Bool) : Bool := if t = t' then rest else decide (t' < t)

lemma tieBreak_iff {t t' : Time} {rest : Bool} : tieBreak t t' rest = true ↔ t' < t ∨ t = t' ∧ rest = true := by
  unfold tieBreak
  split_ifs with h
  · simp [h]
  · simp [h]

lemma newerDownload_trans (hformat : ∀ a b c, formatLe a b = true → formatLe b c = true → formatLe a c = true)
    (x x' x'' : Download) (h : newerDownload createdAt formatLe x x' = true)
    (h' : newerDownload createdAt formatLe x' x'' = true) : newerDownload createdAt formatLe x x'' = true := by
  refine publishedFirst_trans (fun htie htie' => ?_) h h'
  change tieBreak _ _ _ = true at htie htie' ⊢
  rw [tieBreak_iff] at htie htie' ⊢
  rcases htie with hlt | ⟨heq, hle⟩
  · rcases htie' with hlt' | ⟨heq', -⟩
    · exact .inl (hlt'.trans hlt)
    · exact .inl (heq' ▸ hlt)
  · rcases htie' with hlt' | ⟨heq', hle'⟩
    · exact .inl (heq ▸ hlt')
    · exact .inr ⟨heq.trans heq', hformat _ _ _ hle hle'⟩

lemma newerDownload_total (hformat : ∀ a b, (formatLe a b || formatLe b a) = true) (x x' : Download) :
    (newerDownload createdAt formatLe x x' || newerDownload createdAt formatLe x' x) = true := by
  refine publishedFirst_total _ _ ?_
  change (tieBreak _ _ _ || tieBreak _ _ _) = true
  rw [Bool.or_eq_true, tieBreak_iff, tieBreak_iff]
  rcases lt_trichotomy (createdAt x.release.id) (createdAt x'.release.id) with hlt | heq | hlt
  · exact .inr (.inl hlt)
  · rcases (Bool.or_eq_true _ _).mp (hformat x.artifact.val.packageFormat x'.artifact.val.packageFormat) with hle | hle
    · exact .inl (.inr ⟨heq, hle⟩)
    · exact .inr (.inr ⟨heq.symm, hle⟩)
  · exact .inl (.inl hlt)

/-- An installable download that nothing else precedes: no other one was published later, of those published at
the same time none was created later, and of those created then, too, none has an earlier format. -/
structure Newest (createdAt : ℕ → Time) (formatLe : String → String → Bool) (input : BootstrapDownloadInput)
    (s : ReleaseStore) (x : Download) : Prop where
  installable : Installable input s x
  published : ∀ x', Installable input s x' → ∀ t', x'.release.val.publishedAt = some t' →
    ∃ t, x.release.val.publishedAt = some t ∧ t' ≤ t
  created : ∀ x', Installable input s x' → x'.release.val.publishedAt = x.release.val.publishedAt →
    createdAt x'.release.id ≤ createdAt x.release.id
  format : ∀ x', Installable input s x' → x'.release.val.publishedAt = x.release.val.publishedAt →
    createdAt x'.release.id = createdAt x.release.id →
    formatLe x.artifact.val.packageFormat x'.artifact.val.packageFormat = true

lemma publishedFirst_self {t : Option Time} {tie : Bool} (h : publishedFirst t t tie = true) : tie = true := by
  cases t with
  | none => exact h
  | some a => exact (publishedFirst_some.mp h).resolve_left (lt_irrefl a) |>.2

lemma newest_of_first (hformat : ∀ a b c, formatLe a b = true → formatLe b c = true → formatLe a c = true)
    (htotal : ∀ a b, (formatLe a b || formatLe b a) = true) {input : BootstrapDownloadInput} {s : ReleaseStore}
    {x : Download} (h : bootstrapListing createdAt formatLe input s = some x) : Newest createdAt formatLe input s x := by
  have hfirst : ∀ x', Installable input s x' → newerDownload createdAt formatLe x x' = true := fun x' hx' =>
    le_of_first (newerDownload_trans hformat) (newerDownload_total htotal) h (mem_bootstrapDownloads.mpr hx')
  refine ⟨mem_bootstrapDownloads.mp (mem_of_first h), fun x' hx' t' ht' => ?_, fun x' hx' hsame => ?_,
    fun x' hx' hsame hcreated => ?_⟩
  · have hle := hfirst x' hx'
    unfold newerDownload at hle
    rw [ht'] at hle
    cases ht : x.release.val.publishedAt with
    | none => simp [ht, publishedFirst] at hle
    | some t =>
      rw [ht, publishedFirst_some] at hle
      exact ⟨t, rfl, hle.elim (·.le) (·.1.ge)⟩
  · have hle := hfirst x' hx'
    unfold newerDownload at hle
    rw [hsame] at hle
    have htie : tieBreak _ _ _ = true := publishedFirst_self hle
    rw [tieBreak_iff] at htie
    exact htie.elim (·.le) (·.1.ge)
  · have hle := hfirst x' hx'
    unfold newerDownload at hle
    rw [hsame] at hle
    have htie : tieBreak _ _ _ = true := publishedFirst_self hle
    rw [tieBreak_iff, hcreated] at htie
    exact (htie.resolve_left (lt_irrefl _)).2

/-- A public download is the newest one that can be installed, and it is not found only if there is none. -/
theorem public_bootstrap_download_newest
    (hformat : ∀ a b c, formatLe a b = true → formatLe b c = true → formatLe a c = true)
    (htotal : ∀ a b, (formatLe a b || formatLe b a) = true) (createdAt : ℕ → Time) (config : UpdateConfig)
    {productKey : String} {query : PublicDownloadQuery} {input : BootstrapDownloadInput}
    (hread : readDownloadQuery productKey query = .ok input) (s : ReleaseStore) :
    match publicBootstrapDownload createdAt formatLe config productKey query s with
    | .ok (row, url) => ∃ x, Newest createdAt formatLe input s x ∧ row = downloadRow x ∧
        artifactUrl config x.artifact.val.storageKey = .ok url
    | .error e => (e = .notFound "Bootstrap download not found." ∧ ∀ x, ¬Installable input s x) ∨
        ∃ x e', Newest createdAt formatLe input s x ∧ artifactUrl config x.artifact.val.storageKey = .error e' ∧ e = .url e' := by
  have hanswer : publicBootstrapDownload createdAt formatLe config productKey query s =
      match bootstrapDownload createdAt formatLe input s with
      | none => .error (.notFound "Bootstrap download not found.")
      | some row =>
        match artifactUrl config row.storageKey with
        | .ok url => .ok (row, url)
        | .error e => .error (.url e) := by
    rw [publicBootstrapDownload, hread]
    rfl
  rw [hanswer, bootstrapDownload]
  cases hfirst : bootstrapListing createdAt formatLe input s with
  | none =>
    refine .inl ⟨rfl, fun x hx => ?_⟩
    have hnil := first_eq_none.mp hfirst
    have hmem := mem_bootstrapDownloads.mpr hx
    rw [hnil] at hmem
    cases hmem
  | some x =>
    have hnewest := newest_of_first hformat htotal hfirst
    dsimp only [Option.map]
    cases hurl : artifactUrl config (downloadRow x).storageKey with
    | ok url => exact ⟨x, hnewest, rfl, hurl⟩
    | error e => exact .inr ⟨x, e, hnewest, hurl, rfl⟩

end Orders

/-- Two published releases with a file to install each, a draft, and a campaign for the newer one. -/
def downloadReleases : ReleaseStore where
  products := [⟨1, ⟨"authorforge", .active⟩⟩]
  channels := [⟨2, ⟨1, "stable"⟩⟩]
  releases :=
    [⟨6, ⟨⟨1, "2.0.0", "build-2", 2, .published, none, none, none, some 50⟩, "op", none⟩⟩,
      ⟨5, ⟨⟨1, "1.9.0", "build-1", 2, .published, none, none, none, some 40⟩, "op", none⟩⟩,
      ⟨7, ⟨⟨1, "2.1.0", "build-3", 2, .draft, none, none, none, none⟩, "op", none⟩⟩]
  artifacts :=
    [⟨8, ⟨⟨5, "linux", "x86_64", "deb", .bootstrap, "authorforge/1.9.0", none, .validated⟩, 1, "", "key", "verified"⟩⟩,
      ⟨9, ⟨⟨6, "linux", "x86_64", "deb", .bootstrap, "authorforge/2.0.0", none, .validated⟩, 1, "", "key", "verified"⟩⟩]
  campaigns := [⟨4, ⟨⟨1, 6, .active, 2, "standard", 100, false, none, 45⟩, "newest", none, "op"⟩⟩]
  holds := []
  audits := []
  seq := 10

def formatOrder (a b : String) : Bool := decide (a ≤ b)

def linuxQuery : PublicDownloadQuery := ⟨"linux", "x86_64", none, none⟩

def linuxInput : BootstrapDownloadInput := ⟨"authorforge", "stable", "linux", "x86_64", none⟩

lemma linuxQuery_read : readDownloadQuery "authorforge" linuxQuery = .ok linuxInput := by decide +kernel

def linuxRow : BootstrapDownloadRow :=
  ⟨"authorforge", "2.0.0", "build-2", "stable", "linux", "x86_64", "deb", "authorforge/2.0.0", "", 1, none, some 50⟩

lemma linux_sorted : (bootstrapDownloads linuxInput downloadReleases).Pairwise
    (fun x x' => newerDownload Nat.cast formatOrder x x' = true) := by
  decide +kernel

lemma linux_answer : publicBootstrapDownload Nat.cast formatOrder clientConfig "authorforge" linuxQuery downloadReleases =
    .ok (linuxRow, "releases.example/authorforge/2.0.0") := by
  rw [publicBootstrapDownload, linuxQuery_read]
  change (match bootstrapDownload Nat.cast formatOrder linuxInput downloadReleases with
    | none => _
    | some row => _) = _
  rw [bootstrapDownload, bootstrapListing, List.mergeSort_of_pairwise linux_sorted]
  decide +kernel

theorem public_bootstrap_download_newest_linux :
    publicBootstrapDownload Nat.cast formatOrder clientConfig "authorforge" linuxQuery downloadReleases =
      .ok (linuxRow, "releases.example/authorforge/2.0.0") ∧
    ∃ x, Newest Nat.cast formatOrder linuxInput downloadReleases x ∧ linuxRow = downloadRow x ∧
      artifactUrl clientConfig x.artifact.val.storageKey = .ok "releases.example/authorforge/2.0.0" := by
  refine ⟨linux_answer, ?_⟩
  have htrans : ∀ a b c, formatOrder a b = true → formatOrder b c = true → formatOrder a c = true := by
    intro a b c hab hbc
    simp only [formatOrder, decide_eq_true_eq] at hab hbc ⊢
    exact hab.trans hbc
  have htotal : ∀ a b, (formatOrder a b || formatOrder b a) = true := by
    intro a b
    simpa [formatOrder] using le_total a b
  have hnewest := public_bootstrap_download_newest htrans htotal Nat.cast clientConfig linuxQuery_read downloadReleases
  rw [linux_answer] at hnewest
  exact hnewest

section Withdrawals
variable {s s' : ReleaseStore}

lemma quarantined_fixed {p : Entry AdminArtifact → Bool} {a : Entry AdminArtifact} {rows : List (Entry AdminArtifact)}
    (ha : a ∈ rows) (hquarantined : a.val.status = .quarantined) : a ∈ updateRows p quarantine rows := by
  have hsame : (⟨a.id, quarantine a.val⟩ : Entry AdminArtifact) = a := by
    rw [quarantine, ← hquarantined]
  refine mem_updateRows.mpr ⟨a, ha, ?_⟩
  split
  · exact hsame
  · rfl

/-- No operation releases an artifact from its quarantine, and artifacts keep keys of their own. -/
lemma applied_artifacts {op : ReleaseOperation} (h : Applied s op s') (hs : UniqueIds s.seq s.artifacts) :
    UniqueIds s'.seq s'.artifacts ∧ ∀ a ∈ s.artifacts, a.val.status = .quarantined → a ∈ s'.artifacts := by
  cases h with
  | idle => exact ⟨hs, fun a ha _ => ha⟩
  | registered input r record found changeable =>
    have hnext : s.seq < s.seq + 1 + 1 := by omega
    exact ⟨hs.append _ hnext, fun a ha _ => List.mem_append_left _ ha⟩
  | quarantined request a record found =>
    exact ⟨(hs.update _ _).mono (Nat.le_succ _), fun a ha hquarantined => quarantined_fixed ha hquarantined⟩
  | created | drafted => exact ⟨hs.mono (Nat.le_add_right _ 2), fun a ha _ => ha⟩
  | validated | published | blocked | moved | rolled => exact ⟨hs.mono (Nat.le_succ _), fun a ha _ => ha⟩

/-- What no operation and no hold undoes. -/
structure Final (s s' : ReleaseStore) : Prop where
  kept : Kept s s'
  quarantined : ∀ a ∈ s.artifacts, a.val.status = .quarantined → a ∈ s'.artifacts

lemma Final.trans {s'' : ReleaseStore} (h : Final s s') (h' : Final s' s'') : Final s s'' :=
  ⟨h.kept.trans h'.kept, fun a ha hq => h'.quarantined a (h.quarantined a ha hq) hq⟩

/-- The invariant of the releases in a run. -/
structure Ordered (s : ReleaseStore) : Prop where
  safe : Safe s
  artifacts : UniqueIds s.seq s.artifacts

lemma apply_final (op : ReleaseOperation) (hs : Ordered s) : Ordered (op.apply s) ∧ Final s (op.apply s) := by
  have hsteps := apply_steps op s
  obtain ⟨hunique, hquarantined⟩ := applied_artifacts (apply_applied op s) hs.artifacts
  exact ⟨⟨hsteps.safe hs.safe, hunique⟩, hsteps.kept hs.safe, hquarantined⟩

/-- Releases, artifacts and campaigns are the same, and keys have grown. -/
structure Held (s s' : ReleaseStore) : Prop where
  releases : s'.releases = s.releases
  artifacts : s'.artifacts = s.artifacts
  campaigns : s'.campaigns = s.campaigns
  seq : s.seq ≤ s'.seq

lemma putHold_held (request : FleetHoldRequest) (s : ReleaseStore) : Held s (s.putHold request).2 := by
  unfold ReleaseStore.putHold
  split
  · exact ⟨rfl, rfl, rfl, le_refl _⟩
  · exact ⟨rfl, rfl, rfl, Nat.le_succ _⟩

lemma addFleetHold_held (fleets : List (Entry Fleet)) (request : FleetHoldRequest) (s : ReleaseStore) :
    Held s (addFleetHold fleets request s).2 := by
  have hsame : Held s s := ⟨rfl, rfl, rfl, le_refl _⟩
  refine conclude_of hsame fun a t h => ?_
  split at h
  · cases h
  split at h
  · cases h
  split at h
  · cases h
  · obtain ⟨releases, artifacts, campaigns, seq⟩ := putHold_held request s
    cases h
    exact ⟨releases, artifacts, campaigns, seq.trans (Nat.le_succ _)⟩

lemma removeFleetHold_held (fleets : List (Entry Fleet)) (request : FleetHoldRequest) (s : ReleaseStore) :
    Held s (removeFleetHold fleets request s).2 := by
  have hsame : Held s s := ⟨rfl, rfl, rfl, le_refl _⟩
  refine conclude_of hsame fun a t h => ?_
  split at h
  · cases h
  · cases h
    exact ⟨rfl, rfl, rfl, Nat.le_succ _⟩

lemma Held.final (h : Held s s') (hs : Ordered s) : Ordered s' ∧ Final s s' := by
  have hsteps : Steps s s' := ⟨h.seq, .same h.releases h.artifacts h.campaigns⟩
  refine ⟨⟨hsteps.safe hs.safe, ?_⟩, hsteps.kept hs.safe, fun a ha _ => h.artifacts ▸ ha⟩
  rw [h.artifacts]
  exact hs.artifacts.mono h.seq

end Withdrawals

section Runs
variable {hmacSha256 : List UInt8 → List UInt8 → List UInt8} {parseFromRfc3339 : String → Option Time}
  {config : UpdateConfig} {y y' : UpdateSystem} {m : UpdateMove}

lemma stepped_final (h : Stepped hmacSha256 parseFromRfc3339 config y m y') (hy : Ordered y.releases) :
    Ordered y'.releases ∧ Final y.releases y'.releases := by
  have hsame : Ordered y.releases ∧ Final y.releases y.releases := ⟨hy, .refl _, fun a ha _ => ha⟩
  cases h with
  | operator op => exact apply_final op hy
  | hold request => exact (addFleetHold_held _ request y.releases).final hy
  | unhold request => exact (removeFleetHold_held _ request y.releases).final hy
  | _ => exact hsame

variable (hmacSha256 parseFromRfc3339 config) in
lemma run_final (ms : List UpdateMove) (hy : Ordered y.releases) :
    Ordered (run hmacSha256 parseFromRfc3339 config ms y).releases ∧
      Final y.releases (run hmacSha256 parseFromRfc3339 config ms y).releases := by
  have hstep : ∀ (y : UpdateSystem) m, Ordered y.releases → Ordered (y.step hmacSha256 parseFromRfc3339 config m).releases ∧
      Final y.releases (y.step hmacSha256 parseFromRfc3339 config m).releases :=
    fun y m hy => stepped_final (step_stepped y m) hy
  refine ⟨run_invariant (I := fun y : UpdateSystem => Ordered y.releases) (fun y m hy => (hstep y m hy).1) hy ms, ?_⟩
  exact run_related (R := fun y y' : UpdateSystem => Final y.releases y'.releases) (fun y => ⟨.refl _, fun a ha _ => ha⟩)
    Final.trans (fun y m hy => (hstep y m hy).1) (fun y m hy => (hstep y m hy).2) hy ms

variable (hmacSha256 config) in
/-- The release, campaign and artifact are given out by an answer of the service: the offer of an update check, the
latest release of a product, or a file to install it from. -/
inductive GivenOut (createdAt : ℕ → Time) (formatLe : String → String → Bool) (y : UpdateSystem) :
    ℕ → Option ℕ → Option ℕ → Prop
  | update (clock : Clock) (ctx : CustomerContext) (headers : UpdateHeaders) (path : UpdatePath) (o : Offer)
      (found : findOffer hmacSha256 config clock ctx headers path y.updateStore = .ok (some o)) (x : LookupContext)
      (c : Candidate) (eligible : Eligible hmacSha256 config clock ctx headers path y.updateStore x c)
      (row : o.row = candidateRow c) :
      GivenOut createdAt formatLe y c.release.id (some c.campaign.id) (some c.artifact.id)
  | latest (productKey channelKey : String) (l : Listing)
      (found : latestListing createdAt productKey channelKey y.releases = some l) :
      GivenOut createdAt formatLe y l.release.id none none
  | bootstrap (input : BootstrapDownloadInput) (x : Download)
      (found : bootstrapListing createdAt formatLe input y.releases = some x) :
      GivenOut createdAt formatLe y x.release.id none (some x.artifact.id)

variable {createdAt : ℕ → Time} {formatLe : String → String → Bool}

/-- What is given out is published, rolled out and validated. -/
lemma GivenOut.live {releaseId : ℕ} {campaignId artifactId : Option ℕ}
    (h : GivenOut hmacSha256 config createdAt formatLe y releaseId campaignId artifactId) :
    (∃ r ∈ y.releases.releases, r.id = releaseId ∧ r.val.status = .published) ∧
    (∀ id, campaignId = some id → ∃ c ∈ y.releases.campaigns, c.id = id ∧ c.val.status = .active) ∧
    ∀ id, artifactId = some id → ∃ a ∈ y.releases.artifacts, a.id = id ∧ a.val.status = .validated := by
  cases h with
  | update clock ctx headers path o found x c eligible row =>
    obtain ⟨_, _, _, _, hlisted, _⟩ := eligible
    obtain ⟨r, hr, hrow⟩ := List.mem_map.mp hlisted.release.1
    obtain ⟨k, hk, hcampaign⟩ := List.mem_map.mp hlisted.campaign.1
    obtain ⟨a, ha, hartifact⟩ := List.mem_map.mp hlisted.artifact.1
    have hpublished := hlisted.release.2.2.2.2
    have hactive := hlisted.campaign.2.2
    have hvalidated := hlisted.artifact.2.2.1
    rw [← hrow] at hpublished ⊢
    rw [← hcampaign] at hactive ⊢
    rw [← hartifact] at hvalidated ⊢
    refine ⟨⟨r, hr, rfl, hpublished⟩, fun id hid => ⟨k, hk, Option.some.inj hid, hactive⟩,
      fun id hid => ⟨a, ha, Option.some.inj hid, hvalidated⟩⟩
  | latest productKey channelKey l found =>
    obtain ⟨hr, hstatus⟩ := (mem_publishedListings.mp (mem_of_first found)).release
    exact ⟨⟨l.release, hr, rfl, hstatus⟩, nofun, nofun⟩
  | bootstrap input x found =>
    have hinstallable := mem_bootstrapDownloads.mp (mem_of_first found)
    obtain ⟨hr, hstatus⟩ := hinstallable.published.release
    obtain ⟨ha, -, hvalidated, -⟩ := hinstallable.artifact
    exact ⟨⟨x.release, hr, rfl, hstatus⟩, nofun, fun id hid => ⟨x.artifact, ha, Option.some.inj hid, hvalidated⟩⟩

/-- Whatever else happens: once a release is blocked, a campaign revoked or an artifact quarantined, no later answer
of the service gives it out again. -/
theorem withdrawn_not_given_out {releases : ReleaseStore} (hsafe : Safe releases)
    (hartifacts : UniqueIds releases.seq releases.artifacts) (store : DbStore) (calls : List ServiceCall)
    (ms rest : List UpdateMove) {releaseId : ℕ} {campaignId artifactId : Option ℕ}
    (h : GivenOut hmacSha256 config createdAt formatLe
      (run hmacSha256 parseFromRfc3339 config (ms ++ rest) (start store calls releases)) releaseId campaignId artifactId) :
    let y := (run hmacSha256 parseFromRfc3339 config ms (start store calls releases)).releases
    (∀ r ∈ y.releases, r.val.status = .blocked → releaseId ≠ r.id) ∧
      (∀ c ∈ y.campaigns, c.val.status = .revoked → campaignId ≠ some c.id) ∧
      ∀ a ∈ y.artifacts, a.val.status = .quarantined → artifactId ≠ some a.id := by
  have hstart : Ordered (start store calls releases).releases := ⟨hsafe, hartifacts⟩
  obtain ⟨hordered, -⟩ := run_final hmacSha256 parseFromRfc3339 config ms hstart
  obtain ⟨hlater, hfinal⟩ := run_final hmacSha256 parseFromRfc3339 config rest hordered
  have hrun : run hmacSha256 parseFromRfc3339 config (ms ++ rest) (start store calls releases) =
      run hmacSha256 parseFromRfc3339 config rest (run hmacSha256 parseFromRfc3339 config ms (start store calls releases)) :=
    run_append _ _ _ _
  rw [hrun] at h
  obtain ⟨⟨r', hr', hid', hpublished⟩, hcampaign, hartifact⟩ := h.live
  refine ⟨fun r hr hblocked hid => ?_, fun c hc hrevoked hid => ?_, fun a ha hquarantined hid => ?_⟩
  · have heq := hlater.safe.releases.unique r (hfinal.kept.blocked r hr hblocked) r' hr' (hid'.trans hid).symm
    rw [← heq, hblocked] at hpublished
    cases hpublished
  · obtain ⟨c', hc', hid', hactive⟩ := hcampaign c.id hid
    have heq := hlater.safe.campaigns.unique c (hfinal.kept.revoked c hc hrevoked) c' hc' hid'.symm
    rw [← heq, hrevoked] at hactive
    cases hactive
  · obtain ⟨a', ha', hid', hvalidated⟩ := hartifact a.id hid
    have heq := hlater.artifacts.unique a (hfinal.quarantined a ha hquarantined) a' ha' hid'.symm
    rw [← heq, hquarantined] at hvalidated
    cases hvalidated

end Runs

/-- The newest release is blocked with the file to install it from, and its campaign is revoked. -/
def withdrawal : List UpdateMove :=
  [.operator (.revokeCampaign ⟨"op", 4, "bad", none⟩), .operator (.blockRelease ⟨"op", 6, "bad", none⟩),
    .operator (.quarantineArtifact ⟨"op", 9, "bad", none⟩)]

/-- Attempts to bring all of it back. -/
def reinstatement : List UpdateMove :=
  [.operator (.validateRelease ⟨60, 60⟩ ⟨"op", 6, "again", none⟩),
    .operator (.publishRelease ⟨60, 60⟩ ⟨"op", 6, "again", none⟩),
    .operator (.resumeCampaign ⟨"op", 4, "again", none⟩),
    .operator (.setCampaignRollout 50 ⟨"op", 4, "again", none⟩), .hold ⟨"op", 4, 3, "again", none⟩]

def runWithdrawal (ms : List UpdateMove) : UpdateSystem :=
  run (fun _ _ => []) (fun _ => none) clientConfig ms (start clientService [] downloadReleases)

def olderDownload : Download :=
  ⟨⟨⟨5, ⟨⟨1, "1.9.0", "build-1", 2, .published, none, none, none, some 40⟩, "op", none⟩⟩, ⟨1, ⟨"authorforge", .active⟩⟩,
    ⟨2, ⟨1, "stable"⟩⟩⟩,
    ⟨8, ⟨⟨5, "linux", "x86_64", "deb", .bootstrap, "authorforge/1.9.0", none, .validated⟩, 1, "", "key", "verified"⟩⟩⟩

lemma reinstatement_first : bootstrapListing Nat.cast formatOrder linuxInput
    (runWithdrawal (withdrawal ++ reinstatement)).releases = some olderDownload := by
  decide +kernel

lemma withdrawal_withdrawn :
    (∃ r ∈ (runWithdrawal withdrawal).releases.releases, r.id = 6 ∧ r.val.status = .blocked) ∧
    (∃ c ∈ (runWithdrawal withdrawal).releases.campaigns, c.id = 4 ∧ c.val.status = .revoked) ∧
    ∃ a ∈ (runWithdrawal withdrawal).releases.artifacts, a.id = 9 ∧ a.val.status = .quarantined := by
  decide +kernel

lemma downloadReleases_ordered : Safe downloadReleases ∧ UniqueIds downloadReleases.seq downloadReleases.artifacts := by
  refine ⟨⟨⟨?_, ?_⟩, ⟨?_, ?_⟩, ?_⟩, ?_, ?_⟩ <;> simp [downloadReleases]

theorem withdrawn_not_given_out_linux :
    ((∃ r ∈ (runWithdrawal withdrawal).releases.releases, r.id = 6 ∧ r.val.status = .blocked) ∧
      (∃ c ∈ (runWithdrawal withdrawal).releases.campaigns, c.id = 4 ∧ c.val.status = .revoked) ∧
      ∃ a ∈ (runWithdrawal withdrawal).releases.artifacts, a.id = 9 ∧ a.val.status = .quarantined) ∧
    (∀ r ∈ (runWithdrawal withdrawal).releases.releases, r.val.status = .blocked → 5 ≠ r.id) ∧
      (∀ c ∈ (runWithdrawal withdrawal).releases.campaigns, c.val.status = .revoked → none ≠ some c.id) ∧
      ∀ a ∈ (runWithdrawal withdrawal).releases.artifacts, a.val.status = .quarantined → some 8 ≠ some a.id :=
  ⟨withdrawal_withdrawn, withdrawn_not_given_out downloadReleases_ordered.1 downloadReleases_ordered.2 clientService []
    withdrawal reinstatement (.bootstrap linuxInput olderDownload reinstatement_first)⟩

end ForgeCustomer.PublicDownloads
