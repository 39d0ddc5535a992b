import ForgeCustomer.UpdateChecks

/-!
# Raising rollouts

Two states that differ in the rollout percentages of campaigns only, and what a client that is offered an update in
the one is offered in the other.
-/
namespace ForgeCustomer.RolloutChanges
open SqlTables StripeEvents DatabaseTables AuditWriters CommercialPolicy CustomerRepository UpdatesRepository UpdateChecks

section Relators
variable {α β γ : Type} {R : α → β → Prop} {S : γ → γ → Prop}

/-- Related lists are the two sides of a list of related pairs. -/
lemma exists_pairs {l : List α} {l' : List β} (h : List.Forall₂ R l l') :
    ∃ pairs : List (α × β), pairs.map (·.1) = l ∧ pairs.map (·.2) = l' ∧ ∀ p ∈ pairs, R p.1 p.2 := by
  induction h with
  | nil => exact ⟨[], rfl, rfl, by simp⟩
  | cons hab _ ih =>
    obtain ⟨pairs, rfl, rfl, hrel⟩ := ih
    exact ⟨(_, _) :: pairs, rfl, rfl, by simpa using ⟨hab, fun a b hp => hrel (a, b) hp⟩⟩

lemma forall₂_of_pairs {pairs : List (α × β)} (h : ∀ p ∈ pairs, R p.1 p.2) :
    List.Forall₂ R (pairs.map (·.1)) (pairs.map (·.2)) := by
  rw [List.forall₂_map_left_iff, List.forall₂_map_right_iff, List.forall₂_same]
  exact h

/-- Sorting related lists by orders that agree gives related lists. -/
lemma forall₂_mergeSort {le : α → α → Bool} {le' : β → β → Bool}
    (hle : ∀ a a' b b', R a b → R a' b' → le a a' = le' b b') {l : List α} {l' : List β} (h : List.Forall₂ R l l') :
    List.Forall₂ R (l.mergeSort le) (l'.mergeSort le') := by
  obtain ⟨pairs, rfl, rfl, hrel⟩ := exists_pairs h
  have hleft : (pairs.mergeSort fun p q => le p.1 q.1).map (·.1) = (pairs.map (·.1)).mergeSort le :=
    List.map_mergeSort fun _ _ _ _ => rfl
  have hright : (pairs.mergeSort fun p q => le p.1 q.1).map (·.2) = (pairs.map (·.2)).mergeSort le' :=
    List.map_mergeSort fun p hp q hq => hle _ _ _ _ (hrel p hp) (hrel q hq)
  rw [← hleft, ← hright]
  exact forall₂_of_pairs fun p hp => hrel p (List.mem_mergeSort.mp hp)

lemma exists_related {l : List α} {l' : List β} (h : List.Forall₂ R l l') {a : α} (ha : a ∈ l) : ∃ b ∈ l', R a b := by
  obtain ⟨pairs, rfl, rfl, hrel⟩ := exists_pairs h
  obtain ⟨p, hp, rfl⟩ := List.mem_map.mp ha
  exact ⟨p.2, List.mem_map_of_mem hp, hrel p hp⟩

end Relators

/-- The same campaign with a percentage that is at least as high. -/
def Raised (c c' : Entry UpdateCampaign) : Prop :=
  c.val.rolloutPercentage ≤ c'.val.rolloutPercentage ∧
    c' = ⟨c.id, { c.val with rolloutPercentage := c'.val.rolloutPercentage }⟩

/-- The second state differs from the first one in higher percentages of some campaigns. -/
structure RaisesRollouts (s s' : UpdateStore) : Prop where
  campaigns : List.Forall₂ Raised s.catalog.campaigns s'.catalog.campaigns
  rest : s' = { s with catalog := { s.catalog with campaigns := s'.catalog.campaigns } }

/-- The same row with a percentage that is at least as high. -/
def RaisedRow (row row' : UpdateCandidateRow) : Prop :=
  row.rolloutPercentage ≤ row'.rolloutPercentage ∧ row' = { row with rolloutPercentage := row'.rolloutPercentage }

def RaisedCandidate (c c' : Candidate) : Prop :=
  Raised c.campaign c'.campaign ∧ c'.release = c.release ∧ c'.artifact = c.artifact

variable {now : Time} {catalog catalog' : UpdateCatalog} {input : UpdateLookupInput} {d : Database}

lemma Raised.channel {c c' : Entry UpdateCampaign} (h : Raised c c') :
    c'.val.releaseChannelId = c.val.releaseChannelId := by
  rw [h.2]

lemma Raised.release {c c' : Entry UpdateCampaign} (h : Raised c c') :
    c'.val.targetReleaseId = c.val.targetReleaseId := by
  rw [h.2]

lemma Raised.ring {c c' : Entry UpdateCampaign} (h : Raised c c') :
    c'.val.targetUpdateRing = c.val.targetUpdateRing := by
  rw [h.2]

lemma RaisedCandidate.row {c c' : Candidate} (h : RaisedCandidate c c') : RaisedRow (candidateRow c) (candidateRow c') := by
  obtain ⟨⟨hle, hcampaign⟩, hrelease, hartifact⟩ := h
  refine ⟨hle, ?_⟩
  unfold candidateRow
  rw [hrelease, hartifact, hcampaign]

lemma RaisedCandidate.precedes {a a' b b' : Candidate} (h : RaisedCandidate a b) (h' : RaisedCandidate a' b') :
    precedes a a' = precedes b b' := by
  unfold UpdatesRepository.precedes
  rw [h.1.2, h'.1.2]

/-- No gate of the query looks at percentages. -/
lemma forall₂_candidates (h : List.Forall₂ Raised catalog.campaigns catalog'.campaigns)
    (hrest : catalog' = { catalog with campaigns := catalog'.campaigns }) (x : LookupContext) :
    List.Forall₂ RaisedCandidate (candidates now catalog input x) (candidates now catalog' input x) := by
  have hholds : catalog'.holds = catalog.holds := by rw [hrest]
  have hreleases : catalog'.releases = catalog.releases := by rw [hrest]
  have hartifacts : catalog'.artifacts = catalog.artifacts := by rw [hrest]
  unfold candidates openCandidates
  rw [hreleases, hartifacts]
  have hopen : List.Forall₂ Raised (catalog.campaigns.filter (campaignOpen now catalog x))
      (catalog'.campaigns.filter (campaignOpen now catalog' x)) := by
    refine List.rel_filter (fun c c' hc => ?_) h
    unfold campaignOpen
    rw [hc.2, hholds]
  refine List.rel_filter (fun c c' hc => ?_) (List.rel_flatMap hopen fun c c' hc => ?_)
  · simp only [targets, hc.1.channel, hc.1.ring]
  · -- The releases and artifacts of a campaign do not depend on its percentage.
    rw [hc.release, hc.channel]
    refine List.rel_flatMap (R := Eq) (List.forall₂_eq_eq_eq ▸ rfl) fun r r' hr => ?_
    subst hr
    rw [List.forall₂_map_left_iff, List.forall₂_map_right_iff, List.forall₂_same]
    exact fun a _ => ⟨hc, rfl, rfl⟩

/-- The rows of a lookup are the same ones in the same order, up to their percentages. -/
lemma forall₂_candidateRows (h : List.Forall₂ Raised catalog.campaigns catalog'.campaigns)
    (hrest : catalog' = { catalog with campaigns := catalog'.campaigns }) :
    List.Forall₂ RaisedRow (candidateRows now catalog input d) (candidateRows now catalog' input d) := by
  have hall : List.Forall₂ RaisedCandidate ((lookupContexts input d).flatMap (candidates now catalog input))
      ((lookupContexts input d).flatMap (candidates now catalog' input)) := by
    refine List.rel_flatMap (R := Eq) (List.forall₂_eq_eq_eq ▸ rfl) fun x x' hx => ?_
    subst hx
    exact forall₂_candidates h hrest x
  have hsorted := forall₂_mergeSort (fun a a' b b' hab hab' => hab.precedes hab') hall
  unfold candidateRows
  rw [List.forall₂_map_left_iff, List.forall₂_map_right_iff]
  exact (List.forall₂_take 20 hsorted).imp fun c c' hc => hc.row

section Route
variable (hmacSha256 : List UInt8 → List UInt8 → List UInt8) {secret : String} {check : UpdateCheck}

/-- A row that the loop accepts is still accepted under a higher percentage. -/
lemma RaisedRow.accepted {row row' : UpdateCandidateRow} (h : RaisedRow row row')
    (haccepted : Accepted hmacSha256 secret check row) : Accepted hmacSha256 secret check row' := by
  obtain ⟨hle, hrow⟩ := h
  have hin : InRollout hmacSha256 secret row.campaignId check.installationId row'.rolloutPercentage := by
    have hlow := haccepted.inRollout
    unfold InRollout at hlow ⊢
    omega
  rw [hrow]
  exact
    { signed := haccepted.signed
      dated := haccepted.dated
      newer := haccepted.newer
      supported := haccepted.supported
      updater := haccepted.updater
      otherBuild := haccepted.otherBuild
      inRollout := hin }

/-- An offer needs an accepted row; which one it is may change. -/
lemma firstOffer_raised (hsecret : trim secret ≠ "") {rows rows' : List UpdateCandidateRow}
    (h : List.Forall₂ RaisedRow rows rows') {found : UpdateCandidateRow × String × Time}
    (hfound : firstOffer hmacSha256 secret check rows = .ok (some found)) :
    ∃ row' signature publishedAt,
      firstOffer hmacSha256 secret check rows' = .ok (some (row', signature, publishedAt)) ∧ row' ∈ rows' ∧
        Accepted hmacSha256 secret check row' := by
  obtain ⟨row, -, -, -, hmem, -, -, haccepted⟩ | ⟨hnone, -⟩ := firstOffer_cases hmacSha256 hsecret check rows
  · obtain ⟨row', hmem', hraised⟩ := exists_related h hmem
    obtain ⟨offered, signature, publishedAt, hfirst, hin, -, -, hoffered⟩ | ⟨-, hrejected⟩ :=
      firstOffer_cases hmacSha256 hsecret check rows'
    · exact ⟨offered, signature, publishedAt, hfirst, hin, hoffered⟩
    · exact absurd (hraised.accepted hmacSha256 haccepted) (hrejected row' hmem')
  · simp [hnone] at hfound

/-- The answer to a request. -/
def answer (config : UpdateConfig) (clock : Clock) (ctx : CustomerContext) (headers : UpdateHeaders)
    (path : UpdatePath) (s : UpdateStore) : Except UpdateCheckError (Option TauriUpdateResponse) :=
  (authorforgeUpdateCheck hmacSha256 config clock ctx headers path s).1

/-- The key is no address of its own. -/
def Relative (storageKey : String) : Prop :=
  ¬"https://".toList.isPrefixOf (trim storageKey).toList ∧ ¬"http://".toList.isPrefixOf (trim storageKey).toList

/-- Whoever is answered with an update is so under every higher percentage. -/
def OffersKept : Prop :=
  ∀ (config : UpdateConfig) (clock : Clock) (ctx : CustomerContext) (headers : UpdateHeaders) (path : UpdatePath)
    (s s' : UpdateStore), RaisesRollouts s s' →
      (∃ response, answer hmacSha256 config clock ctx headers path s = .ok (some response)) →
        ∃ response', answer hmacSha256 config clock ctx headers path s' = .ok (some response')

/-- The campaign that comes first has an artifact under a relative key, and there is no base for it. -/
def Unlocated (config : UpdateConfig) (clock : Clock) (ctx : CustomerContext) (headers : UpdateHeaders)
    (path : UpdatePath) (s : UpdateStore) : Prop :=
  trim config.releaseArtifactBaseUrl = "" ∧
    ∃ x c, Eligible hmacSha256 config clock ctx headers path s x c ∧ Relative c.artifact.val.storageKey

/-- The effect of higher percentages. -/
structure RolloutsMonotone : Prop where
  kept : ∀ (config : UpdateConfig) (clock : Clock) (ctx : CustomerContext) (headers : UpdateHeaders)
    (path : UpdatePath) (s s' : UpdateStore), RaisesRollouts s s' →
      (∃ response, answer hmacSha256 config clock ctx headers path s = .ok (some response)) →
        (∃ response', answer hmacSha256 config clock ctx headers path s' = .ok (some response')) ∨
        (Unlocated hmacSha256 config clock ctx headers path s' ∧
          answer hmacSha256 config clock ctx headers path s' =
            .error (.serviceUnavailable "Release artifact URL base is not configured."))
  nobody : ∀ (secret : String) (campaignId installationId : ℕ) (rolloutPercentage : ℤ), trim secret ≠ "" →
    rolloutPercentage ≤ 0 → rolloutAllows hmacSha256 secret campaignId installationId rolloutPercentage = .ok false
  everybody : ∀ (secret : String) (campaignId installationId : ℕ) (rolloutPercentage : ℤ), trim secret ≠ "" →
    100 ≤ rolloutPercentage → rolloutAllows hmacSha256 secret campaignId installationId rolloutPercentage = .ok true

lemma artifactUrl_cases (config : UpdateConfig) (storageKey : String) :
    (∃ url, artifactUrl config storageKey = .ok url) ∨
      (trim config.releaseArtifactBaseUrl = "" ∧ Relative storageKey ∧
        artifactUrl config storageKey =
          .error (.serviceUnavailable "Release artifact URL base is not configured.")) := by
  unfold artifactUrl
  dsimp only
  split_ifs with habsolute hbase
  · exact .inl ⟨_, rfl⟩
  · refine .inr ⟨hbase, ?_, rfl⟩
    simpa [Relative] using habsolute
  · exact .inl ⟨_, rfl⟩

/-- A response comes from a request that was read and from a row that was found. -/
lemma answer_some {config : UpdateConfig} {clock : Clock} {ctx : CustomerContext} {headers : UpdateHeaders}
    {path : UpdatePath} {s : UpdateStore} {response : TauriUpdateResponse}
    (h : answer hmacSha256 config clock ctx headers path s = .ok (some response)) :
    ∃ customerId check found, ctx.requireActive clock = .ok customerId ∧ trim config.updateRolloutSecret ≠ "" ∧
      readUpdateCheck headers path = .ok check ∧
      firstOffer hmacSha256 (trim config.updateRolloutSecret) check
        (candidateRows clock.now s.catalog (lookupInput customerId check) s.db) = .ok (some found) := by
  unfold answer authorforgeUpdateCheck at h
  cases hactive : ctx.requireActive clock with
  | error e => simp [hactive] at h
  | ok customerId =>
    simp only [hactive] at h
    split_ifs at h with hsecret
    cases hread : readUpdateCheck headers path with
    | error e => simp [hread] at h
    | ok check =>
      simp only [hread] at h
      cases hfirst : firstOffer hmacSha256 (trim config.updateRolloutSecret) check
          (candidateRows clock.now s.catalog (lookupInput customerId check) s.db) with
      | error e => simp [hfirst] at h
      | ok found =>
        cases found with
        | none => simp [hfirst] at h
        | some found => exact ⟨customerId, check, found, rfl, hsecret, rfl, hfirst⟩

/-- Higher percentages take no update away from a client whose artifacts can be located. -/
theorem rollouts_monotone : RolloutsMonotone hmacSha256 where
  kept := by
    rintro config clock ctx headers path s s' hraises ⟨response, hanswer⟩
    obtain ⟨customerId, check, found, hactive, hset, hread, hfound⟩ := answer_some hmacSha256 hanswer
    have hsecret : trim (trim config.updateRolloutSecret) ≠ "" := by
      rwa [trim_trim]
    have hdb : s'.db = s.db := by rw [hraises.rest]
    have hcatalog : s'.catalog = { s.catalog with campaigns := s'.catalog.campaigns } := by
      conv_lhs => rw [hraises.rest]
    have hrows : List.Forall₂ RaisedRow (candidateRows clock.now s.catalog (lookupInput customerId check) s.db)
        (candidateRows clock.now s'.catalog (lookupInput customerId check) s.db) :=
      forall₂_candidateRows hraises.campaigns hcatalog
    obtain ⟨row', signature, publishedAt, hfirst, hmem, haccepted⟩ :=
      firstOffer_raised hmacSha256 hsecret hrows hfound
    have hresponse : answer hmacSha256 config clock ctx headers path s' =
        (offerResponse config clock.now check row' signature publishedAt s').1 := by
      simp only [answer, authorforgeUpdateCheck, hactive, if_neg hset, hread, hdb, hfirst]
    rw [candidateRows_eq] at hmem
    obtain ⟨x, c, hlisted, rfl⟩ := mem_orderedRows.mp (List.mem_of_mem_take hmem)
    rw [hresponse]
    obtain ⟨url, hurl⟩ | ⟨hbase, hrelative, hurl⟩ := artifactUrl_cases config c.artifact.val.storageKey
    · exact .inl ⟨_, by simp only [offerResponse, candidateRow, hurl]; rfl⟩
    · refine .inr ⟨⟨hbase, x, c, ⟨customerId, check, hactive, hread, hdb ▸ hlisted, haccepted⟩, hrelative⟩, ?_⟩
      simp only [offerResponse, candidateRow, hurl]
      rfl
  nobody := by
    intro secret campaignId installationId rolloutPercentage hsecret hzero
    rw [rolloutAllows, if_neg hsecret, if_pos hzero]
  everybody := by
    intro secret campaignId installationId rolloutPercentage hsecret hfull
    rw [rolloutAllows, if_neg hsecret, if_neg (by omega), if_pos hfull]

end Route

def olderCampaign : Entry UpdateCampaign := ⟨11, ⟨1, 8, .active, 2, "standard", 100, false, none, 90⟩⟩

def olderRelease : Entry ProductRelease :=
  ⟨8, ⟨1, "1.5.0", "build-1", 2, .published, none, none, none, some 40⟩⟩

/-- An artifact with an address of its own. -/
def olderArtifact : Entry ReleaseArtifact :=
  ⟨9, ⟨8, "linux", "x86_64", "nsis", .updater, "https://releases.example/1.5.0", some "sig", .validated⟩⟩

/-- A newer campaign with a relative key, and an older one for everybody. -/
def relocatedStore (rolloutPercentage : ℤ) : UpdateStore :=
  ⟨clientRows, ⟨[clientCampaign 0 rolloutPercentage, olderCampaign], [clientRelease, olderRelease],
    [clientArtifact, olderArtifact], []⟩, [], 60⟩

def baselessConfig : UpdateConfig := ⟨"rollout-secret", ""⟩

lemma relocatedStore_raises : RaisesRollouts (relocatedStore 0) (relocatedStore 100) where
  campaigns := .cons ⟨by decide, rfl⟩ (.cons ⟨by decide, rfl⟩ .nil)
  rest := rfl

def newerRow (rolloutPercentage : ℤ) : UpdateCandidateRow :=
  candidateRow ⟨clientCampaign 0 rolloutPercentage, clientRelease, clientArtifact⟩

def olderRow : UpdateCandidateRow := candidateRow ⟨olderCampaign, olderRelease, olderArtifact⟩

lemma relocatedStore_rows {rolloutPercentage : ℤ} (h : rolloutPercentage = 0 ∨ rolloutPercentage = 100) :
    candidateRows 100 (relocatedStore rolloutPercentage).catalog (lookupInput 0 clientCheck) clientRows =
      [newerRow rolloutPercentage, olderRow] := by
  have hsorted : ((lookupContexts (lookupInput 0 clientCheck) clientRows).flatMap
      (candidates 100 (relocatedStore rolloutPercentage).catalog (lookupInput 0 clientCheck))).Pairwise
        (fun c c' => precedes c c' = true) := by
    obtain rfl | rfl := h <;> decide +kernel
  rw [candidateRows, List.mergeSort_of_pairwise hsorted]
  obtain rfl | rfl := h <;> decide +kernel

section Answers
variable (hmacSha256 : List UInt8 → List UInt8 → List UInt8)

lemma olderRow_accepted : Accepted hmacSha256 (trim baselessConfig.updateRolloutSecret) clientCheck olderRow where
  signed := ⟨"sig", clientArtifact_signed⟩
  dated := ⟨40, rfl⟩
  newer := by decide +kernel
  supported := by
    intro minimum h
    cases h
  updater := by
    intro minimum h
    cases h
  otherBuild := by
    intro h
    cases h
  inRollout := by
    show _ < 100 * 100
    omega

lemma newerRow_rejected : ¬Accepted hmacSha256 (trim baselessConfig.updateRolloutSecret) clientCheck (newerRow 0) := by
  intro h
  have hin := h.inRollout
  change _ < 0 * 100 at hin
  omega

lemma baselessConfig_secret : trim (trim baselessConfig.updateRolloutSecret) ≠ "" := by decide

/-- Before the change the older campaign is offered, whatever the base is. -/
lemma answer_before (base : String) : ∃ response, answer hmacSha256 ⟨"rollout-secret", base⟩ ⟨100, 100⟩ clientContext
    clientHeaders clientPath (relocatedStore 0) = .ok (some response) := by
  have hset : trim "rollout-secret" ≠ "" := by decide
  have hdb : (relocatedStore 0).db = clientRows := rfl
  obtain ⟨row, signature, publishedAt, hfirst, hmem, -, -, haccepted⟩ | ⟨-, hnone⟩ :=
    firstOffer_cases hmacSha256 baselessConfig_secret clientCheck [newerRow 0, olderRow]
  · have hrow : row = olderRow := by
      obtain rfl | rfl : row = newerRow 0 ∨ row = olderRow := by simpa using hmem
      · exact absurd haccepted (newerRow_rejected hmacSha256)
      · rfl
    have habsolute : "https://".toList.isPrefixOf (trim olderRow.storageKey).toList = true := by decide
    obtain ⟨url, hurl⟩ | ⟨-, hrelative, -⟩ := artifactUrl_cases ⟨"rollout-secret", base⟩ olderRow.storageKey
    · change firstOffer hmacSha256 (trim "rollout-secret") _ _ = _ at hfirst
      simp only [answer, authorforgeUpdateCheck, clientContext_active, if_neg hset, clientPath_read, hdb,
        relocatedStore_rows (.inl rfl), hfirst, offerResponse, hrow, hurl]
      exact ⟨_, rfl⟩
    · exact absurd habsolute hrelative.1
  · exact absurd (olderRow_accepted hmacSha256) (hnone olderRow (by simp))

/-- After it the newer one comes first. -/
lemma answer_after : answer hmacSha256 baselessConfig ⟨100, 100⟩ clientContext clientHeaders clientPath
    (relocatedStore 100) = .error (.serviceUnavailable "Release artifact URL base is not configured.") := by
  have hset : trim baselessConfig.updateRolloutSecret ≠ "" := by decide
  have hdb : (relocatedStore 100).db = clientRows := rfl
  have haccepted : Accepted hmacSha256 (trim baselessConfig.updateRolloutSecret) clientCheck (newerRow 100) :=
    last_accepted hmacSha256 0
  have hurl : artifactUrl baselessConfig (newerRow 100).storageKey =
      .error (.serviceUnavailable "Release artifact URL base is not configured.") := by
    decide +kernel
  obtain ⟨signature, publishedAt, hgates, -⟩ | ⟨-, hrejected⟩ :=
    offerGates_cases hmacSha256 baselessConfig_secret clientCheck (newerRow 100)
  · simp only [answer, authorforgeUpdateCheck, clientContext_active, if_neg hset, clientPath_read, hdb,
      relocatedStore_rows (.inr rfl), firstOffer, hgates, offerResponse, hurl]
    rfl
  · exact absurd haccepted hrejected

end Answers

/-- A raised rollout turns an offer into a refusal where the newer artifact cannot be located. -/
theorem raised_rollout_refused : ¬∃ hmacSha256, OffersKept hmacSha256 := by
  rintro ⟨hmacSha256, hkept⟩
  obtain ⟨response', hanswer⟩ := hkept baselessConfig ⟨100, 100⟩ clientContext clientHeaders clientPath
    (relocatedStore 0) (relocatedStore 100) relocatedStore_raises (answer_before hmacSha256 "")
  simp [answer_after] at hanswer

/-- Where there is a base, the same change keeps the client supplied. -/
theorem rollouts_monotone_located : ∃ response, answer (fun _ message => message) clientConfig ⟨100, 100⟩ clientContext
    clientHeaders clientPath (relocatedStore 100) = .ok (some response) := by
  obtain hkept | ⟨⟨hbase, -⟩, -⟩ := (rollouts_monotone fun _ message => message).kept clientConfig ⟨100, 100⟩
    clientContext clientHeaders clientPath (relocatedStore 0) (relocatedStore 100) relocatedStore_raises
    (answer_before (fun _ message => message) "releases.example")
  · exact hkept
  · have hset : trim clientConfig.releaseArtifactBaseUrl ≠ "" := by decide
    exact absurd hbase hset

end ForgeCustomer.RolloutChanges
