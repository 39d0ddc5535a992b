import ForgeCustomer.ReleaseSafety

/-!
# What is published

A release is validated once it has a validated artifact, and published later. Publication looks at the status
of the release only.
-/
namespace ForgeCustomer.ReleasePipeline
open SqlTables AuditWriters UpdatesRepository AdminReleases ReleaseSafety

variable {s s' : ReleaseStore}

/-- `P` holds of every state and the operation that starts in it. -/
def EachStep (P : ReleaseStore → ReleaseOperation → Prop) : List ReleaseOperation → ReleaseStore → Prop
  | [], _ => True
  | op :: ops, s => P s op ∧ EachStep P ops (op.apply s)

/-- Some artifact of the release is validated. -/
def HasValidated (s : ReleaseStore) (releaseId : ℕ) : Prop :=
  ∃ a ∈ s.artifacts, a.val.releaseId = releaseId ∧ a.val.status = .validated

def isStatus (status : ReleaseStatus) (releaseId : ℕ) (s : ReleaseStore) : Prop :=
  ∃ r ∈ s.releases, r.id = releaseId ∧ r.val.status = status

/-- A release that the operation publishes has a validated artifact then. -/
def PublishesValidated (s : ReleaseStore) (op : ReleaseOperation) : Prop :=
  ∀ releaseId, isStatus .published releaseId (op.apply s) → ¬isStatus .published releaseId s →
    HasValidated (op.apply s) releaseId

/-- The operation does not quarantine the last validated artifact of a validated release. -/
def SparesLast (s : ReleaseStore) : ReleaseOperation → Prop
  | .quarantineArtifact request => ∀ r ∈ s.releases, r.val.status = .validated →
      ∃ a ∈ s.artifacts, a.val.releaseId = r.id ∧ a.val.status = .validated ∧ a.id ≠ request.targetId
  | _ => True

/-- Validated releases have a validated artifact. -/
def Ready (s : ReleaseStore) : Prop := ∀ releaseId, isStatus .validated releaseId s → HasValidated s releaseId

lemma hasValidated_iff {releaseId : ℕ} : s.validatedArtifacts releaseId ≠ 0 ↔ HasValidated s releaseId := by
  rw [ReleaseStore.validatedArtifacts, ← Nat.pos_iff_ne_zero, List.length_pos_iff_exists_mem]
  simp only [List.mem_filter, Bool.and_eq_true, beq_iff_eq]
  rfl

/-- Every release that is validated or published was so before, and validated artifacts stay. -/
structure Unpromoted (s s' : ReleaseStore) : Prop where
  releases : ∀ status ∈ [ReleaseStatus.validated, .published], ∀ id, isStatus status id s' → isStatus status id s
  artifacts : ∀ id, HasValidated s id → HasValidated s' id

lemma Unpromoted.ready (h : Unpromoted s s') (hs : Ready s) : Ready s' := fun id hid =>
  h.artifacts id (hs id (h.releases .validated (by simp) id hid))

/-- A change of releases that never leads to a validated or published one. -/
lemma isStatus_updateRows {p : Entry AdminRelease → Bool} {f : AdminRelease → AdminRelease} {status : ReleaseStatus}
    {id : ℕ} (hreleases : s'.releases = updateRows p f s.releases) (hf : ∀ v, (f v).status = status → v.status = status)
    (h : isStatus status id s') : isStatus status id s := by
  obtain ⟨r', hr', hid, hstatus⟩ := h
  rw [hreleases] at hr'
  obtain ⟨r, hr, rfl⟩ := mem_updateRows.mp hr'
  split at hid
  · rename_i hp
    rw [if_pos hp] at hstatus
    exact ⟨r, hr, hid, hf _ hstatus⟩
  · rename_i hp
    rw [if_neg hp] at hstatus
    exact ⟨r, hr, hid, hstatus⟩

lemma hasValidated_of_subset {id : ℕ} (hsub : ∀ a ∈ s.artifacts, a ∈ s'.artifacts) (h : HasValidated s id) :
    HasValidated s' id := by
  obtain ⟨a, ha, hrest⟩ := h
  exact ⟨a, hsub a ha, hrest⟩

/-- A new draft. -/
lemma Unpromoted.append {v : AdminRelease} (hdraft : v.status = .draft)
    (hreleases : s'.releases = s.releases ++ [⟨s.seq, v⟩]) (hartifacts : s'.artifacts = s.artifacts) :
    Unpromoted s s' := by
  constructor
  · rintro status hstatus id ⟨r, hr, hid, hr'⟩
    rw [hreleases] at hr
    rcases List.mem_append.mp hr with hr | hr
    · exact ⟨r, hr, hid, hr'⟩
    · obtain rfl := List.mem_singleton.mp hr
      rw [← hr', hdraft] at hstatus
      simp at hstatus
  · exact fun id => hasValidated_of_subset fun a ha => hartifacts ▸ ha

/-- Campaigns are another table. -/
lemma Unpromoted.of_tables (hreleases : s'.releases = s.releases) (hartifacts : s'.artifacts = s.artifacts) :
    Unpromoted s s' := by
  constructor
  · rintro status - id ⟨r, hr, hrest⟩
    exact ⟨r, hreleases ▸ hr, hrest⟩
  · exact fun id => hasValidated_of_subset fun a ha => hartifacts ▸ ha

/-- An update to statuses other than validated and published. -/
lemma Unpromoted.update {p : Entry AdminRelease → Bool} {f : AdminRelease → AdminRelease}
    (hreleases : s'.releases = updateRows p f s.releases)
    (hf : ∀ v, ∀ status ∈ [ReleaseStatus.validated, .published], (f v).status = status → v.status = status)
    (hartifacts : ∀ a ∈ s.artifacts, a ∈ s'.artifacts) : Unpromoted s s' where
  releases := fun status hstatus _ hid => isStatus_updateRows hreleases (fun v hv => hf v status hstatus hv) hid
  artifacts := fun _ => hasValidated_of_subset hartifacts

lemma markPending_promotes {v : AdminRelease} {status : ReleaseStatus}
    (hstatus : status ∈ [ReleaseStatus.validated, .published]) (h : (markPending v).status = status) :
    v.status = status := by
  unfold markPending at h
  split_ifs at h
  · rw [← h] at hstatus
    simp at hstatus
  · exact h

/-- One operation: validated releases keep a validated artifact, and a published one has one. -/
structure Sound (s s' : ReleaseStore) : Prop where
  ready : Ready s'
  published : ∀ releaseId, isStatus .published releaseId s' → ¬isStatus .published releaseId s → HasValidated s' releaseId

lemma Sound.refl (hs : Ready s) : Sound s s := ⟨hs, fun _ h hnot => absurd h hnot⟩

lemma Unpromoted.sound (h : Unpromoted s s') (hs : Ready s) : Sound s s' where
  ready := h.ready hs
  published := fun id hpublished hnot => absurd (h.releases .published (by simp) id hpublished) hnot

/-- The rows of an update of one release. -/
lemma isStatus_updated {request : OperatorRequest} {f : AdminRelease → AdminRelease} {status : ReleaseStatus} {id : ℕ}
    (hreleases : s'.releases = updateRows (fun e => e.id == request.targetId) f s.releases) (h : isStatus status id s') :
    isStatus status id s ∨ id = request.targetId ∧ ∃ v, (f v).status = status := by
  obtain ⟨r', hr', hid, hstatus⟩ := h
  rw [hreleases] at hr'
  obtain ⟨r, hr, rfl⟩ := mem_updateRows.mp hr'
  split at hid
  · rename_i hp
    rw [if_pos hp] at hstatus
    exact .inr ⟨hid.symm.trans (by simpa using hp), r.val, hstatus⟩
  · rename_i hp
    rw [if_neg hp] at hstatus
    exact .inl ⟨r, hr, hid, hstatus⟩

/-- Every operation that spares the last validated artifact of a validated release is sound. -/
lemma sound_of_applied {op : ReleaseOperation} (h : Applied s op s') (hs : Ready s) (hspares : SparesLast s op) :
    Sound s s' := by
  cases h with
  | idle => exact .refl hs
  | created input productId channelId record known => exact Unpromoted.sound (.append rfl rfl rfl) hs
  | registered input r record found changeable =>
    have hpending : ∀ v, ∀ status ∈ [ReleaseStatus.validated, .published],
        (markPending v).status = status → v.status = status := fun _ _ hstatus hv => markPending_promotes hstatus hv
    exact Unpromoted.sound (.update rfl hpending fun a ha => List.mem_append_left _ ha) hs
  | validated clock request r record found changeable artifact =>
    have hhas := hasValidated_iff.mp artifact
    constructor
    · intro id hid
      rcases isStatus_updated rfl hid with hold | ⟨rfl, -⟩
      · exact hs id hold
      · exact hhas
    · intro id hid hnot
      rcases isStatus_updated rfl hid with hold | ⟨-, v, hv⟩
      · exact absurd hold hnot
      · cases hv
  | published clock request r record found ready =>
    obtain ⟨hmem, hrid⟩ := release_spec found
    have hhas := hs request.targetId ⟨r, hmem, hrid, ready⟩
    constructor
    · intro id hid
      rcases isStatus_updated rfl hid with hold | ⟨-, v, hv⟩
      · exact hs id hold
      · cases hv
    · intro id hid hnot
      rcases isStatus_updated rfl hid with hold | ⟨rfl, -⟩
      · exact absurd hold hnot
      · exact hhas
  | blocked request r record found unblocked =>
    have hblocks : ∀ v, ∀ status ∈ [ReleaseStatus.validated, .published],
        (markBlocked v).status = status → v.status = status := by
      intro v status hstatus hv
      rw [← hv] at hstatus
      simp [markBlocked] at hstatus
    exact Unpromoted.sound (.update rfl hblocks fun a ha => ha) hs
  | quarantined request a record found =>
    constructor
    · rintro id ⟨r, hr, rfl, hvalidated⟩
      obtain ⟨a, ha, howner, hstatus, hother⟩ := hspares r hr hvalidated
      have hkept : (a.id == request.targetId && a.val.status != ArtifactStatus.quarantined) = false := by
        simp [hother]
      exact ⟨a, mem_updateRows_of_not ha hkept, howner, hstatus⟩
    · exact fun id hid hnot => absurd hid hnot
  | drafted clock input productId channelId record known => exact Unpromoted.sound (.of_tables rfl rfl) hs
  | moved _ status request c record move found unrevoked target => exact Unpromoted.sound (.of_tables rfl rfl) hs
  | rolled percentage request c record found unrevoked => exact Unpromoted.sound (.of_tables rfl rfl) hs

/-- In a run that never quarantines the last validated artifact of a validated release, a release has a
validated artifact at the moment it is published. -/
theorem published_with_validated_artifact {ops : List ReleaseOperation} (hs : Ready s) (hspares : EachStep SparesLast ops s) :
    EachStep PublishesValidated ops s := by
  induction ops generalizing s with
  | nil => trivial
  | cons op ops ih =>
    have hsound := sound_of_applied (apply_applied op s) hs hspares.1
    exact ⟨hsound.published, ih hsound.ready hspares.2⟩

/-- A release is validated, its artifact is quarantined, and it is published. -/
def emptiedRelease : List ReleaseOperation :=
  [.createRelease ⟨"op", "authorforge", "1.0.0", "b1", "stable", none, none, none, "first", none⟩,
    .registerArtifact ⟨"op", 2, "linux", "x86_64", "appimage", .updater, "key", 1,
      "0000000000000000000000000000000000000000000000000000000000000000", some "sig", "k", "verified", "first", none⟩,
    .validateRelease ⟨0, 0⟩ ⟨"op", 2, "first", none⟩, .quarantineArtifact ⟨"op", 4, "bad", none⟩,
    .publishRelease ⟨0, 0⟩ ⟨"op", 2, "first", none⟩]

theorem published_without_artifact :
    isStatus .published 2 (runAll emptiedRelease sampleReleases) ∧
    ¬HasValidated (runAll emptiedRelease sampleReleases) 2 ∧
    ¬EachStep PublishesValidated emptiedRelease sampleReleases := by
  have hpublished : isStatus .published 2 (runAll emptiedRelease sampleReleases) := by
    unfold isStatus
    decide
  have hempty : ¬HasValidated (runAll emptiedRelease sampleReleases) 2 := by
    unfold HasValidated
    decide
  have hbefore : ¬isStatus .published 2 (runAll (emptiedRelease.take 4) sampleReleases) := by
    unfold isStatus
    decide
  refine ⟨hpublished, hempty, fun h => ?_⟩
  obtain ⟨-, -, -, -, hlast, -⟩ := h
  exact hempty (hlast 2 hpublished hbefore)

def stableArtifact (packageFormat storageKey : String) : ReleaseOperation :=
  .registerArtifact ⟨"op", 2, "linux", "x86_64", packageFormat, .updater, storageKey, 1,
    "0000000000000000000000000000000000000000000000000000000000000000", some "sig", "k", "verified", "first", none⟩

/-- Release 2 is validated with the artifacts 4 and 6. -/
def validatedReleases : ReleaseStore :=
  runAll [stableRelease "1.0.0", stableArtifact "appimage" "key", stableArtifact "deb" "key2",
    .validateRelease ⟨0, 0⟩ ⟨"op", 2, "first", none⟩] sampleReleases

/-- One of them is quarantined before the release is published, the other one afterwards. -/
def partialQuarantine : List ReleaseOperation :=
  [.quarantineArtifact ⟨"op", 4, "bad", none⟩, .publishRelease ⟨0, 0⟩ ⟨"op", 2, "first", none⟩,
    .quarantineArtifact ⟨"op", 6, "bad", none⟩]

lemma validatedReleases_ready : Ready validatedReleases := by
  have hready : ∀ r ∈ validatedReleases.releases, r.val.status = .validated →
      ∃ a ∈ validatedReleases.artifacts, a.val.releaseId = r.id ∧ a.val.status = .validated := by decide
  rintro id ⟨r, hr, rfl, hstatus⟩
  exact hready r hr hstatus

lemma partialQuarantine_spares : EachStep SparesLast partialQuarantine validatedReleases := by
  have hbefore : SparesLast validatedReleases (.quarantineArtifact ⟨"op", 4, "bad", none⟩) := by
    unfold SparesLast
    decide
  have hafter : SparesLast (runAll (partialQuarantine.take 2) validatedReleases)
      (.quarantineArtifact ⟨"op", 6, "bad", none⟩) := by
    unfold SparesLast
    decide
  exact ⟨hbefore, trivial, hafter, trivial⟩

theorem published_with_validated_artifact_sample :
    isStatus .validated 2 validatedReleases ∧
    isStatus .published 2 (runAll partialQuarantine validatedReleases) ∧
    EachStep PublishesValidated partialQuarantine validatedReleases := by
  have hvalidated : isStatus .validated 2 validatedReleases := by
    unfold isStatus
    decide
  have hpublished : isStatus .published 2 (runAll partialQuarantine validatedReleases) := by
    unfold isStatus
    decide
  exact ⟨hvalidated, hpublished,
    published_with_validated_artifact validatedReleases_ready partialQuarantine_spares⟩

end ForgeCustomer.ReleasePipeline
