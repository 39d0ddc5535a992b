import ForgeCustomer.OperatorAudits

/-!
# Operator actions and their audit

The operations on releases, campaigns and holds, and with them all operator actions: which of them keep the
change and its audit row together. Some answer with a row that is read after the commit, through a connection
of its own.
-/
namespace ForgeCustomer.AuditedActions
open SqlTables SqlPrograms SqlStatements JsonValue StripeEvents DatabaseTables AuditWriters UpdatesRepository
  AdminReleases OperatorAudits TableName

section Changes
variable (s : ReleaseStore)

/-- No release of the product has this version and build. -/
def createsRelease (input : CreateReleaseInput) : Bool :=
  match productAndChannel s input.productKey input.releaseChannelKey with
  | .error _ => false
  | .ok (productId, _) => s.releases.all fun e =>
      !(e.val.productId == productId && e.val.version == input.version && e.val.buildId == input.buildId)

def validates (releaseId : ℕ) : Bool :=
  (s.release releaseId).any fun e =>
    (e.val.status == .draft || e.val.status == .artifactsPending) && s.validatedArtifacts releaseId != 0

def publishes (releaseId : ℕ) : Bool := (s.release releaseId).any fun e => e.val.status == .validated

def blocks (releaseId : ℕ) : Bool :=
  (s.release releaseId).any fun e => e.val.status != .blocked && e.val.status != .retired

/-- The request is accepted, and no campaign of the product has its name. -/
def createsCampaign (clock : Clock) (input : CreateCampaignInput) : Bool :=
  match productAndChannel s input.productKey input.releaseChannelKey with
  | .error _ => false
  | .ok (productId, channelId) =>
    (s.release input.targetReleaseId).any (fun e =>
      e.val.productId == productId && e.val.status != .blocked && e.val.status != .retired) &&
    campaignOk (newCampaign clock input productId channelId) &&
    s.campaigns.all fun e => !(e.val.productId == productId && e.val.campaignSlug == input.campaignSlug)

def movesCampaign (toStatus : CampaignStatus) (campaignId : ℕ) : Bool :=
  (s.campaign campaignId).any fun e => e.val.status != toStatus && e.val.status != .revoked &&
    (toStatus != .active || isPublished s e.val.targetReleaseId)

def movesRollout (rolloutPercentage : ℤ) (campaignId : ℕ) : Bool :=
  (s.campaign campaignId).any fun e => e.val.status != .revoked &&
    e.val.rolloutPercentage != rolloutPercentage &&
    decide (0 ≤ rolloutPercentage) && decide (rolloutPercentage ≤ 100)

end Changes

/-- The foreign keys that the rows of releases and campaigns are joined on. -/
structure Referenced (s : ReleaseStore) : Prop where
  releases : ∀ e ∈ s.releases,
    (s.product e.val.productId).isSome = true ∧ (s.channel e.val.releaseChannelId).isSome = true
  campaigns : ∀ e ∈ s.campaigns,
    (s.product e.val.productId).isSome = true ∧ (s.channel e.val.releaseChannelId).isSome = true

/-- A request that changes something is answered and recorded, any other leaves the store as it is. -/
structure Answers {α : Type} (operatorId reason : String) (changes : Bool) (s : ReleaseStore)
    (r : Except AdminError α × ReleaseStore) : Prop where
  idle : changes = false → r.2 = s
  answered : changes = true → r.1.toBool = true
  recorded : changes = true → Appends operatorId reason s.audits r.2.audits

section ReadBack
variable {α : Type} {operatorId reason : String} {changes : Bool} {s : ReleaseStore}
  {r : Except AdminError α × ReleaseStore}

lemma Answers.unchanged (hchanges : changes = false) (hsame : r.2 = s) : Answers operatorId reason changes s r := by
  subst hchanges
  exact ⟨fun _ => hsame, fun h => absurd h Bool.false_ne_true, fun h => absurd h Bool.false_ne_true⟩

lemma Answers.changed (hchanges : changes = true) (hanswered : r.1.toBool = true)
    (hrecorded : Appends operatorId reason s.audits r.2.audits) : Answers operatorId reason changes s r := by
  subst hchanges
  exact ⟨fun h => absurd h.symm Bool.false_ne_true, fun _ => hanswered, fun _ => hrecorded⟩

lemma readRelease_ok {id : ℕ} {e : Entry AdminRelease} (hfound : s.release id = some e)
    (hproduct : (s.product e.val.productId).isSome = true) (hchannel : (s.channel e.val.releaseChannelId).isSome = true) :
    (readRelease s id).toBool = true := by
  obtain ⟨product, hproduct⟩ := Option.isSome_iff_exists.mp hproduct
  obtain ⟨channel, hchannel⟩ := Option.isSome_iff_exists.mp hchannel
  simp [readRelease, hfound, hproduct, hchannel, Except.toBool]

lemma readCampaign_ok {id : ℕ} {e : Entry AdminCampaign} (hfound : s.campaign id = some e)
    (hproduct : (s.product e.val.productId).isSome = true) (hchannel : (s.channel e.val.releaseChannelId).isSome = true) :
    (readCampaign s id).toBool = true := by
  obtain ⟨product, hproduct⟩ := Option.isSome_iff_exists.mp hproduct
  obtain ⟨channel, hchannel⟩ := Option.isSome_iff_exists.mp hchannel
  simp [readCampaign, hfound, hproduct, hchannel, Except.toBool]

lemma find_updated {β : Type} {rows : List (Entry β)} {id : ℕ} {f : β → β} {e : Entry β}
    (h : rows.find? (fun e => e.id == id) = some e) :
    (updateRows (fun e => e.id == id) f rows).find? (fun e => e.id == id) = some ⟨e.id, f e.val⟩ := by
  have hit : e.id = id := by simpa using List.find?_some h
  rw [find_updateRows (fun _ _ _ => rfl), h]
  simp [updateEntry, hit]

lemma appends_audit (s : ReleaseStore) (record : OperatorAudit) :
    Appends record.operatorId record.reason s.audits (s.audit record).audits :=
  ⟨_, rfl, _, List.mem_singleton_self _, rfl, rfl, rfl⟩

lemma productAndChannel_ok {productKey channelKey : String} {productId channelId : ℕ}
    (h : productAndChannel s productKey channelKey = .ok (productId, channelId)) :
    (s.product productId).isSome = true ∧ (s.channel channelId).isSome = true := by
  unfold productAndChannel at h
  split at h
  · cases h
  rename_i product hproduct
  split at h
  · cases h
  rename_i channel hchannel
  cases h
  constructor
  · rw [ReleaseStore.product, List.find?_isSome]
    exact ⟨product, List.mem_of_find?_eq_some hproduct, by simp⟩
  · rw [ReleaseStore.channel, List.find?_isSome]
    exact ⟨channel, List.mem_of_find?_eq_some hchannel, by simp⟩

end ReadBack

section Releases
variable {s : ReleaseStore}

/-- The row of a release that the transaction has updated and recorded. -/
lemma readRelease_updated (h : Referenced s) {request : OperatorRequest} {e : Entry AdminRelease}
    (hfound : s.release request.targetId = some e) (f : AdminRelease → AdminRelease)
    (hproduct : (f e.val).productId = e.val.productId)
    (hchannel : (f e.val).releaseChannelId = e.val.releaseChannelId) (campaigns : List (Entry AdminCampaign))
    (eventType : String) (before after : Value) :
    (readRelease (({ s.updateRelease request.targetId f with campaigns := campaigns }).auditRequest request eventType
      "product_release" before after) request.targetId).toBool = true := by
  have hrefs := h.releases e (List.mem_of_find?_eq_some hfound)
  refine readRelease_ok (e := ⟨e.id, f e.val⟩) (find_updated hfound) ?_ ?_
  · dsimp only
    rw [hproduct]
    exact hrefs.1
  · dsimp only
    rw [hchannel]
    exact hrefs.2

lemma createRelease_answers (h : Referenced s) (input : CreateReleaseInput) :
    Answers input.operatorId input.reason (createsRelease s input) s (createRelease input s) := by
  unfold createRelease
  cases hkeys : productAndChannel s input.productKey input.releaseChannelKey with
  | error e => exact .unchanged (by simp [createsRelease, hkeys]) rfl
  | ok keys =>
    obtain ⟨productId, channelId⟩ := keys
    simp only [Except.bind]
    split
    · rename_i existing hexisting
      have hcreates : createsRelease s input = false := by
        simp only [createsRelease, hkeys]
        rw [List.all_eq_false]
        exact ⟨existing, List.mem_of_find?_eq_some hexisting, by simpa using List.find?_some hexisting⟩
      split
      · exact .unchanged hcreates rfl
      · exact .unchanged hcreates rfl
    · rename_i hnone
      have hcreates : createsRelease s input = true := by
        simp only [createsRelease, hkeys]
        rw [List.all_eq_true]
        intro e he
        rw [Bool.not_eq_true', ← Bool.not_eq_true]
        exact List.find?_eq_none.mp hnone e he
      refine .changed hcreates ?_ (appends_audit _ _)
      have hrefs := productAndChannel_ok hkeys
      cases hseq : s.release s.seq with
      | none =>
        refine readRelease_ok (e := ⟨s.seq, newRelease input productId channelId⟩) ?_ hrefs.1 hrefs.2
        rw [ReleaseStore.release] at hseq ⊢
        simp [ReleaseStore.audit, hseq]
      | some e =>
        have hold := h.releases e (List.mem_of_find?_eq_some hseq)
        refine readRelease_ok (e := e) ?_ hold.1 hold.2
        rw [ReleaseStore.release] at hseq ⊢
        simp [ReleaseStore.audit, hseq]

lemma validateRelease_answers (h : Referenced s) (clock : Clock) (request : OperatorRequest) :
    Answers request.operatorId request.reason (validates s request.targetId) s (validateRelease clock request s) := by
  unfold validateRelease
  cases hfound : s.release request.targetId with
  | none => exact .unchanged (by simp [validates, hfound]) rfl
  | some release =>
    have hread := readRelease_updated h hfound (markValidated clock.now) rfl rfl s.campaigns "release_validated"
      (statusJson release.val.status.asStr) (statusJson "validated")
    dsimp only
    cases hstatus : release.val.status with
    | blocked => exact .unchanged (by simp [validates, hfound, hstatus]) rfl
    | retired => exact .unchanged (by simp [validates, hfound, hstatus]) rfl
    | validated => exact .unchanged (by simp [validates, hfound, hstatus]) rfl
    | published => exact .unchanged (by simp [validates, hfound, hstatus]) rfl
    | draft | artifactsPending =>
      dsimp only
      by_cases hcount : s.validatedArtifacts request.targetId = 0
      · rw [if_pos hcount]
        exact .unchanged (by simp [validates, hfound, hcount]) rfl
      · rw [if_neg hcount]
        rw [hstatus] at hread
        exact .changed (by simp [validates, hfound, hstatus, hcount]) hread (appends_audit _ _)

lemma publishRelease_answers (h : Referenced s) (clock : Clock) (request : OperatorRequest) :
    Answers request.operatorId request.reason (publishes s request.targetId) s (publishRelease clock request s) := by
  unfold publishRelease
  cases hfound : s.release request.targetId with
  | none => exact .unchanged (by simp [publishes, hfound]) rfl
  | some release =>
    have hread := readRelease_updated h hfound (markPublished clock.now) rfl rfl s.campaigns "release_published"
      (statusJson release.val.status.asStr) (statusJson "published")
    dsimp only
    cases hstatus : release.val.status with
    | validated =>
      rw [hstatus] at hread
      exact .changed (by simp [publishes, hfound, hstatus]) hread (appends_audit _ _)
    | draft | artifactsPending | published | blocked | retired =>
      exact .unchanged (by simp [publishes, hfound, hstatus]) rfl

lemma blockRelease_answers (h : Referenced s) (request : OperatorRequest) :
    Answers request.operatorId request.reason (blocks s request.targetId) s (blockRelease request s) := by
  unfold blockRelease
  cases hfound : s.release request.targetId with
  | none => exact .unchanged (by simp [blocks, hfound]) rfl
  | some release =>
    have hread := readRelease_updated h hfound markBlocked rfl rfl
      (updateRows (isRunning request.targetId) (setStatus .paused) s.campaigns) "release_blocked"
      (statusJson release.val.status.asStr) (statusJson "blocked")
    dsimp only
    cases hstatus : release.val.status with
    | blocked | retired => exact .unchanged (by simp [blocks, hfound, hstatus]) rfl
    | draft | artifactsPending | validated | published =>
      rw [hstatus] at hread
      exact .changed (by simp [blocks, hfound, hstatus]) hread (appends_audit _ _)

end Releases

section Campaigns
variable {s : ReleaseStore}

lemma readCampaign_updated (h : Referenced s) {request : OperatorRequest} {e : Entry AdminCampaign}
    (hfound : s.campaign request.targetId = some e) (f : AdminCampaign → AdminCampaign)
    (hproduct : (f e.val).productId = e.val.productId)
    (hchannel : (f e.val).releaseChannelId = e.val.releaseChannelId) (eventType : String) (before after : Value) :
    (readCampaign ((s.updateCampaign request.targetId f).auditRequest request eventType
      "update_campaign" before after) request.targetId).toBool = true := by
  have hrefs := h.campaigns e (List.mem_of_find?_eq_some hfound)
  refine readCampaign_ok (e := ⟨e.id, f e.val⟩) (find_updated hfound) ?_ ?_
  · dsimp only
    rw [hproduct]
    exact hrefs.1
  · dsimp only
    rw [hchannel]
    exact hrefs.2

lemma createCampaign_answers (h : Referenced s) (clock : Clock) (input : CreateCampaignInput) :
    Answers input.operatorId input.reason (createsCampaign s clock input) s (createCampaign clock input s) := by
  unfold createCampaign
  cases hkeys : productAndChannel s input.productKey input.releaseChannelKey with
  | error e => exact .unchanged (by simp [createsCampaign, hkeys]) rfl
  | ok keys =>
    obtain ⟨productId, channelId⟩ := keys
    simp only [Except.bind]
    cases htarget : s.release input.targetReleaseId with
    | none => exact .unchanged (by simp [createsCampaign, hkeys, htarget]) rfl
    | some release =>
      dsimp only
      by_cases hproduct : release.val.productId = productId
      · rw [if_neg (not_not.mpr hproduct)]
        by_cases hstatus : release.val.status = .blocked ∨ release.val.status = .retired
        · rw [if_pos hstatus]
          refine .unchanged ?_ rfl
          rcases hstatus with hstatus | hstatus
          · simp [createsCampaign, hkeys, htarget, hstatus]
          · simp [createsCampaign, hkeys, htarget, hstatus]
        · rw [if_neg hstatus]
          push Not at hstatus
          by_cases hok : campaignOk (newCampaign clock input productId channelId) = true
          · rw [if_neg (by simp [hok])]
            split
            · rename_i existing hexisting
              refine .unchanged ?_ rfl
              have hknown : (s.campaigns.all fun e =>
                  !(e.val.productId == productId && e.val.campaignSlug == input.campaignSlug)) = false := by
                rw [List.all_eq_false]
                exact ⟨existing, List.mem_of_find?_eq_some hexisting, by simpa using List.find?_some hexisting⟩
              simp only [createsCampaign, hkeys, hknown, Bool.and_false]
            · rename_i hnone
              have hnew : (s.campaigns.all fun e =>
                  !(e.val.productId == productId && e.val.campaignSlug == input.campaignSlug)) = true := by
                rw [List.all_eq_true]
                intro e he
                rw [Bool.not_eq_true', ← Bool.not_eq_true]
                exact List.find?_eq_none.mp hnone e he
              have hcreates : createsCampaign s clock input = true := by
                simp only [createsCampaign, hkeys, htarget, hnew, hok]
                simp [hproduct, hstatus.1, hstatus.2]
              refine .changed hcreates ?_ (appends_audit _ _)
              have hrefs := productAndChannel_ok hkeys
              cases hseq : s.campaign s.seq with
              | none =>
                refine readCampaign_ok (e := ⟨s.seq, newCampaign clock input productId channelId⟩) ?_ hrefs.1 hrefs.2
                rw [ReleaseStore.campaign] at hseq ⊢
                simp [ReleaseStore.audit, hseq]
              | some e =>
                have hold := h.campaigns e (List.mem_of_find?_eq_some hseq)
                refine readCampaign_ok (e := e) ?_ hold.1 hold.2
                rw [ReleaseStore.campaign] at hseq ⊢
                simp [ReleaseStore.audit, hseq]
          · rw [if_pos (by simp [hok])]
            exact .unchanged (by simp [createsCampaign, hkeys, hok]) rfl
      · rw [if_pos hproduct]
        exact .unchanged (by simp [createsCampaign, hkeys, htarget, hproduct]) rfl

lemma campaignStatusMutation_answers (h : Referenced s) (toStatus : CampaignStatus) (eventType : String)
    (request : OperatorRequest) : Answers request.operatorId request.reason
      (movesCampaign s toStatus request.targetId) s (campaignStatusMutation toStatus eventType request s) := by
  unfold campaignStatusMutation
  cases hfound : s.campaign request.targetId with
  | none => exact .unchanged (by simp [movesCampaign, hfound]) rfl
  | some campaign =>
    dsimp only
    by_cases hsame : campaign.val.status = toStatus
    · rw [if_pos hsame]
      exact .unchanged (by simp [movesCampaign, hfound, hsame]) rfl
    rw [if_neg hsame]
    by_cases hunpublished : toStatus = .active ∧ isPublished s campaign.val.targetReleaseId = false
    · rw [if_pos hunpublished]
      exact .unchanged (by simp [movesCampaign, hfound, hunpublished]) rfl
    rw [if_neg hunpublished]
    by_cases hrevoked : campaign.val.status = .revoked
    · rw [if_pos hrevoked]
      exact .unchanged (by simp [movesCampaign, hfound, hrevoked]) rfl
    rw [if_neg hrevoked]
    have hmoves : movesCampaign s toStatus request.targetId = true := by
      have hallowed : toStatus ≠ .active ∨ isPublished s campaign.val.targetReleaseId = true := by
        by_cases hactive : toStatus = .active
        · exact .inr (by simpa [hactive] using hunpublished)
        · exact .inl hactive
      simpa [movesCampaign, hfound, hsame, hrevoked] using hallowed
    exact .changed hmoves (readCampaign_updated h hfound (setStatus toStatus) rfl rfl eventType _ _) (appends_audit _ _)

lemma setCampaignRollout_answers (h : Referenced s) (rolloutPercentage : ℤ) (request : OperatorRequest) :
    Answers request.operatorId request.reason (movesRollout s rolloutPercentage request.targetId) s
      (setCampaignRollout rolloutPercentage request s) := by
  unfold setCampaignRollout
  cases hfound : s.campaign request.targetId with
  | none => exact .unchanged (by simp [movesRollout, hfound]) rfl
  | some campaign =>
    dsimp only
    by_cases hrevoked : campaign.val.status = .revoked
    · rw [if_pos hrevoked]
      exact .unchanged (by simp [movesRollout, hfound, hrevoked]) rfl
    rw [if_neg hrevoked]
    by_cases hsame : campaign.val.rolloutPercentage = rolloutPercentage
    · rw [if_pos hsame]
      exact .unchanged (by simp [movesRollout, hfound, hsame]) rfl
    rw [if_neg hsame]
    by_cases hrange : 0 ≤ rolloutPercentage ∧ rolloutPercentage ≤ 100
    · rw [if_neg (not_not.mpr hrange)]
      exact .changed (by simp [movesRollout, hfound, hrevoked, hsame, hrange])
        (readCampaign_updated h hfound (setRollout rolloutPercentage) rfl rfl "update_campaign_rollout_changed" _ _)
        (appends_audit _ _)
    · rw [if_pos hrange]
      refine .unchanged ?_ rfl
      have hout : ¬0 ≤ rolloutPercentage ∨ ¬rolloutPercentage ≤ 100 := not_and_or.mp hrange
      rcases hout with hout | hout
      · simp [movesRollout, hfound, hout]
      · simp [movesRollout, hfound, hout]

end Campaigns

/-- Nothing has changed, or the operation has succeeded and is recorded. -/
def Settles {α : Type} (operatorId reason : String) (s : ReleaseStore) (r : Except AdminError α × ReleaseStore) : Prop :=
  r.2 = s ∨ r.1.toBool = true ∧ Appends operatorId reason s.audits r.2.audits

section Settled
variable {s : ReleaseStore}

lemma Answers.settles {α : Type} {operatorId reason : String} {changes : Bool}
    {r : Except AdminError α × ReleaseStore} (h : Answers operatorId reason changes s r) :
    Settles operatorId reason s r := by
  cases changes with
  | false => exact .inl (h.idle rfl)
  | true => exact .inr ⟨h.answered rfl, h.recorded rfl⟩

lemma registerArtifact_settles (input : RegisterArtifactInput) :
    Settles input.operatorId input.reason s (registerArtifact input s) := by
  unfold registerArtifact
  split
  · exact .inl rfl
  split
  · exact .inl rfl
  split
  · exact .inl rfl
  split
  · exact .inl rfl
  split
  · split
    · exact .inl rfl
    · exact .inl rfl
  · exact .inr ⟨rfl, appends_audit _ _⟩

lemma quarantineArtifact_settles (request : OperatorRequest) :
    Settles request.operatorId request.reason s (quarantineArtifact request s) := by
  unfold quarantineArtifact
  split
  · exact .inl rfl
  · exact .inr ⟨rfl, appends_audit _ _⟩

lemma putHold_audits (request : FleetHoldRequest) : (s.putHold request).2.audits = s.audits := by
  unfold ReleaseStore.putHold
  split <;> rfl

lemma addFleetHold_settles (fleets : List (Entry Fleet)) (request : FleetHoldRequest) :
    Settles request.operatorId request.reason s (addFleetHold fleets request s) := by
  unfold addFleetHold
  split
  · exact .inl rfl
  split
  · exact .inl rfl
  split
  · exact .inl rfl
  · refine .inr ⟨rfl, ?_⟩
    rw [← putHold_audits (s := s) request]
    exact appends_audit _ _

lemma removeFleetHold_settles (fleets : List (Entry Fleet)) (request : FleetHoldRequest) :
    Settles request.operatorId request.reason s (removeFleetHold fleets request s) := by
  unfold removeFleetHold
  split
  · exact .inl rfl
  · exact .inr ⟨rfl, appends_audit _ _⟩

end Settled

/-- Releases and campaigns beside the other tables, each part with its own share of the audit table. -/
structure OperatorStore where
  store : DbStore
  releases : ReleaseStore

inductive OperatorError where
  | admin (e : AdminError)
  | poolTimedOut
deriving DecidableEq

/-- An answer that is read after the commit needs a connection from the pool. -/
def readBack {α : Type} (connected : Bool) (r : Except AdminError α × ReleaseStore) :
    Except OperatorError α × ReleaseStore :=
  match r with
  | (.error e, s) => (.error (.admin e), s)
  | (.ok a, s) => (if connected then .ok a else .error .poolTimedOut, s)

/-- Whether an action has returned an error, and what it has left. -/
structure Ran (σ : Type) where
  failed : Bool
  store : σ

def ran {ε α σ : Type} (r : Except ε α × σ) : Ran σ := ⟨!r.1.toBool, r.2⟩

def runRelease (connected : Bool) (s : ReleaseStore) : ReleaseOperation → Ran ReleaseStore
  | .createRelease input => ran (readBack connected (AdminReleases.createRelease input s))
  | .registerArtifact input => ran (AdminReleases.registerArtifact input s)
  | .validateRelease clock request => ran (readBack connected (AdminReleases.validateRelease clock request s))
  | .publishRelease clock request => ran (readBack connected (AdminReleases.publishRelease clock request s))
  | .blockRelease request => ran (readBack connected (AdminReleases.blockRelease request s))
  | .quarantineArtifact request => ran (AdminReleases.quarantineArtifact request s)
  | .createCampaign clock input => ran (readBack connected (AdminReleases.createCampaign clock input s))
  | .pauseCampaign request => ran (readBack connected (AdminReleases.pauseCampaign request s))
  | .resumeCampaign request => ran (readBack connected (AdminReleases.resumeCampaign request s))
  | .revokeCampaign request => ran (readBack connected (AdminReleases.revokeCampaign request s))
  | .setCampaignRollout rollout request =>
    ran (readBack connected (AdminReleases.setCampaignRollout rollout request s))

/-- The operator and the reason of a request. -/
def releaseAuthor : ReleaseOperation → String × String
  | .createRelease input => (input.operatorId, input.reason)
  | .registerArtifact input => (input.operatorId, input.reason)
  | .createCampaign _ input => (input.operatorId, input.reason)
  | .validateRelease _ request | .publishRelease _ request | .blockRelease request | .quarantineArtifact request
  | .pauseCampaign request | .resumeCampaign request | .revokeCampaign request | .setCampaignRollout _ request =>
    (request.operatorId, request.reason)

/-- The request changes the store and is answered with a row read after that. -/
def releaseChanges (s : ReleaseStore) : ReleaseOperation → Bool
  | .createRelease input => createsRelease s input
  | .validateRelease _ request => validates s request.targetId
  | .publishRelease _ request => publishes s request.targetId
  | .blockRelease request => blocks s request.targetId
  | .createCampaign clock input => createsCampaign s clock input
  | .pauseCampaign request => movesCampaign s .paused request.targetId
  | .resumeCampaign request => movesCampaign s .active request.targetId
  | .revokeCampaign request => movesCampaign s .revoked request.targetId
  | .setCampaignRollout rollout request => movesRollout s rollout request.targetId
  | .registerArtifact _ | .quarantineArtifact _ => false

/-- The mutations of the admin, policy and privacy repositories, and the resync of a subscription. -/
inductive OperatorAction where
  | suspend (clock : Clock) (operatorId : String) (customerId : ℕ) (reason : String) (correlationId : Option String)
  | restore (clock : Clock) (operatorId : String) (customerId : ℕ) (reason : String) (correlationId : Option String)
  | requireMfa (clock : Clock) (operatorId : String) (customerId : ℕ) (required : Bool) (reason : String)
      (correlationId : Option String)
  | issueLicense (clock : Clock) (input : AdminRepository.IssueLicenseInput)
  | revokeLicense (clock : Clock) (operatorId : String) (licenseId : ℕ) (reason : String)
      (correlationId : Option String)
  | override (operatorId : String) (input : AdminRepository.OverrideInput) (correlationId : Option String)
  | adjustUsage (input : AdminRepository.UsageAdjustmentInput)
  | fleetPolicy (input : AdminRepository.UpdateFleetPolicyInput)
  | publishPolicy (clock : Clock) (input : CommercialPolicy.PublishInput)
  | advanceDeletion (clock : Clock) (operatorId : String) (requestId : ℕ) (coolingOff : Time) (reason : String)
      (correlationId : Option String)
  | rejectDeletion (operatorId : String) (requestId : ℕ) (reason : String) (correlationId : Option String)
  | executeDeletion (clock : Clock) (operatorId : String) (requestId : ℕ) (reason : String)
      (correlationId : Option String)
  | resync (clock : Clock) (subscriptionId : ℕ) (change : StripeSubscriptionChange) (operatorId reason : String)
      (correlationId : Option String)
  | release (operation : ReleaseOperation)
  | addFleetHold (request : FleetHoldRequest)
  | removeFleetHold (request : FleetHoldRequest)

/-- A transaction on the tables outside of releases. -/
def inStore {ε α : Type} (p : Tx ε α) (x : OperatorStore) : Ran OperatorStore :=
  let r := p.execute x.store
  ⟨!r.1.toBool, { x with store := r.2 }⟩

def inReleases (r : Ran ReleaseStore) (x : OperatorStore) : Ran OperatorStore :=
  ⟨r.failed, { x with releases := r.store }⟩

def OperatorAction.run (connected : Bool) (x : OperatorStore) : OperatorAction → Ran OperatorStore
  | .suspend clock operatorId customerId reason correlationId =>
    inStore (AdminRepository.suspendCustomer clock operatorId customerId reason correlationId) x
  | .restore clock operatorId customerId reason correlationId =>
    inStore (AdminRepository.restoreCustomer clock operatorId customerId reason correlationId) x
  | .requireMfa clock operatorId customerId required reason correlationId =>
    inStore (AdminRepository.setCustomerMfaRequirement clock operatorId customerId required reason correlationId) x
  | .issueLicense clock input => inStore (AdminRepository.issueLicense clock input) x
  | .revokeLicense clock operatorId licenseId reason correlationId =>
    inStore (AdminRepository.revokeLicense clock operatorId licenseId reason correlationId) x
  | .override operatorId input correlationId =>
    inStore (AdminRepository.setEntitlementOverride operatorId input correlationId) x
  | .adjustUsage input => inStore (AdminRepository.adjustUsage input) x
  | .fleetPolicy input => inStore (AdminRepository.updateFleetPolicy input) x
  | .publishPolicy clock input => inStore (CommercialPolicy.publish clock input) x
  | .advanceDeletion clock operatorId requestId coolingOff reason correlationId =>
    inStore (PrivacyRepository.advanceRequest clock operatorId requestId coolingOff reason correlationId) x
  | .rejectDeletion operatorId requestId reason correlationId =>
    inStore (PrivacyRepository.rejectRequest operatorId requestId reason correlationId) x
  | .executeDeletion clock operatorId requestId reason correlationId =>
    inStore (PrivacyRepository.executeDeletion clock operatorId requestId reason correlationId) x
  | .resync clock subscriptionId change operatorId reason correlationId =>
    inStore (CommerceRepository.applyAdminResync clock subscriptionId change operatorId reason correlationId) x
  | .release operation => inReleases (runRelease connected x.releases operation) x
  | .addFleetHold request => inReleases (ran (AdminReleases.addFleetHold (x.store.db fleets) request x.releases)) x
  | .removeFleetHold request =>
    inReleases (ran (AdminReleases.removeFleetHold (x.store.db fleets) request x.releases)) x

def OperatorAction.author : OperatorAction → String × String
  | .suspend _ operatorId _ reason _ | .restore _ operatorId _ reason _ => (operatorId, reason)
  | .requireMfa _ operatorId _ _ reason _ => (operatorId, reason)
  | .issueLicense _ input => (input.operatorId, input.reason)
  | .revokeLicense _ operatorId _ reason _ => (operatorId, reason)
  | .override operatorId input _ => (operatorId, input.reason)
  | .adjustUsage input => (input.operatorId, input.reason)
  | .fleetPolicy input => (input.operatorId, input.reason)
  | .publishPolicy _ input => (input.operatorId, input.reason)
  | .advanceDeletion _ operatorId _ _ reason _ => (operatorId, reason)
  | .rejectDeletion operatorId _ reason _ => (operatorId, reason)
  | .executeDeletion _ operatorId _ reason _ => (operatorId, reason)
  | .resync _ _ _ operatorId reason _ => (operatorId, reason)
  | .release operation => releaseAuthor operation
  | .addFleetHold request | .removeFleetHold request => (request.operatorId, request.reason)

def OperatorAction.changesBeforeReading (s : ReleaseStore) : OperatorAction → Bool
  | .release operation => releaseChanges s operation
  | _ => false

/-- No table but the audit one has changed. -/
structure Unchanged (x x' : OperatorStore) : Prop where
  store : ∀ t, t ≠ commercialAuditEvents → x'.store.db t = x.store.db t
  products : x'.releases.products = x.releases.products
  channels : x'.releases.channels = x.releases.channels
  releases : x'.releases.releases = x.releases.releases
  artifacts : x'.releases.artifacts = x.releases.artifacts
  campaigns : x'.releases.campaigns = x.releases.campaigns
  holds : x'.releases.holds = x.releases.holds

def SameAudits (x x' : OperatorStore) : Prop :=
  x'.store.db commercialAuditEvents = x.store.db commercialAuditEvents ∧ x'.releases.audits = x.releases.audits

/-- The operator has a new audit row with the reason given. -/
def Recorded (author : String × String) (x x' : OperatorStore) : Prop :=
  Appends author.1 author.2 (x.store.db commercialAuditEvents) (x'.store.db commercialAuditEvents) ∨
    Appends author.1 author.2 x.releases.audits x'.releases.audits

/-- A change comes with its audit row, and an error with neither. -/
structure Complete (author : String × String) (x : OperatorStore) (r : Ran OperatorStore) : Prop where
  recorded : ¬Unchanged x r.store → Recorded author x r.store
  restored : r.failed = true → Unchanged x r.store ∧ SameAudits x r.store

section Complete
variable {operatorId reason : String} {author : String × String} {x : OperatorStore}

lemma Unchanged.refl (x : OperatorStore) : Unchanged x x := ⟨fun _ _ => rfl, rfl, rfl, rfl, rfl, rfl, rfl⟩

lemma complete_inStore {ε α : Type} {p : Tx ε α} (hp : Audits operatorId reason p) :
    Complete (operatorId, reason) x (inStore p x) := by
  rcases hexec : p.execute x.store with ⟨r, s'⟩
  have hrun : inStore p x = ⟨!r.toBool, { x with store := s' }⟩ := by
    simp only [inStore, hexec]
  rw [hrun]
  cases r with
  | ok a =>
    refine ⟨fun hchanged => ?_, fun hfailed => absurd hfailed Bool.false_ne_true⟩
    rcases hp x.store a s' (Prog.run_of_execute_ok hexec) with hsame | happends
    · exact absurd ⟨fun t _ => congrFun hsame t, rfl, rfl, rfl, rfl, rfl, rfl⟩ hchanged
    · exact .inl happends
  | error e =>
    have hdb : s'.db = x.store.db := Prog.execute_error_db hexec
    have hsame : Unchanged x { x with store := s' } := ⟨fun t _ => congrFun hdb t, rfl, rfl, rfl, rfl, rfl, rfl⟩
    exact ⟨fun hchanged => absurd hsame hchanged, fun _ => ⟨hsame, congrFun hdb _, rfl⟩⟩

lemma complete_idle {failed : Bool} : Complete author x ⟨failed, x⟩ :=
  ⟨fun hchanged => absurd (Unchanged.refl x) hchanged, fun _ => ⟨.refl x, rfl, rfl⟩⟩

lemma complete_inReleases {α : Type} {r : Except AdminError α × ReleaseStore}
    (h : Settles author.1 author.2 x.releases r) : Complete author x (inReleases (ran r) x) := by
  rcases h with hsame | ⟨hanswered, hrecorded⟩
  · rw [inReleases, ran, hsame]
    exact complete_idle
  · refine ⟨fun _ => .inr hrecorded, fun hfailed => ?_⟩
    simp only [inReleases, ran, hanswered] at hfailed
    exact absurd hfailed Bool.false_ne_true

/-- Whether a change stays together with its answer is up to the connection it is read through. -/
lemma complete_readBack_iff {α : Type} {changes connected : Bool} {r : Except AdminError α × ReleaseStore}
    (h : Answers author.1 author.2 changes x.releases r) :
    Complete author x (inReleases (ran (readBack connected r)) x) ↔ connected = true ∨ changes = false := by
  obtain ⟨answer, s'⟩ := r
  have hstore : ∀ b, (readBack b (answer, s')).2 = s' := by
    intro b
    cases answer <;> rfl
  constructor
  · intro hcomplete
    cases connected with
    | true => exact .inl rfl
    | false =>
      cases changes with
      | false => exact .inr rfl
      | true =>
        have hfailed : (inReleases (ran (readBack false (answer, s'))) x).failed = true := by
          cases answer <;> rfl
        have haudits : (readBack false (answer, s')).2.audits = x.releases.audits :=
          (hcomplete.restored hfailed).2.2
        rw [hstore] at haudits
        exact absurd haudits (h.recorded rfl).ne
  · rintro (rfl | rfl)
    · have hsettles : Settles author.1 author.2 x.releases (answer, s') := h.settles
      cases answer with
      | ok a => exact complete_inReleases hsettles
      | error e => exact complete_inReleases hsettles
    · have hsame : s' = x.releases := h.idle rfl
      rw [inReleases, ran, hstore, hsame]
      exact complete_idle

/-- A change and its audit row are stored together, and neither when an error is returned, unless the row of a
changed release or campaign cannot be read after the commit. -/
theorem complete_iff (action : OperatorAction) (connected : Bool) (h : Referenced x.releases) :
    Complete action.author x (action.run connected x) ↔
      connected = true ∨ action.changesBeforeReading x.releases = false := by
  have hwhole : ∀ {r : Ran OperatorStore}, action.changesBeforeReading x.releases = false →
      Complete action.author x r → (Complete action.author x r ↔
        connected = true ∨ action.changesBeforeReading x.releases = false) :=
    fun hchanges hcomplete => iff_of_true hcomplete (.inr hchanges)
  cases action with
  | suspend | restore => exact hwhole rfl (complete_inStore (audits_setCustomerStatus _ _ _))
  | requireMfa => exact hwhole rfl (complete_inStore (audits_setCustomerMfaRequirement _ _))
  | issueLicense => exact hwhole rfl (complete_inStore (audits_issueLicense _))
  | revokeLicense => exact hwhole rfl (complete_inStore (audits_revokeLicense _))
  | override => exact hwhole rfl (complete_inStore (audits_setEntitlementOverride _))
  | adjustUsage => exact hwhole rfl (complete_inStore (audits_adjustUsage _))
  | fleetPolicy => exact hwhole rfl (complete_inStore (audits_updateFleetPolicy _))
  | publishPolicy => exact hwhole rfl (complete_inStore (audits_publish _))
  | advanceDeletion => exact hwhole rfl (complete_inStore (audits_advanceRequest _ _))
  | rejectDeletion => exact hwhole rfl (complete_inStore (audits_rejectRequest _))
  | executeDeletion => exact hwhole rfl (complete_inStore (audits_executeDeletion _))
  | resync => exact hwhole rfl (complete_inStore (audits_applyAdminResync _ _))
  | addFleetHold => exact hwhole rfl (complete_inReleases (addFleetHold_settles _ _))
  | removeFleetHold => exact hwhole rfl (complete_inReleases (removeFleetHold_settles _ _))
  | release operation =>
    cases operation with
    | registerArtifact => exact hwhole rfl (complete_inReleases (registerArtifact_settles _))
    | quarantineArtifact => exact hwhole rfl (complete_inReleases (quarantineArtifact_settles _))
    | createRelease => exact complete_readBack_iff (createRelease_answers h _)
    | validateRelease => exact complete_readBack_iff (validateRelease_answers h _ _)
    | publishRelease => exact complete_readBack_iff (publishRelease_answers h _ _)
    | blockRelease => exact complete_readBack_iff (blockRelease_answers h _)
    | createCampaign => exact complete_readBack_iff (createCampaign_answers h _ _)
    | pauseCampaign | resumeCampaign | revokeCampaign =>
      exact complete_readBack_iff (campaignStatusMutation_answers h _ _ _)
    | setCampaignRollout => exact complete_readBack_iff (setCampaignRollout_answers h _ _)

end Complete

/-- A product with one channel. -/
def stableStore : OperatorStore where
  store := ⟨Db.empty Row, 0⟩
  releases :=
    { products := [⟨0, ⟨"authorforge", .active⟩⟩]
      channels := [⟨1, ⟨0, "stable"⟩⟩]
      releases := []
      artifacts := []
      campaigns := []
      holds := []
      audits := []
      seq := 2 }

def firstRelease : OperatorAction :=
  .release (.createRelease ⟨"op", "authorforge", "1.0.0", "b1", "stable", none, none, none, "first release", none⟩)

lemma stableStore_referenced : Referenced stableStore.releases := ⟨by decide, by decide⟩

/-- All connections are taken when the new release is to be read. -/
theorem unread_release_stored : (firstRelease.run false stableStore).failed = true ∧
    ¬Complete firstRelease.author stableStore (firstRelease.run false stableStore) := by
  refine ⟨rfl, fun hcomplete => ?_⟩
  have hreleases : (firstRelease.run false stableStore).store.releases.releases = [] :=
    (hcomplete.restored rfl).1.releases
  exact absurd hreleases (by decide)

theorem complete_iff_firstRelease : Complete ("op", "first release") stableStore (firstRelease.run true stableStore) :=
  (complete_iff firstRelease true stableStore_referenced).mpr (.inl rfl)

end ForgeCustomer.AuditedActions
