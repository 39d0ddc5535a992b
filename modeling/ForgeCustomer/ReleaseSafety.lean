import ForgeCustomer.AdminReleases

/-!
# Releases and campaigns over whole runs

Campaigns only run for published releases, revocations and blocks are final, and a published release keeps
its artifacts.
-/
namespace ForgeCustomer.ReleaseSafety
open SqlTables AuditWriters UpdatesRepository AdminReleases

/-- The status that a campaign is moved to, and the request that moves it. -/
def moveOf : ReleaseOperation → Option (CampaignStatus × OperatorRequest)
  | .pauseCampaign request => some (.paused, request)
  | .resumeCampaign request => some (.active, request)
  | .revokeCampaign request => some (.revoked, request)
  | _ => none

/-- Everything that an operation can do, with the guards that it has passed. -/
inductive Applied (s : ReleaseStore) : ReleaseOperation → ReleaseStore → Prop
  | idle (op : ReleaseOperation) : Applied s op s
  | created (input : CreateReleaseInput) (productId channelId : ℕ) (record : OperatorAudit)
      (known : productAndChannel s input.productKey input.releaseChannelKey = .ok (productId, channelId)) :
      Applied s (.createRelease input) (ReleaseStore.audit { s with
        releases := s.releases ++ [⟨s.seq, newRelease input productId channelId⟩]
        seq := s.seq + 1 } record)
  | registered (input : RegisterArtifactInput) (r : Entry AdminRelease) (record : OperatorAudit)
      (found : s.release input.releaseId = some r) (changeable : immutableStatus r.val.status = false) :
      Applied s (.registerArtifact input) ((ReleaseStore.updateRelease { s with
        artifacts := s.artifacts ++ [⟨s.seq, newArtifact input⟩]
        seq := s.seq + 1 } input.releaseId markPending).audit record)
  | validated (clock : Clock) (request : OperatorRequest) (r : Entry AdminRelease) (record : OperatorAudit)
      (found : s.release request.targetId = some r) (changeable : immutableStatus r.val.status = false)
      (artifact : s.validatedArtifacts request.targetId ≠ 0) :
      Applied s (.validateRelease clock request)
        ((s.updateRelease request.targetId (markValidated clock.now)).audit record)
  | published (clock : Clock) (request : OperatorRequest) (r : Entry AdminRelease) (record : OperatorAudit)
      (found : s.release request.targetId = some r) (ready : r.val.status = .validated) :
      Applied s (.publishRelease clock request)
        ((s.updateRelease request.targetId (markPublished clock.now)).audit record)
  | blocked (request : OperatorRequest) (r : Entry AdminRelease) (record : OperatorAudit)
      (found : s.release request.targetId = some r) (unblocked : r.val.status ≠ .blocked) :
      Applied s (.blockRelease request)
        (((s.updateRelease request.targetId markBlocked).pauseCampaigns request.targetId).audit record)
  | quarantined (request : OperatorRequest) (a : Entry AdminArtifact) (record : OperatorAudit)
      (found : s.artifact request.targetId = some a) :
      Applied s (.quarantineArtifact request) ((ReleaseStore.pauseCampaigns { s with
        artifacts := updateRows (fun e => e.id == request.targetId && e.val.status != ArtifactStatus.quarantined)
          quarantine s.artifacts } a.val.releaseId).audit record)
  | drafted (clock : Clock) (input : CreateCampaignInput) (productId channelId : ℕ) (record : OperatorAudit)
      (known : productAndChannel s input.productKey input.releaseChannelKey = .ok (productId, channelId)) :
      Applied s (.createCampaign clock input) (ReleaseStore.audit { s with
        campaigns := s.campaigns ++ [⟨s.seq, newCampaign clock input productId channelId⟩]
        seq := s.seq + 1 } record)
  | moved (op : ReleaseOperation) (status : CampaignStatus) (request : OperatorRequest) (c : Entry AdminCampaign)
      (record : OperatorAudit) (move : moveOf op = some (status, request))
      (found : s.campaign request.targetId = some c) (unrevoked : c.val.status ≠ .revoked)
      (target : status = .active → isPublished s c.val.targetReleaseId = true) :
      Applied s op ((s.updateCampaign request.targetId (setStatus status)).audit record)
  | rolled (percentage : ℤ) (request : OperatorRequest) (c : Entry AdminCampaign) (record : OperatorAudit)
      (found : s.campaign request.targetId = some c) (unrevoked : c.val.status ≠ .revoked) :
      Applied s (.setCampaignRollout percentage request)
        ((s.updateCampaign request.targetId (setRollout percentage)).audit record)

section Applied
variable {s : ReleaseStore}

/-- What holds of the store and of the result of the transaction holds afterwards. -/
lemma conclude_of {α : Type} {P : ReleaseStore → Prop} {tx : Except AdminError (α × ReleaseStore)} (hs : P s)
    (h : ∀ a t, tx = .ok (a, t) → P t) : P (conclude s tx).2 := by
  cases tx with
  | error e => exact hs
  | ok x => exact h x.1 x.2 rfl

lemma answer_of {α : Type} {read : ReleaseStore → ℕ → Except AdminError α} {P : ReleaseStore → Prop}
    {tx : Except AdminError (ℕ × ReleaseStore)} (hs : P s) (h : ∀ a t, tx = .ok (a, t) → P t) :
    P (answer read s tx).2 := by
  cases tx with
  | error e => exact hs
  | ok x => exact h x.1 x.2 rfl

lemma createRelease_applied (input : CreateReleaseInput) :
    Applied s (.createRelease input) (createRelease input s).2 := by
  refine answer_of (.idle _) fun id t h => ?_
  cases hp : productAndChannel s input.productKey input.releaseChannelKey with
  | error e =>
    rw [hp] at h
    cases h
  | ok x =>
    rw [hp] at h
    dsimp only [Except.bind] at h
    split at h
    · split at h <;> cases h
      exact .idle _
    · cases h
      exact .created input x.1 x.2 _ hp

lemma registerArtifact_applied (input : RegisterArtifactInput) :
    Applied s (.registerArtifact input) (registerArtifact input s).2 := by
  refine conclude_of (.idle _) fun a t h => ?_
  split at h
  · cases h
  split at h
  · cases h
  rename_i r hr
  split at h
  · cases h
  rename_i hopen
  split at h
  · cases h
  split at h
  · split at h <;> cases h
    exact .idle _
  · cases h
    exact .registered input r _ hr (by simpa using hopen)

lemma validateRelease_applied (clock : Clock) (request : OperatorRequest) :
    Applied s (.validateRelease clock request) (validateRelease clock request s).2 := by
  refine answer_of (.idle _) fun id t h => ?_
  split at h
  · cases h
  rename_i r hr
  split at h
  · cases h
  · cases h
  · cases h
    exact .idle _
  · cases h
    exact .idle _
  all_goals
    rename_i hstatus
    split at h
    · cases h
    · rename_i hcount
      cases h
      exact .validated clock request r _ hr (by rw [hstatus]; rfl) hcount

lemma publishRelease_applied (clock : Clock) (request : OperatorRequest) :
    Applied s (.publishRelease clock request) (publishRelease clock request s).2 := by
  refine answer_of (.idle _) fun id t h => ?_
  split at h
  · cases h
  rename_i r hr
  split at h
  · cases h
    exact .idle _
  · rename_i hstatus
    cases h
    exact .published clock request r _ hr hstatus
  · cases h

lemma blockRelease_applied (request : OperatorRequest) :
    Applied s (.blockRelease request) (blockRelease request s).2 := by
  refine answer_of (.idle _) fun id t h => ?_
  split at h
  · cases h
  rename_i r hr
  split at h
  · cases h
    exact .idle _
  · cases h
  · rename_i hunblocked hunretired
    cases h
    exact .blocked request r _ hr hunblocked

lemma quarantineArtifact_applied (request : OperatorRequest) :
    Applied s (.quarantineArtifact request) (quarantineArtifact request s).2 := by
  refine conclude_of (.idle _) fun a t h => ?_
  split at h
  · cases h
  · rename_i artifact hartifact
    cases h
    exact .quarantined request artifact _ hartifact

lemma createCampaign_applied (clock : Clock) (input : CreateCampaignInput) :
    Applied s (.createCampaign clock input) (createCampaign clock input s).2 := by
  refine answer_of (.idle _) fun id t h => ?_
  cases hp : productAndChannel s input.productKey input.releaseChannelKey with
  | error e =>
    rw [hp] at h
    cases h
  | ok x =>
    rw [hp] at h
    dsimp only [Except.bind] at h
    split at h
    · cases h
    split at h
    · cases h
    split at h
    · cases h
    split at h
    · cases h
    split at h
    · cases h
      exact .idle _
    · cases h
      exact .drafted clock input x.1 x.2 _ hp

/-- Pausing, resuming and revoking differ in the status only. -/
lemma campaignStatusMutation_applied {op : ReleaseOperation} {status : CampaignStatus} {request : OperatorRequest}
    (move : moveOf op = some (status, request)) (eventType : String) :
    Applied s op (campaignStatusMutation status eventType request s).2 := by
  refine answer_of (.idle _) fun id t h => ?_
  split at h
  · cases h
  rename_i c hc
  split at h
  · cases h
    exact .idle _
  split at h
  · cases h
  rename_i htarget
  split at h
  · cases h
  rename_i hunrevoked
  cases h
  refine .moved op status request c _ move hc hunrevoked fun hactive => ?_
  by_contra hno
  exact htarget ⟨hactive, (Bool.not_eq_true _).mp hno⟩

lemma setCampaignRollout_applied (percentage : ℤ) (request : OperatorRequest) :
    Applied s (.setCampaignRollout percentage request) (setCampaignRollout percentage request s).2 := by
  refine answer_of (.idle _) fun id t h => ?_
  split at h
  · cases h
  rename_i c hc
  split at h
  · cases h
  rename_i hunrevoked
  split at h
  · cases h
    exact .idle _
  split at h
  · cases h
  · cases h
    exact .rolled percentage request c _ hc hunrevoked

/-- The one place where the operations are taken apart. -/
theorem apply_applied (op : ReleaseOperation) (s : ReleaseStore) : Applied s op (op.apply s) := by
  cases op with
  | createRelease input => exact createRelease_applied input
  | registerArtifact input => exact registerArtifact_applied input
  | validateRelease clock request => exact validateRelease_applied clock request
  | publishRelease clock request => exact publishRelease_applied clock request
  | blockRelease request => exact blockRelease_applied request
  | quarantineArtifact request => exact quarantineArtifact_applied request
  | createCampaign clock input => exact createCampaign_applied clock input
  | pauseCampaign request => exact campaignStatusMutation_applied rfl _
  | resumeCampaign request => exact campaignStatusMutation_applied rfl _
  | revokeCampaign request => exact campaignStatusMutation_applied rfl _
  | setCampaignRollout percentage request => exact setCampaignRollout_applied percentage request

end Applied

/-- What one operation does to the three tables. -/
inductive Effect (s s' : ReleaseStore) : Prop
  | same (releases : s'.releases = s.releases) (artifacts : s'.artifacts = s.artifacts)
      (campaigns : s'.campaigns = s.campaigns)
  | created (v : AdminRelease) (draft : v.status = .draft) (next : s.seq < s'.seq)
      (releases : s'.releases = s.releases ++ [⟨s.seq, v⟩]) (artifacts : s'.artifacts = s.artifacts)
      (campaigns : s'.campaigns = s.campaigns)
  | registered (r : Entry AdminRelease) (stored : r ∈ s.releases)
      (changeable : immutableStatus r.val.status = false) (v : AdminArtifact) (owner : v.releaseId = r.id)
      (releases : s'.releases = updateRows (fun e => e.id == r.id) markPending s.releases)
      (artifacts : s'.artifacts = s.artifacts ++ [⟨s.seq, v⟩]) (campaigns : s'.campaigns = s.campaigns)
  | advanced (r : Entry AdminRelease) (stored : r ∈ s.releases)
      (changeable : immutableStatus r.val.status = false) (f : AdminRelease → AdminRelease)
      (releases : s'.releases = updateRows (fun e => e.id == r.id) f s.releases)
      (artifacts : s'.artifacts = s.artifacts) (campaigns : s'.campaigns = s.campaigns)
  | blocked (r : Entry AdminRelease) (stored : r ∈ s.releases) (unblocked : r.val.status ≠ .blocked)
      (releases : s'.releases = updateRows (fun e => e.id == r.id) markBlocked s.releases)
      (artifacts : s'.artifacts = s.artifacts)
      (campaigns : s'.campaigns = updateRows (isRunning r.id) (setStatus .paused) s.campaigns)
  | quarantined (p : Entry AdminArtifact → Bool) (releaseId : ℕ) (releases : s'.releases = s.releases)
      (artifacts : s'.artifacts = updateRows p quarantine s.artifacts)
      (campaigns : s'.campaigns = updateRows (isRunning releaseId) (setStatus .paused) s.campaigns)
  | drafted (v : AdminCampaign) (draft : v.status = .draft) (next : s.seq < s'.seq)
      (releases : s'.releases = s.releases) (artifacts : s'.artifacts = s.artifacts)
      (campaigns : s'.campaigns = s.campaigns ++ [⟨s.seq, v⟩])
  | transitioned (c : Entry AdminCampaign) (stored : c ∈ s.campaigns) (unrevoked : c.val.status ≠ .revoked)
      (status : CampaignStatus) (target : status = .active → isPublished s c.val.targetReleaseId = true)
      (releases : s'.releases = s.releases) (artifacts : s'.artifacts = s.artifacts)
      (campaigns : s'.campaigns = updateRows (fun e => e.id == c.id) (setStatus status) s.campaigns)
  | rolled (c : Entry AdminCampaign) (stored : c ∈ s.campaigns) (unrevoked : c.val.status ≠ .revoked) (n : ℤ)
      (releases : s'.releases = s.releases) (artifacts : s'.artifacts = s.artifacts)
      (campaigns : s'.campaigns = updateRows (fun e => e.id == c.id) (setRollout n) s.campaigns)

/-- The effect, and that generated keys grow. -/
structure Steps (s s' : ReleaseStore) : Prop where
  keys : s.seq ≤ s'.seq
  effect : Effect s s'

variable {s s' : ReleaseStore}

lemma Steps.refl (s : ReleaseStore) : Steps s s := ⟨le_refl _, .same rfl rfl rfl⟩

lemma release_spec {id : ℕ} {r : Entry AdminRelease} (h : s.release id = some r) : r ∈ s.releases ∧ r.id = id :=
  ⟨List.mem_of_find?_eq_some h, by simpa using List.find?_some h⟩

lemma campaign_spec {id : ℕ} {c : Entry AdminCampaign} (h : s.campaign id = some c) :
    c ∈ s.campaigns ∧ c.id = id :=
  ⟨List.mem_of_find?_eq_some h, by simpa using List.find?_some h⟩

lemma Applied.steps {op : ReleaseOperation} (h : Applied s op s') : Steps s s' := by
  cases h with
  | idle => exact .refl s
  | created input productId channelId record known =>
    have hnext : s.seq < s.seq + 1 + 1 := by omega
    exact ⟨hnext.le, .created _ rfl hnext rfl rfl rfl⟩
  | registered input r record found changeable =>
    obtain ⟨hmem, hid⟩ := release_spec found
    have hkeys : s.seq ≤ s.seq + 1 + 1 := by omega
    refine ⟨hkeys, .registered r hmem changeable (newArtifact input) hid.symm ?_ rfl rfl⟩
    rw [hid]
    rfl
  | validated clock request r record found changeable artifact =>
    obtain ⟨hmem, hid⟩ := release_spec found
    refine ⟨Nat.le_succ _, .advanced r hmem changeable (markValidated clock.now) ?_ rfl rfl⟩
    rw [hid]
    rfl
  | published clock request r record found ready =>
    obtain ⟨hmem, hid⟩ := release_spec found
    refine ⟨Nat.le_succ _, .advanced r hmem (by rw [ready]; rfl) (markPublished clock.now) ?_ rfl rfl⟩
    rw [hid]
    rfl
  | blocked request r record found unblocked =>
    obtain ⟨hmem, hid⟩ := release_spec found
    refine ⟨Nat.le_succ _, .blocked r hmem unblocked ?_ rfl ?_⟩
    · rw [hid]
      rfl
    · rw [hid]
      rfl
  | quarantined request a record found => exact ⟨Nat.le_succ _, .quarantined _ _ rfl rfl rfl⟩
  | drafted clock input productId channelId record known =>
    have hnext : s.seq < s.seq + 1 + 1 := by omega
    exact ⟨hnext.le, .drafted _ rfl hnext rfl rfl rfl⟩
  | moved _ status request c record move found unrevoked target =>
    obtain ⟨hmem, hid⟩ := campaign_spec found
    refine ⟨Nat.le_succ _, .transitioned c hmem unrevoked status target rfl rfl ?_⟩
    rw [hid]
    rfl
  | rolled percentage request c record found unrevoked =>
    obtain ⟨hmem, hid⟩ := campaign_spec found
    refine ⟨Nat.le_succ _, .rolled c hmem unrevoked percentage rfl rfl ?_⟩
    rw [hid]
    rfl

theorem apply_steps (op : ReleaseOperation) (s : ReleaseStore) : Steps s (op.apply s) := (apply_applied op s).steps

/-- Keys are below `n` and name one row each. -/
structure UniqueIds {α : Type} (n : ℕ) (rows : List (Entry α)) : Prop where
  below : ∀ e ∈ rows, e.id < n
  unique : ∀ e ∈ rows, ∀ e' ∈ rows, e.id = e'.id → e = e'

section UniqueIds
variable {α : Type} {n m : ℕ} {rows : List (Entry α)}

lemma UniqueIds.mono (h : UniqueIds n rows) (hnm : n ≤ m) : UniqueIds m rows :=
  ⟨fun e he => (h.below e he).trans_le hnm, h.unique⟩

lemma UniqueIds.append (h : UniqueIds n rows) (v : α) (hnm : n < m) : UniqueIds m (rows ++ [⟨n, v⟩]) := by
  have hcases : ∀ e ∈ rows ++ [⟨n, v⟩], e ∈ rows ∨ e = ⟨n, v⟩ := by simp
  constructor
  · intro e he
    rcases hcases e he with he | rfl
    · exact (h.below e he).trans hnm
    · exact hnm
  · intro e he e' he' hid
    rcases hcases e he with he | rfl
    · rcases hcases e' he' with he' | rfl
      · exact h.unique e he e' he' hid
      · exact absurd hid (h.below e he).ne
    · rcases hcases e' he' with he' | rfl
      · exact absurd hid.symm (h.below e' he').ne
      · rfl

lemma updateRows_id {p : Entry α → Bool} {f : α → α} (e : Entry α) :
    (if p e then (⟨e.id, f e.val⟩ : Entry α) else e).id = e.id := by
  split
  · rfl
  · rfl

lemma UniqueIds.update (h : UniqueIds n rows) (p : Entry α → Bool) (f : α → α) :
    UniqueIds n (updateRows p f rows) := by
  constructor
  · intro e he
    obtain ⟨x, hx, rfl⟩ := mem_updateRows.mp he
    rw [updateRows_id]
    exact h.below x hx
  · intro e he e' he' hid
    obtain ⟨x, hx, rfl⟩ := mem_updateRows.mp he
    obtain ⟨x', hx', rfl⟩ := mem_updateRows.mp he'
    rw [updateRows_id, updateRows_id] at hid
    rw [h.unique x hx x' hx' hid]

/-- A row that the update does not select stays as it is. -/
lemma mem_updateRows_of_not {p : Entry α → Bool} {f : α → α} {e : Entry α} (he : e ∈ rows) (hp : p e = false) :
    e ∈ updateRows p f rows := mem_updateRows.mpr ⟨e, he, by simp [hp]⟩

end UniqueIds

/-- Active campaigns target published releases, and keys are unique. -/
structure Safe (s : ReleaseStore) : Prop where
  releases : UniqueIds s.seq s.releases
  campaigns : UniqueIds s.seq s.campaigns
  active : ∀ c ∈ s.campaigns, c.val.status = .active →
    ∃ r ∈ s.releases, r.id = c.val.targetReleaseId ∧ r.val.status = .published

lemma isPublished_spec {id : ℕ} (h : isPublished s id = true) :
    ∃ r ∈ s.releases, r.id = id ∧ r.val.status = .published := by
  obtain ⟨r, hr, hboth⟩ := List.any_eq_true.mp h
  obtain ⟨hid, hstatus⟩ := Bool.and_eq_true_iff.mp hboth
  exact ⟨r, hr, by simpa using hid, by simpa using hstatus⟩

/-- A release that may still change is not the published one that a campaign targets. -/
lemma Safe.published_kept (h : Safe s) {r r₀ : Entry AdminRelease} (hr : r ∈ s.releases) (hr₀ : r₀ ∈ s.releases)
    (hopen : immutableStatus r₀.val.status = false) (hpublished : r.val.status = .published)
    (f : AdminRelease → AdminRelease) : r ∈ updateRows (fun e => e.id == r₀.id) f s.releases := by
  refine mem_updateRows_of_not hr ?_
  by_contra hid
  have heq : r = r₀ := h.releases.unique r hr r₀ hr₀ (by simpa using hid)
  rw [← heq, hpublished] at hopen
  cases hopen

/-- What pausing the running campaigns of a release leaves active targets another release. -/
lemma active_of_paused {releaseId : ℕ} {c : Entry AdminCampaign}
    (hc : c ∈ updateRows (isRunning releaseId) (setStatus .paused) s.campaigns) (hactive : c.val.status = .active) :
    c ∈ s.campaigns ∧ c.val.targetReleaseId ≠ releaseId := by
  obtain ⟨x, hx, rfl⟩ := mem_updateRows.mp hc
  by_cases hrun : isRunning releaseId x = true
  · rw [if_pos hrun] at hactive
    cases hactive
  · rw [if_neg hrun] at hactive ⊢
    refine ⟨hx, fun htarget => hrun ?_⟩
    simp [isRunning, htarget, hactive]

lemma Steps.unique_releases (h : Steps s s') (hs : UniqueIds s.seq s.releases) : UniqueIds s'.seq s'.releases := by
  obtain ⟨hkeys, heffect⟩ := h
  cases heffect with
  | same releases | quarantined _ _ releases | drafted _ _ _ releases | transitioned _ _ _ _ _ releases
  | rolled _ _ _ _ releases =>
    rw [releases]
    exact hs.mono hkeys
  | created v draft next releases =>
    rw [releases]
    exact hs.append v next
  | registered r stored changeable v owner releases | advanced r stored changeable f releases
  | blocked r stored unblocked releases =>
    rw [releases]
    exact (hs.update _ _).mono hkeys

lemma Steps.unique_campaigns (h : Steps s s') (hs : UniqueIds s.seq s.campaigns) :
    UniqueIds s'.seq s'.campaigns := by
  obtain ⟨hkeys, heffect⟩ := h
  cases heffect with
  | same _ _ campaigns | created _ _ _ _ _ campaigns | registered _ _ _ _ _ _ _ campaigns
  | advanced _ _ _ _ _ _ campaigns =>
    rw [campaigns]
    exact hs.mono hkeys
  | drafted v draft next releases artifacts campaigns =>
    rw [campaigns]
    exact hs.append v next
  | blocked r stored unblocked releases artifacts campaigns | quarantined p id releases artifacts campaigns
  | transitioned c stored unrevoked status target releases artifacts campaigns
  | rolled c stored unrevoked n releases artifacts campaigns =>
    rw [campaigns]
    exact (hs.update _ _).mono hkeys

/-- Every operation keeps active campaigns on published releases. -/
theorem Steps.safe (h : Steps s s') (hs : Safe s) : Safe s' := by
  refine ⟨h.unique_releases hs.releases, h.unique_campaigns hs.campaigns, fun c hc hactive => ?_⟩
  cases h.effect with
  | same releases artifacts campaigns =>
    rw [campaigns] at hc
    rw [releases]
    exact hs.active c hc hactive
  | created v draft next releases artifacts campaigns =>
    rw [campaigns] at hc
    obtain ⟨r, hr, hid, hpublished⟩ := hs.active c hc hactive
    exact ⟨r, by rw [releases]; simp [hr], hid, hpublished⟩
  | registered r₀ stored changeable v owner releases artifacts campaigns
  | advanced r₀ stored changeable f releases artifacts campaigns =>
    rw [campaigns] at hc
    obtain ⟨r, hr, hid, hpublished⟩ := hs.active c hc hactive
    exact ⟨r, by rw [releases]; exact hs.published_kept hr stored changeable hpublished _, hid, hpublished⟩
  | blocked r₀ stored unblocked releases artifacts campaigns =>
    rw [campaigns] at hc
    obtain ⟨hold, hother⟩ := active_of_paused hc hactive
    obtain ⟨r, hr, hid, hpublished⟩ := hs.active c hold hactive
    refine ⟨r, ?_, hid, hpublished⟩
    rw [releases]
    refine mem_updateRows_of_not hr ?_
    rw [← hid] at hother
    simpa using hother
  | quarantined p id releases artifacts campaigns =>
    rw [campaigns] at hc
    rw [releases]
    exact hs.active c (active_of_paused hc hactive).1 hactive
  | drafted v draft next releases artifacts campaigns =>
    rw [campaigns, List.mem_append, List.mem_singleton] at hc
    rw [releases]
    rcases hc with hc | rfl
    · exact hs.active c hc hactive
    · rw [draft] at hactive
      cases hactive
  | transitioned c₀ stored unrevoked status target releases artifacts campaigns =>
    rw [campaigns] at hc
    rw [releases]
    obtain ⟨x, hx, rfl⟩ := mem_updateRows.mp hc
    by_cases hid : (x.id == c₀.id) = true
    · rw [if_pos hid] at hactive ⊢
      have heq : x = c₀ := hs.campaigns.unique x hx c₀ stored (by simpa using hid)
      rw [heq]
      exact isPublished_spec (target hactive)
    · rw [if_neg hid] at hactive ⊢
      exact hs.active x hx hactive
  | rolled c₀ stored unrevoked n releases artifacts campaigns =>
    rw [campaigns] at hc
    rw [releases]
    obtain ⟨x, hx, rfl⟩ := mem_updateRows.mp hc
    by_cases hid : (x.id == c₀.id) = true
    · rw [if_pos hid] at hactive ⊢
      exact hs.active x hx hactive
    · rw [if_neg hid] at hactive ⊢
      exact hs.active x hx hactive

/-- An artifact apart from its quarantine. -/
def artifactFacts (e : Entry AdminArtifact) : Entry AdminArtifact :=
  ⟨e.id, { e.val with status := .pending }⟩

/-- The artifacts of a release with their metadata. -/
def artifactsOf (releaseId : ℕ) (s : ReleaseStore) : List (Entry AdminArtifact) :=
  (s.artifacts.filter fun e => e.val.releaseId == releaseId).map artifactFacts

/-- What no operation undoes: revoked campaigns and blocked releases stay as they are, and a release that
takes no more artifacts keeps those it has. -/
structure Kept (s s' : ReleaseStore) : Prop where
  revoked : ∀ c ∈ s.campaigns, c.val.status = .revoked → c ∈ s'.campaigns
  blocked : ∀ r ∈ s.releases, r.val.status = .blocked → r ∈ s'.releases
  immutable : ∀ r ∈ s.releases, immutableStatus r.val.status = true →
    (∃ r' ∈ s'.releases, r'.id = r.id ∧ immutableStatus r'.val.status = true) ∧
      artifactsOf r.id s' = artifactsOf r.id s

lemma Kept.refl (s : ReleaseStore) : Kept s s :=
  ⟨fun _ hc _ => hc, fun _ hr _ => hr, fun r hr h => ⟨⟨r, hr, rfl, h⟩, rfl⟩⟩

lemma Kept.trans {s'' : ReleaseStore} (h : Kept s s') (h' : Kept s' s'') : Kept s s'' := by
  refine ⟨fun c hc hr => h'.revoked c (h.revoked c hc hr) hr, fun r hr hb => h'.blocked r (h.blocked r hr hb) hb,
    fun r hr hi => ?_⟩
  obtain ⟨⟨r', hr', hid', hi'⟩, hsame⟩ := h.immutable r hr hi
  obtain ⟨⟨r'', hr'', hid'', hi''⟩, hsame'⟩ := h'.immutable r' hr' hi'
  rw [hid'] at hid'' hsame'
  exact ⟨⟨r'', hr'', hid'', hi''⟩, hsame'.trans hsame⟩

lemma artifactsOf_same (releaseId : ℕ) (h : s'.artifacts = s.artifacts) :
    artifactsOf releaseId s' = artifactsOf releaseId s := by rw [artifactsOf, artifactsOf, h]

/-- Quarantine changes nothing else about an artifact. -/
lemma artifactsOf_quarantine (releaseId : ℕ) {p : Entry AdminArtifact → Bool}
    (h : s'.artifacts = updateRows p quarantine s.artifacts) : artifactsOf releaseId s' = artifactsOf releaseId s := by
  rw [artifactsOf, artifactsOf, h]
  induction s.artifacts with
  | nil => rfl
  | cons e rows ih =>
    have howner : (if p e then (⟨e.id, quarantine e.val⟩ : Entry AdminArtifact) else e).val.releaseId =
        e.val.releaseId := by
      split
      · rfl
      · rfl
    have hfacts : artifactFacts (if p e then ⟨e.id, quarantine e.val⟩ else e) = artifactFacts e := by
      split
      · rfl
      · rfl
    simp only [updateRows, List.map_cons, List.filter_cons] at ih ⊢
    rw [howner]
    split
    · rw [List.map_cons, List.map_cons, hfacts, ih]
    · exact ih

lemma artifactsOf_append {releaseId n : ℕ} {v : AdminArtifact} (h : s'.artifacts = s.artifacts ++ [⟨n, v⟩])
    (hother : v.releaseId ≠ releaseId) : artifactsOf releaseId s' = artifactsOf releaseId s := by
  simp [artifactsOf, h, hother]

/-- A revoked campaign is not the one that an operation changes. -/
lemma revoked_kept (hs : UniqueIds s.seq s.campaigns) {c c₀ : Entry AdminCampaign} (hc : c ∈ s.campaigns)
    (hc₀ : c₀ ∈ s.campaigns) (hrevoked : c.val.status = .revoked) (hother : c₀.val.status ≠ .revoked)
    (f : AdminCampaign → AdminCampaign) : c ∈ updateRows (fun e => e.id == c₀.id) f s.campaigns := by
  refine mem_updateRows_of_not hc ?_
  by_contra hid
  have heq : c = c₀ := hs.unique c hc c₀ hc₀ (by simpa using hid)
  exact hother (heq ▸ hrevoked)

lemma revoked_not_running {c : Entry AdminCampaign} (hrevoked : c.val.status = .revoked) (releaseId : ℕ) :
    isRunning releaseId c = false := by simp [isRunning, hrevoked]

/-- A release that still changes is another one than an immutable one. -/
lemma ne_of_changeable (hs : UniqueIds s.seq s.releases) {r r₀ : Entry AdminRelease} (hr : r ∈ s.releases)
    (hr₀ : r₀ ∈ s.releases) (himmutable : immutableStatus r.val.status = true)
    (hchangeable : immutableStatus r₀.val.status = false) : r.id ≠ r₀.id := by
  intro hid
  rw [hs.unique r hr r₀ hr₀ hid, hchangeable] at himmutable
  cases himmutable

lemma Steps.revoked_kept (h : Steps s s') (hs : Safe s) {c : Entry AdminCampaign} (hc : c ∈ s.campaigns)
    (hrevoked : c.val.status = .revoked) : c ∈ s'.campaigns := by
  cases h.effect with
  | same _ _ campaigns | created _ _ _ _ _ campaigns | registered _ _ _ _ _ _ _ campaigns
  | advanced _ _ _ _ _ _ campaigns =>
    rw [campaigns]
    exact hc
  | blocked r stored unblocked releases artifacts campaigns | quarantined p id releases artifacts campaigns =>
    rw [campaigns]
    exact mem_updateRows_of_not hc (revoked_not_running hrevoked _)
  | drafted v draft next releases artifacts campaigns =>
    rw [campaigns]
    exact List.mem_append_left _ hc
  | transitioned c₀ stored unrevoked status target releases artifacts campaigns
  | rolled c₀ stored unrevoked n releases artifacts campaigns =>
    rw [campaigns]
    exact ReleaseSafety.revoked_kept hs.campaigns hc stored hrevoked unrevoked _

lemma Steps.blocked_kept (h : Steps s s') (hs : Safe s) {r : Entry AdminRelease} (hr : r ∈ s.releases)
    (hblocked : r.val.status = .blocked) : r ∈ s'.releases := by
  have himmutable : immutableStatus r.val.status = true := by rw [hblocked]; rfl
  cases h.effect with
  | same releases | quarantined _ _ releases | drafted _ _ _ releases | transitioned _ _ _ _ _ releases
  | rolled _ _ _ _ releases =>
    rw [releases]
    exact hr
  | created v draft next releases =>
    rw [releases]
    exact List.mem_append_left _ hr
  | registered r₀ stored changeable v owner releases | advanced r₀ stored changeable f releases =>
    rw [releases]
    refine mem_updateRows_of_not hr ?_
    simpa using ne_of_changeable hs.releases hr stored himmutable changeable
  | blocked r₀ stored unblocked releases =>
    rw [releases]
    refine mem_updateRows_of_not hr ?_
    by_contra hid
    have heq : r = r₀ := hs.releases.unique r hr r₀ stored (by simpa using hid)
    exact unblocked (heq ▸ hblocked)

lemma Steps.immutable_kept (h : Steps s s') (hs : Safe s) {r : Entry AdminRelease} (hr : r ∈ s.releases)
    (himmutable : immutableStatus r.val.status = true) :
    ∃ r' ∈ s'.releases, r'.id = r.id ∧ immutableStatus r'.val.status = true := by
  cases h.effect with
  | same releases | quarantined _ _ releases | drafted _ _ _ releases | transitioned _ _ _ _ _ releases
  | rolled _ _ _ _ releases =>
    exact ⟨r, by rw [releases]; exact hr, rfl, himmutable⟩
  | created v draft next releases => exact ⟨r, by rw [releases]; exact List.mem_append_left _ hr, rfl, himmutable⟩
  | registered r₀ stored changeable v owner releases | advanced r₀ stored changeable f releases =>
    refine ⟨r, ?_, rfl, himmutable⟩
    rw [releases]
    refine mem_updateRows_of_not hr ?_
    simpa using ne_of_changeable hs.releases hr stored himmutable changeable
  | blocked r₀ stored unblocked releases =>
    by_cases hid : (r.id == r₀.id) = true
    · refine ⟨⟨r.id, markBlocked r.val⟩, ?_, rfl, rfl⟩
      rw [releases]
      exact mem_updateRows.mpr ⟨r, hr, by rw [if_pos hid]⟩
    · refine ⟨r, ?_, rfl, himmutable⟩
      rw [releases]
      exact mem_updateRows_of_not hr ((Bool.not_eq_true _).mp hid)

lemma Steps.artifacts_kept (h : Steps s s') (hs : Safe s) {r : Entry AdminRelease} (hr : r ∈ s.releases)
    (himmutable : immutableStatus r.val.status = true) : artifactsOf r.id s' = artifactsOf r.id s := by
  cases h.effect with
  | same _ artifacts | created _ _ _ _ artifacts | advanced _ _ _ _ _ artifacts | blocked _ _ _ _ artifacts
  | drafted _ _ _ _ artifacts | transitioned _ _ _ _ _ _ artifacts | rolled _ _ _ _ _ artifacts =>
    exact artifactsOf_same _ artifacts
  | quarantined p id releases artifacts campaigns => exact artifactsOf_quarantine _ artifacts
  | registered r₀ stored changeable v owner releases artifacts campaigns =>
    refine artifactsOf_append artifacts ?_
    rw [owner]
    exact (ne_of_changeable hs.releases hr stored himmutable changeable).symm

lemma Steps.kept (h : Steps s s') (hs : Safe s) : Kept s s' where
  revoked := fun _ hc hrevoked => h.revoked_kept hs hc hrevoked
  blocked := fun _ hr hblocked => h.blocked_kept hs hr hblocked
  immutable := fun _ hr himmutable => ⟨h.immutable_kept hs hr himmutable, h.artifacts_kept hs hr himmutable⟩

lemma runAll_safe (hs : Safe s) (ops : List ReleaseOperation) : Safe (runAll ops s) := by
  induction ops generalizing s with
  | nil => exact hs
  | cons op ops ih => exact ih ((apply_steps op s).safe hs)

lemma runAll_kept (hs : Safe s) (ops : List ReleaseOperation) : Kept s (runAll ops s) := by
  induction ops generalizing s with
  | nil => exact .refl s
  | cons op ops ih =>
    have hstep := apply_steps op s
    exact (hstep.kept hs).trans (ih (hstep.safe hs))

/-- In every state of a run active campaigns target published releases; in every later state a revoked
campaign is the same row, a blocked release is not published, and a published release has the same
artifacts. -/
theorem releases_and_campaigns_safe (hs : Safe s) (ops ops' : List ReleaseOperation) :
    let reached := runAll ops s
    let later := runAll ops' reached
    (∀ c ∈ reached.campaigns, c.val.status = .active →
      ∃ r ∈ reached.releases, r.id = c.val.targetReleaseId ∧ r.val.status = .published) ∧
    (∀ c ∈ reached.campaigns, c.val.status = .revoked →
      c ∈ later.campaigns ∧ ∀ c' ∈ later.campaigns, c'.id = c.id →
        c'.val.status = .revoked ∧ c'.val.rolloutPercentage = c.val.rolloutPercentage) ∧
    (∀ r ∈ reached.releases, r.val.status = .blocked →
      ∀ r' ∈ later.releases, r'.id = r.id → r'.val.status = .blocked) ∧
    ∀ r ∈ reached.releases, r.val.status = .published → artifactsOf r.id later = artifactsOf r.id reached := by
  have hreached := runAll_safe hs ops
  have hlater := runAll_safe hreached ops'
  have hkept := runAll_kept hreached ops'
  refine ⟨hreached.active, fun c hc hrevoked => ?_, fun r hr hblocked r' hr' hid => ?_, fun r hr hpublished => ?_⟩
  · have hstays := hkept.revoked c hc hrevoked
    refine ⟨hstays, fun c' hc' hid => ?_⟩
    rw [hlater.campaigns.unique c' hc' c hstays hid]
    exact ⟨hrevoked, rfl⟩
  · rw [hlater.releases.unique r' hr' r (hkept.blocked r hr hblocked) hid]
    exact hblocked
  · exact (hkept.immutable r hr (by rw [hpublished]; rfl)).2

/-- A product with one channel. -/
def sampleReleases : ReleaseStore where
  products := [⟨0, ⟨"authorforge", .active⟩⟩]
  channels := [⟨1, ⟨0, "stable"⟩⟩]
  releases := []
  artifacts := []
  campaigns := []
  holds := []
  audits := []
  seq := 2

lemma sampleReleases_safe : Safe sampleReleases :=
  ⟨⟨by simp [sampleReleases], by simp [sampleReleases]⟩, ⟨by simp [sampleReleases], by simp [sampleReleases]⟩,
    by simp [sampleReleases]⟩

def stableRelease (version : String) : ReleaseOperation :=
  .createRelease ⟨"op", "authorforge", version, "b1", "stable", none, none, none, "first", none⟩

def stableCampaign (slug : String) : ReleaseOperation :=
  .createCampaign ⟨0, 0⟩ ⟨"op", "authorforge", 2, slug, "stable", "standard", none, false, "first", none⟩

/-- Release 2 is rolled out by campaign 8. Campaign 11 is revoked, and release 14 is blocked. -/
def sampleRollout : List ReleaseOperation :=
  [stableRelease "1.0.0",
    .registerArtifact ⟨"op", 2, "linux", "x86_64", "appimage", .updater, "key", 1,
      "0000000000000000000000000000000000000000000000000000000000000000", some "sig", "k", "verified", "first", none⟩,
    .validateRelease ⟨0, 0⟩ ⟨"op", 2, "first", none⟩, .publishRelease ⟨0, 0⟩ ⟨"op", 2, "first", none⟩,
    stableCampaign "first", .resumeCampaign ⟨"op", 8, "first", none⟩,
    stableCampaign "second", .revokeCampaign ⟨"op", 11, "bad", none⟩,
    stableRelease "1.1.0", .blockRelease ⟨"op", 14, "bad", none⟩]

/-- The operators go back on all of it. -/
def sampleReversal : List ReleaseOperation :=
  [.resumeCampaign ⟨"op", 11, "again", none⟩, .setCampaignRollout 100 ⟨"op", 11, "again", none⟩,
    .validateRelease ⟨0, 0⟩ ⟨"op", 14, "again", none⟩, .publishRelease ⟨0, 0⟩ ⟨"op", 14, "again", none⟩,
    .registerArtifact ⟨"op", 2, "linux", "x86_64", "deb", .updater, "key2", 1,
      "0000000000000000000000000000000000000000000000000000000000000000", some "sig", "k", "verified", "again", none⟩,
    .quarantineArtifact ⟨"op", 4, "bad", none⟩, .blockRelease ⟨"op", 2, "bad", none⟩]

theorem releases_and_campaigns_safe_sample :
    let reached := runAll sampleRollout sampleReleases
    let later := runAll sampleReversal reached
    reached.campaigns.map (fun e => (e.id, e.val.status)) = [(8, .active), (11, .revoked)] ∧
      reached.releases.map (fun e => (e.id, e.val.status)) = [(2, .published), (14, .blocked)] ∧
      (∃ r ∈ reached.releases, r.id = 2 ∧ r.val.status = .published) ∧
      (∀ c ∈ later.campaigns, c.id = 11 → c.val.status = .revoked ∧ c.val.rolloutPercentage = 0) ∧
      (∀ r ∈ later.releases, r.id = 14 → r.val.status = .blocked) ∧
      artifactsOf 2 later = artifactsOf 2 reached := by
  intro reached later
  have hcampaigns : reached.campaigns.map (fun e => (e.id, e.val.status)) = [(8, .active), (11, .revoked)] := by
    decide
  have hreleases : reached.releases.map (fun e => (e.id, e.val.status)) = [(2, .published), (14, .blocked)] := by
    decide
  obtain ⟨rolled, hrolled, hactive, htarget⟩ :
      ∃ c ∈ reached.campaigns, c.val.status = .active ∧ c.val.targetReleaseId = 2 := by decide
  obtain ⟨c, hc, hcid, hrevoked, hzero⟩ :
      ∃ c ∈ reached.campaigns, c.id = 11 ∧ c.val.status = .revoked ∧ c.val.rolloutPercentage = 0 := by decide
  obtain ⟨r, hr, hrid, hblocked⟩ : ∃ r ∈ reached.releases, r.id = 14 ∧ r.val.status = .blocked := by decide
  obtain ⟨p, hp, hpid, hpublished⟩ : ∃ r ∈ reached.releases, r.id = 2 ∧ r.val.status = .published := by decide
  obtain ⟨hactives, hfinal, hblocks, hartifacts⟩ :=
    releases_and_campaigns_safe sampleReleases_safe sampleRollout sampleReversal
  refine ⟨hcampaigns, hreleases, ?_, fun c' hc' hid => ?_, fun r' hr' hid => ?_, ?_⟩
  · rw [← htarget]
    exact hactives rolled hrolled hactive
  · rw [← hzero]
    exact (hfinal c hc hrevoked).2 c' hc' (hid.trans hcid.symm)
  · exact hblocks r hr hblocked r' hr' (hid.trans hrid.symm)
  · rw [← hpid]
    exact hartifacts p hp hpublished

end ForgeCustomer.ReleaseSafety
