import ForgeCustomer.UpdatesRepository
import ForgeCustomer.ServiceOperations

/-!
# Fleet policies

A policy change writes the fleet, a lookup reads the fleet's application rows. An application row is
inserted once and never written again.
-/
namespace ForgeCustomer.FleetPolicies
open SqlTables SqlPrograms SqlStatements StripeEvents DatabaseTables AuditWriters LicensingRepository
  AdminRepository CustomerRepository UpdatesRepository ServiceOperations TableName

variable {s : DbStore} {fleetId : ℕ} {ring : Option String} {channel : Option ℕ}

/-- Every lookup for an active installation of the fleet considers exactly the open candidates that target
the ring and the channel; what is not set is left to the application row. -/
def InEffect (fleetId : ℕ) (ring : Option String) (channel : Option ℕ) (d : Database) : Prop :=
  ∀ now catalog input, ∀ x ∈ lookupContexts input d, x.fleet.id = fleetId →
    candidates now catalog input x = (openCandidates now catalog input x).filter
      (targets (ring.getD x.application.val.updateRing) (channel.or x.application.val.releaseChannelId))

/-- Ring and channel of the application row are those of the policy, unless there is no channel at all. -/
def Carries (ring : Option String) (channel : Option ℕ) (a : FleetApplication) : Prop :=
  channel.or a.releaseChannelId = none ∨
    ring.getD a.updateRing = a.updateRing ∧ channel.or a.releaseChannelId = a.releaseChannelId

/-- Some lookup reads the application row of the fleet. -/
def Reads (fleetId : ℕ) (d : Database) (a : Entry FleetApplication) : Prop :=
  ∃ input, ∃ x ∈ lookupContexts input d, x.fleet.id = fleetId ∧ x.application = a

/-- A campaign for the product of the lookup, the ring and the channel, with release and artifact. -/
def soleCandidate (input : UpdateLookupInput) (x : LookupContext) (ring : String) (channel : ℕ) : Candidate :=
  { campaign := ⟨0, ⟨x.product.id, 1, .active, channel, ring, 100, false, none, 0⟩⟩
    release := ⟨1, ⟨x.product.id, "1.0.0", "1", channel, .published, none, none, none, none⟩⟩
    artifact := ⟨2, ⟨1, input.platform, input.architecture, input.packageFormat, .updater, "", none,
      .validated⟩⟩ }

def soleCatalog (c : Candidate) : UpdateCatalog := ⟨[c.campaign], [c.release], [c.artifact], []⟩

lemma openCandidates_sole (input : UpdateLookupInput) (x : LookupContext) (r : String) (k : ℕ) :
    openCandidates 0 (soleCatalog (soleCandidate input x r k)) input x = [soleCandidate input x r k] := by
  simp [openCandidates, soleCatalog, soleCandidate, campaignOpen]

lemma candidates_iff (input : UpdateLookupInput) (x : LookupContext) :
    (∀ now catalog, candidates now catalog input x = (openCandidates now catalog input x).filter
      (targets (ring.getD x.application.val.updateRing) (channel.or x.application.val.releaseChannelId))) ↔
    Carries ring channel x.application.val := by
  constructor
  · intro h
    cases hchannel : channel.or x.application.val.releaseChannelId with
    | none => exact .inl hchannel
    | some k =>
      -- a campaign for this ring and channel tells the two apart
      have hsame := h 0 (soleCatalog (soleCandidate input x (ring.getD x.application.val.updateRing) k))
      have htargeted : targets (ring.getD x.application.val.updateRing) (some k)
          (soleCandidate input x (ring.getD x.application.val.updateRing) k) = true := by
        simp [targets, soleCandidate]
      rw [candidates, openCandidates_sole, hchannel, List.filter_cons_of_pos htargeted, List.filter_nil] at hsame
      have hread := (List.mem_filter.mp (hsame ▸ List.mem_singleton_self _)).2
      rw [targets, Bool.and_eq_true, beq_iff_eq, beq_iff_eq] at hread
      exact .inr ⟨hread.2, hchannel.trans hread.1⟩
  · rintro (hnone | ⟨hring, hchannel⟩) now catalog
    · have hread : x.application.val.releaseChannelId = none := (Option.or_eq_none_iff.mp hnone).2
      rw [candidates, hnone, hread]
      refine List.filter_congr fun c _ => ?_
      simp [targets]
    · rw [candidates, hring, hchannel]

theorem inEffect_iff {d : Database} :
    InEffect fleetId ring channel d ↔ ∀ a, Reads fleetId d a → Carries ring channel a.val := by
  constructor
  · rintro h a ⟨input, x, hx, hfleet, rfl⟩
    exact (candidates_iff input x).mp fun now catalog => h now catalog input x hx hfleet
  · intro h now catalog input x hx hfleet
    exact (candidates_iff input x).mpr (h x.application ⟨input, x, hx, hfleet, rfl⟩) now catalog

/-- The row that a registration inserts. -/
def newApplication (fleetId productId : ℕ) (d : Database) : FleetApplication :=
  { fleetId := fleetId
    productId := productId
    status := .active
    updateRing := "standard"
    releaseChannelId := stableChannel productId d }

/-- The application rows are kept, and at most a new one is added. -/
def Enrolled (s s' : DbStore) : Prop :=
  s'.db fleetApplications = s.db fleetApplications ∨ ∃ n fleetId productId,
    s'.db fleetApplications = s.db fleetApplications ++ [⟨n, newApplication fleetId productId s.db⟩]

section Walks
variable {ε : Type} [FromSql ε]

lemma ensures_ensureFleetApplication {d : Database} (fleetId productId : ℕ)
    (hd : s.db fleetApplications = d fleetApplications) :
    (ensureFleetApplication fleetId productId (stableChannel productId d) : Tx ε Unit).Ensures s
      fun _ s' => s'.db fleetApplications = d fleetApplications ∨ ∃ n fleetId productId,
        s'.db fleetApplications = d fleetApplications ++ [⟨n, newApplication fleetId productId d⟩] := by
  refine ensures_insertUnless.bind fun _ s₁ h₁ => .pure ?_
  rcases h₁ with h₁ | h₁
  · exact .inl (by rw [h₁, hd])
  · exact .inr ⟨_, _, _, by rw [h₁, Db.put_self, hd]; rfl⟩

lemma ensures_provisionForAuthUser (clock : Clock) (input : ProvisionInput) :
    (provisionForAuthUser clock input : Tx ε _).Ensures s fun _ s' => Enrolled s s' := by
  refine Prog.Ensures.bind (ensureProfile_checked clock input).ensures_frame fun profile s₁ h₁ => ?_
  refine ensures_select.bind fun channel s₂ h₂ => ?_
  obtain ⟨rfl, rfl⟩ := h₂
  refine Prog.Ensures.bind (ensureDefaultFleet_checked (S := [fleets]) (by decide) _ _ _).ensures_frame
    fun fleet s₃ h₃ => ?_
  refine ensures_select.bind fun product s₄ h₄ => ?_
  obtain ⟨rfl, rfl⟩ := h₄
  have hproduct : findProduct "authorforge" s₃.db = findProduct "authorforge" s₁.db := by
    rw [findProduct, findProduct, h₃ _ (by decide)]
  have hkept : s₃.db fleetApplications = s.db fleetApplications := by
    rw [h₃ _ (by decide), h₁ _ (by decide)]
  refine Prog.Ensures.bind (Q := fun _ s' => Enrolled s s') ?_ fun _ s₅ h₅ => ?_
  · rw [hproduct]
    cases findProduct "authorforge" s₁.db with
    | none => exact .pure (.inl hkept)
    | some productId =>
      have hchannel : stableChannel productId s₁.db = stableChannel productId s.db := by
        rw [stableChannel, stableChannel, h₁ _ (by decide)]
      simp only [Option.bind_some, enrollFleet]
      rw [hchannel]
      exact ensures_ensureFleetApplication _ _ hkept
  · refine Prog.Ensures.bind (recordEmail_checked _ _).ensures_frame fun _ s₆ h₆ => .pure ?_
    rw [Enrolled, h₆ _ (by decide)]
    exact h₅

lemma ensures_registerInstallation (clock : Clock) (customerId : ℕ) (input : ValidatedRegistration) :
    (registerInstallation clock customerId input).Ensures s fun _ s' => Enrolled s s' := by
  refine ensures_select.bind fun product s₁ h₁ => ?_
  obtain ⟨-, rfl⟩ := h₁
  cases product with
  | none => exact .fail
  | some product =>
    refine Prog.Ensures.bind (registerDevice_checked (S := [devices]) (by decide) _ _).ensures_frame
      fun deviceId s₂ h₂ => ?_
    refine ensures_select.bind fun channel s₃ h₃ => ?_
    obtain ⟨rfl, rfl⟩ := h₃
    refine Prog.Ensures.bind (ensureDefaultFleet_checked (S := [fleets]) (by decide) _ _ _).ensures_frame
      fun fleet s₄ h₄ => ?_
    have hkept : s₄.db fleetApplications = s.db fleetApplications := by
      rw [h₄ _ (by decide)]
      exact h₂ _ (by decide)
    have hchannel : stableChannel product.id s₂.db = stableChannel product.id s.db := by
      have hchannels : s₂.db releaseChannels = s.db releaseChannels := h₂ _ (by decide)
      rw [stableChannel, stableChannel, hchannels]
    rw [hchannel]
    refine (ensures_ensureFleetApplication fleet.id product.id hkept).bind fun _ s₅ h₅ => ?_
    refine Prog.Ensures.mono (recordInstallation_checked clock customerId input product deviceId
      fleet.id).ensures_frame fun _ s₆ h₆ => ?_
    rw [Enrolled, h₆ _ (by decide)]
    exact h₅

end Walks

theorem apply_enrolled (op : Operation) (s : DbStore) : Enrolled s (op.apply s) := by
  have hframe : fleetApplications ∉ op.tables → Enrolled s (op.apply s) := fun ht =>
    .inl ((op.apply_follows s).table ht)
  have hsame : ∀ s' : DbStore, s'.db = s.db → Enrolled s s' := fun s' hdb => .inl (by rw [hdb])
  cases op with
  | provision clock input => exact after_ensures (ensures_provisionForAuthUser clock input) hsame
  | customer clock authUserId aal request =>
    cases request with
    | register input =>
      unfold Operation.apply
      dsimp only
      split
      · exact after_ensures (ensures_registerInstallation clock _ input) hsame
      · exact .inl rfl
    | _ =>
      refine hframe ?_
      dsimp only [Operation.tables, CustomerRequest.tables]
      decide
  | _ =>
    refine hframe ?_
    dsimp only [Operation.tables]
    decide

/-- Every row is one of `rows`, or was inserted with the defaults. -/
def Inherited (rows : List (Entry FleetApplication)) (d₀ d : Database) : Prop :=
  d releaseChannels = d₀ releaseChannels ∧ ∀ a ∈ d fleetApplications, a ∈ rows ∨
    a.val = newApplication a.val.fleetId a.val.productId d₀

theorem apply_inherited {rows : List (Entry FleetApplication)} {d₀ : Database} (h : Inherited rows d₀ s.db)
    (op : Operation) : Inherited rows d₀ (op.apply s).db := by
  have hchannels : (op.apply s).db releaseChannels = s.db releaseChannels := by
    refine (op.apply_follows s).table ?_
    cases op with
    | customer clock authUserId aal request =>
      cases request <;> dsimp only [Operation.tables, CustomerRequest.tables] <;> decide
    | _ =>
      dsimp only [Operation.tables]
      decide
  refine ⟨hchannels.trans h.1, fun a ha => ?_⟩
  rcases apply_enrolled op s with hsame | ⟨n, fleetId, productId, happended⟩
  · exact h.2 a (hsame ▸ ha)
  · rw [happended] at ha
    rcases List.mem_append.mp ha with ha | ha
    · exact h.2 a ha
    · obtain rfl := List.mem_singleton.mp ha
      refine .inr ?_
      dsimp only [newApplication]
      rw [stableChannel, stableChannel, h.1]

lemma ensures_updateFleetPolicy (input : UpdateFleetPolicyInput) :
    (updateFleetPolicy input).Ensures s fun _ s' =>
      s'.db fleetApplications = s.db fleetApplications ∧ s'.db releaseChannels = s.db releaseChannels :=
  (updateFleetPolicy_checked input).ensures_frame.mono fun _ _ h => ⟨h _ (by decide), h _ (by decide)⟩

/-- The rows that lookups read and that are older than the policy change carry the policy, and so do the
defaults where a row is younger. -/
def PolicyCarried (fleetId : ℕ) (ring : Option String) (channel : Option ℕ) (d₀ d : Database) : Prop :=
  ∀ a, Reads fleetId d a →
    (a ∈ d₀ fleetApplications → Carries ring channel a.val) ∧
    (a ∉ d₀ fleetApplications → Carries ring channel (newApplication fleetId a.val.productId d₀))

lemma inEffect_iff_carried {d₀ d : Database} (h : Inherited (d₀ fleetApplications) d₀ d) :
    InEffect fleetId ring channel d ↔ PolicyCarried fleetId ring channel d₀ d := by
  rw [inEffect_iff]
  refine forall_congr' fun a => imp_congr_right fun hreads => ?_
  obtain ⟨input, x, hx, hfleet, rfl⟩ := hreads
  obtain ⟨-, -, -, hmem, happlication, -, -⟩ := mem_lookupContexts.mp hx
  by_cases hold : x.application ∈ d₀ fleetApplications
  · exact ⟨fun hc => ⟨fun _ => hc, fun hnot => absurd hold hnot⟩, fun hc => hc.1 hold⟩
  · have hnew := (h.2 x.application hmem).resolve_left hold
    rw [happlication, hfleet] at hnew
    rw [← hnew]
    exact ⟨fun hc => ⟨fun hin => absurd hin hold, fun _ => hc⟩, fun hc => hc.2 hold⟩

/-- The channel that the change sets. -/
def policyChannel (input : UpdateFleetPolicyInput) (d : Database) : Option ℕ :=
  input.releaseChannelKey.bind fun key => authorforgeChannel key d

/-- After a policy change, the policy is in effect in a run exactly as long as the rows that lookups read
carry it anyway: the change itself reaches none of them. -/
theorem fleet_policy_in_effect_iff {s₀ : DbStore} {input : UpdateFleetPolicyInput} {row : AdminFleetRow}
    (hupdate : (updateFleetPolicy input).execute s₀ = (.ok row, s)) (ops : List Operation) :
    EachState (fun s' => InEffect input.fleetId input.updateRing (policyChannel input s₀.db) s'.db) ops s ↔
      EachState (fun s' => PolicyCarried input.fleetId input.updateRing (policyChannel input s₀.db) s₀.db s'.db)
        ops s := by
  obtain ⟨hrows, hchannels⟩ := ensures_updateFleetPolicy input _ _ (Prog.run_of_execute_ok hupdate)
  have hall : EachState (fun s' => Inherited (s₀.db fleetApplications) s₀.db s'.db) ops s :=
    eachState_of_step (P := fun s' => Inherited (s₀.db fleetApplications) s₀.db s'.db) (Q := fun _ _ => True)
      (fun op s' h _ => apply_inherited h op) ⟨hchannels, fun a ha => .inl (hrows ▸ ha)⟩ (eachStep_true ops s)
  exact eachState_congr hall fun s' h => inEffect_iff_carried h

/-- An account with a registered installation; the product has a stable channel. -/
def fleetRows : ∀ t, List (Entry (Row t))
  | .customerProfiles => [⟨0, ⟨100, .individual, none, .active, none, none, false, none, 0⟩⟩]
  | .products => [⟨1, ⟨"authorforge", .active⟩⟩]
  | .releaseChannels => [⟨2, ⟨1, "stable"⟩⟩]
  | .fleets => [⟨3, ⟨0, "Default fleet", .default, .active, "standard", some 2, false⟩⟩]
  | .fleetApplications => [⟨4, ⟨3, 1, .active, "standard", some 2⟩⟩]
  | .installations => [⟨5, ⟨0, none, some 3, "key_1", 1, none, none, none, none, none, none, .active, none⟩⟩]
  | _ => []

def fleetStore : DbStore := ⟨fleetRows, 6⟩

/-- An operator moves the fleet to the canary ring. -/
def canaryPolicy : UpdateFleetPolicyInput := ⟨"op", 3, none, some "canary", none, none, "early access", none⟩

def canaryStore : DbStore := (Operation.fleetPolicy canaryPolicy).apply fleetStore

lemma canaryPolicy_succeeds : ∃ row, (updateFleetPolicy canaryPolicy).execute fleetStore = (.ok row, canaryStore) :=
  Prog.exists_execute_ok (by decide)

def fleetLookup : UpdateLookupInput := ⟨0, 5, "authorforge", "linux", "x86_64", "deb"⟩

lemma fleet_reads : Reads 3 canaryStore.db ⟨4, ⟨3, 1, .active, "standard", some 2⟩⟩ := by
  have hmem : (⟨⟨5, ⟨0, none, some 3, "key_1", 1, none, none, none, none, none, none, .active, none⟩⟩,
      ⟨3, ⟨0, "Default fleet", .default, .active, "canary", some 2, false⟩⟩, ⟨1, ⟨"authorforge", .active⟩⟩,
      ⟨4, ⟨3, 1, .active, "standard", some 2⟩⟩⟩ : LookupContext) ∈ lookupContexts fleetLookup canaryStore.db := by
    decide
  exact ⟨fleetLookup, _, hmem, rfl, rfl⟩

def heartbeatRun : List Operation := [.customer ⟨1, 1⟩ 100 none (.heartbeat 5 none)]

/-- The fleet is in the canary ring, and its lookups still consider the campaigns of the standard ring. -/
theorem canary_without_effect : Stored fleetStore ∧
    (∃ row, (updateFleetPolicy canaryPolicy).execute fleetStore = (.ok row, canaryStore)) ∧
    ¬EachState (fun s' => InEffect 3 (some "canary") none s'.db) heartbeatRun canaryStore := by
  refine ⟨?_, canaryPolicy_succeeds, fun h => ?_⟩
  · refine ⟨⟨fun t => ?_, fun t => ?_⟩, fun t => ?_⟩ <;> cases t <;>
      simp [fleetStore, fleetRows, Db.refsOk, Schema.refs, foreignKeys, Db.resolves, Db.has]
  · rcases inEffect_iff.mp h.start _ fleet_reads with hnone | ⟨hring, -⟩
    · cases hnone
    · revert hring
      decide

theorem fleet_policy_in_effect_iff_canary :
    EachState (fun s' => InEffect 3 (some "canary") none s'.db) heartbeatRun canaryStore ↔
      EachState (fun s' => PolicyCarried 3 (some "canary") none fleetStore.db s'.db) heartbeatRun
        canaryStore := by
  obtain ⟨row, hupdate⟩ := canaryPolicy_succeeds
  exact fleet_policy_in_effect_iff hupdate heartbeatRun

end ForgeCustomer.FleetPolicies
