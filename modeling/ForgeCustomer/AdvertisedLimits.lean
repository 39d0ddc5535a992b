import ForgeCustomer.LicenseRuns
import ForgeCustomer.MeterQuotas

/-!
# The advertised device limit

The number under `authorforge.devices.max` in the evaluation, and the limit that an activation at the same
instant is checked against.
-/
namespace ForgeCustomer.AdvertisedLimits
open SqlTables SqlPrograms SqlStatements DomainRules StripeEvents DatabaseTables AuditWriters LicensingRepository
  LicenseSync LicenseRuns EntitlementEvaluation SignedDocuments MeterQuotas CommercialPolicy TableName

variable {t : EntitlementState} {customerId productId : ℕ}

/-- The limit that an answer of `activate_installation` carries. -/
def enforcedLimit : Except ActivationError ActivationOutcome → Option ℕ
  | .ok outcome => some outcome.deviceLimit
  | .error (.deviceLimitReached deviceLimit _) => some deviceLimit
  | .error _ => none

/-- With or without a free slot, the answer carries the limit of the license that the activation has picked. -/
theorem activate_enforces {clock : Clock} {installationId : ℕ} {licenseId : Option ℕ} {correlationId : Option String}
    {s : DbStore} {installation : Entry Installation} {deviceStatus : Option DeviceStatus} {license : Entry License}
    (hcontext : installationContext installationId customerId s.db = some (installation, deviceStatus))
    (hpick : pickLicense clock.now customerId installation.val.productId licenseId s.db = some license) :
    (activateInstallation clock customerId installationId licenseId correlationId).Answers s fun answer =>
      ∀ limit, enforcedLimit answer = some limit → limit = effectiveLimit clock.now license s.db := by
  have hsilent : ∀ {e : ActivationError}, enforcedLimit (.error e) = none → ∀ limit,
      enforcedLimit (.error e) = some limit → limit = effectiveLimit clock.now license s.db := by
    intro e he limit hlimit
    rw [he] at hlimit
    cases hlimit
  refine Prog.Answers.step (run_select _ _) ?_
  rw [hcontext]
  dsimp only
  split
  · exact .fail (hsilent rfl)
  split
  · exact .fail (hsilent rfl)
  refine Prog.Answers.step (run_selectForUpdate _ _ _) ?_
  dsimp only
  rw [hpick]
  dsimp only
  split
  · exact .fail (hsilent rfl)
  split
  · exact .fail (hsilent rfl)
  split
  · exact .fail (hsilent rfl)
  refine Prog.Answers.step (run_select _ _) ?_
  split
  · exact .fail (hsilent rfl)
  have hruns : (commercialPolicyDeviceLimitForLicense clock.now license.id : Tx ActivationError _).Runs
      ⟨s.db, s.seq + 1 + 1 + 1⟩ _ := runs_policyLimit
  obtain ⟨policyLimit, s₃, hpolicy, hvalue, -⟩ := hruns
  refine Prog.Answers.step hpolicy (Prog.Answers.step (run_select _ _) (Prog.Answers.step (run_select _ _) ?_))
  dsimp only
  rw [hvalue]
  split
  · rintro r s' hr limit hlimit
    cases hr
    exact (Option.some.inj hlimit).symm
  split
  · refine .fail fun limit hlimit => ?_
    exact (Option.some.inj hlimit).symm
  have hdb : ∀ e : SqlError, ∃ x, (FromSql.sql e : ActivationError) = .db x := fun e => ⟨e, rfl⟩
  -- The rest of the transaction answers this limit, or an error of the database.
  refine Prog.Ensures.answers (Q := fun outcome _ => outcome.deviceLimit = effectiveLimit clock.now license s.db)
    (E := fun e => ∃ x, e = .db x) ?_ ?_ ?_ ?_
  · refine Prog.Ensures.bind (fun _ _ _ => trivial) fun activation _ (_ : True) => ?_
    refine Prog.Ensures.bind (fun _ _ _ => trivial) fun _ _ (_ : True) => ?_
    exact Prog.Ensures.bind (fun _ _ _ => trivial) fun _ _ (_ : True) => .pure rfl
  · refine Prog.Errors.bind (errors_statement hdb) fun activation => ?_
    refine Prog.Errors.bind (Prog.Errors.bind (errors_statement hdb) fun _ => .pure ()) fun _ => ?_
    exact Prog.Errors.bind (Prog.Errors.bind (errors_statement hdb) fun _ => .pure ()) fun _ => .pure _
  · rintro outcome _ houtcome limit hlimit
    rw [← houtcome]
    exact (Option.some.inj hlimit).symm
  · rintro e ⟨x, rfl⟩
    exact hsilent rfl

/-- The feature under which a snapshot carries the limit. -/
def devicesMax : String := "authorforge.devices.max"

/-- The last unexpired override for the feature, else the last promotional grant, else the last license grant. -/
def exception (t : EntitlementState) (customerId productId : ℕ) : Option (FeatureValue ℚ) :=
  (SortedMap.last devicesMax (grantFeatures (overrideRows t customerId productId))).or
    ((SortedMap.last devicesMax (grantFeatures (grantRows t customerId productId))).or
      ((licenseGrantLayer t customerId productId).get? devicesMax))

/-- What the policy says about a plan, else what the catalog says about its version. -/
def planDevices (t : EntitlementState) (planVersionId : ℕ) (limits : Option PolicyLimits) : Option (FeatureValue ℚ) :=
  match limits with
  | some limits => some (.number limits.deviceLimit)
  | none => (planFeatureLayer planVersionId t.db).get? devicesMax

/-- The plan of the current subscription, else the included plan. -/
def plannedDevices (t : EntitlementState) (customerId productId : ℕ) : Option (FeatureValue ℚ) :=
  ((currentSubscription customerId productId t.db).bind fun current => planDevices t current.planVersionId
      ((activeDocument t "authorforge").bind fun policy => limitsForPlan policy current.planKey)).or
    ((includedPlanVersion productId "authorforge" t.db).bind fun planVersionId =>
      planDevices t planVersionId ((activeDocument t "authorforge").map (·.included)))

lemma get?_planLayer (planVersionId : ℕ) (limits : Option PolicyLimits) (quotas : QuotaMap)
    (cadences : SortedMap String ResetCadence) :
    (planLayer t planVersionId limits quotas cadences).features.get? devicesMax = planDevices t planVersionId limits := by
  cases limits with
  | none => rfl
  | some limits =>
    unfold planLayer applyCommercialPolicy planDevices
    dsimp only
    rw [SortedMap.get?_extend]
    rfl

/-- The evaluation takes the exception, if there is one. -/
theorem get?_devicesMax : (evaluate (assemble t customerId productId "authorforge"
      (currentSubscription customerId productId t.db)).inputs).features.get? devicesMax =
    (exception t customerId productId).or (plannedDevices t customerId productId) := by
  have hcloud : ∀ inputs : EntitlementInputs ℚ, cloudOff inputs devicesMax = false := by
    intro inputs
    have hkey : isCloudFeature devicesMax = false := by decide
    rw [cloudOff, hkey, Bool.false_and]
  have hplan : (subscribedLayer t "authorforge" (currentSubscription customerId productId t.db)
      (includedLayer t productId "authorforge")).features.get? devicesMax =
      (currentSubscription customerId productId t.db).bind fun current => planDevices t current.planVersionId
        ((activeDocument t "authorforge").bind fun policy => limitsForPlan policy current.planKey) := by
    unfold subscribedLayer
    cases currentSubscription customerId productId t.db with
    | none => rfl
    | some current => exact get?_planLayer _ _ _ _
  have hincluded : (includedLayer t productId "authorforge").features.get? devicesMax =
      (includedPlanVersion productId "authorforge" t.db).bind fun planVersionId =>
        planDevices t planVersionId ((activeDocument t "authorforge").map (·.included)) := by
    unfold includedLayer
    cases includedPlanVersion productId "authorforge" t.db with
    | none => rfl
    | some planVersionId => exact get?_planLayer _ _ _ _
  rw [get?_evaluate]
  simp only [hcloud, Bool.false_eq_true, if_false, Option.map_id_fun', id]
  unfold layered assemble exception plannedDevices
  dsimp only
  rw [mergeGrants_features, mergeGrants_features, SortedMap.get?_extend, SortedMap.get?_extend, hplan, hincluded]
  simp only [SortedMap.get?_empty, Option.or_none, Option.or_assoc]

/-- The value is the number that the policy in force sets for the plan of the license's subscription, or the one of the
license itself if no policy does. -/
def Licensed (t : EntitlementState) (license : Entry License) (value : FeatureValue ℚ) : Prop :=
  match (licensePlan license.id t.db).bind fun plan => (policyTier plan.productKey plan.planKey).bind fun tier =>
    (activePolicy t.now plan.productKey t.db).map fun version => (tier version.policy).deviceLimit with
  | some limit => value = .number (clampLimit limit)
  | none => value = .number license.val.deviceLimit

lemma licensed_iff (license : Entry License) (value : FeatureValue ℚ) :
    Licensed t license value ↔ value = .number (effectiveLimit t.now license t.db) := by
  unfold Licensed effectiveLimit policyDeviceLimit
  cases licensePlan license.id t.db with
  | none => exact Iff.rfl
  | some plan =>
    dsimp only [Option.bind_some]
    cases policyTier plan.productKey plan.planKey with
    | none => exact Iff.rfl
    | some tier =>
      dsimp only [Option.bind_some]
      cases activePolicy t.now plan.productKey t.db with
      | none => exact Iff.rfl
      | some version => exact Iff.rfl

/-- The exception for the customer, or without one the number of the plans, is that of the license. -/
def Consistent (t : EntitlementState) (customerId productId : ℕ) (license : Entry License) : Prop :=
  match exception t customerId productId with
  | some value => Licensed t license value
  | none => ∃ value, plannedDevices t customerId productId = some value ∧ Licensed t license value

lemma consistent_iff (license : Entry License) : Consistent t customerId productId license ↔
    (exception t customerId productId).or (plannedDevices t customerId productId) =
      some (.number (effectiveLimit t.now license t.db)) := by
  unfold Consistent
  cases exception t customerId productId with
  | some value =>
    dsimp only
    rw [licensed_iff, Option.some_or, Option.some.injEq]
  | none =>
    dsimp only
    rw [Option.none_or]
    constructor
    · rintro ⟨value, hvalue, hlicensed⟩
      rw [hvalue, (licensed_iff license value).mp hlicensed]
    · intro h
      exact ⟨_, h, (licensed_iff license _).mpr rfl⟩

lemma policyTier_map (policy : PolicyDocument) (planKey : String) :
    (policyTier "authorforge" planKey).map (fun tier => tier policy) = limitsForPlan policy planKey := by
  unfold policyTier limitsForPlan
  by_cases hincluded : planKey = "authorforge_included"
  · simp [hincluded]
  · by_cases hpro : planKey = "authorforge_pro" <;> simp [hincluded, hpro]

/-- Without an exception the limits agree if the current subscription has the plan of the license's one and the policy in
force covers it. -/
lemma consistent_of_covered {license : Entry License} {plan : PlanContext} {current : PlannedSubscription}
    {version : CommercialPolicyVersion} {limits : PolicyLimits} (hexception : exception t customerId productId = none)
    (hplan : licensePlan license.id t.db = some plan) (hproduct : plan.productKey = "authorforge")
    (hcurrent : currentSubscription customerId productId t.db = some current) (hsame : current.planKey = plan.planKey)
    (hpolicy : activePolicy t.now "authorforge" t.db = some version)
    (hlimits : limitsForPlan version.policy plan.planKey = some limits)
    (hrange : 0 ≤ limits.deviceLimit ∧ limits.deviceLimit < 2 ^ 31) : Consistent t customerId productId license := by
  have hplanned : plannedDevices t customerId productId = some (.number limits.deviceLimit) := by
    have hactive : activeDocument t "authorforge" = some version.policy := by
      rw [activeDocument, if_pos rfl, hpolicy, Option.map_some]
    unfold plannedDevices
    rw [hcurrent, hactive, Option.bind_some, Option.bind_some, hsame, hlimits]
    rfl
  have heffective : effectiveLimit t.now license t.db = clampLimit limits.deviceLimit := by
    rw [← policyTier_map] at hlimits
    obtain ⟨tier, htier, rfl⟩ := Option.map_eq_some_iff.mp hlimits
    rw [effectiveLimit, hplan, Option.bind_some, policyDeviceLimit, hproduct, htier, Option.bind_some, hpolicy]
    rfl
  have hclamp : ((clampLimit limits.deviceLimit : ℕ) : ℤ) = limits.deviceLimit := by
    unfold clampLimit
    omega
  have hcast : ((clampLimit limits.deviceLimit : ℕ) : ℚ) = (limits.deviceLimit : ℚ) := by
    exact_mod_cast congrArg (Int.cast : ℤ → ℚ) hclamp
  rw [consistent_iff, hexception, Option.none_or, hplanned, heffective, hcast]

/-- The advertised limit is the enforced one exactly if the last exception for `authorforge.devices.max`, or the plan if
there is none, says what the policy says about the license's plan, or else the license itself. -/
theorem limits_agree_iff {clock : Clock} {installationId : ℕ} {licenseId : Option ℕ} {correlationId : Option String}
    {s s' : DbStore} {installation : Entry Installation} {deviceStatus : Option DeviceStatus} {license : Entry License}
    {loaded : LoadedEntitlements} {answer : Except ActivationError ActivationOutcome} {limit : ℕ}
    (hdb : s.db = t.db) (hnow : clock.now = t.now)
    (hloaded : loadEntitlementInputs t customerId "authorforge" = some loaded)
    (hcontext : installationContext installationId customerId s.db = some (installation, deviceStatus))
    (hpick : pickLicense clock.now customerId installation.val.productId licenseId s.db = some license)
    (hanswer : (activateInstallation clock customerId installationId licenseId correlationId).execute s = (answer, s'))
    (hlimit : enforcedLimit answer = some limit) :
    (evaluate loaded.inputs).features.get? devicesMax = some (.number limit) ↔
      Consistent t customerId loaded.productId license := by
  have henforced := (activate_enforces hcontext hpick).execute hanswer limit hlimit
  rw [hnow, hdb] at henforced
  obtain ⟨product, -, rfl⟩ := Option.map_eq_some_iff.mp hloaded
  rw [get?_devicesMax, henforced, consistent_iff]
  exact Iff.rfl

def proRows (overrides : List (Entry EntitlementOverride)) : ∀ t, List (Entry (Row t))
  | .customerProfiles => [⟨0, ⟨100, .individual, none, .active, none, none, false, none, 0⟩⟩]
  | .products => [⟨1, ⟨"authorforge", .active⟩⟩]
  | .plans => [⟨2, ⟨1, "authorforge_pro", .active⟩⟩]
  | .planVersions => [⟨3, ⟨2, 1, .active, some "price_a"⟩⟩]
  | .billingAccounts => [⟨5, ⟨0⟩⟩]
  | .subscriptions => [⟨6, ⟨0, 5, 3, "sub_1", .active, none, none, false, some 0, 0⟩⟩]
  | .commercialPolicyVersions => [⟨7, ⟨1, 1, 0, bootstrapLimits, "bootstrap", "system", "migration", none, 0⟩⟩]
  | .licenses => [⟨8, ⟨0, 1, some 6, .active, 3, 0, none⟩⟩]
  | .installations => [⟨9, ⟨0, none, none, "install_1", 1, none, none, none, none, none, none, .active, none⟩⟩]
  | .entitlementOverrides => overrides
  | _ => []

def proState (overrides : List (Entry EntitlementOverride)) : EntitlementState :=
  ⟨proRows overrides, ⟨[], [], [], fun _ => 0⟩, 10, "1970-01"⟩

def tenDevices : Entry EntitlementOverride :=
  ⟨10, ⟨0, 1, some devicesMax, none, none, some 10, none, "goodwill", "op", true, none⟩⟩

def proStore (overrides : List (Entry EntitlementOverride)) : DbStore := ⟨proRows overrides, 11⟩

def proActivation : Except ActivationError ActivationOutcome :=
  .ok ⟨18, 8, 9, 10, 3, 1, false⟩

/-- An operator gives the customer ten devices: the snapshot says ten, the activation stops at three. -/
theorem override_not_enforced : ∃ loaded s',
    (proState [tenDevices]).db licenses = [⟨8, ⟨0, 1, some 6, .active, 3, 0, none⟩⟩] ∧
    loadEntitlementInputs (proState [tenDevices]) 0 "authorforge" = some loaded ∧
    (activateInstallation ⟨10, 10⟩ 0 9 none none).execute (proStore [tenDevices]) = (proActivation, s') ∧
    enforcedLimit proActivation = some 3 ∧
    (evaluate loaded.inputs).features.get? devicesMax = some (.number 10) := by
  refine ⟨_, _, rfl, rfl, rfl, rfl, ?_⟩
  decide +kernel

lemma pro_consistent : Consistent (proState []) 0 1 ⟨8, ⟨0, 1, some 6, .active, 3, 0, none⟩⟩ := by
  have hplan : licensePlan 8 (proState []).db = some ⟨1, "authorforge", "authorforge_pro"⟩ := by decide
  have hcurrent : currentSubscription 0 1 (proState []).db = some ⟨3, .active, "authorforge_pro", some 0, 0⟩ := by rfl
  have hpolicy : activePolicy 10 "authorforge" (proState []).db =
      some ⟨1, 1, 0, bootstrapLimits, "bootstrap", "system", "migration", none, 0⟩ := by rfl
  have hlimits : limitsForPlan bootstrapLimits "authorforge_pro" = some bootstrapLimits.pro := by rfl
  exact consistent_of_covered (by decide) hplan rfl hcurrent rfl hpolicy hlimits (by decide)

theorem limits_agree_iff_pro : ∃ loaded, loadEntitlementInputs (proState []) 0 "authorforge" = some loaded ∧
    (evaluate loaded.inputs).features.get? devicesMax = some (.number 3) := by
  have hanswer : ∃ s', (activateInstallation ⟨10, 10⟩ 0 9 none none).execute (proStore []) = (proActivation, s') :=
    ⟨_, rfl⟩
  obtain ⟨s', hanswer⟩ := hanswer
  exact ⟨_, rfl, (limits_agree_iff (t := proState []) (s := proStore []) rfl rfl rfl rfl rfl hanswer rfl).mpr
    pro_consistent⟩

end ForgeCustomer.AdvertisedLimits
