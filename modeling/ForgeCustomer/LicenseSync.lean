import ForgeCustomer.CommerceRepository

/-!
# What the license sync does

The license linked to a subscription after `sync_license_for_subscription`, as a function of
the license before, the subscription's status and the device limit of its plan.
-/
namespace ForgeCustomer.LicenseSync
open SqlTables SqlPrograms SqlStatements DomainRules StripeEvents DatabaseTables AuditWriters
  LicensingRepository TableName

/-- The device ceiling of the policy in force. -/
def policyDeviceLimit (now : Time) (productKey planKey : String) (d : Database) : Option ℕ :=
  (policyTier productKey planKey).bind fun tier =>
    (activePolicy now productKey d).map fun version => clampLimit (tier version.policy).deviceLimit

/-- The device limit that a plan version gives: the policy's, else the catalog's, else one. -/
def planDeviceLimit (now : Time) (planVersionId : ℕ) (d : Database) : Option ℕ :=
  (planContext d planVersionId).map fun plan =>
    (policyDeviceLimit now plan.productKey plan.planKey d).getD
      (clampLimit ((catalogDevicesMax planVersionId plan.productKey d).getD 1))

/-- The license that follows a subscription. -/
def linkedLicense (customerId subscriptionId : ℕ) (d : Database) : Option (Entry License) :=
  (d .licenses).find? (isLicenseOf customerId subscriptionId)

/-- Status and device limit of the linked license. -/
def licenseTerms (customerId subscriptionId : ℕ) (d : Database) : Option (LicenseStatus × ℕ) :=
  (linkedLicense customerId subscriptionId d).map fun e => (e.val.status, e.val.deviceLimit)

/-- Status and device limit after a sync. -/
def syncedTerms (limit : ℕ) (status : SubscriptionStatus) :
    Option (LicenseStatus × ℕ) → Option (LicenseStatus × ℕ)
  | none => if status.grantsCloud then some (.active, limit) else none
  | some (old, oldLimit) =>
    match licenseSyncAction (some old) status with
    | some .reactivate => some (.active, limit)
    | some .suspend => some (.suspended, oldLimit)
    | some .expire => some (.expired, oldLimit)
    | _ => if old = .active ∧ status.grantsCloud then some (.active, limit) else some (old, oldLimit)

/-- The device limit of a plan only depends on the catalog. -/
lemma planDeviceLimit_congr {d d' : Database}
    (h : ∀ t ∈ [products, features, plans, planVersions, planFeatures, commercialPolicyVersions],
      d' t = d t) (now : Time) (planVersionId : ℕ) :
    planDeviceLimit now planVersionId d' = planDeviceLimit now planVersionId d := by
  simp only [List.mem_cons, List.not_mem_nil, or_false, forall_eq_or_imp, forall_eq] at h
  obtain ⟨h1, h2, h3, h4, h5, h6⟩ := h
  simp only [planDeviceLimit, planContext, policyDeviceLimit, activePolicy, catalogDevicesMax, Db.lookup,
    h1, h2, h3, h4, h5, h6]

lemma licenseTerms_congr {d d' : Database} (h : d' .licenses = d .licenses)
    (customerId subscriptionId : ℕ) :
    licenseTerms customerId subscriptionId d' = licenseTerms customerId subscriptionId d := by
  rw [licenseTerms, licenseTerms, linkedLicense, linkedLicense, h]

variable {ε : Type} [FromSql ε] {s : DbStore}

/-- With intact foreign keys every plan version has a plan and a product. -/
lemma exists_planContext {d : Database} (hd : d.Intact) {planVersionId : ℕ}
    (h : d.has .planVersions planVersionId = true) :
    ∃ plan, planContext d planVersionId = some plan ∧ d.has .products plan.productId = true := by
  obtain ⟨version, hversion, hv⟩ := Db.lookup_of_has h
  have hplan : d.has .plans version.val.planId = true := by
    simpa [Db.refsOk, Schema.refs, foreignKeys, Db.resolves] using hd .planVersions version hversion
  obtain ⟨plan, hplan, hp⟩ := Db.lookup_of_has hplan
  have hproduct : d.has .products plan.val.productId = true := by
    simpa [Db.refsOk, Schema.refs, foreignKeys, Db.resolves] using hd .plans plan hplan
  obtain ⟨product, -, hq⟩ := Db.lookup_of_has hproduct
  refine ⟨⟨plan.val.productId, product.val.key, plan.val.key⟩, ?_, hproduct⟩
  simp [planContext, hv, hp, hq]

lemma runs_commercialPolicyDeviceLimit (now : Time) (productKey planKey : String) :
    (commercialPolicyDeviceLimit now productKey planKey : Tx ε _).Runs s fun limit s' =>
      limit = policyDeviceLimit now productKey planKey s.db ∧ s'.db = s.db := by
  unfold commercialPolicyDeviceLimit policyDeviceLimit
  cases policyTier productKey planKey with
  | none => exact .pure ⟨rfl, rfl⟩
  | some tier => exact ⟨_, _, run_select _ _, rfl, rfl⟩

/-- A license update that keeps customer and subscription. -/
lemma linkedLicense_update {customerId subscriptionId : ℕ} {e : Entry License}
    (he : linkedLicense customerId subscriptionId s.db = some e) {f : License → License}
    (hf : ∀ r, (f r).customerId = r.customerId ∧ (f r).subscriptionId = r.subscriptionId)
    {s' : DbStore} (hdb : s'.db = s.db.put .licenses (updateRows (fun x => x.id == e.id) f (s.db .licenses))) :
    linkedLicense customerId subscriptionId s'.db = some ⟨e.id, f e.val⟩ := by
  rw [linkedLicense] at he ⊢
  rw [hdb, Db.put_self, find_updateRows, he]
  · simp [updateEntry]
  · intro x _ _
    simp [isLicenseOf, hf]

lemma runs_updateLicense {customerId subscriptionId : ℕ} {e : Entry License}
    (he : linkedLicense customerId subscriptionId s.db = some e) {f : License → License}
    (hf : ∀ r, (f r).customerId = r.customerId ∧ (f r).subscriptionId = r.subscriptionId)
    (hp : ∀ r, (f r).productId = r.productId) :
    (update .licenses (fun x => x.id == e.id) f : Tx ε _).Runs s fun _ s' =>
      linkedLicense customerId subscriptionId s'.db = some ⟨e.id, f e.val⟩ := by
  have hnone : ∀ x ∈ s.db .licenses, (x.id == e.id) = true →
      s.db.updateRefusal .licenses x.val (f x.val) = none := by
    intro x _ _
    refine Db.updateRefusal_of_same rfl ?_
    simp [Schema.refs, foreignKeys, hf, hp]
  exact ⟨_, _, run_update hnone, linkedLicense_update he hf rfl⟩

lemma runs_applyLicenseSync (clock : Clock) {customerId subscriptionId productId : ℕ} (limit : ℕ)
    (status : SubscriptionStatus) (hc : s.db.has .customerProfiles customerId = true)
    (hp : s.db.has .products productId = true) (hsub : s.db.has .subscriptions subscriptionId = true) :
    (applyLicenseSync clock customerId subscriptionId productId limit status
      (linkedLicense customerId subscriptionId s.db)
      (licenseSyncAction ((linkedLicense customerId subscriptionId s.db).map (·.val.status)) status)
        : Tx ε _).Runs s fun _ s' =>
      licenseTerms customerId subscriptionId s'.db =
        syncedTerms limit status (licenseTerms customerId subscriptionId s.db) := by
  unfold licenseTerms
  cases he : linkedLicense customerId subscriptionId s.db with
  | none =>
    cases hg : status.grantsCloud with
    | false =>
      simp only [Option.map_none, licenseSyncAction, hg, syncedTerms, applyLicenseSync]
      refine .pure ?_
      simp [he]
    | true =>
      simp only [Option.map_none, licenseSyncAction, hg, syncedTerms, applyLicenseSync, if_true]
      refine (runs_insertRow rfl rfl ?_).bind fun e s' h => .pure ?_
      · simp [Db.refsOk, Schema.refs, foreignKeys, Db.resolves, hc, hp, hsub]
      · rw [linkedLicense] at he ⊢
        rw [h.2, Db.put_self, List.find?_append, he]
        simp [isLicenseOf]
  | some e =>
    simp only [Option.map_some, syncedTerms]
    cases hact : licenseSyncAction (some e.val.status) status with
    | none =>
      simp only [applyLicenseSync]
      split
      · rename_i hcond
        rw [if_pos ⟨hcond.1, hcond.2.1⟩]
        refine Prog.Runs.bind (runs_updateLicense he ?_ ?_) fun _ s' h => .pure ?_
        · exact fun _ => ⟨rfl, rfl⟩
        · exact fun _ => rfl
        · rw [h]
          simp [hcond.1]
      · rename_i hcond
        refine .pure ?_
        rw [he]
        split_ifs with h
        · have hlimit : e.val.deviceLimit = limit := by
            by_contra hne
            exact hcond ⟨h.1, h.2, hne⟩
          simp [h.1, hlimit]
        · rfl
    | some action =>
      cases action with
      | issue =>
        cases hs : e.val.status <;> cases status <;> simp [licenseSyncAction, hs] at hact
      | reactivate | suspend | expire =>
        simp only [applyLicenseSync]
        refine Prog.Runs.bind (runs_updateLicense he ?_ ?_) fun _ s' h => .pure ?_
        · exact fun _ => ⟨rfl, rfl⟩
        · exact fun _ => rfl
        · rw [h]
          rfl

/-- The sync succeeds for every stored subscription, and this is the license afterwards. -/
theorem runs_syncLicenseForSubscription (clock : Clock) (hd : s.db.Intact)
    {customerId subscriptionId planVersionId : ℕ} (status : SubscriptionStatus)
    (hc : s.db.has .customerProfiles customerId = true)
    (hsub : s.db.has .subscriptions subscriptionId = true)
    (hplan : s.db.has .planVersions planVersionId = true) :
    (syncLicenseForSubscription clock customerId subscriptionId planVersionId status : Tx ε _).Runs s
      fun _ s' => ∃ limit, planDeviceLimit clock.now planVersionId s.db = some limit ∧
        licenseTerms customerId subscriptionId s'.db =
          syncedTerms limit status (licenseTerms customerId subscriptionId s.db) := by
  obtain ⟨plan, hctx, hproduct⟩ := exists_planContext hd hplan
  refine Prog.Runs.step (run_select _ _) ?_
  simp only [hctx, Option.map_some]
  refine (runs_commercialPolicyDeviceLimit clock.now plan.productKey plan.planKey).bind fun limit s' h => ?_
  obtain ⟨rfl, hdb⟩ := h
  have hdb : s'.db = s.db := hdb
  refine Prog.Runs.step (run_selectForUpdate _ _ _) ?_
  have hc' : s'.db.has .customerProfiles customerId = true := by rwa [hdb]
  have hproduct' : s'.db.has .products plan.productId = true := by rwa [hdb]
  have hsub' : s'.db.has .subscriptions subscriptionId = true := by rwa [hdb]
  have hrun := runs_applyLicenseSync (ε := ε) (s := ⟨s'.db, s'.seq + 1⟩) clock
    ((policyDeviceLimit clock.now plan.productKey plan.planKey s.db).getD
      (clampLimit ((catalogDevicesMax planVersionId plan.productKey s.db).getD 1))) status
    hc' hproduct' hsub'
  have hlimit : planDeviceLimit clock.now planVersionId s.db =
      some ((policyDeviceLimit clock.now plan.productKey plan.planKey s.db).getD
        (clampLimit ((catalogDevicesMax planVersionId plan.productKey s.db).getD 1))) := by
    rw [planDeviceLimit, hctx]
    rfl
  exact Prog.Runs.mono hrun fun _ s'' hterms => ⟨_, hlimit, by rw [hterms, hdb]⟩

end ForgeCustomer.LicenseSync
