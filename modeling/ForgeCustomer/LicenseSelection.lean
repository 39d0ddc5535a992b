import ForgeCustomer.EntitlementEvaluation

/-!
# The license that decides

An activation without a license id takes the latest active license that has not expired, the evaluation of
entitlements denies a customer whose effective license is revoked.
-/
namespace ForgeCustomer.LicenseSelection
open SqlTables SqlPrograms SqlStatements DomainRules StripeEvents DatabaseTables AuditWriters LicensingRepository
  EntitlementEvaluation TableName

variable {customerId productId : ℕ} {d : Database}

def isLicenseFor (customerId productId : ℕ) (e : Entry License) : Bool :=
  e.val.customerId == customerId && e.val.productId == productId

/-- The most recently issued license of a customer for a product. -/
def latestLicense (customerId productId : ℕ) (d : Database) : Option (Entry License) :=
  firstBy (fun a b => decide (b.val.issuedAt < a.val.issuedAt))
    ((d .licenses).filter (isLicenseFor customerId productId))

/-- Active licenses first, then the latest. -/
def effectiveBefore (a b : License) : Bool :=
  if (a.status == .active) != (b.status == .active) then a.status == .active else decide (b.issuedAt < a.issuedAt)

lemma effectiveLicenseStatus_eq : effectiveLicenseStatus customerId productId d =
    (firstBy (fun a b : Entry License => effectiveBefore a.val b.val)
      ((d .licenses).filter (isLicenseFor customerId productId))).map (·.val.status) := by
  have hmap : ((d .licenses).map (·.val)).filter (fun license =>
      license.customerId == customerId && license.productId == productId) =
        ((d .licenses).filter (isLicenseFor customerId productId)).map (·.val) := List.filter_map
  rw [effectiveLicenseStatus, hmap, firstBy_map, Option.map_map]
  rfl

lemma effectiveBefore_asymm (a b : License) (h : effectiveBefore a b = true) : effectiveBefore b a = false := by
  unfold effectiveBefore at h ⊢
  cases ha : a.status == .active <;> cases hb : b.status == .active <;> simp_all [le_of_lt]

lemma effectiveBefore_trans (a b c : License) (hcb : effectiveBefore c b = false) (hba : effectiveBefore b a = false) :
    effectiveBefore c a = false := by
  unfold effectiveBefore at hcb hba ⊢
  cases ha : a.status == .active <;> cases hb : b.status == .active <;> cases hc : c.status == .active <;> simp_all
  all_goals exact hcb.trans hba

/-- An active license, expired or not, makes the effective one active. -/
lemma effective_of_active {license : Entry License} (hmem : license ∈ d .licenses)
    (hfor : isLicenseFor customerId productId license = true) (hactive : license.val.status = .active) :
    effectiveLicenseStatus customerId productId d = some .active := by
  have hrow : license ∈ (d .licenses).filter (isLicenseFor customerId productId) := List.mem_filter.mpr ⟨hmem, hfor⟩
  rw [effectiveLicenseStatus_eq]
  cases hfirst : firstBy (fun a b : Entry License => effectiveBefore a.val b.val)
      ((d .licenses).filter (isLicenseFor customerId productId)) with
  | none =>
    rw [firstBy_eq_none hfirst] at hrow
    cases hrow
  | some first =>
    have hbefore := not_before_firstBy (fun a b => effectiveBefore_asymm a.val b.val)
      (fun a b c => effectiveBefore_trans a.val b.val c.val) hfirst license hrow
    rw [Option.map_some]
    by_contra hstatus
    have hother : (first.val.status == .active) = false := by
      rw [beq_eq_false_iff_ne]
      exact fun h => hstatus (congrArg some h)
    simp [effectiveBefore, hactive, hother] at hbefore

/-- Without an active license the latest one is effective. -/
lemma effective_of_none_active
    (h : ∀ license ∈ d .licenses, isLicenseFor customerId productId license = true → license.val.status ≠ .active) :
    effectiveLicenseStatus customerId productId d = (latestLicense customerId productId d).map (·.val.status) := by
  have hinactive : ∀ license ∈ (d .licenses).filter (isLicenseFor customerId productId),
      (license.val.status == .active) = false := by
    intro license hlicense
    obtain ⟨hmem, hfor⟩ := List.mem_filter.mp hlicense
    exact beq_eq_false_iff_ne.mpr (h license hmem hfor)
  rw [effectiveLicenseStatus_eq, latestLicense]
  congr 1
  refine firstBy_congr fun a ha b hb => ?_
  simp [effectiveBefore, hinactive a ha, hinactive b hb]

/-- The denial of the evaluation fits the license that an activation at the same instant would take. -/
structure DenialFits (s : EntitlementState) (customerId : ℕ) (loaded : LoadedEntitlements) : Prop where
  found : ∀ license, pickLicense s.now customerId loaded.productId none s.db = some license →
    loaded.inputs.revoked = false
  denied : pickLicense s.now customerId loaded.productId none s.db = none → ∀ license,
    latestLicense customerId loaded.productId s.db = some license → license.val.status = .revoked →
      loaded.inputs.revoked = true

lemma revoked_eq {s : EntitlementState} {productKey : String} {loaded : LoadedEntitlements}
    (h : loadEntitlementInputs s customerId productKey = some loaded) :
    loaded.inputs.revoked = (effectiveLicenseStatus customerId loaded.productId s.db == some .revoked) := by
  obtain ⟨product, -, rfl⟩ := Option.map_eq_some_iff.mp h
  rfl

/-- The denial fits unless the customer's latest license is revoked, an activation would find none, and a license
that has expired is still stored as active. -/
theorem denial_fits_iff {s : EntitlementState} {productKey : String} {loaded : LoadedEntitlements}
    (h : loadEntitlementInputs s customerId productKey = some loaded) : DenialFits s customerId loaded ↔
      (pickLicense s.now customerId loaded.productId none s.db = none → ∀ latest,
        latestLicense customerId loaded.productId s.db = some latest → latest.val.status = .revoked →
          ∀ license ∈ s.db .licenses, isLicenseFor customerId loaded.productId license = true →
            license.val.status ≠ .active) := by
  have hrevoked := revoked_eq h
  constructor
  · intro hfits hnone latest hlatest hstatus license hmem hfor hactive
    have hdenied := hfits.denied hnone latest hlatest hstatus
    rw [hrevoked, effective_of_active hmem hfor hactive] at hdenied
    revert hdenied
    decide
  · intro hmasked
    constructor
    · intro license hpick
      obtain ⟨hmem, hcond⟩ := List.mem_filter.mp (mem_of_firstBy hpick)
      simp only [Bool.and_eq_true] at hcond
      have hfor : isLicenseFor customerId loaded.productId license = true := by
        simp only [isLicenseFor, Bool.and_eq_true]
        exact hcond.1.1
      rw [hrevoked, effective_of_active hmem hfor (beq_iff_eq.mp hcond.1.2)]
      rfl
    · intro hnone latest hlatest hstatus
      rw [hrevoked, effective_of_none_active (hmasked hnone latest hlatest hstatus), hlatest, Option.map_some,
        hstatus]
      rfl

/-- License 2 has expired at 10, license 3 was issued later and is revoked. -/
def maskingRows : ∀ t, List (Entry (Row t))
  | .customerProfiles => [⟨0, ⟨100, .individual, none, .active, none, none, false, none, 0⟩⟩]
  | .products => [⟨1, ⟨"authorforge", .active⟩⟩]
  | .licenses => [⟨2, ⟨0, 1, none, .active, 1, 0, some 10⟩⟩, ⟨3, ⟨0, 1, none, .revoked, 1, 20, none⟩⟩]
  | _ => []

def maskingState : EntitlementState := ⟨maskingRows, ⟨[], [], [], fun _ => 0⟩, 30, "1970-01"⟩

def maskingInputs : LoadedEntitlements := assemble maskingState 0 1 "authorforge" none

lemma maskingInputs_loaded : loadEntitlementInputs maskingState 0 "authorforge" = some maskingInputs := by rfl

/-- The revocation does not deny the customer, although an activation finds no license. -/
theorem revocation_masked : loadEntitlementInputs maskingState 0 "authorforge" = some maskingInputs ∧
    ¬DenialFits maskingState 0 maskingInputs := by
  refine ⟨maskingInputs_loaded, fun h => ?_⟩
  have hlatest : latestLicense 0 1 maskingState.db = some ⟨3, ⟨0, 1, none, .revoked, 1, 20, none⟩⟩ := by decide
  have hdenied : maskingInputs.inputs.revoked = true := h.denied (by decide) _ hlatest rfl
  have hrevoked : maskingInputs.inputs.revoked = false := by rfl
  rw [hrevoked] at hdenied
  cases hdenied

theorem denial_fits_iff_masking : DenialFits maskingState 0 maskingInputs ↔
    (pickLicense 30 0 1 none maskingRows = none → ∀ latest, latestLicense 0 1 maskingRows = some latest →
      latest.val.status = .revoked → ∀ license ∈ maskingRows .licenses, isLicenseFor 0 1 license = true →
        license.val.status ≠ .active) :=
  denial_fits_iff maskingInputs_loaded

end ForgeCustomer.LicenseSelection
