import ForgeCustomer.ServiceOperations

/-!
# When an offline lease is issued

The transaction looks at the newest active activation of the installation only.
-/
namespace ForgeCustomer.OfflineLeases
open SqlTables SqlPrograms SqlStatements DomainRules StripeEvents DatabaseTables AuditWriters
  LicensingRepository EntitlementsRepository ServiceOperations TableName

variable {s : DbStore} {clock : Clock} {installation : Entry Installation}

/-- The transaction answers a lease for the installation. -/
def Issues (signer : Signer) (clock : Clock) (installation : Entry Installation) (leaseTtl : Time)
    (correlationId : Option String) (s : DbStore) : Prop :=
  ∃ lease s', (issueOfflineLease signer clock installation.val.customerId installation.id leaseTtl
    correlationId).execute s = (.ok lease, s')

/-- An active installation without a revoked device. -/
structure Usable (installation : Entry Installation) (d : Database) : Prop where
  active : installation.val.status = .active
  device : ∀ device ∈ d devices, installation.val.deviceId = some device.id → device.val.status ≠ .revoked

/-- An active activation of the installation on an active, unexpired license without a revocation in
scope. -/
structure Leasable (clock : Clock) (installation : Entry Installation) (activation : Entry LicenseActivation)
    (d : Database) : Prop where
  active : activation.val.status = .active
  installed : activation.val.installationId = installation.id
  license : ∃ license ∈ d licenses, license.id = activation.val.licenseId ∧ license.val.status = .active ∧
    (∀ t, license.val.expiresAt = some t → clock.utcNow < t) ∧
    ∀ r ∈ d licenseRevocations, revocationBlocks license.id installation.id installation.val.deviceId r.val =
      false

lemma latestActivation_mem {d : Database} {installationId : ℕ} {activation : Entry LicenseActivation}
    (h : latestActivation installationId d = some activation) : activation ∈ d licenseActivations ∧
      activation.val.installationId = installationId ∧ activation.val.status = .active := by
  obtain ⟨hmem, hcond⟩ := List.mem_filter.mp (mem_of_firstBy h)
  simp only [Bool.and_eq_true, beq_iff_eq] at hcond
  exact ⟨hmem, hcond⟩

lemma leaseContext_eq (hs : Stored s) (he : installation ∈ s.db installations) : ∃ productKey,
    leaseContext installation.id installation.val.customerId s.db = some
      ⟨installation.val.status, installation.val.deviceId,
        (installation.val.deviceId.bind fun id => s.db.lookup devices id).map (·.status), productKey,
        (latestActivation installation.id s.db).bind fun a => activatedLicense a s.db⟩ := by
  have hrefs := hs.intact installations installation he
  simp only [Db.refsOk, List.all_eq_true, Schema.refs, foreignKeys] at hrefs
  have hproduct : s.db.has products installation.val.productId = true :=
    hrefs (.id products installation.val.productId) (by simp)
  obtain ⟨product, -, hproduct⟩ := Db.lookup_of_has hproduct
  refine ⟨product.val.key, ?_⟩
  rw [leaseContext, hs.keyed.find_of_mem he (by simp) fun x hx => by
    simp only [Bool.and_eq_true, beq_iff_eq] at hx; exact hx.1]
  simp [hproduct]

/-- The device status the transaction reads is that of the device's row. -/
lemma device_revoked_iff (hs : Stored s) :
    (installation.val.deviceId.bind fun id => s.db.lookup devices id).map (·.status) = some .revoked ↔
      ∃ device ∈ s.db devices, installation.val.deviceId = some device.id ∧ device.val.status = .revoked := by
  constructor
  · intro h
    obtain ⟨device, hdevice, hrevoked⟩ := Option.map_eq_some_iff.mp h
    obtain ⟨id, hid, hlookup⟩ := Option.bind_eq_some_iff.mp hdevice
    obtain ⟨e, he, rfl⟩ := Option.map_eq_some_iff.mp hlookup
    have heid : e.id = id := by simpa using List.find?_some he
    exact ⟨e, List.mem_of_find?_eq_some he, by rw [hid, heid], hrevoked⟩
  · rintro ⟨device, hdevice, hid, hrevoked⟩
    simp [hid, hs.keyed.lookup_of_mem hdevice, hrevoked]

/-- A lease needs a usable installation whose newest activation is leasable. -/
lemma leasable_of_issues {signer : Signer} {leaseTtl : Time} {correlationId : Option String} (hs : Stored s)
    (he : installation ∈ s.db installations)
    (h : Issues signer clock installation leaseTtl correlationId s) : Usable installation s.db ∧
      ∃ activation, latestActivation installation.id s.db = some activation ∧
        Leasable clock installation activation s.db := by
  obtain ⟨lease, s', h⟩ := h
  suffices hensures : (issueOfflineLease signer clock installation.val.customerId installation.id leaseTtl
      correlationId).Ensures s fun _ _ => Usable installation s.db ∧
        ∃ activation, latestActivation installation.id s.db = some activation ∧
          Leasable clock installation activation s.db from
    hensures _ _ (Prog.run_of_execute_ok h)
  obtain ⟨productKey, hcontext⟩ := leaseContext_eq hs he
  refine Prog.Ensures.step (run_select _ _) ?_
  rw [hcontext]
  dsimp only
  split
  · exact .fail
  rename_i hstatus
  split
  · exact .fail
  rename_i hdevice
  rw [device_revoked_iff hs] at hdevice
  have husable : Usable installation s.db :=
    ⟨by cases hi : installation.val.status with
        | active => rfl
        | deactivated => exact absurd hi hstatus,
      fun device hd hid hrevoked => hdevice ⟨device, hd, hid, hrevoked⟩⟩
  split
  · exact .fail
  rename_i license hlicense
  obtain ⟨activation, hactivation, hlicense⟩ := Option.bind_eq_some_iff.mp hlicense
  obtain ⟨-, hinstalled, hactive⟩ := latestActivation_mem hactivation
  split
  · exact .fail
  split
  · exact .fail
  rename_i hlicenseActive
  split
  · exact .fail
  rename_i hexpiry
  refine Prog.Ensures.step (run_select _ _) ?_
  split
  · exact .fail
  rename_i hblocked
  refine fun _ _ _ => ⟨husable, activation, hactivation, hactive, hinstalled, license,
    List.mem_of_find?_eq_some hlicense, by simpa using List.find?_some hlicense, by simpa using hlicenseActive,
    ?_, ?_⟩
  · intro t ht
    simpa [ht] using hexpiry
  · simpa using hblocked

lemma issues_of_leasable (signer : Signer) (leaseTtl : Time) (correlationId : Option String) (hs : Stored s)
    (he : installation ∈ s.db installations) (husable : Usable installation s.db)
    {activation : Entry LicenseActivation} (hactivation : latestActivation installation.id s.db = some activation)
    (h : Leasable clock installation activation s.db) :
    Issues signer clock installation leaseTtl correlationId s := by
  suffices hruns : (issueOfflineLease signer clock installation.val.customerId installation.id leaseTtl
      correlationId).Runs s fun _ _ => True by
    obtain ⟨lease, s', h, -⟩ := hruns.execute
    exact ⟨lease, s', h⟩
  obtain ⟨license, hlicense, hid, hactive, hunexpired, hunblocked⟩ := h.license
  obtain ⟨productKey, hcontext⟩ := leaseContext_eq hs he
  have hfound : activatedLicense activation s.db = some license :=
    hs.keyed.find_of_mem hlicense (by simp [hid]) fun x hx => by
      rw [hid]
      simpa using hx
  have hdevice : ¬(installation.val.deviceId.bind fun id => s.db.lookup devices id).map (·.status) =
      some .revoked := by
    rw [device_revoked_iff hs]
    rintro ⟨device, hd, hdid, hrevoked⟩
    exact husable.device device hd hdid hrevoked
  have hexpiry : ¬(license.val.expiresAt.any fun t => Decidable.decide (t ≤ clock.utcNow)) = true := by
    cases hexp : license.val.expiresAt with
    | none => simp
    | some t => simpa using hunexpired t hexp
  have hblocked : ¬((s.db licenseRevocations).any fun e =>
      revocationBlocks license.id installation.id installation.val.deviceId e.val) = true := by
    simpa using hunblocked
  have hcustomer : s.db.has customerProfiles installation.val.customerId = true := by
    have hrefs := hs.intact installations installation he
    simp only [Db.refsOk, List.all_eq_true, Schema.refs, foreignKeys] at hrefs
    exact hrefs (.id customerProfiles installation.val.customerId) (by simp)
  refine Prog.Runs.step (run_select _ _) ?_
  rw [hcontext, hactivation]
  simp only [Option.bind_some, hfound, husable.active, hactive, reduceCtorEq, if_false, hdevice, hexpiry,
    ne_eq, not_true_eq_false]
  refine Prog.Runs.step (run_select _ _) ?_
  rw [if_neg hblocked]
  have hleases : s.db.refsOk licenseLeases
      { licenseId := license.id, installationId := installation.id, issuedAt := clock.utcNow
        expiresAt := clock.utcNow + leaseTtl, keyId := signer.keyId, signature := "" } = true := by
    have hl : s.db.has licenses license.id = true := Db.has_iff.mpr ⟨license, hlicense, rfl⟩
    have hi : s.db.has installations installation.id = true := Db.has_iff.mpr ⟨installation, he, rfl⟩
    simp [Db.refsOk, Schema.refs, foreignKeys, Db.resolves, hl, hi]
  refine Prog.Runs.bind (runs_insertKeyed rfl rfl hleases) fun row s₁ h₁ => ?_
  refine Prog.Runs.bind (runs_writeCustomerAudit ?_) fun _ _ _ => .pure trivial
  rw [h₁.2, Db.has_congr (Db.put_of_ne _ (by decide) _)]
  exact hcustomer

/-- The newest active activation decides. -/
theorem issues_iff_latest (signer : Signer) (leaseTtl : Time) (correlationId : Option String) (hs : Stored s)
    (he : installation ∈ s.db installations) : Issues signer clock installation leaseTtl correlationId s ↔
      Usable installation s.db ∧ ∃ activation, latestActivation installation.id s.db = some activation ∧
        Leasable clock installation activation s.db := by
  constructor
  · exact leasable_of_issues hs he
  · rintro ⟨husable, activation, hactivation, h⟩
    exact issues_of_leasable signer leaseTtl correlationId hs he husable hactivation h

/-- A lease is issued exactly if some activation allows it, if and only if an activation that allows it
is never hidden behind a newer one that does not. -/
theorem lease_exact_iff (signer : Signer) (leaseTtl : Time) (correlationId : Option String) (hs : Stored s)
    (he : installation ∈ s.db installations) :
    (Issues signer clock installation leaseTtl correlationId s ↔
      Usable installation s.db ∧ ∃ activation ∈ s.db licenseActivations,
        Leasable clock installation activation s.db) ↔
    (Usable installation s.db → ∀ activation ∈ s.db licenseActivations,
      Leasable clock installation activation s.db →
        ∃ latest, latestActivation installation.id s.db = some latest ∧
          Leasable clock installation latest s.db) := by
  rw [issues_iff_latest signer leaseTtl correlationId hs he]
  constructor
  · intro h husable activation hmem hleasable
    exact (h.mpr ⟨husable, activation, hmem, hleasable⟩).2
  · intro h
    constructor
    · rintro ⟨husable, activation, hlatest, hleasable⟩
      exact ⟨husable, activation, (latestActivation_mem hlatest).1, hleasable⟩
    · rintro ⟨husable, activation, hmem, hleasable⟩
      exact ⟨husable, h husable activation hmem hleasable⟩

def hiddenRows : ∀ t, List (Entry (Row t))
  | .customerProfiles => [⟨0, ⟨100, .individual, none, .active, none, none, false, none, 0⟩⟩]
  | .products => [⟨1, ⟨"authorforge", .active⟩⟩]
  | _ => []

def hiddenStart : DbStore := ⟨hiddenRows, 2⟩

lemma hiddenStart_stored : Stored hiddenStart := by
  refine ⟨⟨fun t => ?_, fun t => ?_⟩, fun t => ?_⟩ <;> cases t <;>
    simp [hiddenStart, hiddenRows, Db.refsOk, Schema.refs, foreignKeys, Db.resolves, Db.has]

/-- An installation activates two licenses, then the second one is revoked. -/
def hiddenRun : List Operation :=
  [.issueLicense ⟨1, 1⟩ ⟨"op", 0, "authorforge", 2, none, "goodwill", none⟩,
    .issueLicense ⟨2, 2⟩ ⟨"op", 0, "authorforge", 2, none, "goodwill", none⟩,
    .customer ⟨3, 3⟩ 100 none (.register ⟨"key_1", "authorforge", none, none, none, none, none, none, none⟩),
    .customer ⟨4, 4⟩ 100 none (.activate 14 (some 4) none),
    .customer ⟨5, 5⟩ 100 none (.activate 14 (some 8) none),
    .revokeLicense ⟨6, 6⟩ "op" 8 "chargeback" none]

def hiddenStore : DbStore := runAll hiddenRun hiddenStart

lemma hiddenStore_stored : Stored hiddenStore := runAll_stored hiddenStart_stored hiddenRun

/-- The installation as it is stored. -/
def hiddenInstallation : Entry Installation :=
  ⟨14, ⟨0, none, some 12, "key_1", 1, none, none, none, none, none, none, .active, none⟩⟩

/-- Its activation on the first license. -/
def olderActivation : Entry LicenseActivation := ⟨22, ⟨4, 14, none, .active, 4, none⟩⟩

lemma hiddenInstallation_usable : Usable hiddenInstallation hiddenStore.db := by
  refine ⟨rfl, fun device _ hid => ?_⟩
  cases hid

lemma olderActivation_leasable : Leasable ⟨7, 7⟩ hiddenInstallation olderActivation hiddenStore.db := by
  refine ⟨rfl, rfl, ⟨4, ⟨0, 1, none, .active, 2, 1, none⟩⟩, by decide, rfl, rfl, ?_, by decide⟩
  intro t ht
  cases ht

/-- No lease is issued although the older activation allows one. -/
theorem lease_hidden : Stored hiddenStore ∧ hiddenInstallation ∈ hiddenStore.db installations ∧
    ¬(Issues ⟨"key_1", fun _ => ""⟩ ⟨7, 7⟩ hiddenInstallation 100 none hiddenStore ↔
      Usable hiddenInstallation hiddenStore.db ∧ ∃ activation ∈ hiddenStore.db licenseActivations,
        Leasable ⟨7, 7⟩ hiddenInstallation activation hiddenStore.db) := by
  refine ⟨hiddenStore_stored, by decide, fun h => ?_⟩
  obtain ⟨lease, s', hissued⟩ := h.mpr ⟨hiddenInstallation_usable, olderActivation, by decide,
    olderActivation_leasable⟩
  have hrefused : ((issueOfflineLease ⟨"key_1", fun _ => ""⟩ ⟨7, 7⟩ 0 14 100 none).execute
      hiddenStore).1.toBool = false := by decide
  have hissued' : (issueOfflineLease ⟨"key_1", fun _ => ""⟩ ⟨7, 7⟩ 0 14 100 none).execute hiddenStore =
      (.ok lease, s') := hissued
  rw [hissued'] at hrefused
  cases hrefused

theorem lease_exact_iff_hidden :
    (Issues ⟨"key_1", fun _ => ""⟩ ⟨7, 7⟩ hiddenInstallation 100 none hiddenStore ↔
      Usable hiddenInstallation hiddenStore.db ∧ ∃ activation ∈ hiddenStore.db licenseActivations,
        Leasable ⟨7, 7⟩ hiddenInstallation activation hiddenStore.db) ↔
    (Usable hiddenInstallation hiddenStore.db → ∀ activation ∈ hiddenStore.db licenseActivations,
      Leasable ⟨7, 7⟩ hiddenInstallation activation hiddenStore.db →
        ∃ latest, latestActivation hiddenInstallation.id hiddenStore.db = some latest ∧
          Leasable ⟨7, 7⟩ hiddenInstallation latest hiddenStore.db) :=
  lease_exact_iff _ _ _ hiddenStore_stored (by decide)

end ForgeCustomer.OfflineLeases
