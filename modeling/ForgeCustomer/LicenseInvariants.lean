import ForgeCustomer.LicenseRuns
import ForgeCustomer.WebhookOrder

/-!
# Invariants of licenses

A revocation is final, and activations and leases stay within one customer and, unless a request
names a license of another product, within one product.
-/
namespace ForgeCustomer.LicenseInvariants
open SqlTables SqlPrograms SqlStatements DomainRules StripeEvents DatabaseTables AuditWriters
  LicensingRepository CommerceRepository LicenseSync SubscriptionProjection AdminRepository
  CustomerRepository EntitlementsRepository PrivacyRepository ServiceOperations LicenseChanges LicenseRuns
  WebhookOrder TableName

variable {s : DbStore}

/-- A license linked to a subscription belongs to the subscription's customer. -/
def Linked (d : Database) : Prop :=
  ∀ e ∈ d .licenses, ∀ i, e.val.subscriptionId = some i →
    RowIs subscriptions i (fun r => r.customerId = e.val.customerId) d

theorem apply_linked (hs : Stored s) (h : Linked s.db) (op : Operation) : Linked (op.apply s).db := by
  have hold : ∀ e ∈ s.db licenses, ∀ i, e.val.subscriptionId = some i →
      RowIs subscriptions i (fun r => r.customerId = e.val.customerId) (op.apply s).db := fun e he i hi =>
    apply_subscription_rowIs hs (ownedBy_kept _) (h e he i hi) op
  have hupdate : ∀ {p : Entry License → Bool} {f : License → License}, (∀ r, (f r).customerId = r.customerId ∧
      (f r).productId = r.productId ∧ (f r).subscriptionId = r.subscriptionId) →
      (op.apply s).db licenses = updateRows p f (s.db licenses) → Linked (op.apply s).db := by
    intro p f hf hdb e he i hi
    rw [hdb] at he
    obtain ⟨e₀, he₀, rfl⟩ := mem_updateRows.mp he
    have hkeep : (if p e₀ = true then (⟨e₀.id, f e₀.val⟩ : Entry License) else e₀).val.customerId =
        e₀.val.customerId ∧ (if p e₀ = true then (⟨e₀.id, f e₀.val⟩ : Entry License) else
          e₀).val.subscriptionId = e₀.val.subscriptionId := by
      split
      · exact ⟨(hf _).1, (hf _).2.2⟩
      · exact ⟨rfl, rfl⟩
    rw [hkeep.2] at hi
    rw [hkeep.1]
    exact hold e₀ he₀ i hi
  have happend : ∀ {n : ℕ} {v : License}, (op.apply s).db licenses = s.db licenses ++ [⟨n, v⟩] →
      (∀ i, v.subscriptionId = some i →
        RowIs subscriptions i (fun r => r.customerId = v.customerId) (op.apply s).db) →
      Linked (op.apply s).db := by
    intro n v hdb hv e he i hi
    rw [hdb] at he
    rcases List.mem_append.mp he with he | he
    · exact hold e he i hi
    · obtain rfl := List.mem_singleton.mp he
      exact hv i hi
  cases apply_licenses hs op with
  | same kept =>
    intro e he
    rw [kept] at he
    exact hold e he
  | issued clock input n v operator owner unlinked appended =>
    refine happend appended fun i hi => ?_
    rw [unlinked] at hi
    cases hi
  | revoked p updated =>
    exact hupdate (f := fun r => { r with status := .revoked }) (fun _ => ⟨rfl, rfl, rfl⟩) updated
  | synced status c i source sync =>
    obtain ⟨⟨r, hr, hid, hc⟩, hsync⟩ := sync
    generalize hrows : (op.apply s).db licenses = rows at hsync
    cases hsync with
    | same =>
      intro e he
      rw [hrows] at he
      exact hold e he
    | issued n v unlinked grants owner link =>
      refine happend hrows fun j hj => ?_
      obtain rfl : i = j := by simpa [link] using hj
      exact ⟨r, hr, hid, hc.trans owner.symm⟩
    | changed e f linked unrevoked kept => exact hupdate kept hrows

def activationIds (licenseId : ℕ) (d : Database) : List ℕ :=
  ((d .licenseActivations).filter fun e => e.val.licenseId == licenseId).map (·.id)

def leasesOf (licenseId : ℕ) (d : Database) : List (Entry LicenseLease) :=
  (d .licenseLeases).filter fun e => e.val.licenseId == licenseId

/-- The licenses linked to a subscription. -/
def linkedIds (subscriptionId : ℕ) (d : Database) : List ℕ :=
  ((d .licenses).filter fun e => e.val.subscriptionId == some subscriptionId).map (·.id)

/-- The license is revoked and has no activation, no lease and no successor that `d₀` does not have. -/
structure Denied (licenseId : ℕ) (d₀ d : Database) : Prop where
  revoked : RowIs licenses licenseId (fun r => r.status = .revoked) d
  activations : activationIds licenseId d = activationIds licenseId d₀
  leases : leasesOf licenseId d = leasesOf licenseId d₀
  linked : ∀ i, RowIs licenses licenseId (fun r => r.subscriptionId = some i) d₀ →
    RowIs licenses licenseId (fun r => r.subscriptionId = some i) d ∧ linkedIds i d = linkedIds i d₀

lemma filter_map_updateRows {α : Type} {p : Entry α → Bool} {f : α → α} {q : Entry α → Bool}
    (hq : ∀ e : Entry α, q ⟨e.id, f e.val⟩ = q e) (rows : List (Entry α)) :
    ((updateRows p f rows).filter q).map (·.id) = (rows.filter q).map (·.id) := by
  rw [filter_updateRows_kept fun e _ _ => hq e, List.map_map]
  exact List.map_congr_left fun e _ => updateEntry_id p f e

variable {licenseId : ℕ}

/-- No operation gives a revoked license an activation. -/
lemma apply_activationIds (hk : s.Keyed) (h : RowIs licenses licenseId (fun r => r.status = .revoked) s.db)
    (op : Operation) : activationIds licenseId (op.apply s).db = activationIds licenseId s.db := by
  unfold activationIds
  cases apply_activations op s with
  | same kept => rw [kept]
  | released p now updated =>
    rw [updated]
    exact filter_map_updateRows (fun _ => rfl) _
  | activated clock installation license n request appended =>
    obtain ⟨_, _, _, _, _, _, _, _, hpick, hchecks⟩ := request
    have hne : license.id ≠ licenseId := by
      intro hid
      have hrevoked := h.of_mem hk (pickLicense_spec hpick).1 hid
      rw [hchecks.active] at hrevoked
      cases hrevoked
    rw [appended, filter_append_other]
    simpa [newActivation] using hne

/-- No operation gives a revoked license a lease. -/
lemma apply_leasesOf (hk : s.Keyed) (h : RowIs licenses licenseId (fun r => r.status = .revoked) s.db)
    (op : Operation) : leasesOf licenseId (op.apply s).db = leasesOf licenseId s.db := by
  unfold leasesOf
  cases apply_leases op s with
  | same kept => rw [kept]
  | issued activation license row activated known active of licensed installed appended =>
    have hne : row.val.licenseId ≠ licenseId := by
      intro hid
      have hrevoked := h.of_mem hk known (licensed.symm.trans hid)
      rw [active] at hrevoked
      cases hrevoked
    rw [appended, filter_append_other]
    simpa using hne

/-- A subscription with a linked license gets no other one. -/
lemma apply_linkedIds (hs : Stored s) (hlinked : Linked s.db) {i : ℕ}
    (h : RowIs licenses licenseId (fun r => r.subscriptionId = some i) s.db) (op : Operation) :
    linkedIds i (op.apply s).db = linkedIds i s.db := by
  unfold linkedIds
  cases apply_licenses hs op with
  | same kept => rw [kept]
  | issued clock input n v operator owner unlinked appended =>
    rw [appended, filter_append_other]
    simp [unlinked]
  | revoked p updated =>
    rw [updated]
    exact filter_map_updateRows (fun _ => rfl) _
  | synced status c j source sync =>
    obtain ⟨⟨r, hr, hid, hc⟩, hsync⟩ := sync
    generalize hrows : (op.apply s).db licenses = rows at hsync
    cases hsync with
    | same => rfl
    | changed e f linked unrevoked kept =>
      exact filter_map_updateRows (fun e => by simp [(kept e.val).2.2]) _
    | issued n v unlinked grants owner link =>
      rw [filter_append_other]
      obtain ⟨e, he, -, hlink⟩ := h
      have hne : j ≠ i := by
        rintro rfl
        have howner := apply_subscription_rowIs hs (ownedBy_kept _) (hlinked e he j hlink) op
        have hcustomer := howner.of_mem ((op.apply_follows s).stored hs).keyed hr hid
        have hnone := List.find?_eq_none.mp unlinked e he
        exact hnone (by simp [isLicenseOf, hlink, ← hc, hcustomer])
      simpa [link] using hne

theorem apply_denied {d₀ : Database} (hs : Stored s) (hlinked : Linked s.db)
    (h : Denied licenseId d₀ s.db) (op : Operation) : Denied licenseId d₀ (op.apply s).db := by
  refine ⟨revoked_of_effect hs.keyed (apply_licenses hs op) h.revoked,
    (apply_activationIds hs.keyed h.revoked op).trans h.activations,
    (apply_leasesOf hs.keyed h.revoked op).trans h.leases, fun i hi => ?_⟩
  obtain ⟨hlink, hids⟩ := h.linked i hi
  refine ⟨rowIs_of_effect (apply_licenses hs op) (fun r r' hr hq => ?_) hlink,
    (apply_linkedIds hs hlinked hlink op).trans hids⟩
  exact hr.2.2.trans hq

lemma runAll_linked (hs : Stored s) (h : Linked s.db) (ops : List Operation) :
    Linked (runAll ops s).db := by
  induction ops generalizing s with
  | nil => exact h
  | cons op ops ih => exact ih ((op.apply_follows s).stored hs) (apply_linked hs h op)

/-- After a revocation has committed, in any history that starts without licenses, every later state
denies the license. -/
theorem revocation_final {s₀ : DbStore} (hs₀ : Stored s₀) (hnone : s₀.db .licenses = [])
    (history : List Operation) {clock : Clock} {operatorId reason : String}
    {correlationId : Option String} {outcome : RevocationOutcome}
    (hrevoke : (revokeLicense clock operatorId licenseId reason correlationId).execute
      (runAll history s₀) = (.ok outcome, s)) (ops : List Operation) :
    EachState (fun s' => Denied licenseId s.db s'.db) ops s := by
  have hhistory : Stored (runAll history s₀) := runAll_stored hs₀ history
  have hlinked : Linked (runAll history s₀).db := runAll_linked hs₀ (by simp [Linked, hnone]) history
  have happly : s = (Operation.revokeLicense clock operatorId licenseId reason correlationId).apply
      (runAll history s₀) := by
    rw [Operation.apply, after, hrevoke]
  have hs : Stored s := happly ▸ (Operation.apply_follows _ _).stored hhistory
  have hlinked' : Linked s.db := happly ▸ apply_linked hhistory hlinked _
  have hrevoked := (ensures_revokeLicense (.revokeLicense clock operatorId licenseId reason correlationId)
    clock operatorId licenseId reason correlationId _ _ (Prog.run_of_execute_ok hrevoke)).2
  have hall : EachState (fun s' => (Stored s' ∧ Linked s'.db) ∧ Denied licenseId s.db s'.db) ops s := by
    refine eachState_of_step (Q := fun _ _ => True) (fun op s' h _ => ?_)
      ⟨⟨hs, hlinked'⟩, hrevoked, rfl, rfl, fun i hi => ⟨hi, rfl⟩⟩ (eachStep_true ops s)
    exact ⟨⟨(op.apply_follows s').stored h.1.1, apply_linked h.1.1 h.1.2 op⟩,
      apply_denied h.1.1 h.1.2 h.2 op⟩
  exact hall.mono fun _ h => h.2

def renewedEvent (id : String) (created : ℤ) : ParsedStripeEvent :=
  stripeObject id "customer.subscription.updated" created
    (.obj [("id", .str "sub_1"), ("status", .str "active")])

def sampleInstallation : ValidatedRegistration :=
  ⟨"install-1", "authorforge", none, none, none, none, none, none, some ⟨"device-key", "device-fpr", none⟩⟩

def sampleSigner : Signer := ⟨"key-1", fun lease => lease.product⟩

/-- The subscription of the sample customer brings a license, which is activated and leased. -/
def licensedHistory : List Operation :=
  [.webhook sampleClock (renewedEvent "evt_1" 10),
    .customer sampleClock 100 none (.register sampleInstallation),
    .customer sampleClock 100 none (.activate 26 none none),
    .customer sampleClock 100 none (.lease sampleSigner 26 3600000000 none)]

def revokedStore : DbStore :=
  (Operation.revokeLicense sampleClock "op" 18 "abuse" none).apply (runAll licensedHistory sampleStore)

/-- The subscription is paid and renewed, and the customer asks again for activations and leases. -/
def afterRevocation : List Operation :=
  [.webhook sampleClock paidEvent, .webhook sampleClock (renewedEvent "evt_3" 30),
    .customer sampleClock 100 none (.activate 26 none none),
    .customer sampleClock 100 none (.activate 26 (some 18) none),
    .customer sampleClock 100 none (.lease sampleSigner 26 3600000000 none),
    .issueLicense sampleClock ⟨"op", 0, "authorforge", 2, none, "goodwill", none⟩,
    .customer sampleClock 100 none (.activate 26 (some 18) none)]

theorem revocation_final_sample :
    EachState (fun s' => Denied 18 revokedStore.db s'.db) afterRevocation revokedStore := by
  obtain ⟨outcome, hrevoke⟩ := Prog.exists_execute_ok
    (p := revokeLicense sampleClock "op" 18 "abuse" none) (s := runAll licensedHistory sampleStore)
    (by decide +kernel)
  exact revocation_final sampleStore_stored rfl licensedHistory hrevoke afterRevocation

/-- License and installation have one customer and one product. -/
def Matched (licenseId installationId : ℕ) (d : Database) : Prop :=
  ∃ c p, RowIs licenses licenseId (fun r => r.customerId = c ∧ r.productId = p) d ∧
    RowIs installations installationId (fun r => r.customerId = c ∧ r.productId = p) d

/-- So it is for every activation and every lease. -/
structure Matching (d : Database) : Prop where
  activations : ∀ e ∈ d .licenseActivations, Matched e.val.licenseId e.val.installationId d
  leases : ∀ e ∈ d .licenseLeases, Matched e.val.licenseId e.val.installationId d

section Installations
variable {i : ℕ} {q : Installation → Prop}

section Maintained
variable (hq : ∀ r r' : Installation, r'.customerId = r.customerId ∧ r'.productId = r.productId → q r → q r')
include hq

lemma maintains_registerInstallation (clock : Clock) (customerId : ℕ) (input : ValidatedRegistration) :
    (registerInstallation clock customerId input).Maintains (RowIs installations i q) := by
  refine (maintains_select _).bind fun product => ?_
  cases product with
  | none => exact .fail _ _
  | some product =>
    have hdevice := registerDevice_checked (ε := RegistrationError) (S := [devices]) (by decide)
    refine Prog.Maintains.bind (maintains_rowIs_of_checked (hdevice _ _) (by decide)) fun deviceId => ?_
    refine (maintains_select _).bind fun channel => ?_
    have hfleet := ensureDefaultFleet_checked (ε := RegistrationError) (S := [fleets]) (by decide)
    refine Prog.Maintains.bind (maintains_rowIs_of_checked (hfleet _ _ _) (by decide)) fun fleet => ?_
    have henrolled := ensureFleetApplication_checked (ε := RegistrationError) (S := [fleetApplications]) (by decide)
    refine Prog.Maintains.bind (maintains_rowIs_of_checked (henrolled _ _ _) (by decide)) fun _ => ?_
    refine (maintains_insertUnless_rowIs _).bind fun inserted => ?_
    cases inserted with
    | some installation =>
      have houtbox := writeOutbox_checked (ε := RegistrationError) (S := [outboxEvents]) (by decide)
      exact Prog.Maintains.bind (maintains_rowIs_of_checked (houtbox _ _ _) (by decide)) fun _ => .pure _ _
    | none =>
      refine (maintains_selectOneForUpdate _).bind fun prior => ?_
      split
      · exact .fail _ _
      · refine Prog.Maintains.bind (maintains_updateOne_rowIs fun e _ _ hr => ?_) fun _ => .pure _ _
        exact hq e.val _ ⟨rfl, rfl⟩ hr

lemma maintains_heartbeatInstallation (clock : Clock) (customerId installationId : ℕ) (appVersion : Option String) :
    (heartbeatInstallation clock customerId installationId appVersion : Tx SqlError _).Maintains
      (RowIs installations i q) :=
  Prog.Maintains.bind (maintains_update_rowIs fun e _ _ hr => hq e.val _ ⟨rfl, rfl⟩ hr) fun _ => .pure _ _

lemma maintains_deactivateInstallation (clock : Clock) (customerId installationId : ℕ) (correlationId : Option String) :
    (deactivateInstallation clock customerId installationId correlationId).Maintains (RowIs installations i q) := by
  refine (maintains_selectForUpdate _).bind fun installation => ?_
  cases installation with
  | none => exact .fail _ _
  | some installation =>
    dsimp only
    split
    · exact .pure _ _
    refine Prog.Maintains.bind (maintains_update_rowIs fun e _ _ hr => hq e.val _ ⟨rfl, rfl⟩ hr) fun _ => ?_
    refine maintains_rowIs_of_checked (S := [licenseActivations, commercialAuditEvents]) ?_ (by decide)
    refine (checked_update (by decide) (unkeyed (by decide)) _ _).bind fun _ => ?_
    exact (writeCustomerAudit_checked (by decide) _).bind fun _ => .pure _

/-- Nobody changes the customer or the product of an installation. -/
theorem apply_installation_rowIs (hs : Stored s) (h : RowIs installations i q s.db) (op : Operation) :
    RowIs installations i q (op.apply s).db := by
  have hframe : installations ∉ op.tables → RowIs installations i q (op.apply s).db := fun ht =>
    h.congr ((op.apply_follows s).table ht)
  cases op with
  | executeDeletion clock operatorId requestId reason correlationId =>
    refine after_ensures ((executeDeletion_executed clock operatorId requestId reason correlationId).mono
      fun _ s' hdone => ?_) fun s' hdb => h.congr (by rw [hdb])
    obtain ⟨request, hdone⟩ := hdone
    exact (RowIs.update h fun e _ _ hr => hq e.val _ ⟨rfl, rfl⟩ hr).congr
      (by rw [hdone.frozen.installations, Db.put_self])
  | customer clock authUserId aal request =>
    cases request with
    | register input =>
      unfold Operation.apply
      dsimp only
      split
      · exact (maintains_registerInstallation hq _ _ _).execute hs.keyed h
      · exact h
    | heartbeat installationId appVersion =>
      unfold Operation.apply
      dsimp only
      split
      · exact (maintains_heartbeatInstallation hq _ _ _ _).execute hs.keyed h
      · exact h
    | deactivate installationId correlationId =>
      unfold Operation.apply
      dsimp only
      split
      · exact (maintains_deactivateInstallation hq _ _ _ _).execute hs.keyed h
      · exact h
    | _ =>
      refine hframe ?_
      dsimp only [Operation.tables, CustomerRequest.tables]
      decide
  | _ =>
    refine hframe ?_
    dsimp only [Operation.tables]
    decide

end Maintained

end Installations

lemma apply_matched (hs : Stored s) {l i : ℕ} (h : Matched l i s.db) (op : Operation) :
    Matched l i (op.apply s).db := by
  obtain ⟨c, p, hl, hi⟩ := h
  refine ⟨c, p, rowIs_of_effect (apply_licenses hs op) (fun r r' hr hq => ?_) hl,
    apply_installation_rowIs (fun r r' hr hq => ?_) hs hi op⟩
  · exact ⟨hr.1.trans hq.1, hr.2.1.trans hq.2⟩
  · exact ⟨hr.1.trans hq.1, hr.2.trans hq.2⟩

/-- An activation that passes all checks, of a license for another product. -/
def Crosses (op : Operation) (s : DbStore) : Prop :=
  ∃ clock installation license, Activates op s clock installation license ∧
    license.val.productId ≠ installation.val.productId

/-- One operation keeps all activations and leases matching exactly if it does not cross products. -/
theorem apply_matching_iff (hs : Stored s) (h : Matching s.db) (op : Operation) :
    Matching (op.apply s).db ↔ ¬Crosses op s := by
  constructor
  · rintro hmatching ⟨clock, installation, license, hactivates, hne⟩
    obtain ⟨authUserId, aal, licId, correlationId, deviceStatus, rfl, hactive, hcontext, hpick, hchecks⟩ :=
      hactivates
    obtain ⟨hpresent, -, -⟩ := installationContext_spec hcontext
    obtain ⟨hknown, -, -, -⟩ := pickLicense_spec hpick
    obtain ⟨a, s', hexec, n, happended⟩ := (runs_activateInstallation hs correlationId hcontext hpick
      hpresent rfl hknown hchecks).execute
    have hs' : (Operation.customer clock authUserId aal
        (.activate installation.id licId correlationId)).apply s = s' := by
      simp only [Operation.apply, hactive, CustomerRequest.apply, after, hexec]
    have htables := ((Operation.customer clock authUserId aal
      (.activate installation.id licId correlationId)).apply_follows s)
    rw [hs'] at hmatching htables
    obtain ⟨c, p, hl, hi⟩ := hmatching.activations ⟨n, newActivation clock installation license⟩ (by
      rw [happended]
      simp)
    have hkeyed := (htables.stored hs).keyed
    have hlicenses : s'.db licenses = s.db licenses := htables.table (by
      dsimp only [Operation.tables, CustomerRequest.tables]
      decide)
    have hinstallations : s'.db installations = s.db installations := htables.table (by
      dsimp only [Operation.tables, CustomerRequest.tables]
      decide)
    have hl' := hl.of_mem hkeyed (e := license) (by rwa [hlicenses]) rfl
    have hi' := hi.of_mem hkeyed (e := installation) (by rwa [hinstallations]) rfl
    exact hne (hl'.2.trans hi'.2.symm)
  · intro hcrosses
    refine ⟨fun e he => ?_, fun e he => ?_⟩
    · cases apply_activations op s with
      | same kept =>
        rw [kept] at he
        exact apply_matched hs (h.activations e he) op
      | released p now updated =>
        rw [updated] at he
        obtain ⟨e₀, he₀, rfl⟩ := mem_updateRows.mp he
        split <;> exact apply_matched hs (h.activations e₀ he₀) op
      | activated clock installation license n request appended =>
        rw [appended] at he
        rcases List.mem_append.mp he with he | he
        · exact apply_matched hs (h.activations e he) op
        · obtain rfl := List.mem_singleton.mp he
          have hproduct : license.val.productId = installation.val.productId := by
            by_contra hne
            exact hcrosses ⟨clock, installation, license, request, hne⟩
          obtain ⟨_, _, _, _, _, _, _, hcontext, hpick, _⟩ := request
          refine apply_matched hs ⟨installation.val.customerId, installation.val.productId,
            ⟨license, (pickLicense_spec hpick).1, rfl, (pickLicense_spec hpick).2.1, hproduct⟩,
            ⟨installation, (installationContext_spec hcontext).1, rfl, rfl, rfl⟩⟩ op
    · cases apply_leases op s with
      | same kept =>
        rw [kept] at he
        exact apply_matched hs (h.leases e he) op
      | issued activation license row activated known active of licensed installed appended =>
        rw [appended] at he
        rcases List.mem_append.mp he with he | he
        · exact apply_matched hs (h.leases e he) op
        · obtain rfl := List.mem_singleton.mp he
          rw [licensed, installed, ← of]
          exact apply_matched hs (h.activations activation activated) op

/-- Every activation and every lease of a run links a license and an installation of one customer and one
product exactly as long as nobody activates a license of another product. -/
theorem activations_match_iff (hs : Stored s) (hactivations : s.db .licenseActivations = [])
    (hleases : s.db .licenseLeases = []) (ops : List Operation) :
    EachState (fun s => Matching s.db) ops s ↔ EachStep (fun op s => ¬Crosses op s) ops s := by
  refine eachState_iff (I := fun s => Stored s) (Q := fun _ _ => True)
    (fun op s h => (op.apply_follows s).stored h) (fun op s hs h _ => apply_matching_iff hs h op) hs
    ⟨by simp [hactivations], by simp [hleases]⟩ (eachStep_true ops s)

/-- One customer and two products. -/
def twoProductRows : ∀ t, List (Entry (Row t))
  | .customerProfiles => [⟨0, ⟨100, .individual, none, .active, none, none, false, none, 0⟩⟩]
  | .products => [⟨1, ⟨"authorforge", .active⟩⟩, ⟨2, ⟨"smithforge", .active⟩⟩]
  | _ => []

def twoProducts : DbStore := ⟨twoProductRows, 3⟩

lemma twoProducts_stored : Stored twoProducts := by
  refine ⟨⟨fun t => ?_, fun t => ?_⟩, fun t => ?_⟩ <;> cases t <;>
    simp [twoProducts, twoProductRows, Db.refsOk, Schema.refs, foreignKeys, Db.resolves, Db.has]

/-- A license of one product, and an installation of the other one that activates it. -/
def crossProductRun : List Operation :=
  [.issueLicense sampleClock ⟨"op", 0, "smithforge", 2, none, "goodwill", none⟩,
    .customer sampleClock 100 none (.register ⟨"key_1", "authorforge", none, none, none, none, none, none, none⟩),
    .customer sampleClock 100 none (.activate 11 (some 5) none)]

/-- The activation links a license of one product to an installation of the other one. -/
theorem activation_crosses : Stored twoProducts ∧ twoProducts.db .licenseActivations = [] ∧
    twoProducts.db .licenseLeases = [] ∧
    ¬EachState (fun s => Matching s.db) crossProductRun twoProducts := by
  refine ⟨twoProducts_stored, rfl, rfl, fun h => ?_⟩
  have hlast : Matching (runAll crossProductRun twoProducts).db := h.2.2.2
  obtain ⟨n, hn⟩ : ∃ n, ⟨n, ⟨5, 11, none, .active, 0, none⟩⟩ ∈
      (runAll crossProductRun twoProducts).db .licenseActivations := ⟨19, by decide⟩
  obtain ⟨c, p, ⟨e, he, hid, -, hp⟩, ⟨e', he', hid', -, hp'⟩⟩ := hlast.activations _ hn
  have hlicense : ∀ e ∈ (runAll crossProductRun twoProducts).db .licenses, e.val.productId = 2 := by decide
  have hinstallation : ∀ e ∈ (runAll crossProductRun twoProducts).db .installations,
      e.val.productId = 1 := by decide
  have h₂ := hp.symm.trans (hlicense e he)
  have h₁ := hp'.symm.trans (hinstallation e' he')
  omega

theorem activations_match_iff_sample :
    EachState (fun s => Matching s.db) crossProductRun twoProducts ↔
      EachStep (fun op s => ¬Crosses op s) crossProductRun twoProducts :=
  activations_match_iff twoProducts_stored rfl rfl crossProductRun

end ForgeCustomer.LicenseInvariants
