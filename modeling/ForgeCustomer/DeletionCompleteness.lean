import ForgeCustomer.AccountDeletion
import ForgeCustomer.EntitlementEvaluation
import ForgeCustomer.LicenseInvariants

/-!
# Complete deletions

Everything that the execution of a deletion has to sweep. Licenses that were revoked before, and activations
that are reached through an installation, are covered by invariants of the earlier operations.
-/
namespace ForgeCustomer.DeletionCompleteness
open SqlTables SqlPrograms SqlStatements DomainRules StripeEvents DatabaseTables AuditWriters LicensingRepository
  CommerceRepository AdminRepository PrivacyRepository ServiceOperations EntitlementEvaluation CustomerAccess
  AccountDeletion LicenseChanges LicenseRuns LicenseInvariants TableName

/-- Nothing of a deleted customer is left in force. -/
structure Swept (customerId : ℕ) (now : Time) (tables : EntitlementTables) (d : Database) : Prop where
  subscriptions : ∀ e ∈ d .subscriptions, e.val.customerId = customerId → e.val.status = .canceled
  emails : ∀ e ∈ d .customerEmails, e.val.customerId ≠ customerId
  devices : ∀ e ∈ d .devices, e.val.customerId = customerId → e.val.status = .revoked ∧ e.val.label = none
  licenses : ∀ e ∈ d .licenses, e.val.customerId = customerId →
    e.val.status = .revoked ∧ ∃ r ∈ d .licenseRevocations, LicenseWide e.id r.val
  installations : ∀ e ∈ d .installations, e.val.customerId = customerId → e.val.status ≠ .active
  activations : ∀ e ∈ d .licenseActivations, e.val.status = .active →
    (∀ l ∈ d .licenses, l.id = e.val.licenseId → l.val.customerId ≠ customerId) ∧
      ∀ i ∈ d .installations, i.id = e.val.installationId → i.val.customerId ≠ customerId
  overrides : ∀ e ∈ d .entitlementOverrides, e.val.customerId = customerId → e.val.active = false
  grants : ∀ grant ∈ tables.entitlementGrants, grant.customerId = customerId → unexpired now grant.expiresAt = false

variable {s : DbStore}

/-- Every revoked license has a record that denies it on every device. -/
def RevokedRecorded (d : Database) : Prop :=
  ∀ e ∈ d .licenses, e.val.status = .revoked → ∃ r ∈ d .licenseRevocations, LicenseWide e.id r.val

lemma RevokedRecorded.congr {d d' : Database} (h : RevokedRecorded d) (hl : d' licenses = d licenses)
    (hr : d' licenseRevocations = d licenseRevocations) : RevokedRecorded d' := by
  rw [RevokedRecorded, hl, hr]
  exact h

lemma RevokedRecorded.insert {n : ℕ} {v : License} {d : Database} (h : RevokedRecorded d) (hv : v.status ≠ .revoked) :
    RevokedRecorded (d.put licenses (d licenses ++ [⟨n, v⟩])) := by
  intro e he hrevoked
  rw [Db.put_self] at he
  rw [Db.put_of_ne _ (by decide)]
  rcases List.mem_append.mp he with he | he
  · exact h e he hrevoked
  · obtain rfl := List.mem_singleton.mp he
    exact absurd hrevoked hv

/-- An update that revokes nothing. -/
lemma RevokedRecorded.update {p : Entry License → Bool} {f : License → License} {d : Database} (h : RevokedRecorded d)
    (hf : ∀ r, (f r).status = .revoked → r.status = .revoked) :
    RevokedRecorded (d.put licenses (updateRows p f (d licenses))) := by
  intro e he hrevoked
  rw [Db.put_self] at he
  rw [Db.put_of_ne _ (by decide)]
  obtain ⟨e₀, he₀, rfl⟩ := mem_updateRows.mp he
  split at hrevoked
  · rename_i hp
    rw [if_pos hp]
    exact h e₀ he₀ (hf _ hrevoked)
  · rename_i hp
    rw [if_neg hp]
    exact h e₀ he₀ hrevoked

lemma maintains_applyLicenseSync {ε : Type} [FromSql ε] (clock : Clock) (customerId subscriptionId productId limit : ℕ)
    (status : SubscriptionStatus) (existing : Option (Entry License)) (action : Option LicenseSyncAction) :
    (applyLicenseSync clock customerId subscriptionId productId limit status existing action :
      Tx ε _).Maintains RevokedRecorded := by
  have hupdate : ∀ {f : License → License} (e : Entry License), (∀ r, (f r).status = .revoked → r.status = .revoked) →
      (update licenses (fun x => x.id == e.id) f : Tx ε _).Maintains RevokedRecorded :=
    fun _ hf => maintains_update fun _ _ _ h => h.update hf
  unfold applyLicenseSync
  split
  · exact (maintains_insertRow fun _ _ _ _ h => h.insert LicenseStatus.noConfusion).bind fun _ => .pure _ _
  · exact (hupdate _ fun _ h => (by cases h)).bind fun _ => .pure _ _
  · exact (hupdate _ fun _ h => (by cases h)).bind fun _ => .pure _ _
  · exact (hupdate _ fun _ h => (by cases h)).bind fun _ => .pure _ _
  · split
    · exact Prog.Maintains.bind (hupdate (f := fun r => { r with deviceLimit := limit }) _ fun _ h => h)
        fun _ => .pure _ _
    · exact .pure _ _
  · exact .pure _ _

lemma revokedRecorded_frame {ε α : Type} {S : List TableName} {p : Tx ε α} (hp : Checked S p)
    (hS : ∀ t ∈ [licenses, licenseRevocations], t ∉ S) : p.Maintains RevokedRecorded :=
  hp.maintains_tables hS fun _ _ hsame h => h.congr (hsame licenses (by decide)) (hsame licenseRevocations (by decide))

/-- The sync follows a subscription without ever revoking. -/
lemma revokedRecorded_projection : KeptByProjection RevokedRecorded where
  reads _ _ hsame h := h.congr (hsame licenses (by decide)) (hsame licenseRevocations (by decide))
  projected _ _ := revokedRecorded_frame (upsertSubscriptionProjection_checked (S := [subscriptions]) (by decide) _ _)
    (by decide)
  paid _ _ _ := revokedRecorded_frame
    (updateSubscriptionStatusFromInvoice_checked (S := [subscriptions]) (by decide) _ _ _) (by decide)
  synced clock customerId subscriptionId planVersionId status := by
    refine (maintains_select _).bind fun plan => ?_
    cases plan with
    | none => exact .pure _ _
    | some plan =>
      refine (revokedRecorded_frame (commercialPolicyDeviceLimit_checked (S := []) _ _ _) (by decide)).bind
        fun limit => (maintains_selectForUpdate _).bind fun existing => ?_
      exact maintains_applyLicenseSync _ _ _ _ _ _ _ _

lemma maintains_issueLicense (clock : Clock) (input : IssueLicenseInput) :
    (issueLicense clock input).Maintains RevokedRecorded := by
  refine (maintains_select _).bind fun known => ?_
  split
  · exact .fail _ _
  refine (maintains_select _).bind fun product => ?_
  cases product with
  | none => exact .fail _ _
  | some product =>
    refine (maintains_insertRow fun _ _ _ _ h => h.insert LicenseStatus.noConfusion).bind fun license => ?_
    refine revokedRecorded_frame (S := [commercialAuditEvents]) ?_ (by decide)
    exact (writeOperatorAudit_checked (by decide) _).bind fun _ => .pure _

lemma ensures_revokeLicense_recorded (h : RevokedRecorded s.db) (clock : Clock) (operatorId : String) (licenseId : ℕ)
    (reason : String) (correlationId : Option String) :
    (revokeLicense clock operatorId licenseId reason correlationId).Ensures s fun _ s' => RevokedRecorded s'.db := by
  refine ensures_selectForUpdate.bind fun license s₁ h₁ => ?_
  obtain ⟨-, rfl⟩ := h₁
  cases license with
  | none => exact .fail
  | some license =>
    dsimp only
    split
    · exact .pure h
    refine ensures_update.bind fun _ s₂ h₂ => ensures_insertRow.bind fun revocation s₃ h₃ => ?_
    have hrecorded : RevokedRecorded s₃.db := by
      intro e he hrevoked
      rw [h₃.2, Db.put_of_ne _ (by decide), h₂.2, Db.put_self] at he
      rw [h₃.2, Db.put_self, h₂.2, Db.put_of_ne _ (by decide)]
      obtain ⟨e₀, he₀, rfl⟩ := mem_updateRows.mp he
      split
      · -- the license that is revoked gets its record here
        rename_i hp
        obtain rfl : e₀.id = licenseId := by simpa using hp
        exact ⟨_, List.mem_append_right _ (List.mem_singleton_self _), rfl, rfl, rfl⟩
      · rename_i hp
        rw [if_neg hp] at hrevoked
        obtain ⟨r, hr, hwide⟩ := h e₀ he₀ hrevoked
        exact ⟨r, List.mem_append_left _ hr, hwide⟩
    have hrest : ∀ {α : Type} {p : Tx AdminError α}, Checked [commercialAuditEvents, outboxEvents] p →
        p.Ensures s₃ fun _ s' => RevokedRecorded s'.db := fun hp =>
      hp.ensures_frame.mono fun _ s' hframe => hrecorded.congr (hframe _ (by decide)) (hframe _ (by decide))
    refine hrest ?_
    refine (writeOperatorAudit_checked (by decide) _).bind fun _ => ?_
    exact (writeOutbox_checked (by decide) _ _ _).bind fun _ => .pure _

/-- An execution records what it revokes. -/
lemma revokedRecorded_executed {now : Time} {requestId : ℕ} {request : DeletionRequestRow} {d d' : Database}
    (h : RevokedRecorded d) (hdone : Executed now requestId request d d') : RevokedRecorded d' := by
  obtain ⟨new, hnew, hwide⟩ := hdone.frozen.revocations
  intro e he hrevoked
  rw [hdone.frozen.licenses] at he
  rw [hnew]
  obtain ⟨e₀, he₀, rfl⟩ := mem_updateRows.mp he
  have hid : (if (e₀.val.customerId == request.val.customerId && e₀.val.status != .revoked) = true then
      (⟨e₀.id, { e₀.val with status := .revoked }⟩ : Entry License) else e₀).id = e₀.id := by
    split <;> rfl
  rw [hid]
  by_cases hbefore : e₀.val.status = .revoked
  · obtain ⟨r, hr, hrecord⟩ := h e₀ he₀ hbefore
    exact ⟨r, List.mem_append_left _ hr, hrecord⟩
  · have howner : e₀.val.customerId = request.val.customerId := by
      by_contra hother
      simp [hother, hbefore] at hrevoked
    obtain ⟨r, hr, hrecord⟩ := hwide e₀ he₀ howner hbefore
    exact ⟨r, List.mem_append_right _ hr, hrecord⟩

theorem apply_revokedRecorded (hs : Stored s) (h : RevokedRecorded s.db) (op : Operation) :
    RevokedRecorded (op.apply s).db := by
  have hframe : licenses ∉ op.tables → licenseRevocations ∉ op.tables → RevokedRecorded (op.apply s).db :=
    fun hl hr => h.congr ((op.apply_follows s).table hl) ((op.apply_follows s).table hr)
  have hsame : ∀ s' : DbStore, s'.db = s.db → RevokedRecorded s'.db := fun s' hdb => by rwa [hdb]
  cases op with
  | webhook clock event =>
    exact (maintains_processStripeWebhookEvent revokedRecorded_projection clock event).execute hs.keyed h
  | resync clock subscriptionId change operatorId reason correlationId =>
    exact (maintains_applyAdminResync revokedRecorded_projection clock subscriptionId change operatorId reason
      correlationId).execute hs.keyed h
  | issueLicense clock input => exact (maintains_issueLicense clock input).execute hs.keyed h
  | revokeLicense clock operatorId licenseId reason correlationId =>
    exact after_ensures (ensures_revokeLicense_recorded h clock operatorId licenseId reason correlationId) hsame
  | executeDeletion clock operatorId requestId reason correlationId =>
    refine after_ensures ((executeDeletion_executed clock operatorId requestId reason correlationId).mono
      fun _ s' hdone => ?_) hsame
    obtain ⟨request, hdone⟩ := hdone
    exact revokedRecorded_executed h hdone
  | customer clock authUserId aal request =>
    cases request <;> refine hframe ?_ ?_ <;> dsimp only [Operation.tables, CustomerRequest.tables] <;> decide
  | _ => refine hframe ?_ ?_ <;> dsimp only [Operation.tables] <;> decide

/-- License and installation belong to one customer. -/
def SameOwner (licenseId installationId : ℕ) (d : Database) : Prop :=
  ∃ c, RowIs licenses licenseId (fun r => r.customerId = c) d ∧ RowIs installations installationId (fun r => r.customerId = c) d

def ActivationsOwned (d : Database) : Prop :=
  ∀ e ∈ d .licenseActivations, SameOwner e.val.licenseId e.val.installationId d

lemma apply_sameOwner (hs : Stored s) {l i : ℕ} (h : SameOwner l i s.db) (op : Operation) :
    SameOwner l i (op.apply s).db := by
  obtain ⟨c, hl, hi⟩ := h
  exact ⟨c, rowIs_of_effect (apply_licenses hs op) (fun _ _ hkept hc => hkept.1.trans hc) hl,
    apply_installation_rowIs (fun _ _ hkept hc => hkept.1.trans hc) hs hi op⟩

theorem apply_activationsOwned (hs : Stored s) (h : ActivationsOwned s.db) (op : Operation) :
    ActivationsOwned (op.apply s).db := by
  intro e he
  cases apply_activations op s with
  | same kept =>
    rw [kept] at he
    exact apply_sameOwner hs (h e he) op
  | released p now updated =>
    rw [updated] at he
    obtain ⟨e₀, he₀, rfl⟩ := mem_updateRows.mp he
    split <;> exact apply_sameOwner hs (h e₀ he₀) op
  | activated clock installation license n request appended =>
    rw [appended] at he
    rcases List.mem_append.mp he with he | he
    · exact apply_sameOwner hs (h e he) op
    · obtain rfl := List.mem_singleton.mp he
      obtain ⟨_, _, _, _, _, _, _, hcontext, hpick, _⟩ := request
      exact apply_sameOwner hs ⟨installation.val.customerId, ⟨license, (pickLicense_spec hpick).1, rfl,
        (pickLicense_spec hpick).2.1⟩, installation, (installationContext_spec hcontext).1, rfl, rfl⟩ op

/-- What executions rely on. -/
structure Prepared (s : DbStore) : Prop where
  stored : Stored s
  recorded : RevokedRecorded s.db
  owned : ActivationsOwned s.db

lemma Prepared.apply (h : Prepared s) (op : Operation) : Prepared (op.apply s) :=
  ⟨(op.apply_follows s).stored h.stored, apply_revokedRecorded h.stored h.recorded op,
    apply_activationsOwned h.stored h.owned op⟩

lemma Prepared.runAll (h : Prepared s) (ops : List Operation) : Prepared (runAll ops s) := by
  induction ops generalizing s with
  | nil => exact h
  | cons op ops ih => exact ih (h.apply op)

/-- Without licenses there are no activations either. -/
lemma prepared_start (hs : Stored s) (hnone : s.db .licenses = []) : Prepared s := by
  refine ⟨hs, by simp [RevokedRecorded, hnone], fun e he => ?_⟩
  have hlicense : s.db.has .licenses e.val.licenseId = true := by
    have hrefs := hs.intact .licenseActivations e he
    simp [Db.refsOk, Schema.refs, foreignKeys, Db.resolves] at hrefs
    exact hrefs.1
  obtain ⟨l, hl, -⟩ := Db.has_iff.mp hlicense
  simp [hnone] at hl

/-- No entitlement grant of the customer is in force. -/
def GrantsOver (customerId : ℕ) (now : Time) (tables : EntitlementTables) : Prop :=
  ∀ grant ∈ tables.entitlementGrants, grant.customerId = customerId → unexpired now grant.expiresAt = false

/-- Everything is swept except the grants, which no statement touches. -/
lemma swept_iff {now : Time} {requestId : ℕ} {request : DeletionRequestRow} {tables : EntitlementTables} {d : Database}
    (hdone : Executed now requestId request d s.db) (h : Prepared s) :
    Swept request.val.customerId now tables s.db ↔ GrantsOver request.val.customerId now tables := by
  refine ⟨fun h => h.grants, fun hgrants => ?_⟩
  have herased := erased_of_executed hdone
  constructor
  · rw [hdone.others _ (by decide)]
    exact hdone.canceled
  · exact herased.emails
  · rw [hdone.frozen.devices]
    intro e he howner
    obtain ⟨e₀, -, rfl⟩ := mem_updateRows.mp he
    split
    · exact ⟨rfl, rfl⟩
    · rename_i hp
      rw [if_neg hp] at howner
      simp [howner] at hp
  · intro e he howner
    have hrevoked := herased.licenses e he howner
    exact ⟨hrevoked, h.recorded e he hrevoked⟩
  · rw [hdone.frozen.installations]
    intro e he howner hactive
    obtain ⟨e₀, -, rfl⟩ := mem_updateRows.mp he
    split at hactive
    · cases hactive
    · rename_i hp
      rw [if_neg hp] at howner
      simp [howner, hactive] at hp
  · intro e he hactive
    have hlicense := herased.activations e he hactive
    refine ⟨hlicense, fun i hi hid howner => ?_⟩
    -- the license of the activation has the owner of the installation
    obtain ⟨c, ⟨l, hl, hlid, hc⟩, hinstallation⟩ := h.owned e he
    have hc' : i.val.customerId = c := hinstallation.of_mem h.stored.keyed hi hid
    exact hlicense l hl hlid (hc.trans (hc'.symm.trans howner))
  · rw [hdone.frozen.overrides]
    intro e he howner
    obtain ⟨e₀, -, rfl⟩ := mem_updateRows.mp he
    split
    · rfl
    · rename_i hp
      rw [if_neg hp] at howner
      simp [howner] at hp
  · exact hgrants

/-- A successful execution leaves nothing in force exactly if the customer has no grant in force, and a failed one
changes no table. -/
theorem deletion_complete_iff {s₀ : DbStore} (hs : Stored s₀) (hnone : s₀.db .licenses = []) (history : List Operation)
    (tables : EntitlementTables) (clock : Clock) (operatorId : String) (requestId : ℕ) (reason : String)
    (correlationId : Option String) :
    (∀ request row s', findRequest requestId (runAll history s₀).db = some request →
      (executeDeletion clock operatorId requestId reason correlationId).execute (runAll history s₀) = (.ok row, s') →
        (Swept request.val.customerId clock.now tables s'.db ↔ GrantsOver request.val.customerId clock.now tables)) ∧
    ∀ e s', (executeDeletion clock operatorId requestId reason correlationId).execute (runAll history s₀) =
      (.error e, s') → s'.db = (runAll history s₀).db := by
  refine ⟨fun request row s' hfound hexec => ?_, fun e s' hexec => Prog.execute_error_db hexec⟩
  obtain ⟨found, hdone⟩ := executeDeletion_executed clock operatorId requestId reason correlationId _ _
    (Prog.run_of_execute_ok hexec)
  obtain rfl : found = request := by simpa [hdone.found] using hfound
  have hafter : (Operation.executeDeletion clock operatorId requestId reason correlationId).apply (runAll history s₀) = s' := by
    rw [Operation.apply, after, hexec]
  exact swept_iff hdone (hafter ▸ ((prepared_start hs hnone).runAll history).apply _)

/-- A customer activates a license and asks for its deletion, which is ready to be executed. -/
def deletionRun : List Operation :=
  [.issueLicense ⟨0, 0⟩ ⟨"op", 0, "authorforge", 2, none, "goodwill", none⟩,
    .customer ⟨1, 1⟩ 100 none (.register ⟨"key_1", "authorforge", none, none, none, none, none, none, none⟩),
    .customer ⟨2, 2⟩ 100 none (.activate 11 (some 5) none), .customer ⟨3, 3⟩ 100 none (.requestDeletion none none),
    .advanceDeletion ⟨4, 4⟩ "op" 23 0 "verified" none, .advanceDeletion ⟨5, 5⟩ "op" 23 0 "cooling off" none,
    .advanceDeletion ⟨6, 6⟩ "op" 23 0 "processing" none]

def deletion : Tx DeletionError DeletionRequestRow := executeDeletion ⟨7, 7⟩ "op" 23 "execute" none

/-- The customer holds an unlimited promotional grant. -/
def promotionalTables : EntitlementTables :=
  ⟨[], [], [⟨0, 1, some "authorforge.beta", none, some true, none, none, none, 0⟩], fun _ => 0⟩

lemma deletion_succeeds : ∃ row, deletion.execute (runAll deletionRun twoProducts) =
    (.ok row, (deletion.execute (runAll deletionRun twoProducts)).2) :=
  Prog.exists_execute_ok (by decide)

lemma deletion_found : ∃ request, findRequest 23 (runAll deletionRun twoProducts).db = some request ∧
    request.val.customerId = 0 := ⟨_, rfl, rfl⟩

/-- The deletion succeeds, and the grant stays in force. -/
theorem grant_outlives_deletion : ∃ request row s', findRequest 23 (runAll deletionRun twoProducts).db = some request ∧
    deletion.execute (runAll deletionRun twoProducts) = (.ok row, s') ∧
    ¬Swept request.val.customerId 7 promotionalTables s'.db := by
  obtain ⟨request, hfound, howner⟩ := deletion_found
  obtain ⟨row, hexec⟩ := deletion_succeeds
  refine ⟨request, row, _, hfound, hexec, fun h => ?_⟩
  have hover := h.grants _ (List.mem_singleton_self _) howner.symm
  cases hover

theorem deletion_complete_iff_sample : ∃ request row s', findRequest 23 (runAll deletionRun twoProducts).db = some request ∧
    deletion.execute (runAll deletionRun twoProducts) = (.ok row, s') ∧
    Swept request.val.customerId 7 ⟨[], [], [], fun _ => 0⟩ s'.db := by
  obtain ⟨request, hfound, -⟩ := deletion_found
  obtain ⟨row, hexec⟩ := deletion_succeeds
  refine ⟨request, row, _, hfound, hexec, ((deletion_complete_iff twoProducts_stored rfl deletionRun ⟨[], [], [], fun _ => 0⟩
    ⟨7, 7⟩ "op" 23 "execute" none).1 request row _ hfound hexec).mpr ?_⟩
  intro grant hgrant
  cases hgrant

end ForgeCustomer.DeletionCompleteness
