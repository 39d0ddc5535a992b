import ForgeCustomer.AdminRepository
import ForgeCustomer.LicensingRepository

/-!
# The privacy repository

`repositories::privacy`: the account-deletion workflow and the anonymization it ends in.
-/
namespace ForgeCustomer.PrivacyRepository
open SqlTables SqlPrograms SqlStatements JsonValue DomainRules StripeEvents DatabaseTables AuditWriters
  LicensingRepository AdminRepository TableName

inductive DeletionError where
  | notFound
  | invalidState (status : String)
  | coolingOffActive
  | subscriptionStillActive
  | db (e : SqlError)
deriving DecidableEq

instance : FromSql DeletionError := ⟨.db⟩

abbrev DeletionRequestRow := Entry DeletionRequest

structure RequestedDeletion where
  request : DeletionRequestRow
  created : Bool

/-- The latest open request of a customer. -/
def openRequest (customerId : ℕ) (d : Database) : Option DeletionRequestRow :=
  firstBy (fun a b => decide (b.val.requestedAt < a.val.requestedAt))
    ((d .accountDeletionRequests).filter fun e => e.val.customerId == customerId && !e.val.status.terminal)

/-- Open, or return, the one open deletion request of the customer. -/
def requestDeletion {ε : Type} [FromSql ε] (clock : Clock) (customerId : ℕ) (reason : Option String)
    (correlationId : Option String) : Tx ε RequestedDeletion := do
  let existing ← selectForUpdate accountDeletionRequests (openRequest customerId)
  match existing with
  | some request => pure ⟨request, false⟩
  | none =>
    let request ← insertRow accountDeletionRequests
      { customerId := customerId
        status := .requested
        requestedAt := clock.now
        coolingOffUntil := none
        completedAt := none
        receipt := none
        reason := reason }
    writeCustomerAudit
      { eventType := "deletion_requested"
        customerId := customerId
        targetType := "deletion_request"
        targetId := toString request.id
        reason := reason.getD "customer_request"
        beforeState := none
        afterState := some (.obj [("status", .str "requested")])
        correlationId := correlationId }
    pure ⟨request, true⟩

def findRequest (requestId : ℕ) (d : Database) : Option DeletionRequestRow :=
  (d .accountDeletionRequests).find? fun e => e.id == requestId

/-- `lock_request` without a customer: every caller passes none. -/
def lockRequest {α : Type} (requestId : ℕ) (next : DeletionRequestRow → Tx DeletionError α) :
    Tx DeletionError α := do
  let request ← selectForUpdate accountDeletionRequests (findRequest requestId)
  match request with
  | none => .fail .notFound
  | some request => next request

def setRequestStatus (requestId : ℕ) (status : DeletionStatus) (coolingOffUntil : Option Time) :
    Tx DeletionError DeletionRequestRow :=
  updateOne accountDeletionRequests (fun e => e.id == requestId) fun r =>
    { r with status := status, coolingOffUntil := coolingOffUntil.or r.coolingOffUntil }

/-- Customer-initiated cancel: clean while not yet processing. -/
def cancelRequest (customerId : ℕ) (correlationId : Option String) :
    Tx DeletionError DeletionRequestRow := do
  let request ← selectForUpdate accountDeletionRequests (openRequest customerId)
  match request with
  | none => .fail .notFound
  | some request =>
    if !request.val.status.canCancel then .fail (.invalidState request.val.status.asStr)
    else
      let updated ← setRequestStatus request.id .canceled none
      writeCustomerAudit
        { eventType := "deletion_request_canceled"
          customerId := customerId
          targetType := "deletion_request"
          targetId := toString request.id
          reason := "customer_cancel"
          beforeState := some (.obj [("status", .str request.val.status.asStr)])
          afterState := some (.obj [("status", .str "canceled")])
          correlationId := correlationId }
      pure updated

/-- The cooling-off stamp of a transition to `next`; processing waits until it has passed. -/
def coolingOffStamp (clock : Clock) (coolingOff : Time) (request : DeletionRequest)
    (next : DeletionStatus) : Except DeletionError (Option Time) :=
  match next with
  | .coolingOff => .ok (some (clock.utcNow + coolingOff))
  | .processing =>
    match request.coolingOffUntil with
    | none => .error (.invalidState "cooling_off window was never stamped")
    | some until_ => if clock.utcNow < until_ then .error .coolingOffActive else .ok none
  | _ => .ok none

/-- Operator-driven forward transition. -/
def advanceRequest (clock : Clock) (operatorId : String) (requestId : ℕ) (coolingOff : Time)
    (reason : String) (correlationId : Option String) : Tx DeletionError DeletionRequestRow :=
  lockRequest requestId fun request =>
    match request.val.status.nextState with
    | none => .fail (.invalidState request.val.status.asStr)
    | some next =>
      match coolingOffStamp clock coolingOff request.val next with
      | .error e => .fail e
      | .ok coolingOffUntil => do
        let updated ← setRequestStatus requestId next coolingOffUntil
        writeOperatorAudit
          { eventType := "deletion_request_advanced"
            operatorId := operatorId
            customerId := some request.val.customerId
            targetType := "deletion_request"
            targetId := toString requestId
            reason := reason
            beforeState := some (.obj [("status", .str request.val.status.asStr)])
            afterState := some (.obj [("status", .str next.asStr),
              ("cooling_off_until", Value.opt .time updated.val.coolingOffUntil)])
            correlationId := correlationId }
        pure updated

/-- Operator rejection of a not-yet-processing request. -/
def rejectRequest (operatorId : String) (requestId : ℕ) (reason : String)
    (correlationId : Option String) : Tx DeletionError DeletionRequestRow :=
  lockRequest requestId fun request =>
    if !request.val.status.canReject then .fail (.invalidState request.val.status.asStr)
    else do
      let updated ← setRequestStatus requestId .rejected none
      writeOperatorAudit
        { eventType := "deletion_request_rejected"
          operatorId := operatorId
          customerId := some request.val.customerId
          targetType := "deletion_request"
          targetId := toString requestId
          reason := reason
          beforeState := some (.obj [("status", .str request.val.status.asStr)])
          afterState := some (.obj [("status", .str "rejected")])
          correlationId := correlationId }
      pure updated

/-- What an execution did, without personal data. -/
def deletionReceipt (emailsDeleted devicesRevoked licensesRevoked installationsDeactivated : ℕ) : Value :=
  .obj [("profile_anonymized", .bool true), ("emails_deleted", .int emailsDeleted),
    ("devices_revoked", .int devicesRevoked), ("licenses_revoked", .int licensesRevoked),
    ("installations_deactivated", .int installationsDeactivated),
    ("retained", .obj [("billing_and_invoice_references", .str "statutory accounting period"),
      ("commercial_audit_events", .str "append-only integrity"),
      ("usage_ledger", .str "billing correctness (aggregates, no PII)"),
      ("consent_records", .str "legal evidence of consent")]),
    ("external_steps", .obj [
      ("supabase_auth_user", .str "deleted/disabled via Supabase Auth by the operator"),
      ("stripe_customer", .str "subscriptions canceled at Stripe before execution")])]

def anonymize (r : CustomerProfile) : CustomerProfile :=
  { r with status := .anonymized, displayName := none, countryCode := none, timezone := none }

def revokeDevice (r : Device) : Device := { r with status := .revoked, label := none }

/-- One revocation record for each license. -/
def recordRevocations (operatorId : String) : List (Entry License) → Tx DeletionError Unit
  | [] => pure ()
  | license :: rest => do
    let _ ← insertRow licenseRevocations
      { licenseId := some license.id
        deviceId := none
        installationId := none
        reason := "account_deletion"
        actorType := .operator
        actorId := operatorId }
    recordRevocations operatorId rest

/-- The license of an activation belongs to the customer. -/
def holdsSlot (customerId : ℕ) (d : Database) (e : Entry LicenseActivation) : Bool :=
  e.val.status == .active &&
    (d .licenses).any fun l => l.id == e.val.licenseId && l.val.customerId == customerId

/-- Strip the profile, its e-mail addresses, devices, licenses, installations and overrides;
the receipt says how many of each. -/
def freezeCustomer (clock : Clock) (operatorId : String) (customerId : ℕ) (priorStatus : CustomerStatus) :
    Tx DeletionError Value := do
  -- Direct PII: profile decoration and contact emails.
  let _ ← update customerProfiles (fun e => e.id == customerId) anonymize
  let _ ← insertRow customerStatusHistory
    { customerId := customerId
      fromStatus := some priorStatus
      toStatus := .anonymized
      reason := "account_deletion"
      actorType := .operator
      actorId := operatorId }
  let emailsDeleted ← delete customerEmails fun e => e.val.customerId == customerId
  -- Device keys are pseudonymous; the rows are retained for revocation integrity.
  let devicesRevoked ← update devices (fun e => e.val.customerId == customerId) revokeDevice
  let revoked ← update licenses
    (fun e => e.val.customerId == customerId && e.val.status != .revoked)
    fun r => { r with status := .revoked }
  recordRevocations operatorId revoked
  let installationsDeactivated ← update installations
    (fun e => e.val.customerId == customerId && e.val.status == .active)
    fun r => { r with status := .deactivated }
  let _ ← updateFrom licenseActivations (holdsSlot customerId) (endActivation clock.now)
  let _ ← update entitlementOverrides (fun e => e.val.customerId == customerId)
    fun r => { r with active := false }
  pure (deletionReceipt emailsDeleted devicesRevoked.length revoked.length
    installationsDeactivated.length)

/-- Execute the deletion from `processing`. Refuses while any non-terminal subscription remains. -/
def executeDeletion (clock : Clock) (operatorId : String) (requestId : ℕ) (reason : String)
    (correlationId : Option String) : Tx DeletionError DeletionRequestRow :=
  lockRequest requestId fun request =>
    if !request.val.status.canExecute then .fail (.invalidState request.val.status.asStr)
    else do
      let customerId := request.val.customerId
      let profile ← selectOneForUpdate customerProfiles (findProfile customerId)
      let openSubscriptions ← select fun d => ((d .subscriptions).filter fun e =>
        e.val.customerId == customerId && e.val.status != .canceled).length
      if 0 < openSubscriptions then .fail .subscriptionStillActive
      else
        let receipt ← freezeCustomer clock operatorId customerId profile.val.status
        let updated ← updateOne accountDeletionRequests (fun e => e.id == requestId) fun r =>
          { r with status := .completed, completedAt := some clock.now, receipt := some receipt }
        writeOutbox "customer_anonymized" s!"customer_anonymized:{requestId}"
          (.obj [("customer_id", .uuid customerId), ("occurred_at", .time clock.utcNow)])
        writeOperatorAudit
          { eventType := "deletion_completed"
            operatorId := operatorId
            customerId := some customerId
            targetType := "deletion_request"
            targetId := toString requestId
            reason := reason
            beforeState := some (.obj [("status", .str "processing"),
              ("customer_status", .str profile.val.status.asStr)])
            afterState := some receipt
            correlationId := correlationId }
        pure updated

def requestTables : List TableName := [accountDeletionRequests, commercialAuditEvents]

def deletionTables : List TableName :=
  [customerProfiles, customerStatusHistory, customerEmails, devices, licenses, licenseRevocations,
    installations, licenseActivations, entitlementOverrides, accountDeletionRequests,
    commercialAuditEvents, outboxEvents]

lemma requestDeletion_checked {ε : Type} [FromSql ε] (clock : Clock) (customerId : ℕ)
    (reason correlationId : Option String) :
    Checked requestTables (requestDeletion clock customerId reason correlationId : Tx ε _) := by
  refine (checked_selectForUpdate _ _).bind fun existing => ?_
  cases existing with
  | some request => exact .pure _
  | none =>
    refine (checked_insertRow (by decide) _).bind fun request => ?_
    exact (writeCustomerAudit_checked (by decide) _).bind fun _ => .pure _

lemma lockRequest_checked {α : Type} {S : List TableName} {requestId : ℕ}
    {next : DeletionRequestRow → Tx DeletionError α} (h : ∀ request, Checked S (next request)) :
    Checked S (lockRequest requestId next) := by
  refine (checked_selectForUpdate _ _).bind fun request => ?_
  cases request with
  | none => exact .fail _
  | some request => exact h request

lemma setRequestStatus_checked (requestId : ℕ) (status : DeletionStatus) (until_ : Option Time) :
    Checked requestTables (setRequestStatus requestId status until_) :=
  checked_updateOne (by decide) (unkeyed (by decide)) _ _

lemma cancelRequest_checked (customerId : ℕ) (correlationId : Option String) :
    Checked requestTables (cancelRequest customerId correlationId) := by
  refine (checked_selectForUpdate _ _).bind fun request => ?_
  cases request with
  | none => exact .fail _
  | some request =>
    dsimp only
    split
    · exact .fail _
    refine (setRequestStatus_checked _ _ _).bind fun updated => ?_
    exact (writeCustomerAudit_checked (by decide) _).bind fun _ => .pure _

lemma advanceRequest_checked (clock : Clock) (operatorId : String) (requestId : ℕ) (coolingOff : Time)
    (reason : String) (correlationId : Option String) :
    Checked requestTables
      (advanceRequest clock operatorId requestId coolingOff reason correlationId) := by
  refine lockRequest_checked fun request => ?_
  split
  · exact .fail _
  split
  · exact .fail _
  refine (setRequestStatus_checked _ _ _).bind fun updated => ?_
  exact (writeOperatorAudit_checked (by decide) _).bind fun _ => .pure _

lemma rejectRequest_checked (operatorId : String) (requestId : ℕ) (reason : String)
    (correlationId : Option String) :
    Checked requestTables (rejectRequest operatorId requestId reason correlationId) := by
  refine lockRequest_checked fun request => ?_
  split
  · exact .fail _
  refine (setRequestStatus_checked _ _ _).bind fun updated => ?_
  exact (writeOperatorAudit_checked (by decide) _).bind fun _ => .pure _

lemma recordRevocations_checked {S : List TableName} (h : licenseRevocations ∈ S) (operatorId : String)
    (revoked : List (Entry License)) : Checked S (recordRevocations operatorId revoked) := by
  induction revoked with
  | nil => exact .pure ()
  | cons license rest ih => exact (checked_insertRow h _).bind fun _ => ih

/-- The tables that freezing a customer writes to. -/
def freezeTables : List TableName :=
  [customerProfiles, customerStatusHistory, customerEmails, devices, licenses, licenseRevocations,
    installations, licenseActivations, entitlementOverrides]

lemma freezeCustomer_checked (clock : Clock) (operatorId : String) (customerId : ℕ)
    (priorStatus : CustomerStatus) :
    Checked freezeTables (freezeCustomer clock operatorId customerId priorStatus) := by
  refine (checked_update (by decide) (unkeyed (by decide)) _ _).bind fun _ => ?_
  refine (checked_insertRow (by decide) _).bind fun _ => ?_
  refine (checked_delete (by decide) unreferenced_emails _).bind fun emails => ?_
  refine (checked_update (by decide) (unkeyed (by decide)) _ _).bind fun revokedDevices => ?_
  refine (checked_update (by decide) (unkeyed (by decide)) _ _).bind fun revoked => ?_
  refine (recordRevocations_checked (by decide) _ _).bind fun _ => ?_
  refine (checked_update (by decide) (unkeyed (by decide)) _ _).bind fun deactivated => ?_
  refine (checked_updateFrom (by decide) (unkeyed (by decide)) _ _).bind fun _ => ?_
  exact (checked_update (by decide) (unkeyed (by decide)) _ _).bind fun _ => .pure _

lemma executeDeletion_checked (clock : Clock) (operatorId : String) (requestId : ℕ) (reason : String)
    (correlationId : Option String) :
    Checked deletionTables (executeDeletion clock operatorId requestId reason correlationId) := by
  refine lockRequest_checked fun request => ?_
  split
  · exact .fail _
  refine (checked_selectOneForUpdate _ _).bind fun profile => ?_
  refine (checked_select _).bind fun openSubscriptions => ?_
  split
  · exact .fail _
  refine Checked.bind ((freezeCustomer_checked _ _ _ _).mono (by decide)) fun receipt => ?_
  refine (checked_updateOne (by decide) (unkeyed (by decide)) _ _).bind fun updated => ?_
  refine (writeOutbox_checked (by decide) _ _ _).bind fun _ => ?_
  exact (writeOperatorAudit_checked (by decide) _).bind fun _ => .pure _

/-- A record that denies a license on every device. -/
structure LicenseWide (licenseId : ℕ) (r : LicenseRevocation) : Prop where
  license : r.licenseId = some licenseId
  device : r.deviceId = none
  installation : r.installationId = none

/-- The tables before and after a customer is frozen. -/
structure Frozen (now : Time) (customerId : ℕ) (d d' : Database) : Prop where
  profiles : d' .customerProfiles = updateRows (fun e => e.id == customerId) anonymize (d .customerProfiles)
  emails : d' .customerEmails = (d .customerEmails).filter fun e => !(e.val.customerId == customerId)
  devices : d' .devices = updateRows (fun e => e.val.customerId == customerId) revokeDevice (d .devices)
  licenses : d' .licenses = updateRows (fun e => e.val.customerId == customerId && e.val.status != .revoked)
    (fun r => { r with status := .revoked }) (d .licenses)
  revocations : ∃ new, d' .licenseRevocations = d .licenseRevocations ++ new ∧ ∀ l ∈ d .licenses,
    l.val.customerId = customerId → l.val.status ≠ .revoked → ∃ r ∈ new, LicenseWide l.id r.val
  installations : d' .installations = updateRows (fun e => e.val.customerId == customerId && e.val.status == .active)
    (fun r => { r with status := .deactivated }) (d .installations)
  activations : d' .licenseActivations = updateRows (holdsSlot customerId d') (endActivation now) (d .licenseActivations)
  overrides : d' .entitlementOverrides = updateRows (fun e => e.val.customerId == customerId)
    (fun r => { r with active := false }) (d .entitlementOverrides)

/-- The tables before and after a deletion request has been executed. -/
structure Executed (now : Time) (requestId : ℕ) (request : DeletionRequestRow) (d d' : Database) : Prop where
  found : findRequest requestId d = some request
  due : request.val.status.canExecute = true
  profile : ∃ profile, findProfile request.val.customerId d = some profile
  canceled : ∀ e ∈ d subscriptions, e.val.customerId = request.val.customerId → e.val.status = .canceled
  frozen : Frozen now request.val.customerId d d'
  requests : ∃ receipt, d' accountDeletionRequests = updateRows (fun e => e.id == requestId)
    (fun r => { r with status := .completed, completedAt := some now, receipt := some receipt })
    (d accountDeletionRequests)
  others : ∀ t, t ∉ deletionTables → d' t = d t

variable {s : DbStore}

lemma ensures_recordRevocations (operatorId : String) (revoked : List (Entry License)) :
    (recordRevocations operatorId revoked).Ensures s fun _ s' => ∃ new,
      s'.db licenseRevocations = s.db licenseRevocations ++ new ∧ ∀ l ∈ revoked, ∃ r ∈ new, LicenseWide l.id r.val := by
  induction revoked generalizing s with
  | nil => exact .pure ⟨[], by simp, by simp⟩
  | cons license rest ih =>
    refine ensures_insertRow.bind fun record s₁ h₁ => ih.mono fun _ s₂ h₂ => ?_
    obtain ⟨new, hdb, hall⟩ := h₂
    refine ⟨_ :: new, by rw [hdb, h₁.2, Db.put_self, List.append_assoc]; rfl, fun l hl => ?_⟩
    rcases List.mem_cons.mp hl with rfl | hl
    · exact ⟨_, List.mem_cons_self, rfl, rfl, rfl⟩
    · obtain ⟨r, hr, hwide⟩ := hall l hl
      exact ⟨r, List.mem_cons_of_mem _ hr, hwide⟩

/-- Freezing rewrites the tables one after the other, and no other ones. -/
lemma freezeCustomer_frozen (clock : Clock) (operatorId : String) (customerId : ℕ) (priorStatus : CustomerStatus) :
    (freezeCustomer clock operatorId customerId priorStatus).Ensures s fun _ s' =>
      Frozen clock.now customerId s.db s'.db ∧ ∀ t, t ∉ freezeTables → s'.db t = s.db t := by
  refine Prog.Ensures.and ?_ (freezeCustomer_checked clock operatorId customerId priorStatus).ensures_frame
  refine ensures_update.bind fun _ s₁ h₁ => ensures_insertRow.bind fun _ s₂ h₂ => ?_
  refine ensures_delete.bind fun _ s₃ h₃ => ensures_update.bind fun _ s₄ h₄ => ?_
  refine ensures_update.bind fun revoked s₅ h₅ => ?_
  refine Prog.Ensures.bind (Prog.Ensures.and (ensures_recordRevocations operatorId revoked)
    (recordRevocations_checked (S := [licenseRevocations]) (by decide) operatorId revoked).ensures_frame)
    fun _ s₆ h₆ => ?_
  refine ensures_update.bind fun _ s₇ h₇ => ensures_updateFrom.bind fun _ s₈ h₈ => ?_
  refine ensures_update.bind fun _ s₉ h₉ => .pure ?_
  obtain ⟨⟨new, hnew, hwide⟩, hframe⟩ := h₆
  replace hframe : ∀ t, t ≠ licenseRevocations → s₆.db t = s₅.db t := fun t ht => hframe t (by simpa using ht)
  have hslots : holdsSlot customerId s₉.db = holdsSlot customerId s₇.db := by
    unfold holdsSlot
    simp (disch := decide) only [h₉.2, h₈.2, Db.put_of_ne]
  have hlicenses : s₄.db licenses = s.db licenses := by
    simp (disch := decide) only [h₄.2, h₃.2, h₂.2, h₁.2, Db.put_of_ne]
  have hrecords : ∀ l ∈ s.db licenses, l.val.customerId = customerId → l.val.status ≠ .revoked →
      ∃ r ∈ new, LicenseWide l.id r.val := by
    intro l hl howner hstatus
    refine hwide ⟨l.id, { l.val with status := .revoked }⟩ ?_
    rw [h₅.1, hlicenses]
    exact List.mem_map.mpr ⟨l, List.mem_filter.mpr ⟨hl, by simp [howner, hstatus]⟩, rfl⟩
  -- every table is rewritten once, and passed on before and after that
  have hactivations : s₉.db licenseActivations =
      updateRows (holdsSlot customerId s₉.db) (endActivation clock.now) (s.db licenseActivations) := by
    rw [hslots]
    simp (disch := decide) only [h₉.2, h₈.2, h₇.2, hframe, h₅.2, h₄.2, h₃.2, h₂.2, h₁.2, Db.put_of_ne, Db.put_self]
  refine ⟨?_, ?_, ?_, ?_, ⟨new, ?_, hrecords⟩, ?_, hactivations, ?_⟩
  all_goals simp (disch := decide) only [h₉.2, h₈.2, h₇.2, hframe, hnew, h₅.2, h₄.2, h₃.2, h₂.2, h₁.2,
    Db.put_of_ne, Db.put_self]

lemma Frozen.congr {now : Time} {customerId : ℕ} {d d' d'' : Database} (h : Frozen now customerId d d')
    (hd : ∀ t, t ∈ freezeTables → d'' t = d' t) : Frozen now customerId d d'' := by
  have hslots : holdsSlot customerId d'' = holdsSlot customerId d' := by
    unfold holdsSlot
    simp only [hd TableName.licenses (by decide)]
  constructor
  all_goals simp (disch := decide) only [hd, hslots]
  exacts [h.profiles, h.emails, h.devices, h.licenses, h.revocations, h.installations, h.activations, h.overrides]

/-- A successful execution: what it found, and the tables before and after. -/
lemma executeDeletion_executed (clock : Clock) (operatorId : String) (requestId : ℕ) (reason : String)
    (correlationId : Option String) :
    (executeDeletion clock operatorId requestId reason correlationId).Ensures s fun _ s' =>
      ∃ request, Executed clock.now requestId request s.db s'.db := by
  have hothers := (executeDeletion_checked clock operatorId requestId reason correlationId).ensures_frame (s := s)
  have hmain : (executeDeletion clock operatorId requestId reason correlationId).Ensures s fun _ s' =>
      (∀ t, t ∉ deletionTables → s'.db t = s.db t) → ∃ request, Executed clock.now requestId request s.db s'.db := by
    refine ensures_selectForUpdate.bind fun request s₁ h₁ => ?_
    obtain ⟨hfound, rfl⟩ := h₁
    cases request with
    | none => exact .fail
    | some request =>
      dsimp only
      split
      · exact .fail
      rename_i hdue
      refine ensures_selectOneForUpdate.bind fun profile s₂ h₂ => ?_
      obtain ⟨hprofile, rfl⟩ := h₂
      refine ensures_select.bind fun openSubscriptions s₃ h₃ => ?_
      obtain ⟨rfl, rfl⟩ := h₃
      split
      · exact .fail
      rename_i hclosed
      refine (freezeCustomer_frozen clock operatorId _ _).bind fun receipt s₄ h₄ => ?_
      obtain ⟨hfrozen, hframe⟩ := h₄
      refine ensures_updateOne.bind fun updated s₅ h₅ => ?_
      have hrest : ∀ {α : Type} {p : Tx DeletionError α}, Checked [outboxEvents, commercialAuditEvents] p →
          p.Ensures s₅ fun _ s' => (∀ t, t ∉ deletionTables → s'.db t = s.db t) →
            ∃ request, Executed clock.now requestId request s.db s'.db := by
        intro α p hp
        refine hp.ensures_frame.mono fun _ s₆ h₆ hothers => ⟨request, ?_⟩
        have hrequests : s₆.db accountDeletionRequests = s₅.db accountDeletionRequests := h₆ _ (by decide)
        refine ⟨hfound.symm, by simpa using hdue, ⟨profile, hprofile⟩, fun e he howner => ?_,
          hfrozen.congr fun t ht => ?_, ⟨receipt, ?_⟩, hothers⟩
        · by_contra hopen
          refine hclosed (List.length_pos_of_mem (List.mem_filter.mpr ⟨he, ?_⟩))
          simp [howner, hopen]
        · have hne : t ∉ [outboxEvents, commercialAuditEvents] ∧ t ≠ accountDeletionRequests := by
            revert t
            decide
          rw [h₆ t hne.1, h₅.2, Db.put_of_ne _ hne.2]
        · rw [hrequests, h₅.2, Db.put_self, hframe _ (by decide)]
      refine hrest ?_
      refine (writeOutbox_checked (by decide) _ _ _).bind fun _ => ?_
      exact (writeOperatorAudit_checked (by decide) _).bind fun _ => .pure _
  exact (Prog.Ensures.and hmain hothers).mono fun _ _ h => h.1 h.2

end ForgeCustomer.PrivacyRepository
