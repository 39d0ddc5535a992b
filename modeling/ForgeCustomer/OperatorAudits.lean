import ForgeCustomer.AdminReleases
import ForgeCustomer.CommercialPolicy
import ForgeCustomer.ServiceOperations

/-!
# The audit of operator actions

Every change that an operator makes to the commercial tables comes with an audit row of the same transaction.
-/
namespace ForgeCustomer.OperatorAudits
open SqlTables SqlPrograms SqlStatements JsonValue DomainRules StripeEvents DatabaseTables AuditWriters
  CommerceRepository AdminRepository PrivacyRepository LicensingRepository CommercialPolicy TableName

/-- An audit row in the name of the operator, with the reason given. -/
def ByOperator (operatorId reason : String) (r : AuditEvent) : Prop :=
  r.actorType = .operator ∧ r.actorId = operatorId ∧ r.reason = reason

/-- Rows have been appended to the audit table, one of them by the operator. -/
def Appends (operatorId reason : String) (before after : List (Entry AuditEvent)) : Prop :=
  ∃ rows, after = before ++ rows ∧ ∃ e ∈ rows, ByOperator operatorId reason e.val

lemma Appends.ne {operatorId reason : String} {before after : List (Entry AuditEvent)}
    (h : Appends operatorId reason before after) : after ≠ before := by
  rintro rfl
  obtain ⟨rows, hrows, e, he, -⟩ := h
  rw [List.self_eq_append_right.mp hrows] at he
  cases he

lemma Appends.extend {operatorId reason : String} {before middle after : List (Entry AuditEvent)}
    (h : Appends operatorId reason before middle) (hmore : middle <+: after) : Appends operatorId reason before after := by
  obtain ⟨rows, rfl, e, he, hop⟩ := h
  obtain ⟨more, rfl⟩ := hmore
  exact ⟨rows ++ more, List.append_assoc _ _ _, e, List.mem_append_left _ he, hop⟩

section Programs
variable {ε α β : Type} {operatorId reason : String} {S : List TableName}

/-- The audit table only grows. -/
def Extending (p : Tx ε α) : Prop :=
  ∀ s : DbStore, p.Ensures s fun _ s' => s.db commercialAuditEvents <+: s'.db commercialAuditEvents

/-- Whenever the transaction is committed the operator has an audit row. -/
def Records (operatorId reason : String) (p : Tx ε α) : Prop :=
  ∀ s : DbStore, p.Ensures s fun _ s' =>
    Appends operatorId reason (s.db commercialAuditEvents) (s'.db commercialAuditEvents)

/-- The transaction writes nothing or records the operator. -/
def Audits (operatorId reason : String) (p : Tx ε α) : Prop :=
  ∀ s : DbStore, p.Ensures s fun _ s' =>
    s'.db = s.db ∨ Appends operatorId reason (s.db commercialAuditEvents) (s'.db commercialAuditEvents)

lemma Extending.pure (a : α) : Extending (pure a : Tx ε α) := fun _ => .pure (List.prefix_refl _)

lemma Extending.bind {p : Tx ε α} {k : α → Tx ε β} (hp : Extending p) (hk : ∀ a, Extending (k a)) :
    Extending (p >>= k) :=
  fun s => (hp s).bind fun a s' h => (hk a s').mono fun _ _ h' => h.trans h'

/-- What does not touch the audit table. -/
lemma Extending.of_checked {p : Tx ε α} (hp : Checked S p) (haudits : commercialAuditEvents ∉ S) : Extending p := by
  intro s
  refine Prog.Ensures.mono (Checked.ensures_frame hp) fun a s' h => ?_
  rw [h _ haudits]

lemma Records.fail (e : ε) : Records operatorId reason (.fail e : Tx ε α) := fun _ => .fail

/-- Writes to other tables may come before the audit row. -/
lemma Records.after {p : Tx ε α} {k : α → Tx ε β} (hp : Checked S p) (haudits : commercialAuditEvents ∉ S)
    (hk : ∀ a, Records operatorId reason (k a)) : Records operatorId reason (p >>= k) := by
  intro s
  refine Prog.Ensures.bind (Checked.ensures_frame hp) fun a s' h => (hk a s').mono fun _ s'' h' => ?_
  rw [← h _ haudits]
  exact h'

lemma Audits.pure (a : α) : Audits operatorId reason (pure a : Tx ε α) := fun _ => .pure (.inl rfl)

lemma Audits.fail (e : ε) : Audits operatorId reason (.fail e : Tx ε α) := fun _ => .fail

lemma Audits.of_records {p : Tx ε α} (h : Records operatorId reason p) : Audits operatorId reason p :=
  fun s => (h s).mono fun _ _ => .inr

/-- Reading comes first. -/
lemma Audits.read {p : Tx ε α} {k : α → Tx ε β} (hp : Checked [] p) (hk : ∀ a, Audits operatorId reason (k a)) :
    Audits operatorId reason (p >>= k) := by
  intro s
  refine Prog.Ensures.bind (Checked.ensures_frame hp) fun a s' h => (hk a s').mono fun _ s'' h' => ?_
  have hdb : s'.db = s.db := funext fun t => h t List.not_mem_nil
  rw [← hdb]
  exact h'

variable [FromSql ε]

lemma ensures_writeOperatorAudit {record : OperatorAudit} {s : DbStore}
    (hoperator : record.operatorId = operatorId) (hreason : record.reason = reason) :
    (writeOperatorAudit record : Tx ε Unit).Ensures s fun _ s' =>
      Appends operatorId reason (s.db commercialAuditEvents) (s'.db commercialAuditEvents) := by
  refine ensures_insertRow.bind fun e s' h => .pure ?_
  obtain ⟨-, hdb⟩ := h
  rw [hdb, Db.put_self]
  exact ⟨_, rfl, _, List.mem_singleton_self _, rfl, hoperator, hreason⟩

lemma Extending.writeOperatorAudit (record : OperatorAudit) : Extending (writeOperatorAudit record : Tx ε Unit) :=
  fun _ => (ensures_writeOperatorAudit rfl rfl).mono fun _ _ h => by
    obtain ⟨rows, hrows, -⟩ := h
    exact ⟨rows, hrows.symm⟩

lemma Records.write {record : OperatorAudit} {k : Unit → Tx ε β} (hoperator : record.operatorId = operatorId)
    (hreason : record.reason = reason) (hk : ∀ a, Extending (k a)) :
    Records operatorId reason (writeOperatorAudit record >>= k) :=
  fun _ => (ensures_writeOperatorAudit hoperator hreason).bind fun a s' h =>
    (hk a s').mono fun _ _ hmore => h.extend hmore

/-- An insert that meets a conflict has written nothing. -/
lemma Audits.insertUnless {t : TableName} {v : Row t} {k : Option (Entry (Row t)) → Tx ε β}
    (ht : t ≠ commercialAuditEvents) (hnone : Audits operatorId reason (k none))
    (hsome : ∀ e, Records operatorId reason (k (some e))) :
    Audits operatorId reason (insertUnless t v >>= k) := by
  intro s
  have hinserted : (SqlStatements.insertUnless t v : Tx ε _).Ensures s fun a s' =>
      (a = none → s'.db = s.db) ∧ s'.db commercialAuditEvents = s.db commercialAuditEvents := by
    refine ensures_statement fun c a hattempt => ?_
    rcases tryInsertUnless_ok hattempt with ⟨-, rfl, rfl⟩ | ⟨-, rfl, rfl⟩
    · exact ⟨fun _ => rfl, rfl⟩
    · exact ⟨(fun hconflict => nomatch hconflict), Db.put_of_ne _ ht.symm _⟩
  refine hinserted.bind fun a s' h => ?_
  obtain ⟨hsame, haudits⟩ := h
  cases a with
  | none =>
    rw [← hsame rfl]
    exact hnone s'
  | some e =>
    rw [← haudits]
    exact (hsome e s').mono fun _ _ => .inr

end Programs

section Transactions
variable {clock : Clock} {operatorId reason : String} {correlationId : Option String}

lemma audits_setCustomerStatus (customerId : ℕ) (toStatus : CustomerStatus) (eventType : String) :
    Audits operatorId reason (setCustomerStatus clock operatorId customerId toStatus eventType reason correlationId) := by
  refine .read (checked_selectForUpdate _ _) fun profile => ?_
  cases profile with
  | none => exact .fail _
  | some profile =>
    dsimp only
    split
    · exact .pure _
    refine .of_records (.after (S := [customerProfiles]) (checked_update (by decide) (unkeyed (by decide)) _ _)
      (by decide) fun _ => ?_)
    refine .after (S := [customerStatusHistory]) (checked_insertRow (by decide) _) (by decide) fun history => ?_
    refine .write rfl rfl fun _ => ?_
    exact .of_checked (S := [outboxEvents]) ((writeOutbox_checked (by decide) _ _ _).bind fun _ => .pure _) (by decide)

lemma audits_setCustomerMfaRequirement (customerId : ℕ) (required : Bool) :
    Audits operatorId reason
      (setCustomerMfaRequirement clock operatorId customerId required reason correlationId) := by
  refine .read (checked_selectForUpdate _ _) fun profile => ?_
  cases profile with
  | none => exact .fail _
  | some profile =>
    dsimp only
    split
    · exact .pure _
    refine .of_records (.after (S := [customerProfiles]) (checked_update (by decide) (unkeyed (by decide)) _ _)
      (by decide) fun _ => ?_)
    refine .after (S := [customerMfaHistory]) (checked_insertRow (by decide) _) (by decide) fun history => ?_
    refine .write rfl rfl fun _ => ?_
    exact .of_checked (S := [outboxEvents]) ((writeOutbox_checked (by decide) _ _ _).bind fun _ => .pure _) (by decide)

lemma audits_issueLicense (input : IssueLicenseInput) :
    Audits input.operatorId input.reason (issueLicense clock input) := by
  refine .read (checked_select _) fun known => ?_
  split
  · exact .fail _
  refine .read (checked_select _) fun product => ?_
  cases product with
  | none => exact .fail _
  | some product =>
    refine .of_records (.after (S := [licenses]) (checked_insertRow (by decide) _) (by decide) fun license => ?_)
    exact .write rfl rfl fun _ => .pure _

lemma audits_revokeLicense (licenseId : ℕ) :
    Audits operatorId reason (revokeLicense clock operatorId licenseId reason correlationId) := by
  refine .read (checked_selectForUpdate _ _) fun license => ?_
  cases license with
  | none => exact .fail _
  | some license =>
    dsimp only
    split
    · exact .pure _
    refine .of_records (.after (S := [licenses]) (checked_update (by decide) (unkeyed (by decide)) _ _)
      (by decide) fun _ => ?_)
    refine .after (S := [licenseRevocations]) (checked_insertRow (by decide) _) (by decide) fun revocation => ?_
    refine .write rfl rfl fun _ => ?_
    exact .of_checked (S := [outboxEvents]) ((writeOutbox_checked (by decide) _ _ _).bind fun _ => .pure _) (by decide)

lemma audits_setEntitlementOverride (input : OverrideInput) :
    Audits operatorId input.reason (setEntitlementOverride operatorId input correlationId) := by
  refine .read (checked_select _) fun known => ?_
  split
  · exact .fail _
  refine .read (checked_select _) fun product => ?_
  cases product with
  | none => exact .fail _
  | some product =>
    refine .of_records (.after (S := [entitlementOverrides]) (checked_update (by decide) (unkeyed (by decide)) _ _)
      (by decide) fun cleared => ?_)
    have hinserted : Checked [entitlementOverrides] (insertOverride operatorId input product.id) := by
      unfold insertOverride
      split
      · exact .pure _
      · exact (checked_insertRow (by decide) _).bind fun _ => .pure _
    refine .after hinserted (by decide) fun overrideId => ?_
    exact .write rfl rfl fun _ => .pure _

lemma audits_adjustUsage (input : UsageAdjustmentInput) :
    Audits input.operatorId input.reason (adjustUsage input) := by
  refine .read (checked_select _) fun known => ?_
  split
  · exact .fail _
  refine .read (checked_select _) fun metered => ?_
  split
  · exact .fail _
  refine .insertUnless (by decide) ?_ fun event => ?_
  · exact .read (checked_selectOne _) fun existing => .pure _
  · refine .after (S := [usagePeriodTotals]) (checked_upsert (by decide) (unkeyed (by decide)) _ _) (by decide)
      fun _ => ?_
    exact .write rfl rfl fun _ => .pure _

lemma audits_updateFleetPolicy (input : UpdateFleetPolicyInput) :
    Audits input.operatorId input.reason (updateFleetPolicy input) := by
  refine .read (checked_selectForUpdate _ _) fun before => ?_
  cases before with
  | none => exact .fail _
  | some before =>
    refine .read (checked_select _) fun beforeRow => ?_
    have hchannel : Checked [] (fleetChannel input.releaseChannelKey) := by
      unfold fleetChannel
      split
      · exact .pure _
      · exact checked_select _
    refine .read hchannel fun channel => ?_
    split
    · exact .fail _
    refine .of_records (.after (S := [fleets]) (checked_updateOne (by decide) (unkeyed (by decide)) _ _)
      (by decide) fun after => ?_)
    refine .after (S := []) (checked_select _) (by decide) fun afterRow => ?_
    exact .write rfl rfl fun _ => .pure _

lemma audits_lockRequest {α : Type} {requestId : ℕ} {next : DeletionRequestRow → Tx DeletionError α}
    (h : ∀ request, Audits operatorId reason (next request)) : Audits operatorId reason (lockRequest requestId next) := by
  refine .read (checked_selectForUpdate _ _) fun request => ?_
  cases request with
  | none => exact .fail _
  | some request => exact h request

lemma setRequestStatus_only (requestId : ℕ) (status : DeletionStatus) (until_ : Option Time) :
    Checked [accountDeletionRequests] (setRequestStatus requestId status until_) :=
  checked_updateOne (by decide) (unkeyed (by decide)) _ _

lemma audits_advanceRequest (requestId : ℕ) (coolingOff : Time) :
    Audits operatorId reason (advanceRequest clock operatorId requestId coolingOff reason correlationId) := by
  refine audits_lockRequest fun request => ?_
  split
  · exact .fail _
  split
  · exact .fail _
  refine .of_records (.after (setRequestStatus_only _ _ _) (by decide) fun updated => ?_)
  exact .write rfl rfl fun _ => .pure _

lemma audits_rejectRequest (requestId : ℕ) :
    Audits operatorId reason (rejectRequest operatorId requestId reason correlationId) := by
  refine audits_lockRequest fun request => ?_
  split
  · exact .fail _
  refine .of_records (.after (setRequestStatus_only _ _ _) (by decide) fun updated => ?_)
  exact .write rfl rfl fun _ => .pure _

lemma audits_executeDeletion (requestId : ℕ) :
    Audits operatorId reason (executeDeletion clock operatorId requestId reason correlationId) := by
  refine audits_lockRequest fun request => ?_
  split
  · exact .fail _
  refine .read (checked_selectOneForUpdate _ _) fun profile => ?_
  refine .read (checked_select _) fun openSubscriptions => ?_
  split
  · exact .fail _
  refine .of_records (.after (freezeCustomer_checked _ _ _ _) (by decide) fun receipt => ?_)
  refine .after (S := [accountDeletionRequests]) (checked_updateOne (by decide) (unkeyed (by decide)) _ _)
    (by decide) fun updated => ?_
  refine .after (S := [outboxEvents]) (writeOutbox_checked (by decide) _ _ _) (by decide) fun _ => ?_
  exact .write rfl rfl fun _ => .pure _

lemma audits_publish (input : PublishInput) : Audits input.operatorId input.reason (publish clock input) := by
  unfold publish
  split
  · exact .fail _
  split
  · exact .fail _
  refine .read (checked_selectForUpdate _ _) fun product => ?_
  cases product with
  | none => exact .fail _
  | some product =>
    refine .read (checked_select _) fun existing => ?_
    cases existing with
    | some row => exact .pure _
    | none =>
      refine .read (checked_select _) fun active => ?_
      cases active with
      | none => exact .fail _
      | some active =>
        dsimp only
        split
        · exact .fail _
        refine .read (checked_select _) fun next => ?_
        refine .of_records (.after (S := [commercialPolicyVersions]) (checked_insertRow (by decide) _)
          (by decide) fun inserted => ?_)
        refine .write rfl rfl fun _ => ?_
        exact .of_checked (S := [outboxEvents]) ((writeOutbox_checked (by decide) _ _ _).bind fun _ => .pure _)
          (by decide)

lemma extending_writeResyncOutbox (changed : Bool) (now : Time) (row : SubscriptionRow) :
    Extending (writeResyncOutbox changed now row) :=
  .of_checked (writeResyncOutbox_checked (S := [outboxEvents]) (by decide) _ _ _) (by decide)

/-- A resync records the projection, and the licence it has changed with it. -/
lemma audits_applyAdminResync (subscriptionId : ℕ) (change : StripeSubscriptionChange) :
    Audits operatorId reason
      (applyAdminResync clock subscriptionId change operatorId reason correlationId) := by
  refine .read (checked_selectForUpdate _ _) fun existing => ?_
  cases existing with
  | none => exact .pure _
  | some existing =>
    refine .read (resolveCustomerId_checked _ _ _) fun customer => ?_
    cases customer with
    | none => exact .fail _
    | some customerId =>
      refine .read (resolvePlanVersionId_checked _ _ _) fun planVersion => ?_
      cases planVersion with
      | none => exact .fail _
      | some planVersionId =>
        refine .of_records (.after (S := [billingAccounts]) (ensureBillingAccount_checked (by decide) _)
          (by decide) fun account => ?_)
        refine .after (S := [stripeCustomers]) (linkStripeCustomer_checked (by decide) _ _) (by decide) fun _ => ?_
        refine .after (S := [subscriptions]) (upsertSubscriptionProjection_checked (by decide) _ _)
          (by decide) fun row => ?_
        refine .write rfl rfl fun _ => ?_
        refine .bind (extending_writeResyncOutbox _ _ _) fun _ => ?_
        refine .bind (.of_checked (S := [licenses]) (syncLicenseForSubscription_checked (by decide) _ _ _ _ _)
          (by decide)) fun sync => ?_
        refine .bind ?_ fun _ => .pure _
        cases sync with
        | none => exact .pure _
        | some sync => exact .writeOperatorAudit _

end Transactions

end ForgeCustomer.OperatorAudits
