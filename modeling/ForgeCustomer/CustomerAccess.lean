import ForgeCustomer.ServiceOperations

/-!
# Access of customers along a run

What later operations can do to a customer's profile, and what `require_active` answers.
-/
namespace ForgeCustomer.CustomerAccess
open SqlTables SqlPrograms SqlStatements DomainRules StripeEvents DatabaseTables AuditWriters
  CustomerRepository AdminRepository PrivacyRepository ServiceOperations TableName

/-- The stored profile of the customer satisfies `q`. -/
def ProfileIs (customerId : ℕ) (q : CustomerProfile → Prop) (d : Database) : Prop :=
  RowIs customerProfiles customerId q d

variable {s : DbStore} {customerId : ℕ} {q : CustomerProfile → Prop} {ε : Type} [FromSql ε]

lemma exists_findProfile {d : Database} (h : ProfileIs customerId q d) :
    ∃ e, findProfile customerId d = some e := by
  obtain ⟨e, he, hid, -⟩ := h
  cases hfind : findProfile customerId d with
  | none => exact absurd (List.find?_eq_none.mp hfind e he) (by simp [hid])
  | some e => exact ⟨e, rfl⟩

lemma provision_maintains (clock : Clock) (input : ProvisionInput) :
    (provisionForAuthUser clock input : Tx ε _).Maintains (ProfileIs customerId q) := by
  have rest : ∀ {α : Type} {p : Tx ε α} {S : List TableName}, Checked S p → customerProfiles ∉ S →
      p.Maintains (ProfileIs customerId q) := fun hp ht =>
    maintains_rowIs_of_checked hp ht
  have hprofile : (ensureProfile clock input : Tx ε _).Maintains (ProfileIs customerId q) := by
    refine (maintains_insertUnless_rowIs _).bind fun inserted => ?_
    cases inserted with
    | none => exact (maintains_selectOne _).bind fun _ => .pure _ _
    | some profile =>
      refine Prog.Maintains.bind (rest (checked_insertRow (S := [customerStatusHistory]) (by decide) _)
        (by decide)) fun _ => ?_
      exact Prog.Maintains.bind (rest (writeOutbox_checked (S := [outboxEvents]) (by decide) _ _ _)
        (by decide)) fun _ => .pure _ _
  refine hprofile.bind fun profile => (maintains_select _).bind fun channel => ?_
  refine Prog.Maintains.bind (rest (LicensingRepository.ensureDefaultFleet_checked (S := [fleets])
    (by decide) _ _ _) (by decide)) fun fleet => (maintains_select _).bind fun product => ?_
  refine Prog.Maintains.bind ?_ fun _ => Prog.Maintains.bind ?_ fun _ => .pure _ _
  · cases product with
    | none => exact .pure _ _
    | some productId => exact rest (LicensingRepository.ensureFleetApplication_checked
        (S := [fleetApplications]) (by decide) _ _ _) (by decide)
  · cases input.email with
    | none => exact .pure _ _
    | some email =>
      exact Prog.Maintains.bind (rest (checked_insertUnless (S := [customerEmails]) (by decide) _)
        (by decide)) fun _ => .pure _ _

/-- Every later statement of an operator's change of a profile. -/
lemma setCustomerStatus_maintains (clock : Clock) (operatorId : String) {target : ℕ}
    (toStatus : CustomerStatus) (eventType reason : String) (correlationId : Option String)
    (h : target = customerId → ∀ r, q r → q { r with status := toStatus }) :
    (setCustomerStatus clock operatorId target toStatus eventType reason correlationId).Maintains
      (ProfileIs customerId q) := by
  refine (maintains_selectForUpdate _).bind fun profile => ?_
  cases profile with
  | none => exact .fail _ _
  | some profile =>
    dsimp only
    split
    · exact .pure _ _
    refine Prog.Maintains.bind (maintains_update_rowIs ?_) fun _ => ?_
    · intro e hid hp hr
      exact h ((beq_iff_eq.mp hp).symm.trans hid) _ hr
    refine maintains_rowIs_of_checked (S := [customerStatusHistory, commercialAuditEvents, outboxEvents]) ?_
      (by decide)
    refine (checked_insertRow (by decide) _).bind fun _ => ?_
    refine (writeOperatorAudit_checked (by decide) _).bind fun _ => ?_
    exact (writeOutbox_checked (by decide) _ _ _).bind fun _ => .pure _

lemma setCustomerMfaRequirement_maintains (clock : Clock) (operatorId : String) {target : ℕ}
    (required : Bool) (reason : String) (correlationId : Option String)
    (h : target = customerId → ∀ r, q r → q { r with mfaRequired := required }) :
    (setCustomerMfaRequirement clock operatorId target required reason correlationId).Maintains
      (ProfileIs customerId q) := by
  refine (maintains_selectForUpdate _).bind fun profile => ?_
  cases profile with
  | none => exact .fail _ _
  | some profile =>
    dsimp only
    split
    · exact .pure _ _
    refine Prog.Maintains.bind (maintains_update_rowIs ?_) fun _ => ?_
    · intro e hid hp hr
      exact h ((beq_iff_eq.mp hp).symm.trans hid) _ hr
    refine maintains_rowIs_of_checked (S := [customerMfaHistory, commercialAuditEvents, outboxEvents]) ?_
      (by decide)
    refine (checked_insertRow (by decide) _).bind fun _ => ?_
    refine (writeOperatorAudit_checked (by decide) _).bind fun _ => ?_
    exact (writeOutbox_checked (by decide) _ _ _).bind fun _ => .pure _

lemma setMfaRequired_maintains {target : ℕ} (required : Bool)
    (h : target = customerId → ∀ r, q r → q { r with mfaRequired := required }) :
    (setMfaRequired target required : Tx ε Unit).Maintains (ProfileIs customerId q) := by
  refine Prog.Maintains.bind (maintains_update_rowIs ?_) fun _ => .pure _ _
  intro e hid hp hr
  exact h ((beq_iff_eq.mp hp).symm.trans hid) _ hr

/-- The profile that a customer's request is resolved to. -/
lemma customerContext_eq {authUserId : ℕ} {aal : Option String}
    (h : (customerContext authUserId aal s.db).customerId = some customerId) :
    ∃ e ∈ s.db .customerProfiles, e.id = customerId ∧ customerContext authUserId aal s.db =
      ⟨some customerId, some e.val.status, aal, e.val.mfaRequired, e.val.mfaGracePeriodEndsAt⟩ := by
  unfold customerContext at h ⊢
  split at h
  · rename_i e he
    have hid : e.id = customerId := by simpa using h
    refine ⟨e, List.mem_of_find?_eq_some he, hid, ?_⟩
    rw [hid]
  · cases h

/-- Neither suspended nor closed. -/
def CustomerStatus.usable : CustomerStatus → Bool
  | .pending | .active => true
  | _ => false

/-- The grace period of a profile is still running. -/
def inGrace (clock : Clock) (deadline : Option Time) : Bool := deadline.any fun t => clock.utcNow < t

lemma requireActive_error_iff {clock : Clock} {status : CustomerStatus} {aal : Option String}
    {required : Bool} {deadline : Option Time} :
    (∃ e, CustomerContext.requireActive clock ⟨some customerId, some status, aal, required, deadline⟩ =
      .error e) ↔ CustomerStatus.usable status = false ∨
        (required = true ∧ aal ≠ some "aal2" ∧ inGrace clock deadline = false) := by
  have hgrace : ∀ ctx : CustomerContext, ctx.mfaGraceActive clock =
      inGrace clock ctx.mfaGracePeriodEndsAt := fun _ => rfl
  cases status <;> cases required <;> by_cases haal : aal = some "aal2" <;>
    cases hdeadline : inGrace clock deadline <;>
    simp [CustomerContext.requireActive, CustomerContext.isSuspended, CustomerStatus.usable,
      CustomerContext.requireAal2, CustomerContext.isAal2, hgrace, haal, hdeadline, Except.map]

/-- A rejected request changes nothing. -/
def Rejected : Operation → DbStore → Prop
  | .customer clock authUserId aal _, s =>
    ∃ e, (customerContext authUserId aal s.db).requireActive clock = .error e
  | _, _ => False

/-- The changes that an operation may make to the profile of a customer. -/
inductive Rewrites (customerId : ℕ) : Operation → DbStore → (CustomerProfile → CustomerProfile) → Prop
  | suspend (clock : Clock) (operatorId reason : String) (correlationId : Option String) (s : DbStore) :
      Rewrites customerId (.suspend clock operatorId customerId reason correlationId) s
        fun r => { r with status := .suspended }
  | restore (clock : Clock) (operatorId reason : String) (correlationId : Option String) (s : DbStore) :
      Rewrites customerId (.restore clock operatorId customerId reason correlationId) s
        fun r => { r with status := .active }
  | requireMfa (clock : Clock) (operatorId : String) (required : Bool) (reason : String)
      (correlationId : Option String) (s : DbStore) :
      Rewrites customerId (.requireMfa clock operatorId customerId required reason correlationId) s
        fun r => { r with mfaRequired := required }
  | mfaStatus (clock : Clock) (authUserId : ℕ) (aal : Option String) (enabled : Bool) (s : DbStore)
      (active : (customerContext authUserId aal s.db).requireActive clock = .ok customerId)
      (stepped : (customerContext authUserId aal s.db).requireAal2 = .ok ()) :
      Rewrites customerId (.customer clock authUserId aal (.mfaStatus enabled)) s
        fun r => { r with mfaRequired := enabled }
  | executeDeletion (clock : Clock) (operatorId : String) (requestId : ℕ) (reason : String)
      (correlationId : Option String) (s : DbStore) :
      Rewrites customerId (.executeDeletion clock operatorId requestId reason correlationId) s anonymize

/-- What no such change breaks stays true of the profile. -/
theorem apply_profileIs (hs : Stored s) (hq : ProfileIs customerId q s.db) {op : Operation}
    (h : ∀ f, Rewrites customerId op s f → ∀ r, q r → q (f r)) :
    ProfileIs customerId q (op.apply s).db := by
  have hframe : customerProfiles ∉ op.tables → ProfileIs customerId q (op.apply s).db := fun ht =>
    hq.congr ((op.apply_follows s).table ht)
  cases op with
  | provision clock input => exact (provision_maintains clock input).execute hs.keyed hq
  | suspend clock operatorId target reason correlationId =>
    refine (setCustomerStatus_maintains clock operatorId _ _ _ _ ?_).execute hs.keyed hq
    rintro rfl
    exact h _ (.suspend _ _ _ _ _)
  | restore clock operatorId target reason correlationId =>
    refine (setCustomerStatus_maintains clock operatorId _ _ _ _ ?_).execute hs.keyed hq
    rintro rfl
    exact h _ (.restore _ _ _ _ _)
  | requireMfa clock operatorId target required reason correlationId =>
    refine (setCustomerMfaRequirement_maintains clock operatorId required reason correlationId ?_).execute
      hs.keyed hq
    rintro rfl
    exact h _ (.requireMfa _ _ _ _ _ _)
  | executeDeletion clock operatorId requestId reason correlationId =>
    refine after_ensures ((executeDeletion_executed clock operatorId requestId reason correlationId).mono
      fun _ s' hdone => ?_) fun s' hdb => hq.congr (by rw [hdb])
    obtain ⟨request, hdone⟩ := hdone
    have hrewrite := h _ (.executeDeletion clock operatorId requestId reason correlationId s)
    exact (RowIs.update hq fun e _ _ hr => hrewrite e.val hr).congr (by rw [hdone.frozen.profiles, Db.put_self])
  | customer clock authUserId aal request =>
    cases request with
    | mfaStatus enabled =>
      unfold Operation.apply
      dsimp only
      split
      · rename_i target hactive
        unfold CustomerRequest.apply
        dsimp only
        split
        · rename_i hstepped
          refine (setMfaRequired_maintains enabled ?_).execute hs.keyed hq
          rintro rfl
          exact h _ (.mfaStatus _ _ _ _ _ hactive hstepped)
        · exact hq
      · exact hq
    | _ =>
      refine hframe ?_
      dsimp only [Operation.tables, CustomerRequest.tables]
      decide
  | _ =>
    refine hframe ?_
    dsimp only [Operation.tables]
    decide

/-- Someone has required a second factor of the customer: an operator, or the customer. -/
inductive MfaRequired (customerId : ℕ) (s s' : DbStore) : Prop
  | operator (clock : Clock) (operatorId reason : String) (correlationId : Option String)
      (outcome : MfaRequirementOutcome)
      (done : (setCustomerMfaRequirement clock operatorId customerId true reason correlationId).execute s =
        (.ok outcome, s'))
  | selfService (clock : Clock) (authUserId : ℕ) (aal : Option String)
      (active : (customerContext authUserId aal s.db).requireActive clock = .ok customerId)
      (stepped : (customerContext authUserId aal s.db).requireAal2 = .ok ())
      (done : (setMfaRequired customerId true : Tx SqlError Unit).execute s = (.ok (), s'))

/-- The operation clears the requirement. -/
def ClearsMfa (customerId : ℕ) (op : Operation) (s : DbStore) : Prop :=
  ∃ f, Rewrites customerId op s f ∧ ∃ r, r.mfaRequired = true ∧ (f r).mfaRequired = false

/-- A request of the customer with a token below aal2. -/
def FirstFactor (customerId : ℕ) : Operation → DbStore → Prop
  | .customer _ authUserId aal _, s =>
    (customerContext authUserId aal s.db).customerId = some customerId ∧ aal ≠ some "aal2"
  | _, _ => False

/-- The request comes from a usable account whose grace period is still running. -/
def GraceOpen (customerId : ℕ) : Operation → DbStore → Prop
  | .customer clock _ _ _, s => ProfileIs customerId (fun r => CustomerStatus.usable r.status = true ∧
      inGrace clock r.mfaGracePeriodEndsAt = true) s.db
  | _, _ => False

lemma profileIs_of_findProfile {d : Database} {e : Entry CustomerProfile}
    (h : findProfile customerId d = some e) (hq : q e.val) : ProfileIs customerId q d :=
  ⟨e, List.mem_of_find?_eq_some h, by simpa using List.find?_some h, hq⟩

lemma MfaRequired.profile {s' : DbStore} (hs : Stored s) (h : MfaRequired customerId s s') :
    Stored s' ∧ ProfileIs customerId (fun r => r.mfaRequired = true) s'.db := by
  cases h with
  | selfService clock authUserId aal hactive hstepped hdone =>
    have hstored : Stored s' := by
      have := hs.execute (setMfaRequired_checked (ε := SqlError) customerId true)
      rwa [hdone] at this
    refine ⟨hstored, ?_⟩
    have hprofile : ProfileIs customerId (fun _ => True) s.db := by
      have hid : (customerContext authUserId aal s.db).customerId = some customerId := by
        unfold CustomerContext.requireActive at hactive
        split at hactive
        · cases hactive
        · rename_i id hid
          rw [hid]
          split_ifs at hactive
          · cases haal : (customerContext authUserId aal s.db).requireAal2 <;>
              simp [haal, Except.map] at hactive
            rw [hactive]
          · cases hactive
            rfl
      obtain ⟨e, he, hid, -⟩ := customerContext_eq hid
      exact ⟨e, he, hid, trivial⟩
    have hset : (setMfaRequired customerId true : Tx SqlError Unit).Ensures s fun _ s' =>
        ProfileIs customerId (fun r => r.mfaRequired = true) s'.db := by
      refine ensures_update.bind fun rows s₁ h₁ => .pure ?_
      rw [h₁.2]
      exact hprofile.set fun _ _ => rfl
    exact hset _ _ (Prog.run_of_execute_ok hdone)
  | operator clock operatorId reason correlationId outcome hdone =>
    have hstored : Stored s' := by
      have := hs.execute (setCustomerMfaRequirement_checked clock operatorId customerId true reason
        correlationId)
      rwa [hdone] at this
    refine ⟨hstored, ?_⟩
    have hset : (setCustomerMfaRequirement clock operatorId customerId true reason
        correlationId).Ensures s fun _ s' =>
          ProfileIs customerId (fun r => r.mfaRequired = true) s'.db := by
      refine ensures_selectForUpdate.bind fun profile s₀ h₀ => ?_
      obtain ⟨hprofile, rfl⟩ := h₀
      cases profile with
      | none => exact .fail
      | some profile =>
        dsimp only
        split
        · rename_i hsame
          exact .pure (profileIs_of_findProfile hprofile.symm hsame)
        refine ensures_update.bind fun rows s₁ h₁ => ?_
        have hset : ProfileIs customerId (fun r => r.mfaRequired = true) s₁.db := by
          rw [h₁.2]
          have hstored : ProfileIs customerId (fun _ => True) s.db :=
            profileIs_of_findProfile hprofile.symm trivial
          exact hstored.set fun _ _ => rfl
        have hrest : ∀ {α : Type} {p : Tx AdminError α}, Checked [customerMfaHistory,
            commercialAuditEvents, outboxEvents] p → p.Ensures s₁ fun _ s' =>
              ProfileIs customerId (fun r => r.mfaRequired = true) s'.db := fun hp a s₂ hr =>
          hset.congr (hp.touches.run_eq hr (by decide))
        refine hrest ?_
        refine (checked_insertRow (by decide) _).bind fun _ => ?_
        refine (writeOperatorAudit_checked (by decide) _).bind fun _ => ?_
        exact (writeOutbox_checked (by decide) _ _ _).bind fun _ => .pure _
    exact hset _ _ (Prog.run_of_execute_ok hdone)

lemma apply_mfaRequired (hs : Stored s) (hq : ProfileIs customerId (fun r => r.mfaRequired = true) s.db)
    {op : Operation} (h : ¬ClearsMfa customerId op s) :
    ProfileIs customerId (fun r => r.mfaRequired = true) (op.apply s).db := by
  refine apply_profileIs hs hq fun f hf r hr => ?_
  by_contra hclear
  exact h ⟨f, hf, r, hr, (Bool.not_eq_true _).mp hclear⟩

/-- One request: it is rejected unless the grace period runs. -/
lemma firstFactor_rejected_iff (hs : Stored s)
    (hq : ProfileIs customerId (fun r => r.mfaRequired = true) s.db) {op : Operation}
    (h : FirstFactor customerId op s) : Rejected op s ↔ ¬GraceOpen customerId op s := by
  cases op with
  | customer clock authUserId aal request =>
    obtain ⟨hid, haal⟩ := h
    obtain ⟨e, he, hid, hctx⟩ := customerContext_eq hid
    have hrequired := hq.of_mem hs.keyed he hid
    have hgrace : GraceOpen customerId (.customer clock authUserId aal request) s ↔
        CustomerStatus.usable e.val.status = true ∧ inGrace clock e.val.mfaGracePeriodEndsAt = true := by
      rw [GraceOpen, ProfileIs, rowIs_iff hs.keyed he hid]
    rw [hgrace, Rejected, hctx, requireActive_error_iff, hrequired]
    cases CustomerStatus.usable e.val.status <;> simp [haal]
  | _ => exact h.elim

/-- Once a second factor is required, and until that is cleared, a request below aal2 is rejected
exactly if the account is not usable or has no grace period running. -/
theorem mfa_enforced_iff {s₀ : DbStore} (hs : Stored s₀) (hreq : MfaRequired customerId s₀ s)
    {ops : List Operation} (hops : EachStep (fun op s => ¬ClearsMfa customerId op s) ops s) :
    EachStep (fun op s => FirstFactor customerId op s → Rejected op s) ops s ↔
      EachStep (fun op s => FirstFactor customerId op s → ¬GraceOpen customerId op s) ops s := by
  obtain ⟨hstored, hq⟩ := hreq.profile hs
  refine eachStep_congr
    (I := fun s => Stored s ∧ ProfileIs customerId (fun r => r.mfaRequired = true) s.db) ?_ ?_
    ⟨hstored, hq⟩ hops
  · exact fun op s h hclear => ⟨(op.apply_follows s).stored h.1, apply_mfaRequired h.1 h.2 hclear⟩
  · exact fun op s h => imp_congr_right fun hfirst => firstFactor_rejected_iff h.1 h.2 hfirst

/-- A freshly provisioned account. -/
def freshAccount : DbStore :=
  (Operation.provision ⟨0, 0⟩ ⟨100, none, none, none, none⟩).apply ⟨Db.empty Row, 0⟩

lemma freshAccount_stored : Stored freshAccount := (Operation.apply_follows _ _).stored stored_empty

/-- Its key: the first one handed out. -/
def freshCustomer : ℕ := 0

/-- An operator requires the second factor of the fresh account. -/
def requiredStore : DbStore :=
  (Operation.requireMfa ⟨1, 1⟩ "op" freshCustomer true "incident" none).apply freshAccount

def firstFactorRequest : Operation := .customer ⟨2, 2⟩ 100 (some "aal1") (.requestDeletion none none)

lemma requiredStore_required : MfaRequired freshCustomer freshAccount requiredStore := by
  have h : ∃ outcome, (setCustomerMfaRequirement ⟨1, 1⟩ "op" freshCustomer true "incident" none).execute
      freshAccount = (.ok outcome, requiredStore) := ⟨⟨0, true, true, false⟩, by rfl⟩
  obtain ⟨outcome, h⟩ := h
  exact .operator _ _ _ _ _ h

/-- The requirement is not enforced on a request below aal2 during the grace period. -/
theorem mfa_not_enforced : Stored freshAccount ∧ MfaRequired freshCustomer freshAccount requiredStore ∧
    FirstFactor freshCustomer firstFactorRequest requiredStore ∧
    ¬Rejected firstFactorRequest requiredStore := by
  refine ⟨freshAccount_stored, requiredStore_required, ⟨by decide, by decide⟩, ?_⟩
  rintro ⟨e, he⟩
  have hok : (customerContext 100 (some "aal1") requiredStore.db).requireActive ⟨2, 2⟩ =
      .ok freshCustomer := by rfl
  rw [hok] at he
  cases he

theorem mfa_enforced_iff_fresh :
    EachStep (fun op s => FirstFactor freshCustomer op s → Rejected op s) [firstFactorRequest]
        requiredStore ↔
      EachStep (fun op s => FirstFactor freshCustomer op s → ¬GraceOpen freshCustomer op s)
        [firstFactorRequest] requiredStore := by
  refine mfa_enforced_iff freshAccount_stored requiredStore_required ⟨?_, trivial⟩
  rintro ⟨f, hf, -⟩
  cases hf

end ForgeCustomer.CustomerAccess
