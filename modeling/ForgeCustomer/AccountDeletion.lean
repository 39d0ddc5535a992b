import ForgeCustomer.CustomerAccess

/-!
# What an executed deletion leaves behind

The state of a customer after `execute_deletion`, and how later operations can lead out of it.
-/
namespace ForgeCustomer.AccountDeletion
open SqlTables SqlPrograms SqlStatements DomainRules StripeEvents DatabaseTables AuditWriters
  LicensingRepository CustomerRepository AdminRepository PrivacyRepository ServiceOperations
  CustomerAccess TableName

/-- What a deletion leaves of a customer. -/
structure Erased (customerId : ℕ) (d : Database) : Prop where
  profile : ProfileIs customerId (fun r => r.status = .anonymized) d
  emails : ∀ e ∈ d .customerEmails, e.val.customerId ≠ customerId
  licenses : ∀ e ∈ d .licenses, e.val.customerId = customerId → e.val.status = .revoked
  activations : ∀ e ∈ d .licenseActivations, e.val.status = .active →
    ∀ l ∈ d .licenses, l.id = e.val.licenseId → l.val.customerId ≠ customerId

variable {s : DbStore} {customerId : ℕ}

/-- An execution erases the customer. -/
lemma erased_of_executed {now : Time} {requestId : ℕ} {request : DeletionRequestRow} {d d' : Database}
    (h : Executed now requestId request d d') : Erased request.val.customerId d' := by
  obtain ⟨profile, hprofile⟩ := h.profile
  constructor
  · have hset := RowIs.set (q := fun r => r.status = .anonymized) (f := anonymize)
      (profileIs_of_findProfile (q := fun _ => True) hprofile trivial) fun _ _ => rfl
    exact hset.congr (by rw [h.frozen.profiles, Db.put_self])
  · rw [h.frozen.emails]
    intro e he
    simpa using (List.mem_filter.mp he).2
  · rw [h.frozen.licenses]
    intro e he howner
    obtain ⟨e₀, -, rfl⟩ := mem_updateRows.mp he
    split
    · rfl
    · rename_i hp
      rw [if_neg hp] at howner
      by_contra hne
      exact hp (by simp [howner, hne])
  · rw [h.frozen.activations]
    intro e he hactive l hl hid howner
    obtain ⟨e₀, -, rfl⟩ := mem_updateRows.mp he
    split at hactive
    · cases hactive
    · rename_i hp
      rw [if_neg hp] at hid
      refine hp ?_
      rw [holdsSlot, hactive, Bool.and_eq_true]
      exact ⟨rfl, List.any_eq_true.mpr ⟨l, hl, by simp [hid, howner]⟩⟩

/-- A deletion request of the customer has been executed. -/
inductive Deleted (customerId : ℕ) (s s' : DbStore) : Prop
  | intro (clock : Clock) (operatorId : String) (requestId : ℕ) (reason : String)
      (correlationId : Option String) (request row : DeletionRequestRow)
      (found : findRequest requestId s.db = some request) (owner : request.val.customerId = customerId)
      (done : (executeDeletion clock operatorId requestId reason correlationId).execute s = (.ok row, s'))

theorem Deleted.erased {s' : DbStore} (hs : Stored s) (h : Deleted customerId s s') :
    Stored s' ∧ Erased customerId s'.db := by
  obtain ⟨clock, operatorId, requestId, reason, correlationId, request, row, hfound, rfl, hdone⟩ := h
  have hstored : Stored s' := by
    have := hs.execute (executeDeletion_checked clock operatorId requestId reason correlationId)
    rwa [hdone] at this
  obtain ⟨found, hexecuted⟩ := executeDeletion_executed clock operatorId requestId reason correlationId _ _
    (Prog.run_of_execute_ok hdone)
  obtain rfl : found = request := by simpa [hexecuted.found] using hfound
  exact ⟨hstored, erased_of_executed hexecuted⟩

/-- An operator suspends or restores the customer. -/
def ChangesStatus (customerId : ℕ) : Operation → Prop
  | .suspend _ _ target _ _ => target = customerId
  | .restore _ _ target _ _ => target = customerId
  | _ => False

/-- Anonymized, and every request is rejected. -/
def Closed (customerId : ℕ) (s : DbStore) : Prop :=
  ProfileIs customerId (fun r => r.status = .anonymized) s.db ∧
    ∀ clock authUserId aal, (customerContext authUserId aal s.db).customerId = some customerId →
      ∃ e, (customerContext authUserId aal s.db).requireActive clock = .error e

lemma closed_iff (hs : Stored s) :
    Closed customerId s ↔ ProfileIs customerId (fun r => r.status = .anonymized) s.db := by
  refine ⟨fun h => h.1, fun h => ⟨h, fun clock authUserId aal hid => ?_⟩⟩
  obtain ⟨e, he, hid, hctx⟩ := customerContext_eq hid
  rw [hctx, requireActive_error_iff, h.of_mem hs.keyed he hid]
  exact .inl rfl

/-- A change of status succeeds for every stored customer. -/
lemma runs_setCustomerStatus (clock : Clock) (operatorId : String)
    (hprofile : ProfileIs customerId (fun _ => True) s.db) (toStatus : CustomerStatus)
    (eventType reason : String) (correlationId : Option String) :
    (setCustomerStatus clock operatorId customerId toStatus eventType reason correlationId).Runs s
      fun _ s' => ProfileIs customerId (fun r => r.status = toStatus) s'.db := by
  obtain ⟨profile, hfind⟩ := exists_findProfile hprofile
  refine Prog.Runs.step (run_selectForUpdate _ _ _) ?_
  rw [hfind]
  dsimp only
  split
  · rename_i hsame
    exact .pure (profileIs_of_findProfile hfind hsame)
  have hnone : ∀ e ∈ s.db customerProfiles, (e.id == customerId) = true →
      s.db.updateRefusal customerProfiles e.val { e.val with status := toStatus } = none :=
    fun e _ _ => Db.updateRefusal_of_same rfl rfl
  refine Prog.Runs.step (run_update hnone) ?_
  set s₁ : DbStore := ⟨s.db.put customerProfiles (updateRows (fun e => e.id == customerId)
    (fun r => { r with status := toStatus }) (s.db customerProfiles)), s.seq + 1 + 1⟩
  have hset : ProfileIs customerId (fun r => r.status = toStatus) s₁.db := hprofile.set fun _ _ => rfl
  have keep : ∀ {s' s'' : DbStore} {S : List TableName}, customerProfiles ∉ S →
      (∀ t, t ∉ S → s''.db t = s'.db t) → ProfileIs customerId (fun r => r.status = toStatus) s'.db →
      ProfileIs customerId (fun r => r.status = toStatus) s''.db := fun ht h hq => hq.congr (h _ ht)
  refine Prog.Runs.bind (Prog.Runs.and_ensures (runs_insertRow rfl rfl ?_)
    (checked_insertRow (S := [customerStatusHistory]) (by decide) _).ensures_frame) fun _ s₂ h₂ => ?_
  · simpa [Db.refsOk, Schema.refs, foreignKeys, Db.resolves] using hset.has
  have hset₂ := keep (by decide) h₂.2 hset
  refine Prog.Runs.bind (Prog.Runs.and_ensures (runs_writeOperatorAudit ?_)
    (writeOperatorAudit_checked (S := [commercialAuditEvents]) (by decide) _).ensures_frame)
    fun _ s₃ h₃ => ?_
  · simpa using hset₂.has
  have hset₃ := keep (by decide) h₃.2 hset₂
  refine Prog.Runs.bind (Prog.Runs.and_ensures (runs_writeOutbox _ _ _)
    (writeOutbox_checked (S := [outboxEvents]) (by decide) _ _ _).ensures_frame) fun _ s₄ h₄ => ?_
  exact .pure (keep (by decide) h₄.2 hset₃)

/-- Suspending or restoring a customer gives it the status. -/
lemma after_setCustomerStatus (clock : Clock) (operatorId : String)
    (hprofile : ProfileIs customerId (fun _ => True) s.db) (toStatus : CustomerStatus)
    (eventType reason : String) (correlationId : Option String) :
    ProfileIs customerId (fun r => r.status = toStatus)
      (after (setCustomerStatus clock operatorId customerId toStatus eventType reason correlationId)
        s).db := by
  obtain ⟨a, s', h, hq⟩ := (runs_setCustomerStatus clock operatorId hprofile toStatus eventType reason
    correlationId).execute
  rwa [after, h]

/-- One operation leaves the customer anonymized exactly if it does not change its status. -/
lemma apply_closed_iff (hs : Stored s) (h : Closed customerId s) (op : Operation) :
    Closed customerId (op.apply s) ↔ ¬ChangesStatus customerId op := by
  have hs' : Stored (op.apply s) := (op.apply_follows s).stored hs
  have hprofile : ProfileIs customerId (fun _ => True) s.db := RowIs.mono h.1 fun _ _ => trivial
  rw [closed_iff hs']
  by_cases hchange : ChangesStatus customerId op
  · refine iff_of_false (fun hclosed => ?_) fun hnot => hnot hchange
    have hother : ∃ status, status ≠ .anonymized ∧
        ProfileIs customerId (fun r => r.status = status) (op.apply s).db := by
      cases op with
      | suspend clock operatorId target reason correlationId =>
        obtain rfl : target = customerId := hchange
        exact ⟨.suspended, by decide, after_setCustomerStatus _ _ hprofile _ _ _ _⟩
      | restore clock operatorId target reason correlationId =>
        obtain rfl : target = customerId := hchange
        exact ⟨.active, by decide, after_setCustomerStatus _ _ hprofile _ _ _ _⟩
      | _ => exact hchange.elim
    obtain ⟨status, hne, e, he, hid, hstatus⟩ := hother
    exact hne (hstatus.symm.trans (hclosed.of_mem hs'.keyed he hid))
  · refine iff_of_true (apply_profileIs hs h.1 fun f hf r hr => ?_) hchange
    cases hf with
    | suspend => exact absurd rfl hchange
    | restore => exact absurd rfl hchange
    | requireMfa => exact hr
    | mfaStatus => exact hr
    | executeDeletion => rfl

/-- After its deletion a customer stays anonymized, and its requests rejected, exactly as long as no
operator suspends or restores it. -/
theorem anonymized_terminal_iff {s₀ : DbStore} (hs : Stored s₀) (h : Deleted customerId s₀ s)
    (ops : List Operation) :
    EachState (Closed customerId) ops s ↔
      EachStep (fun op _ => ¬ChangesStatus customerId op) ops s := by
  obtain ⟨hstored, herased⟩ := h.erased hs
  refine eachState_iff (I := fun s => Stored s) (Q := fun _ _ => True)
    (fun op s h => (op.apply_follows s).stored h) (fun op s hs h _ => apply_closed_iff hs h op) hstored
    ((closed_iff hstored).mpr herased.profile) ?_
  exact eachStep_true ops s

/-- The fresh account after its deletion request has gone all the way to `processing`. -/
def processingStore : DbStore :=
  runAll [.customer ⟨1, 1⟩ 100 none (.requestDeletion none none),
    .advanceDeletion ⟨2, 2⟩ "op" 7 0 "verified" none, .advanceDeletion ⟨3, 3⟩ "op" 7 0 "cooling off" none,
    .advanceDeletion ⟨4, 4⟩ "op" 7 0 "processing" none] freshAccount

def deletedStore : DbStore :=
  (Operation.executeDeletion ⟨5, 5⟩ "op" 7 "execute" none).apply processingStore

lemma processingStore_stored : Stored processingStore := runAll_stored freshAccount_stored _

lemma deletedStore_deleted : Deleted freshCustomer processingStore deletedStore := by
  have hfound : ∃ request, findRequest 7 processingStore.db = some request ∧
      request.val.customerId = freshCustomer := ⟨_, rfl, rfl⟩
  obtain ⟨request, hfound, howner⟩ := hfound
  obtain ⟨row, hexec⟩ := Prog.exists_execute_ok
    (p := executeDeletion ⟨5, 5⟩ "op" 7 "execute" none) (s := processingStore) (by decide)
  exact .intro ⟨5, 5⟩ "op" 7 "execute" none request row hfound howner hexec

def restoreOperation : Operation := .restore ⟨6, 6⟩ "op" freshCustomer "ticket" none

/-- An operator can make a deleted account active again, and its requests pass. -/
theorem anonymized_restored : Stored processingStore ∧
    Deleted freshCustomer processingStore deletedStore ∧
    ¬EachState (Closed freshCustomer) [restoreOperation] deletedStore ∧
    (customerContext 100 (some "aal2") (restoreOperation.apply deletedStore).db).requireActive ⟨7, 7⟩ =
      .ok freshCustomer := by
  refine ⟨processingStore_stored, deletedStore_deleted, fun h => ?_, by rfl⟩
  obtain ⟨e, he⟩ := h.2.2 ⟨7, 7⟩ 100 (some "aal2") (by decide)
  have hok : (customerContext 100 (some "aal2") (restoreOperation.apply deletedStore).db).requireActive
      ⟨7, 7⟩ = .ok freshCustomer := by rfl
  rw [hok] at he
  cases he

theorem anonymized_terminal_iff_fresh :
    EachState (Closed freshCustomer) [restoreOperation] deletedStore ↔
      EachStep (fun op _ => ¬ChangesStatus freshCustomer op) [restoreOperation] deletedStore :=
  anonymized_terminal_iff processingStore_stored deletedStore_deleted _

end ForgeCustomer.AccountDeletion
