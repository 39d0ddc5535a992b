import ForgeCustomer.AccountDeletion
import ForgeCustomer.LicenseRuns

/-!
# After a deletion

Requests of the deleted customer are rejected. Provisioning and the events of Stripe are not requests.
-/
namespace ForgeCustomer.DeletionRuns
open SqlTables SqlPrograms SqlStatements DomainRules StripeEvents DatabaseTables AuditWriters
  LicensingRepository CommerceRepository LicenseSync CustomerRepository AdminRepository PrivacyRepository
  ServiceOperations CustomerAccess AccountDeletion LicenseChanges LicenseRuns TableName

variable {s : DbStore} {customerId : ℕ}

/-- The customer has no e-mail address, no active license and no active activation. -/
structure NothingGranted (customerId : ℕ) (d : Database) : Prop where
  emails : ∀ e ∈ d .customerEmails, e.val.customerId ≠ customerId
  licenses : ∀ e ∈ d .licenses, e.val.customerId = customerId → e.val.status ≠ .active
  activations : ∀ e ∈ d .licenseActivations, e.val.status = .active →
    ∀ l ∈ d .licenses, l.id = e.val.licenseId → l.val.customerId ≠ customerId

lemma nothingGranted_of_erased {d : Database} (h : Erased customerId d) : NothingGranted customerId d := by
  refine ⟨h.emails, fun e he hc hactive => ?_, h.activations⟩
  have hrevoked := h.licenses e he hc
  rw [hactive] at hrevoked
  cases hrevoked

/-- An operator changes the customer's status or issues it a license. -/
def ByOperator (customerId : ℕ) (op : Operation) : Prop :=
  ChangesStatus customerId op ∨ ∃ clock input, op = .issueLicense clock input ∧ input.customerId = customerId

/-- Provisioning with an e-mail address for the login of the customer, or a sync with a granting status
for a subscription of the customer that has no license. -/
def Regrants (customerId : ℕ) (op : Operation) (s : DbStore) : Prop :=
  (∃ clock input, op = .provision clock input ∧ input.email.isSome ∧ input.countryCode.all countryCodeOk ∧
    ∃ e ∈ s.db .customerProfiles, e.id = customerId ∧ e.val.authUserId = input.authUserId) ∨
  ∃ status i, SyncSource op s status customerId i ∧ status.grantsCloud = true ∧
    linkedLicense customerId i s.db = none

/-- No e-mail address of the customer is stored. -/
def NoEmails (customerId : ℕ) (d : Database) : Prop := ∀ e ∈ d .customerEmails, e.val.customerId ≠ customerId

section Emails
variable {ε : Type} [FromSql ε]

/-- The profile that provisioning answers is new or the one of the login. -/
lemma ensures_ensureProfile (clock : Clock) (input : ProvisionInput) :
    (ensureProfile clock input : Tx ε _).Ensures s fun answer _ =>
      input.countryCode.all countryCodeOk = true ∧ (answer.1.id = s.seq ∨
        answer.1 ∈ s.db customerProfiles ∧ answer.1.val.authUserId = input.authUserId) := by
  have hinsert : (insertUnless customerProfiles (newProfile clock input) : Tx ε _).Ensures s fun e s' =>
      input.countryCode.all countryCodeOk = true ∧ (∀ p, e = some p → p.id = s.seq) ∧
        (e = none → s'.db = s.db) := by
    refine ensures_statement fun c a hat => ?_
    unfold tryInsertUnless at hat
    split_ifs at hat with hcheck htaken hrefs <;> cases hat
    · exact ⟨by simpa [Schema.check, checkRow, newProfile] using hcheck, fun _ h => (by cases h), fun _ => rfl⟩
    · refine ⟨by simpa [Schema.check, checkRow, newProfile] using hcheck, fun p hp => ?_, fun h => (by cases h)⟩
      cases hp
      rfl
  refine hinsert.bind fun inserted s₁ h₁ => ?_
  obtain ⟨hcountry, hnew, hsame⟩ := h₁
  cases inserted with
  | some profile =>
    refine Prog.Ensures.bind (checked_insertRow (S := [customerStatusHistory]) (by decide) _).ensures_frame
      fun _ s₂ _ => ?_
    refine Prog.Ensures.bind (writeOutbox_checked (S := [outboxEvents]) (by decide) _ _ _).ensures_frame
      fun _ s₃ _ => .pure ?_
    exact ⟨hcountry, .inl (hnew profile rfl)⟩
  | none =>
    have hfind : (selectOne (fun d => (d .customerProfiles).find? (isAuthUser input.authUserId)) :
        Tx ε _).Ensures s₁ fun e _ => e ∈ s.db customerProfiles ∧ e.val.authUserId = input.authUserId := by
      refine ensures_statement fun c a hat => ?_
      split at hat <;> cases hat
      rename_i hfound
      rw [Store.env, hsame rfl] at hfound
      exact ⟨List.mem_of_find?_eq_some hfound, by simpa [isAuthUser] using List.find?_some hfound⟩
    exact hfind.bind fun profile s₂ h => .pure ⟨hcountry, .inr h⟩

/-- Provisioning that is not for the login of the customer, or without an address, adds none. -/
lemma ensures_provision_noEmails (hs : Stored s) (hprofile : ProfileIs customerId (fun _ => True) s.db)
    (h : NoEmails customerId s.db) (clock : Clock) (input : ProvisionInput)
    (hnot : ¬Regrants customerId (.provision clock input) s) :
    (provisionForAuthUser clock input : Tx ε _).Ensures s fun _ s' => NoEmails customerId s'.db := by
  have hframe : ∀ {α : Type} {S : List TableName} {p : Tx ε α} {z : DbStore}, Checked S p →
      customerEmails ∉ S → NoEmails customerId z.db → p.Ensures z fun _ s' => NoEmails customerId s'.db := by
    intro α S p z hp ht h₀
    refine hp.ensures_frame.mono fun _ s' h' => ?_
    rw [NoEmails, h' _ ht]
    exact h₀
  refine Prog.Ensures.bind (Prog.Ensures.and (ensures_ensureProfile clock input)
    (hframe (ensureProfile_checked clock input) (by decide) h)) fun profile s₁ h₁ => ?_
  obtain ⟨⟨hcountry, hwho⟩, h₁⟩ := h₁
  refine ensures_select.bind fun channel s₂ h₂ => ?_
  obtain ⟨-, rfl⟩ := h₂
  refine (hframe (z := ⟨s₁.db, s₁.seq + 1⟩) (ensureDefaultFleet_checked (S := [fleets]) (by decide) _ _ _)
    (by decide) h₁).bind fun fleet s₃ h₃ => ?_
  refine ensures_select.bind fun product s₄ h₄ => ?_
  obtain ⟨-, rfl⟩ := h₄
  refine Prog.Ensures.bind (Q := fun _ s' => NoEmails customerId s'.db) ?_ fun _ s₅ h₅ => ?_
  · cases product with
    | none => exact .pure h₃
    | some productId =>
      exact hframe (z := ⟨s₃.db, s₃.seq + 1⟩) (ensureFleetApplication_checked (S := [fleetApplications]) (by decide) _ _ _) (by decide) h₃
  · refine Prog.Ensures.bind (Q := fun _ s' => NoEmails customerId s'.db) ?_ fun _ s₆ h₆ => .pure h₆
    cases hemail : input.email with
    | none => exact .pure h₅
    | some email =>
      refine ensures_insertUnless.bind fun _ s₆ h₆ => .pure ?_
      rcases h₆ with h₆ | h₆
      · rw [h₆]
        exact h₅
      · rw [h₆, NoEmails, Db.put_self]
        intro e he
        rcases List.mem_append.mp he with he | he
        · exact h₅ e he
        · obtain rfl := List.mem_singleton.mp he
          intro hid
          rcases hwho with hnew | ⟨hmem, hlogin⟩
          · obtain ⟨p, hp, hpid, -⟩ := hprofile
            have hlt := hs.keyed.below _ _ hp
            have : profile.1.id = customerId := hid
            omega
          · exact hnot (.inl ⟨clock, input, rfl, by simp [hemail], hcountry, profile.1, hmem, hid, hlogin⟩)

end Emails

lemma apply_noEmails (hs : Stored s) (hprofile : ProfileIs customerId (fun _ => True) s.db)
    (h : NoEmails customerId s.db) (op : Operation) (hnot : ¬Regrants customerId op s) :
    NoEmails customerId (op.apply s).db := by
  have hframe : customerEmails ∉ op.tables → NoEmails customerId (op.apply s).db := fun ht => by
    rwa [NoEmails, (op.apply_follows s).table ht]
  have hsame : ∀ s' : DbStore, s'.db = s.db → NoEmails customerId s'.db := fun s' hdb => by rwa [hdb]
  cases op with
  | provision clock input => exact after_ensures (ensures_provision_noEmails hs hprofile h clock input hnot) hsame
  | executeDeletion clock operatorId requestId reason correlationId =>
    refine after_ensures ((executeDeletion_executed clock operatorId requestId reason correlationId).mono
      fun _ s' hdone => ?_) hsame
    obtain ⟨request, hdone⟩ := hdone
    rw [NoEmails, hdone.frozen.emails]
    exact fun e he => h e (List.mem_filter.mp he).1
  | customer clock authUserId aal request =>
    refine hframe ?_
    cases request <;> dsimp only [Operation.tables, CustomerRequest.tables] <;> decide
  | _ =>
    refine hframe ?_
    dsimp only [Operation.tables]
    decide

lemma apply_revoked (hs : Stored s) (h : ∀ e ∈ s.db licenses, e.val.customerId = customerId →
    e.val.status = .revoked) (op : Operation) (hoperator : ¬ByOperator customerId op)
    (hnot : ¬Regrants customerId op s) :
    ∀ e ∈ (op.apply s).db licenses, e.val.customerId = customerId → e.val.status = .revoked := by
  intro e he hc
  cases apply_licenses hs op with
  | same kept => exact h e (kept ▸ he) hc
  | issued clock input n v operator owner unlinked appended =>
    rw [appended] at he
    rcases List.mem_append.mp he with he | he
    · exact h e he hc
    · obtain rfl := List.mem_singleton.mp he
      exact absurd (.inr ⟨clock, input, operator, owner.symm.trans hc⟩) hoperator
  | revoked p updated =>
    rw [updated] at he
    obtain ⟨e₀, he₀, rfl⟩ := mem_updateRows.mp he
    split
    · rfl
    · rename_i hp
      rw [if_neg hp] at hc
      exact h e₀ he₀ hc
  | synced status c i source sync =>
    obtain ⟨-, hsync⟩ := sync
    generalize hrows : (op.apply s).db licenses = rows at hsync
    rw [hrows] at he
    cases hsync with
    | same => exact h e he hc
    | issued n v unlinked grants owner link =>
      rcases List.mem_append.mp he with he | he
      · exact h e he hc
      · obtain rfl := List.mem_singleton.mp he
        obtain rfl : c = customerId := owner.symm.trans hc
        exact absurd (.inr ⟨status, i, source, grants, unlinked⟩) hnot
    | changed l f linked unrevoked kept =>
      obtain ⟨e₀, he₀, rfl⟩ := mem_updateRows.mp he
      split
      · rename_i hp
        rw [if_pos hp] at hc
        -- the sync does not touch a revoked license, and all licenses of the customer are revoked
        have hmem : l ∈ s.db licenses := List.mem_of_find?_eq_some linked
        obtain rfl : e₀ = l := hs.keyed.unique he₀ hmem (by simpa using hp)
        exact absurd (h e₀ hmem ((kept e₀.val).1.symm.trans hc)) unrevoked
      · rename_i hp
        rw [if_neg hp] at hc
        exact h e₀ he₀ hc

/-- Licenses keep their owner, and new ones are not the customer's. -/
lemma apply_owner (hs : Stored s) (op : Operation) (hoperator : ¬ByOperator customerId op)
    (hnot : ¬Regrants customerId op s) : ∀ e ∈ (op.apply s).db licenses, e.val.customerId = customerId →
      ∃ e₀ ∈ s.db licenses, e₀.id = e.id ∧ e₀.val.customerId = customerId := by
  have hupdate : ∀ {p : Entry License → Bool} {f : License → License} {e : Entry License},
      (∀ r, (f r).customerId = r.customerId) → e ∈ updateRows p f (s.db licenses) →
      e.val.customerId = customerId → ∃ e₀ ∈ s.db licenses, e₀.id = e.id ∧ e₀.val.customerId = customerId := by
    intro p f e hf he hc
    obtain ⟨e₀, he₀, rfl⟩ := mem_updateRows.mp he
    refine ⟨e₀, he₀, ?_, ?_⟩
    · split <;> rfl
    · split at hc
      · exact (hf _).symm.trans hc
      · exact hc
  intro e he hc
  cases apply_licenses hs op with
  | same kept => exact ⟨e, kept ▸ he, rfl, hc⟩
  | issued clock input n v operator owner unlinked appended =>
    rw [appended] at he
    rcases List.mem_append.mp he with he | he
    · exact ⟨e, he, rfl, hc⟩
    · obtain rfl := List.mem_singleton.mp he
      exact absurd (.inr ⟨clock, input, operator, owner.symm.trans hc⟩) hoperator
  | revoked p updated => exact hupdate (f := fun r => { r with status := .revoked }) (fun _ => rfl) (updated ▸ he) hc
  | synced status c i source sync =>
    obtain ⟨-, hsync⟩ := sync
    generalize hrows : (op.apply s).db licenses = rows at hsync
    rw [hrows] at he
    cases hsync with
    | same => exact ⟨e, he, rfl, hc⟩
    | issued n v unlinked grants owner link =>
      rcases List.mem_append.mp he with he | he
      · exact ⟨e, he, rfl, hc⟩
      · obtain rfl := List.mem_singleton.mp he
        obtain rfl : c = customerId := owner.symm.trans hc
        exact absurd (.inr ⟨status, i, source, grants, unlinked⟩) hnot
    | changed l f linked unrevoked kept => exact hupdate (fun r => (kept r).1) he hc

/-- No activation of a license of the customer becomes active. -/
lemma apply_inactive (hs : Stored s) (h : Erased customerId s.db) (op : Operation)
    (hoperator : ¬ByOperator customerId op) (hnot : ¬Regrants customerId op s) :
    ∀ e ∈ (op.apply s).db licenseActivations, e.val.status = .active →
      ∀ l ∈ (op.apply s).db licenses, l.id = e.val.licenseId → l.val.customerId ≠ customerId := by
  intro e he hactive l hl hid hc
  obtain ⟨l₀, hl₀, hid₀, hc₀⟩ := apply_owner hs op hoperator hnot l hl hc
  cases apply_activations op s with
  | same kept => exact h.activations e (kept ▸ he) hactive l₀ hl₀ (hid₀.trans hid) hc₀
  | released p now updated =>
    rw [updated] at he
    obtain ⟨e₀, he₀, rfl⟩ := mem_updateRows.mp he
    split at hactive
    · cases hactive
    · rename_i hp
      rw [if_neg hp] at hid
      exact h.activations e₀ he₀ hactive l₀ hl₀ (hid₀.trans hid) hc₀
  | activated clock installation license n request appended =>
    rw [appended] at he
    rcases List.mem_append.mp he with he | he
    · exact h.activations e he hactive l₀ hl₀ (hid₀.trans hid) hc₀
    · obtain rfl := List.mem_singleton.mp he
      obtain ⟨_, _, _, _, _, -, -, -, hpick, hchecks⟩ := request
      obtain rfl : l₀ = license := hs.keyed.unique hl₀ (pickLicense_spec hpick).1 (hid₀.trans hid)
      have hrevoked := h.licenses l₀ hl₀ hc₀
      rw [hchecks.active] at hrevoked
      cases hrevoked

theorem apply_erased (hs : Stored s) (h : Erased customerId s.db) (op : Operation)
    (hoperator : ¬ByOperator customerId op) (hnot : ¬Regrants customerId op s) :
    Erased customerId (op.apply s).db := by
  have hclosed := (apply_closed_iff hs ((closed_iff hs).mpr h.profile) op).mpr fun hc => hoperator (.inl hc)
  exact ⟨hclosed.1, apply_noEmails hs (h.profile.mono fun _ _ => trivial) h.emails op hnot,
    apply_revoked hs h.licenses op hoperator hnot, apply_inactive hs h op hoperator hnot⟩

/-- After its deletion a customer gets nothing back as long as neither provisioning nor a sync regrants it. -/
theorem nothing_regranted {s₀ : DbStore} (hs : Stored s₀) (h : Deleted customerId s₀ s) {ops : List Operation}
    (hoperator : EachStep (fun op _ => ¬ByOperator customerId op) ops s)
    (hregrants : EachStep (fun op s => ¬Regrants customerId op s) ops s) :
    EachState (fun s => NothingGranted customerId s.db) ops s := by
  obtain ⟨hstored, herased⟩ := h.erased hs
  have hall : EachState (fun s => Stored s ∧ Erased customerId s.db) ops s := by
    refine eachState_of_step (Q := fun op s => ¬ByOperator customerId op ∧ ¬Regrants customerId op s)
      (fun op s' hs' hq => ?_) ⟨hstored, herased⟩ (hoperator.and hregrants)
    exact ⟨(op.apply_follows s').stored hs'.1, apply_erased hs'.1 hs'.2 op hq.1 hq.2⟩
  exact hall.mono fun _ hs' => nothingGranted_of_erased hs'.2

/-- The login of the deleted customer is provisioned again. -/
def provisionAgain : Operation := .provision ⟨6, 6⟩ ⟨100, some "a@example.org", none, none, none⟩

theorem address_returns : Stored processingStore ∧ Deleted freshCustomer processingStore deletedStore ∧
    EachStep (fun op _ => ¬ByOperator freshCustomer op) [provisionAgain] deletedStore ∧
    ¬EachState (fun s => NothingGranted freshCustomer s.db) [provisionAgain] deletedStore := by
  refine ⟨processingStore_stored, deletedStore_deleted, ⟨?_, trivial⟩, fun h => ?_⟩
  · rintro (hchange | ⟨_, _, hop, -⟩)
    · exact hchange
    · cases hop
  · have hlast : NothingGranted freshCustomer (provisionAgain.apply deletedStore).db := h.2
    have hfound : ∃ e ∈ (provisionAgain.apply deletedStore).db .customerEmails,
        e.val.customerId = freshCustomer := by decide
    obtain ⟨e, he, hc⟩ := hfound
    exact hlast.emails e he hc

/-- Without an address the login can be provisioned again. -/
def provisionQuietly : Operation := .provision ⟨6, 6⟩ ⟨100, none, none, none, none⟩

theorem nothing_regranted_quietly :
    EachState (fun s => NothingGranted freshCustomer s.db) [provisionQuietly] deletedStore := by
  refine nothing_regranted processingStore_stored deletedStore_deleted ⟨?_, trivial⟩ ⟨?_, trivial⟩
  · rintro (hchange | ⟨_, _, hop, -⟩)
    · exact hchange
    · cases hop
  · rintro (⟨clock, input, hop, hemail, -⟩ | ⟨status, i, hsource, -⟩)
    · cases hop
      cases hemail
    · exact hsource

end ForgeCustomer.DeletionRuns
