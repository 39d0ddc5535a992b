import ForgeCustomer.WebhookOrder

/-!
# The order of webhooks and the license

A license follows the statuses that its subscription passes through, and which ones these are depends on
the order in which the events arrive.
-/
namespace ForgeCustomer.LicenseOrder
open SqlTables SqlPrograms SqlStatements DomainRules StripeEvents DatabaseTables AuditWriters
  LicensingRepository CommerceRepository LicenseSync SubscriptionProjection ServiceOperations WebhookDelivery
  WatermarkOrder WebhookOrder TableName

/-- The status of the linked license after a sync. -/
def syncedStatus (status : SubscriptionStatus) (old : Option LicenseStatus) : Option LicenseStatus :=
  (syncedTerms 0 status (old.map fun l => (l, 0))).map (·.1)

/-- The device limit has no influence on the status. -/
lemma syncedTerms_status (limit : ℕ) (status : SubscriptionStatus) (terms : Option (LicenseStatus × ℕ)) :
    (syncedTerms limit status terms).map (·.1) = syncedStatus status (terms.map (·.1)) := by
  cases terms with
  | none => cases status <;> rfl
  | some terms =>
    obtain ⟨old, n⟩ := terms
    cases old <;> cases status <;> rfl

/-- A subscription event: its time and the status it reports. -/
abbrev Stamped := Time × SubscriptionStatus

/-- Watermark of the subscription and status of its license; no subscription at first. -/
abbrev Standing := Option (Time × Option LicenseStatus)

def accept (a : Standing) (e : Stamped) : Standing :=
  match a with
  | none => some (e.1, syncedStatus e.2 none)
  | some (w, l) => if e.1 < w then some (w, l) else some (e.1, syncedStatus e.2 l)

def licenseOf (a : Standing) : Option LicenseStatus := a.bind (·.2)

/-- The latest event gives access for sure, or no event that grants access comes before one that does not. -/
def OrderFree (es : List Stamped) : Prop :=
  (∃ z, es.getLast? = some z ∧ (z.2 = .active ∨ z.2 = .trialing)) ∨
    es.Pairwise fun a b => a.2.grantsCloud = true → b.2.grantsCloud = true

lemma syncedStatus_unrevoked {status : SubscriptionStatus} {old : Option LicenseStatus}
    (h : old ≠ some .revoked) : syncedStatus status old ≠ some .revoked := by
  cases old with
  | none => cases status <;> decide
  | some old => cases old <;> cases status <;> first | decide | exact absurd rfl h

section Latest
variable {z : Stamped} {a : Standing} {l : List Stamped}

/-- The watermark has not passed the event `z`. -/
def Before (z : Stamped) (a : Standing) : Prop := ∀ w x, a = some (w, x) → w ≤ z.1 ∧ x ≠ some .revoked

/-- The event `z` was the last one that counted. -/
def At (z : Stamped) (a : Standing) : Prop :=
  ∃ x, x ≠ some LicenseStatus.revoked ∧ a = some (z.1, syncedStatus z.2 x)

lemma Before.latest (h : Before z a) : At z (accept a z) := by
  cases a with
  | none => exact ⟨none, by simp, rfl⟩
  | some a =>
    obtain ⟨w, x⟩ := a
    obtain ⟨hw, hx⟩ := h w x rfl
    exact ⟨x, hx, by rw [accept, if_neg (not_lt.mpr hw)]⟩

lemma Before.step {e : Stamped} (h : Before z a) (he : e.1 ≤ z.1) : Before z (accept a e) := by
  intro w x hwx
  cases a with
  | none =>
    cases hwx
    exact ⟨he, syncedStatus_unrevoked (by simp)⟩
  | some a =>
    obtain ⟨w₀, x₀⟩ := a
    obtain ⟨hw, hx⟩ := h w₀ x₀ rfl
    unfold accept at hwx
    dsimp only at hwx
    split at hwx <;> cases hwx
    · exact ⟨hw, hx⟩
    · exact ⟨he, syncedStatus_unrevoked hx⟩

lemma At.step {e : Stamped} (h : At z a) (he : e = z ∨ e.1 < z.1) : At z (accept a e) := by
  obtain ⟨x, hx, rfl⟩ := h
  rcases he with rfl | he
  · exact ⟨syncedStatus e.2 x, syncedStatus_unrevoked hx, by rw [accept, if_neg (lt_irrefl _)]⟩
  · exact ⟨x, hx, by rw [accept, if_pos he]⟩

lemma At.run (h : At z a) (hl : ∀ e ∈ l, e = z ∨ e.1 < z.1) : At z (l.foldl accept a) := by
  induction l generalizing a with
  | nil => exact h
  | cons e l ih => exact ih (h.step (hl e (by simp))) fun e' he' => hl e' (by simp [he'])

/-- Whatever the order, the latest event counts, and as the last one. -/
lemma at_latest (h : Before z a) (hz : z ∈ l) (hl : ∀ e ∈ l, e = z ∨ e.1 < z.1) : At z (l.foldl accept a) := by
  induction l generalizing a with
  | nil => cases hz
  | cons e l ih =>
    have hrest : ∀ e' ∈ l, e' = z ∨ e'.1 < z.1 := fun e' he' => hl e' (by simp [he'])
    rcases hl e (by simp) with rfl | hlt
    · exact h.latest.run hrest
    · have hzl : z ∈ l := by
        rcases List.mem_cons.mp hz with rfl | hzl
        · exact absurd hlt (lt_irrefl _)
        · exact hzl
      exact ih (h.step hlt.le) hzl hrest

/-- Later deliveries of earlier events are stale. -/
lemma foldl_stale {x : Option LicenseStatus} (hl : ∀ e ∈ l, e.1 < z.1) :
    l.foldl accept (some (z.1, x)) = some (z.1, x) := by
  induction l with
  | nil => rfl
  | cons e l ih =>
    rw [List.foldl_cons, accept, if_pos (hl e (by simp))]
    exact ih fun e' he' => hl e' (by simp [he'])

end Latest

section Orders
variable {es l : List Stamped} {z : Stamped}

/-- With `OrderFree` statuses: no license before access is granted, an active one from then on. -/
def Tracks (es : List Stamped) (a : Standing) : Prop :=
  ∀ w x, a = some (w, x) → ∃ e ∈ es, w = e.1 ∧ x = if e.2.grantsCloud then some .active else none

lemma synced_grants {status : SubscriptionStatus} (h : status.grantsCloud = true) {old : Option LicenseStatus}
    (hold : old = none ∨ old = some .active) : syncedStatus status old = some .active := by
  rcases hold with rfl | rfl <;> cases status <;> first | rfl | cases h

lemma synced_denies {status : SubscriptionStatus} (h : status.grantsCloud = false) :
    syncedStatus status none = none := by
  cases status <;> first | rfl | cases h

lemma later_grants (hsorted : es.Pairwise fun a b => a.1 < b.1)
    (hgrants : es.Pairwise fun a b => a.2.grantsCloud = true → b.2.grantsCloud = true) {e₀ e : Stamped}
    (he₀ : e₀ ∈ es) (he : e ∈ es) (hle : e₀.1 ≤ e.1) (hg : e₀.2.grantsCloud = true) :
    e.2.grantsCloud = true := by
  induction es with
  | nil => cases he
  | cons x es ih =>
    rw [List.pairwise_cons] at hsorted hgrants
    rcases List.mem_cons.mp he₀ with rfl | he₀'
    · rcases List.mem_cons.mp he with rfl | he'
      · exact hg
      · exact hgrants.1 e he' hg
    · rcases List.mem_cons.mp he with rfl | he'
      · exact absurd (hsorted.1 e₀ he₀') (not_lt.mpr hle)
      · exact ih hsorted.2 hgrants.2 he₀' he'

lemma Tracks.step {a : Standing} (h : Tracks es a) (hsorted : es.Pairwise fun a b => a.1 < b.1)
    (hgrants : es.Pairwise fun a b => a.2.grantsCloud = true → b.2.grantsCloud = true) {e : Stamped}
    (he : e ∈ es) : Tracks es (accept a e) := by
  intro w x hwx
  have hnew : ∀ old : Option LicenseStatus, (old = none ∨ old = some .active ∧ e.2.grantsCloud = true) →
      syncedStatus e.2 old = if e.2.grantsCloud then some .active else none := by
    intro old hold
    cases hg : e.2.grantsCloud with
    | true => exact synced_grants hg (hold.imp id fun h => h.1)
    | false =>
      obtain rfl : old = none := hold.resolve_right fun h => by rw [hg] at h; cases h.2
      exact synced_denies hg
  cases a with
  | none =>
    cases hwx
    exact ⟨e, he, rfl, hnew none (.inl rfl)⟩
  | some a =>
    obtain ⟨w₀, x₀⟩ := a
    obtain ⟨e₀, he₀, rfl, rfl⟩ := h w₀ x₀ rfl
    unfold accept at hwx
    dsimp only at hwx
    split at hwx <;> cases hwx
    · exact ⟨e₀, he₀, rfl, rfl⟩
    · rename_i hlt
      refine ⟨e, he, rfl, hnew _ ?_⟩
      cases hg₀ : e₀.2.grantsCloud with
      | false => exact .inl rfl
      | true =>
        refine .inr ⟨rfl, ?_⟩
        -- `e` is `e₀` again or a later event, which grants access too
        exact later_grants hsorted hgrants he₀ he (not_lt.mp hlt) hg₀

lemma Tracks.run {a : Standing} (h : Tracks es a) (hsorted : es.Pairwise fun a b => a.1 < b.1)
    (hgrants : es.Pairwise fun a b => a.2.grantsCloud = true → b.2.grantsCloud = true)
    (hl : ∀ e ∈ l, e ∈ es) : Tracks es (l.foldl accept a) := by
  induction l generalizing a with
  | nil => exact h
  | cons e l ih => exact ih (h.step hsorted hgrants (hl e (by simp))) fun e' he' => hl e' (by simp [he'])

/-- The latest event of a sorted list. -/
lemma latest_of_sorted (hsorted : es.Pairwise fun a b => a.1 < b.1) (hz : es.getLast? = some z) :
    z ∈ es ∧ ∀ e ∈ es, e = z ∨ e.1 < z.1 := by
  obtain ⟨init, rfl⟩ := List.getLast?_eq_some_iff.mp hz
  refine ⟨by simp, fun e he => ?_⟩
  rcases List.mem_append.mp he with he | he
  · exact .inr ((List.pairwise_append.mp hsorted).2.2 e he z (by simp))
  · exact .inl (List.mem_singleton.mp he)

lemma licenseOf_active {status : SubscriptionStatus} {old : Option LicenseStatus}
    (h : status = .active ∨ status = .trialing) (hold : old ≠ some .revoked) :
    syncedStatus status old = some .active := by
  cases old with
  | none => rcases h with rfl | rfl <;> rfl
  | some old => cases old <;> rcases h with rfl | rfl <;> first | rfl | exact absurd rfl hold

/-- Two orders that skip a different part of the past: the latest event alone, and after `g` and `u`. -/
lemma orders_differ {g u z : SubscriptionStatus} (hg : g.grantsCloud = true) (hu : u.grantsCloud = false)
    (hz : ¬(z = .active ∨ z = .trialing)) :
    syncedStatus z (syncedStatus u (syncedStatus g none)) ≠ syncedStatus z none := by
  rw [synced_grants hg (.inl rfl)]
  cases u <;> cases z <;> first | decide | (exact absurd hu (by decide)) | (exact absurd (by decide) hz)

/-- The same with `u` itself the latest event. -/
lemma orders_differ_latest {g z : SubscriptionStatus} (hg : g.grantsCloud = true)
    (hz : z.grantsCloud = false) : syncedStatus z (syncedStatus g none) ≠ syncedStatus z none := by
  rw [synced_grants hg (.inl rfl)]
  cases z <;> first | decide | (exact absurd hz (by decide))

/-- All orders of the events lead to the same license exactly if the events are `OrderFree`. -/
theorem orders_agree_iff (hsorted : es.Pairwise fun a b => a.1 < b.1) :
    (∀ l : List Stamped, l.Perm es → licenseOf (l.foldl accept none) = licenseOf (es.foldl accept none)) ↔ OrderFree es := by
  have hstart : ∀ z, Before z none := fun z w x h => by cases h
  have hnodup : es.Nodup := hsorted.imp fun h heq => by
    rw [heq] at h
    exact lt_irrefl _ h
  constructor
  · intro h
    by_contra hfree
    rw [OrderFree, not_or] at hfree
    obtain ⟨hlast, hmono⟩ := hfree
    rw [List.pairwise_iff_forall_sublist] at hmono
    push Not at hmono
    obtain ⟨g, u, hsub, hg, hu⟩ := hmono
    have hgmem : g ∈ es := hsub.subset (by simp)
    have humem : u ∈ es := hsub.subset (by simp)
    have hpair : [g, u].Pairwise fun a b => a.1 < b.1 := hsorted.sublist hsub
    have hlt : g.1 < u.1 := (List.pairwise_cons.mp hpair).1 u (by simp)
    obtain ⟨z, hz⟩ := Option.isSome_iff_exists.mp (List.getLast?_isSome.mpr (List.ne_nil_of_mem hgmem))
    have hzstatus : ¬(z.2 = .active ∨ z.2 = .trialing) := fun hc => hlast ⟨z, hz, hc⟩
    obtain ⟨hzmem, hmax⟩ := latest_of_sorted hsorted hz
    have hrest : ∀ {l : List Stamped}, l.Nodup → (∀ e ∈ l, e ∈ es) → z ∉ l → ∀ e ∈ l, e.1 < z.1 := by
      intro l _ hl hzl e he
      exact (hmax e (hl e he)).resolve_left fun heq => hzl (heq ▸ he)
    have halone : licenseOf (es.foldl accept none) = syncedStatus z.2 none := by
      rw [← h _ (List.perm_cons_erase hzmem).symm, List.foldl_cons]
      rw [show accept none z = some (z.1, syncedStatus z.2 none) from rfl, foldl_stale]
      · rfl
      · exact hrest (hnodup.erase z) (fun e he => List.mem_of_mem_erase he) fun hc =>
          (hnodup.mem_erase_iff.mp hc).1 rfl
    have hgu : u ∈ es.erase g := hnodup.mem_erase_iff.mpr ⟨fun heq => lt_irrefl _ (heq ▸ hlt), humem⟩
    have hperm : (g :: u :: (es.erase g).erase u).Perm es :=
      ((List.perm_cons_erase hgu).symm.cons g).trans (List.perm_cons_erase hgmem).symm
    have hpast : accept (accept none g) u = some (u.1, syncedStatus u.2 (syncedStatus g.2 none)) := by
      have hg₁ : accept none g = some (g.1, syncedStatus g.2 none) := rfl
      rw [hg₁, accept, if_neg (not_lt.mpr hlt.le)]
    have hnodup' : ((es.erase g).erase u).Nodup := (hnodup.erase g).erase u
    have hsubset : ∀ e ∈ (es.erase g).erase u, e ∈ es := fun e he =>
      List.mem_of_mem_erase (List.mem_of_mem_erase he)
    by_cases huz : u = z
    · subst huz
      have hsame := h _ hperm
      rw [halone, List.foldl_cons, List.foldl_cons, hpast, foldl_stale (hrest hnodup' hsubset
        fun hc => ((hnodup.erase g).mem_erase_iff.mp hc).1 rfl)] at hsame
      exact orders_differ_latest hg (by simpa using hu) hsame
    · have hzrest : z ∈ (es.erase g).erase u := by
        refine (hnodup.erase g).mem_erase_iff.mpr ⟨Ne.symm huz, hnodup.mem_erase_iff.mpr ⟨?_, hzmem⟩⟩
        rintro rfl
        exact absurd hlt (not_lt.mpr ((hmax u humem).resolve_left huz).le)
      have huzlt : u.1 < z.1 := (hmax u humem).resolve_left huz
      have hsame := h _ (((((List.perm_cons_erase hzrest).symm.cons u).cons g)).trans hperm)
      have hlatest : accept (some (u.1, syncedStatus u.2 (syncedStatus g.2 none))) z =
          some (z.1, syncedStatus z.2 (syncedStatus u.2 (syncedStatus g.2 none))) := by
        rw [accept, if_neg (not_lt.mpr huzlt.le)]
      rw [halone, List.foldl_cons, List.foldl_cons, List.foldl_cons, hpast, hlatest,
        foldl_stale (hrest (hnodup'.erase z) (fun e he => hsubset e (List.mem_of_mem_erase he))
          fun hc => (hnodup'.mem_erase_iff.mp hc).1 rfl)] at hsame
      exact orders_differ hg (by simpa using hu) hzstatus hsame
  · intro hfree l hl
    -- both orders end with the latest event, and what it leads to does not depend on the past
    have hvalue : ∃ value, ∀ l : List Stamped, l.Perm es → licenseOf (l.foldl accept none) = value := by
      rcases hfree with ⟨z, hz, hstatus⟩ | hgrants
      · obtain ⟨hzmem, hmax⟩ := latest_of_sorted hsorted hz
        refine ⟨some .active, fun l hl => ?_⟩
        obtain ⟨x, hx, hrun⟩ := at_latest (hstart z) (hl.mem_iff.mpr hzmem) fun e he => hmax e (hl.mem_iff.mp he)
        rw [hrun]
        exact licenseOf_active hstatus hx
      · cases hz : es.getLast? with
        | none =>
          obtain rfl : es = [] := List.getLast?_eq_none_iff.mp hz
          exact ⟨none, fun l hl => by rw [hl.eq_nil]; rfl⟩
        | some z =>
          obtain ⟨hzmem, hmax⟩ := latest_of_sorted hsorted hz
          refine ⟨if z.2.grantsCloud then some .active else none, fun l hl => ?_⟩
          obtain ⟨x, -, hrun⟩ := at_latest (hstart z) (hl.mem_iff.mpr hzmem) fun e he => hmax e (hl.mem_iff.mp he)
          have htracks : Tracks es (l.foldl accept none) :=
            Tracks.run (fun w x h => by cases h) hsorted hgrants fun e he => hl.mem_iff.mp he
          obtain ⟨e, he, htime, hlicense⟩ := htracks _ _ hrun
          have heq : e = z := (hmax e he).resolve_right fun hlt => lt_irrefl _ (htime ▸ hlt)
          rw [hrun]
          exact hlicense.trans (by rw [heq])
    obtain ⟨value, hvalue⟩ := hvalue
    rw [hvalue l hl, hvalue es (List.Perm.refl es)]

end Orders

/-- The time and the status of a subscription event. -/
def stamped (event : ParsedStripeEvent) : Stamped :=
  (event.createdAt.getD 0, (event.subscriptionChange.map (·.status)).getD .incomplete)

/-- A supported event of the subscription whose metadata name the customer and the plan version. -/
structure Names (sid : String) (customerId planVersionId : ℕ) (event : ParsedStripeEvent) : Prop where
  change : ∃ change, event.subscriptionChange = some change ∧ change.stripeSubscriptionId = sid ∧
    change.customerId = some customerId ∧ change.planVersionId = some planVersionId
  received : event.receiptStatus = .received
  time : ∃ t, event.createdAt = some t

/-- Events of one subscription in the order of their distinct times, with different ids and the
same metadata. -/
structure NewBatch (sid : String) (customerId planVersionId : ℕ) (es : List ParsedStripeEvent) : Prop where
  names : ∀ e ∈ es, Names sid customerId planVersionId e
  sorted : (es.map stamped).Pairwise fun a b => a.1 < b.1
  ids : (es.map (·.id)).Nodup

/-- The status of the license that is linked to the subscription. -/
def linkedStatus (sid : String) (d : Database) : Option LicenseStatus :=
  (subscriptionOf sid d).bind fun row => (licenseTerms row.val.customerId row.id d).map (·.1)

/-- However the events are delivered, the linked license ends up as after deliveries in time order. -/
def LicenseIndependent (sid : String) (clock : Clock) (es : List ParsedStripeEvent) (s : DbStore) : Prop :=
  ∀ ds : List (Clock × ParsedStripeEvent), (∀ e, e ∈ ds.map Prod.snd ↔ e ∈ es) →
    linkedStatus sid (deliverAll ds s).db = linkedStatus sid (deliverAll (es.map fun e => (clock, e)) s).db

/-- The database shows the standing of the subscription. -/
def Follows (sid : String) (a : Standing) (d : Database) : Prop :=
  match a with
  | none => subscriptionOf sid d = none
  | some (w, l) => ∃ row, subscriptionOf sid d = some row ∧ row.val.stripeEventAt = some w ∧
      (licenseTerms row.val.customerId row.id d).map (·.1) = l

variable {s : DbStore} {sid : String} {customerId planVersionId : ℕ} {event : ParsedStripeEvent} {a : Standing}

lemma Follows.linked {d : Database} (h : Follows sid a d) : linkedStatus sid d = licenseOf a := by
  cases a with
  | none =>
    have hnone : subscriptionOf sid d = none := h
    rw [linkedStatus, hnone]
    rfl
  | some a =>
    obtain ⟨row, hrow, -, hterms⟩ := h
    rw [linkedStatus, hrow]
    exact hterms

lemma Follows.congr {d d' : Database} (hsubs : d' .subscriptions = d .subscriptions)
    (hlicenses : d' .licenses = d .licenses) (h : Follows sid a d) : Follows sid a d' := by
  cases a with
  | none => exact (subscriptionOf_congr hsubs).trans h
  | some a =>
    obtain ⟨row, hrow, hw, hterms⟩ := h
    exact ⟨row, (subscriptionOf_congr hsubs).trans hrow, hw, by rw [licenseTerms_congr hlicenses, hterms]⟩

/-- No license is linked to a subscription that is not stored. -/
lemma licenseTerms_unstored {d : Database} (hd : d.Intact) {subscriptionId : ℕ}
    (h : d.has .subscriptions subscriptionId = false) (customerId : ℕ) :
    licenseTerms customerId subscriptionId d = none := by
  rw [licenseTerms, Option.map_eq_none_iff, linkedLicense, List.find?_eq_none]
  intro e he hlinked
  have hlink : e.val.subscriptionId = some subscriptionId := by
    simp only [isLicenseOf, Bool.and_eq_true, beq_iff_eq] at hlinked
    tauto
  have hrefs := hd .licenses e he
  simp [Db.refsOk, Schema.refs, foreignKeys, Db.resolves, hlink, h] at hrefs

lemma runs_upsertSubscriptionProjection_new {ε : Type} [FromSql ε] (clock : Clock)
    {input : SubscriptionProjectionInput} (hnew : subscriptionOf sid s.db = none)
    (hex : input.existing = none) (hsid : input.stripeSubscriptionId = sid)
    (hc : s.db.has .customerProfiles input.customerId = true)
    (ha : s.db.has .billingAccounts input.billingAccountId = true)
    (hp : s.db.has .planVersions input.planVersionId = true) :
    (upsertSubscriptionProjection clock input : Tx ε _).Runs s fun r s' =>
      subscriptionOf sid s'.db = some r ∧ r.id = s.seq ∧ r.val.stripeEventAt = input.stripeEventAt := by
  unfold upsertSubscriptionProjection
  rw [hex]
  rw [subscriptionOf, List.find?_eq_none] at hnew
  refine ⟨_, _, run_insertRow rfl ?_ ?_, ?_, rfl, rfl⟩
  · rw [Db.taken, List.any_eq_false]
    intro e he htaken
    refine hnew e he ?_
    simpa [Schema.keys, uniqueKeys, hsid] using htaken
  · simp [Db.refsOk, Schema.refs, foreignKeys, Db.resolves, hc, ha, hp]
  · dsimp only
    rw [subscriptionOf, Db.put_self, List.find?_append, List.find?_eq_none.mpr hnew]
    simp [hsid]

/-- The first event of a subscription inserts its row and syncs the license. -/
lemma runs_applySubscriptionChange_new (hs : Stored s) (clock : Clock) (webhookEventId : ℕ)
    {change : StripeSubscriptionChange} (hnew : subscriptionOf change.stripeSubscriptionId s.db = none)
    (hc : change.customerId = some customerId) (hp : change.planVersionId = some planVersionId)
    (hmeta : metadataStored change s.db = true) :
    (applySubscriptionChange clock webhookEventId event change).Runs s fun _ s' =>
      ∃ row, subscriptionOf change.stripeSubscriptionId s'.db = some row ∧
        row.val.stripeEventAt = event.createdAt ∧
        (licenseTerms row.val.customerId row.id s'.db).map (·.1) = syncedStatus change.status none := by
  obtain ⟨hcustomer, hplan⟩ := metadataStored_iff.mp hmeta
  have hcustomer := hcustomer _ hc
  have hplan := hplan _ hp
  refine Prog.Runs.step (run_select _ _) ?_
  rw [show (s.db .subscriptions).find? _ = none from hnew]
  have hfresh : isStaleEvent event.createdAt none = false := by
    cases event.createdAt <;> rfl
  simp only [Option.bind_none, hfresh, if_false, Bool.false_eq_true, hc, hp, resolveCustomerId, resolvePlanVersionId]
  have hs₀ : Stored (⟨s.db, s.seq + 1⟩ : DbStore) := hs.advance (Nat.le_succ _)
  refine Prog.Runs.step (s := ⟨s.db, s.seq + 1⟩) (a := some customerId) rfl ?_
  refine Prog.Runs.step (s := ⟨s.db, s.seq + 1⟩) (a := some planVersionId) rfl ?_
  dsimp only
  refine Checked.runs_bind (ensureBillingAccount_checked (S := [billingAccounts]) (by decide) _) hs₀
    (runs_ensureBillingAccount hcustomer) fun account s₁ ha hs₁ h₁ => ?_
  refine Checked.runs_bind (linkStripeCustomer_checked (S := [stripeCustomers]) (by decide) _ _) hs₁
    (runs_linkStripeCustomer ha _) fun _ s₂ _ hs₂ h₂ => ?_
  have hsame : ∀ t, t ∉ [billingAccounts, stripeCustomers] → s₂.db t = s.db t := by
    intro t ht
    simp only [List.mem_cons, List.not_mem_nil, or_false, not_or] at ht
    rw [h₂ t (by simp [ht.2]), h₁ t (by simp [ht.1])]
  have hnew₂ : subscriptionOf change.stripeSubscriptionId s₂.db = none := by
    rwa [subscriptionOf_congr (hsame .subscriptions (by decide))]
  have hunstored : s₂.db.has .subscriptions s₂.seq = false := by
    rw [Db.has, List.any_eq_false]
    intro e he hid
    exact absurd (hs₂.keyed.below _ e he) (by simp [beq_iff_eq.mp hid])
  refine Checked.runs_bind (upsertSubscriptionProjection_checked (S := [subscriptions]) (by decide) _ _) hs₂
    (runs_upsertSubscriptionProjection_new clock hnew₂ rfl rfl ?_ ?_ ?_) fun r s₃ hr hs₃ h₃ => ?_
  · rwa [Db.has_congr (hsame .customerProfiles (by decide))]
  · rwa [Db.has_congr (h₂ .billingAccounts (by decide))]
  · rwa [Db.has_congr (hsame .planVersions (by decide))]
  obtain ⟨hrow₃, hid, htime⟩ := hr
  refine Prog.Runs.mono (runs_followUp hs₃ clock event _ change.status (subscriptionOf_mem hrow₃) rfl)
    fun _ s₄ h => ?_
  obtain ⟨⟨limit, -, hterms⟩, hsubs⟩ := h
  refine ⟨r, (subscriptionOf_congr hsubs).trans hrow₃, htime, ?_⟩
  have hunlinked : licenseTerms r.val.customerId r.id s₃.db = none := by
    rw [licenseTerms_congr (h₃ .licenses (by decide)), hid]
    exact licenseTerms_unstored hs₂.intact hunstored _
  rw [hterms, hunlinked]
  exact syncedTerms_status limit change.status none

/-- Without a row, metadata that are not stored fail the event. -/
lemma fails_applySubscriptionChange_new (hs : Stored s) (clock : Clock) (webhookEventId : ℕ)
    {change : StripeSubscriptionChange} (hnew : subscriptionOf change.stripeSubscriptionId s.db = none)
    (hc : change.customerId = some customerId) (hp : change.planVersionId = some planVersionId)
    (hmeta : metadataStored change s.db = false) :
    (applySubscriptionChange clock webhookEventId event change).Fails s := by
  refine Prog.Fails.step (run_select _ _) ?_
  rw [show (s.db .subscriptions).find? _ = none from hnew]
  have hfresh : isStaleEvent event.createdAt none = false := by
    cases event.createdAt <;> rfl
  simp only [Option.bind_none, hfresh, if_false, Bool.false_eq_true, hc, hp, resolveCustomerId, resolvePlanVersionId]
  have hs₀ : Stored (⟨s.db, s.seq + 1⟩ : DbStore) := hs.advance (Nat.le_succ _)
  refine Prog.Fails.step (s := ⟨s.db, s.seq + 1⟩) (a := some customerId) rfl ?_
  refine Prog.Fails.step (s := ⟨s.db, s.seq + 1⟩) (a := some planVersionId) rfl ?_
  dsimp only
  cases hcustomer : s.db.has .customerProfiles customerId with
  | false => exact (fails_ensureBillingAccount hs₀.intact hcustomer).bind
  | true =>
    have hplan : s.db.has .planVersions planVersionId = false := by
      simpa [metadataStored, hc, hp, hcustomer] using hmeta
    have haccount := ensureBillingAccount_checked (ε := StripeWebhookApplyError) (S := [billingAccounts])
      (by decide) customerId
    refine Prog.Runs.bind_fails ((runs_ensureBillingAccount (s := ⟨s.db, s.seq + 1⟩) hcustomer).and_ensures
      (haccount.ensures hs₀)) fun account s₁ h₁ => ?_
    obtain ⟨ha, hs₁, h₁⟩ := h₁
    have hlink := linkStripeCustomer_checked (ε := StripeWebhookApplyError) (S := [stripeCustomers])
      (by decide) account change.stripeCustomerId
    refine Prog.Runs.bind_fails ((runs_linkStripeCustomer ha _).and_ensures (hlink.ensures hs₁))
      fun _ s₂ h₂ => ?_
    obtain ⟨-, hs₂, h₂⟩ := h₂
    have hplan₂ : s₂.db.has .planVersions planVersionId = false := by
      rw [Db.has_congr (h₂ .planVersions (by decide)), Db.has_congr (h₁ .planVersions (by decide)), hplan]
    refine (fails_insertRow ?_).bind
    unfold Db.refusal
    split
    · simp
    split
    · simp
    · simp [Db.refsOk, Schema.refs, foreignKeys, Db.resolves, hplan₂]

/-- An event does to the database what `accept` does to the standing. -/
lemma runs_applySubscriptionChange_follows (hs : Stored s) (clock : Clock) (webhookEventId : ℕ)
    {change : StripeSubscriptionChange} {t : Time} (hc : change.customerId = some customerId)
    (hp : change.planVersionId = some planVersionId) (hmeta : metadataStored change s.db = true)
    (htime : event.createdAt = some t) (h : Follows change.stripeSubscriptionId a s.db) :
    (applySubscriptionChange clock webhookEventId event change).Runs s fun _ s' =>
      Follows change.stripeSubscriptionId (accept a (t, change.status)) s'.db := by
  cases a with
  | none =>
    refine Prog.Runs.mono (runs_applySubscriptionChange_new hs clock webhookEventId h hc hp hmeta) fun _ s' h' => ?_
    obtain ⟨row, hrow, hw, hterms⟩ := h'
    exact ⟨row, hrow, hw.trans htime, hterms⟩
  | some a =>
    obtain ⟨w, l⟩ := a
    obtain ⟨row, hrow, hw, hterms⟩ := h
    by_cases hlt : t < w
    · have hstale : isStaleEvent event.createdAt row.val.stripeEventAt = true := by
        rw [htime, hw]
        exact isStale_iff.mpr hlt
      refine Prog.Runs.mono (runs_applySubscriptionChange_stale hs clock webhookEventId hrow hstale) fun _ s' h' => ?_
      rw [accept, if_pos hlt]
      exact Follows.congr (a := some (w, l)) (h' .subscriptions (by decide)) (h' .licenses (by decide))
        ⟨row, hrow, hw, hterms⟩
    · have hfresh : isStaleEvent event.createdAt row.val.stripeEventAt = false := by
        rw [htime, hw]
        simp [isStaleEvent, not_lt.mp hlt]
      refine Prog.Runs.mono (runs_applySubscriptionChange hs clock webhookEventId hrow hfresh hmeta) fun _ s' h' => ?_
      obtain ⟨hproj, limit, -, hsynced⟩ := h'
      obtain ⟨row', hrow', hprojection⟩ := Option.map_eq_some_iff.mp hproj
      rw [accept, if_neg hlt]
      refine ⟨row', hrow', ?_, ?_⟩
      · exact (congrArg Projection.stripeEventAt hprojection).trans htime
      · have hid : row'.id = row.id := congrArg Projection.subscriptionId hprojection
        have hcustomer : row'.val.customerId = row.val.customerId := congrArg Projection.customerId hprojection
        rw [hid, hcustomer, hsynced, syncedTerms_status, hterms]

/-- The same for the delivery of a pending event. -/
lemma deliver_follows (hs : Stored s) (clock : Clock) (hnames : Names sid customerId planVersionId event)
    (heff : effective s.db event = true) (h : Follows sid a s.db) :
    Follows sid (accept a (stamped event)) (deliver clock event s).db ∧
      receiptStatus event.id (deliver clock event s).db = some .processed ∧
      ∀ id, id ≠ event.id → receiptStatus id (deliver clock event s).db = receiptStatus id s.db := by
  obtain ⟨change, hchange, rfl, hc, hp⟩ := hnames.change
  obtain ⟨t, htime⟩ := hnames.time
  rw [effective, Bool.and_eq_true, hchange, Option.all_some] at heff
  have hstamp : stamped event = (t, change.status) := by
    rw [stamped, htime, hchange]
    rfl
  rw [hstamp]
  refine deliver_pending hs clock heff.1 (fun d d' hsame => ?_) fun s₁ id hs₁ hsame => ?_
  · exact Follows.congr (hsame .subscriptions (by decide)) (hsame .licenses (by decide))
  · rw [applySupportedEvent_change hchange]
    refine runs_applySubscriptionChange_follows hs₁ clock id hc hp ?_ htime ?_
    · rw [metadataStored, funext (Db.has_congr (hsame .customerProfiles (by decide))),
        funext (Db.has_congr (hsame .planVersions (by decide)))]
      exact heff.2
    · exact h.congr (hsame .subscriptions (by decide)) (hsame .licenses (by decide))

/-- Any other delivery changes nothing. -/
lemma deliver_ineffective (hs : Stored s) (clock : Clock) (hnames : Names sid customerId planVersionId event)
    (hstored : (∀ change, change.customerId = some customerId → change.planVersionId = some planVersionId →
      metadataStored change s.db = true) ∨ subscriptionOf sid s.db = none)
    (heff : effective s.db event = false) : (deliver clock event s).db = s.db := by
  obtain ⟨change, hchange, rfl, hc, hp⟩ := hnames.change
  rw [effective, hchange, Option.all_some] at heff
  cases hpending : pending event s.db with
  | false => exact deliver_again clock hnames.received hpending
  | true =>
    have hmeta : metadataStored change s.db = false := by simpa [hpending] using heff
    rcases hstored with hstored | hnew
    · rw [hstored change hc hp] at hmeta
      cases hmeta
    · refine deliver_fails hs clock hpending fun s₁ id hs₁ hsame => ?_
      rw [applySupportedEvent_change hchange]
      refine fails_applySubscriptionChange_new hs₁ clock id ?_ hc hp ?_
      · exact (subscriptionOf_congr (hsame .subscriptions (by decide))).trans hnew
      · rw [metadataStored, funext (Db.has_congr (hsame .customerProfiles (by decide))),
          funext (Db.has_congr (hsame .planVersions (by decide)))]
        exact hmeta

/-- The metadata of all events are stored, or the subscription is not. -/
def Ready (sid : String) (customerId planVersionId : ℕ) (d : Database) : Prop :=
  (d.has .customerProfiles customerId = true ∧ d.has .planVersions planVersionId = true) ∨
    (subscriptionOf sid d = none ∧ ¬(d.has .customerProfiles customerId = true ∧ d.has .planVersions planVersionId = true))

lemma Names.effective_iff {d : Database} (h : Names sid customerId planVersionId event) :
    effective d event = (pending event d &&
      (d.has .customerProfiles customerId && d.has .planVersions planVersionId)) := by
  obtain ⟨change, hchange, -, hc, hp⟩ := h.change
  simp [effective, hchange, metadataStored, hc, hp]

/-- What the deliveries `ds` leave: the first deliveries of the effective events count. -/
theorem deliverAll_follows {ds : List (Clock × ParsedStripeEvent)} (hs : Stored s) (h : Follows sid a s.db)
    (hready : Ready sid customerId planVersionId s.db)
    (hds : ∀ d ∈ ds, Names sid customerId planVersionId d.2) :
    Follows sid (((keepFirst (·.id) ((ds.map Prod.snd).filter (effective s.db))).map stamped).foldl accept a)
      (deliverAll ds s).db := by
  induction ds generalizing s a with
  | nil => exact h
  | cons d ds ih =>
    obtain ⟨clock, event⟩ := d
    have hnames := hds (clock, event) (by simp)
    have hrest : ∀ d ∈ ds, Names sid customerId planVersionId d.2 := fun d hd => hds d (by simp [hd])
    have hs' : Stored (deliver clock event s) := deliver_stored hs clock event
    cases heff : effective s.db event with
    | false =>
      have hdb : (deliver clock event s).db = s.db := by
        refine deliver_ineffective hs clock hnames (hready.imp (fun hstored change hc hp => ?_) And.left) heff
        simp [metadataStored, hc, hp, hstored]
      have hskip := ih hs' (by rwa [hdb]) (by rwa [hdb]) hrest
      rw [hdb] at hskip
      rwa [List.map_cons, List.filter_cons_of_neg (by simp [heff])]
    | true =>
      obtain ⟨hfollows, hreceipt, hothers⟩ := deliver_follows hs clock hnames heff h
      have hstored : s.db.has .customerProfiles customerId = true ∧ s.db.has .planVersions planVersionId = true := by
        rw [hnames.effective_iff] at heff
        simpa using (Bool.and_eq_true_iff.mp heff).2
      have hready' : Ready sid customerId planVersionId (deliver clock event s).db := by
        refine .inl ?_
        rwa [Db.has_congr (deliver_table (s := s) clock event (t := .customerProfiles) (by decide)),
          Db.has_congr (deliver_table (s := s) clock event (t := .planVersions) (by decide))]
      have hstep := ih hs' hfollows hready' hrest
      rw [List.map_cons, List.filter_cons_of_pos heff, keepFirst, List.map_cons, List.foldl_cons]
      have hlater : (ds.map Prod.snd).filter (effective (deliver clock event s).db) =
          ((ds.map Prod.snd).filter (effective s.db)).filter fun x => decide (x.id ≠ event.id) := by
        rw [List.filter_filter]
        refine List.filter_congr fun x _ => ?_
        rw [effective_applied hreceipt hothers, Bool.and_comm]
      rwa [hlater, keepFirst_filter] at hstep

/-- The licenses that all delivery orders leave agree exactly if the statuses of the effective events
are `OrderFree`. -/
theorem licenseIndependent_iff {es : List ParsedStripeEvent} (hs : Stored s)
    (hnew : subscriptionOf sid s.db = none) (hes : NewBatch sid customerId planVersionId es) (clock : Clock) :
    LicenseIndependent sid clock es s ↔ OrderFree ((es.filter (effective s.db)).map stamped) := by
  have hready : Ready sid customerId planVersionId s.db := by
    by_cases hstored : s.db.has .customerProfiles customerId = true ∧ s.db.has .planVersions planVersionId = true
    · exact .inl hstored
    · exact .inr ⟨hnew, hstored⟩
  have hview : ∀ ds : List (Clock × ParsedStripeEvent), (∀ e, e ∈ ds.map Prod.snd ↔ e ∈ es) →
      linkedStatus sid (deliverAll ds s).db = licenseOf (((keepFirst (·.id)
        ((ds.map Prod.snd).filter (effective s.db))).map stamped).foldl accept none) := by
    intro ds hds
    have hnames : ∀ d ∈ ds, Names sid customerId planVersionId d.2 := fun d hd =>
      hes.names d.2 ((hds d.2).mp (List.mem_map_of_mem hd))
    exact (deliverAll_follows (a := none) hs hnew hready hnames).linked
  have hsorted : ((es.filter (effective s.db)).map stamped).Pairwise fun a b => a.1 < b.1 :=
    hes.sorted.sublist (List.filter_sublist.map _)
  have hagree := deliveries_agree_iff (linkedStatus sid)
    (fun l => licenseOf ((l.map stamped).foldl accept none)) hes.ids hview clock
  refine Iff.trans hagree (Iff.trans ?_ (orders_agree_iff hsorted))
  constructor
  · intro h l' hperm
    obtain ⟨l, hl, rfl⟩ := exists_perm_map hperm
    exact h l hl
  · exact fun h l hl => h _ (hl.map _)

def changedEvent (id : String) (created : ℤ) (status : String) : ParsedStripeEvent :=
  stripeObject id "customer.subscription.updated" created
    (.obj [("id", .str "sub_2"), ("status", .str status), ("metadata",
      .obj [("forgecustomer_customer_id", .str "00000000-0000-0000-0000-000000000000"),
        ("plan_version_id", .str "00000000-0000-0000-0000-000000000003")])])

/-- A subscription that is active at 10 and past due at 20. -/
def dunning : List ParsedStripeEvent := [changedEvent "evt_1" 10 "active", changedEvent "evt_2" 20 "past_due"]

lemma newBatch_dunning : NewBatch "sub_2" 0 3 dunning where
  names := by
    intro e he
    rcases List.mem_pair.mp he with rfl | rfl
    · exact ⟨⟨_, rfl, by decide, by decide, by decide⟩, rfl, ⟨_, rfl⟩⟩
    · exact ⟨⟨_, rfl, by decide, by decide, by decide⟩, rfl, ⟨_, rfl⟩⟩
  sorted := by decide
  ids := by decide

/-- In time order the license is issued and stays active; the other way round there never is one. -/
theorem license_never_issued : Stored sampleStore ∧ subscriptionOf "sub_2" sampleStore.db = none ∧
    NewBatch "sub_2" 0 3 dunning ∧ ¬LicenseIndependent "sub_2" sampleClock dunning sampleStore := by
  refine ⟨sampleStore_stored, by decide, newBatch_dunning, fun h => ?_⟩
  have hds := h [(sampleClock, changedEvent "evt_2" 20 "past_due"), (sampleClock, changedEvent "evt_1" 10 "active")]
    (by simp [dunning, or_comm])
  revert hds
  decide

theorem licenseIndependent_iff_dunning : LicenseIndependent "sub_2" sampleClock dunning sampleStore ↔
    OrderFree ((dunning.filter (effective sampleStore.db)).map stamped) :=
  licenseIndependent_iff sampleStore_stored (by decide) newBatch_dunning sampleClock

end ForgeCustomer.LicenseOrder
