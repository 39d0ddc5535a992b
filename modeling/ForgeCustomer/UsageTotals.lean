import ForgeCustomer.ServiceOperations
import ForgeCustomer.UsagePeriods

/-!
# Usage totals

`usage_period_totals` is derived: `used` from the ledger and `reserved` from the pending reservations. While a
transaction runs the two sides are apart by what it has not folded yet; when it ends they agree.
-/
namespace ForgeCustomer.UsageTotals
open SqlTables SqlPrograms SqlStatements DomainRules StripeEvents DatabaseTables AuditWriters LicensingRepository
  CommerceRepository CustomerRepository EntitlementsRepository PrivacyRepository UsageRepository UsagePeriods
  ServiceOperations AdminRepository TableName

/-- A customer's meter in one period. -/
structure Period where
  customerId : ℕ
  meterKey : String
  periodKey : String
deriving DecidableEq

def reservationPeriod (r : UsageReservation) : Period := ⟨r.customerId, r.meterKey, r.periodKey⟩

def eventPeriod (r : UsageEvent) : Period := ⟨r.customerId, r.meterKey, r.periodKey⟩

def totalPeriod (r : UsagePeriodTotal) : Period := ⟨r.customerId, r.meterKey, r.periodKey⟩

/-- The sum of the ledger in a period. -/
def usedIn (k : Period) (d : Database) : ℚ :=
  (((d usageEvents).filter fun e => eventPeriod e.val == k).map (·.val.amount)).sum

def pendingRows (k : Period) (d : Database) : List ReservationRow :=
  (d usageReservations).filter fun e => e.val.status == .pending && reservationPeriod e.val == k

/-- The sum of the pending reservations of a period. -/
def pendingIn (k : Period) (d : Database) : ℚ := sumAmounts (pendingRows k d)

def totalsOf (k : Period) (d : Database) : ℚ × ℚ := currentTotals k.customerId k.meterKey k.periodKey d

/-- `usage_period_totals`, computed again from the ledger and the reservations. -/
def rebuilt (d : Database) : List (Entry UsagePeriodTotal) :=
  (d usagePeriodTotals).map fun e =>
    ⟨e.id, { e.val with used := usedIn (totalPeriod e.val) d, reserved := pendingIn (totalPeriod e.val) d }⟩

/-- The totals equal their sources, so that freeing any pending reservations of a period never meets the clamp, and
rebuilding the totals changes nothing. -/
structure Derived (d : Database) : Prop where
  totals : ∀ k, totalsOf k d = (usedIn k d, pendingIn k d)
  unclamped : ∀ k rows, rows.Sublist (pendingRows k d) → sumAmounts rows ≤ (totalsOf k d).2
  rebuilt : rebuilt d = d usagePeriodTotals

/-- What a reservation holds in each period. -/
def heldBy (r : UsageReservation) : Period → ℚ :=
  if r.status = .pending then Pi.single (reservationPeriod r) r.amount else 0

def holds (rows : List ReservationRow) : Period → ℚ := (rows.map fun e => heldBy e.val).sum

def chargedBy (r : UsageEvent) : Period → ℚ := Pi.single (eventPeriod r) r.amount

def charges (rows : List UsageEventRow) : Period → ℚ := (rows.map fun e => chargedBy e.val).sum

lemma holds_append (rows rows' : List ReservationRow) : holds (rows ++ rows') = holds rows + holds rows' := by
  simp [holds]

lemma charges_append (rows rows' : List UsageEventRow) : charges (rows ++ rows') = charges rows + charges rows' := by
  simp [charges]

lemma usedIn_eq (k : Period) (d : Database) : usedIn k d = charges (d usageEvents) k := by
  unfold usedIn
  induction d usageEvents with
  | nil => rfl
  | cons e rows ih =>
    have hcons : charges (e :: rows) k = chargedBy e.val k + charges rows k := by simp [charges]
    rw [hcons, ← ih, List.filter_cons, chargedBy, Pi.single_apply]
    by_cases hk : eventPeriod e.val = k
    · simp [hk]
    · simp [hk, Ne.symm hk]

lemma sumAmounts_pending (k : Period) (rows : List ReservationRow) :
    sumAmounts (rows.filter fun e => e.val.status == .pending && reservationPeriod e.val == k) = holds rows k := by
  induction rows with
  | nil => rfl
  | cons e rows ih =>
    have hcons : holds (e :: rows) k = heldBy e.val k + holds rows k := by simp [holds]
    rw [hcons, ← ih, List.filter_cons, heldBy]
    by_cases hp : e.val.status = .pending
    · by_cases hk : reservationPeriod e.val = k
      · simp [hp, hk, sumAmounts]
      · simp [hp, hk, Ne.symm hk]
    · simp [hp]

lemma pendingIn_eq (k : Period) (d : Database) : pendingIn k d = holds (d usageReservations) k := sumAmounts_pending k _

/-- Closing reservations takes away what they held. -/
lemma holds_update {p : ReservationRow → Bool} {status : ReservationStatus} (hstatus : status ≠ .pending)
    (rows : List ReservationRow) :
    holds (updateRows p (setReservation status) rows) = holds rows - holds (rows.filter p) := by
  induction rows with
  | nil => simp [holds, updateRows]
  | cons e rows ih =>
    have hcons : ∀ (e : ReservationRow) rows, holds (e :: rows) = heldBy e.val + holds rows := by simp [holds]
    have hupdate : updateRows p (setReservation status) (e :: rows) =
        updateEntry p (setReservation status) e :: updateRows p (setReservation status) rows := rfl
    rw [hupdate, hcons, hcons, ih, List.filter_cons, updateEntry]
    have hclosed : heldBy (setReservation status e.val) = 0 := if_neg hstatus
    split_ifs with hp
    · rw [hcons, hclosed]
      abel
    · abel

/-- The holds of pending reservations of one period. -/
lemma holds_of_period {k : Period} {rows : List ReservationRow}
    (h : ∀ e ∈ rows, e.val.status = .pending ∧ reservationPeriod e.val = k) :
    holds rows = Pi.single k (sumAmounts rows) := by
  induction rows with
  | nil => simp [holds, sumAmounts]
  | cons e rows ih =>
    obtain ⟨hp, hk⟩ := h e (by simp)
    have hcons : holds (e :: rows) = heldBy e.val + holds rows := by simp [holds]
    rw [hcons, ih fun x hx => h x (by simp [hx]), heldBy, if_pos hp, hk, ← Pi.single_add]
    simp [sumAmounts]

lemma heldBy_nonneg {r : UsageReservation} (h : 0 ≤ r.amount) : 0 ≤ heldBy r := by
  unfold heldBy
  split_ifs
  · exact Pi.single_nonneg.mpr h
  · exact le_refl 0

lemma holds_nonneg {rows : List ReservationRow} (h : ∀ e ∈ rows, 0 ≤ e.val.amount) : 0 ≤ holds rows := by
  refine List.sum_nonneg fun x hx => ?_
  obtain ⟨e, he, rfl⟩ := List.mem_map.mp hx
  exact heldBy_nonneg (h e he)

/-- The totals lack `unfolded` charges and still have `unfreed` holds. -/
structure Apart (unfolded unfreed : Period → ℚ) (d : Database) : Prop where
  totals : ∀ k, totalsOf k d = (charges (d usageEvents) k - unfolded k, holds (d usageReservations) k + unfreed k)
  amounts : ∀ e ∈ d usageReservations, 0 ≤ e.val.amount
  once : ((d usagePeriodTotals).map fun e => totalPeriod e.val).Nodup

/-- Between transactions nothing is apart. -/
abbrev Level (d : Database) : Prop := Apart 0 0 d

variable {unfolded unfreed : Period → ℚ} {d d' : Database} {k : Period} {s : DbStore}

abbrev isTotalsOf (k : Period) : Entry UsagePeriodTotal → Bool := isTotals k.customerId k.meterKey k.periodKey

lemma isTotalsOf_iff {e : Entry UsagePeriodTotal} : isTotalsOf k e = true ↔ totalPeriod e.val = k := by
  obtain ⟨customerId, meterKey, periodKey⟩ := k
  simp [isTotals, totalPeriod, and_assoc]

/-- The totals row of a period. -/
def rowOf (k : Period) (d : Database) : Option (Entry UsagePeriodTotal) := (d usagePeriodTotals).find? (isTotalsOf k)

lemma totalsOf_some {e : Entry UsagePeriodTotal} (h : rowOf k d = some e) : totalsOf k d = (e.val.used, e.val.reserved) :=
  currentTotals_of_find h

lemma totalsOf_none (h : rowOf k d = none) : totalsOf k d = (0, 0) := by
  unfold totalsOf currentTotals
  rw [show (d usagePeriodTotals).find? _ = none from h]
  rfl

lemma totalsOf_congr (h : rowOf k d' = rowOf k d) : totalsOf k d' = totalsOf k d := by
  cases hrow : rowOf k d with
  | none => rw [totalsOf_none hrow, totalsOf_none (h.trans hrow)]
  | some e => rw [totalsOf_some hrow, totalsOf_some (h.trans hrow)]

lemma totalsOf_put {t : TableName} (ht : usagePeriodTotals ≠ t) (k : Period) (d : Database) (rows : List (Entry (Row t))) :
    totalsOf k (d.put t rows) = totalsOf k d := totalsOf_congr (by rw [rowOf, Db.put_of_ne _ ht, rowOf])

lemma Apart.frame (h : Apart unfolded unfreed d) (hevents : d' usageEvents = d usageEvents)
    (hreservations : d' usageReservations = d usageReservations)
    (htotals : d' usagePeriodTotals = d usagePeriodTotals) : Apart unfolded unfreed d' where
  totals k := by
    rw [hevents, hreservations, ← h.totals k]
    exact totalsOf_congr (by rw [rowOf, htotals, rowOf])
  amounts := by
    rw [hreservations]
    exact h.amounts
  once := by
    rw [htotals]
    exact h.once

/-- Two ways of stating what is apart. -/
lemma Apart.cast {unfolded' unfreed' : Period → ℚ} (h : Apart unfolded unfreed d) (hu : unfolded' = unfolded)
    (hf : unfreed' = unfreed) : Apart unfolded' unfreed' d := by
  rwa [hu, hf]

/-- The reserved total never falls below what is still to be freed. -/
lemma Apart.unfreed_le (h : Apart unfolded unfreed d) (k : Period) : unfreed k ≤ (totalsOf k d).2 := by
  rw [h.totals k]
  exact le_add_of_nonneg_left (holds_nonneg h.amounts k)

/-- Closing reservations leaves their holds to be freed. -/
lemma Apart.close (h : Apart unfolded unfreed d) {p : ReservationRow → Bool} {status : ReservationStatus}
    (hstatus : status ≠ .pending) :
    Apart unfolded (unfreed + holds ((d usageReservations).filter p))
      (d.put usageReservations (updateRows p (setReservation status) (d usageReservations))) where
  totals k := by
    rw [totalsOf_put (by decide), Db.put_self, Db.put_of_ne _ (by decide), holds_update hstatus, h.totals k]
    simp only [Pi.add_apply, Pi.sub_apply]
    ring_nf
  amounts := by
    rw [Db.put_self]
    intro e he
    obtain ⟨e₀, he₀, rfl⟩ := mem_updateRows.mp he
    split_ifs
    · exact h.amounts e₀ he₀
    · exact h.amounts e₀ he₀
  once := by
    rw [Db.put_of_ne _ (by decide)]
    exact h.once

/-- A new reservation, whose hold the totals lack. -/
lemma Apart.reserve (h : Apart unfolded unfreed d) {r : UsageReservation} (hr : 0 ≤ r.amount) (n : ℕ) :
    Apart unfolded (unfreed - heldBy r) (d.put usageReservations (d usageReservations ++ [⟨n, r⟩])) where
  totals k := by
    have hnew : holds [⟨n, r⟩] = heldBy r := by simp [holds]
    rw [totalsOf_put (by decide), Db.put_self, Db.put_of_ne _ (by decide), holds_append, h.totals k, hnew]
    simp only [Pi.add_apply, Pi.sub_apply]
    ring_nf
  amounts := by
    rw [Db.put_self]
    intro e he
    rcases List.mem_append.mp he with he | he
    · exact h.amounts e he
    · rwa [List.mem_singleton.mp he]
  once := by
    rw [Db.put_of_ne _ (by decide)]
    exact h.once

/-- A new event, whose charge the totals lack. -/
lemma Apart.charge (h : Apart unfolded unfreed d) (r : UsageEvent) (n : ℕ) :
    Apart (unfolded + chargedBy r) unfreed (d.put usageEvents (d usageEvents ++ [⟨n, r⟩])) where
  totals k := by
    have hnew : charges [⟨n, r⟩] = chargedBy r := by simp [charges]
    rw [totalsOf_put (by decide), Db.put_self, Db.put_of_ne _ (by decide), charges_append, h.totals k, hnew]
    simp only [Pi.add_apply]
    ring_nf
  amounts := by
    rw [Db.put_of_ne _ (by decide)]
    exact h.amounts
  once := by
    rw [Db.put_of_ne _ (by decide)]
    exact h.once

/-- The first totals row of a period. -/
lemma Apart.insertTotals (h : Apart unfolded unfreed d) {v : UsagePeriodTotal} (hnone : rowOf (totalPeriod v) d = none)
    (n : ℕ) : Apart (unfolded - Pi.single (totalPeriod v) v.used) (unfreed + Pi.single (totalPeriod v) v.reserved)
      (d.put usagePeriodTotals (d usagePeriodTotals ++ [⟨n, v⟩])) where
  totals k := by
    rw [Db.put_of_ne _ (by decide), Db.put_of_ne _ (by decide)]
    by_cases hk : totalPeriod v = k
    · subst hk
      have hrow : rowOf (totalPeriod v) (d.put usagePeriodTotals (d usagePeriodTotals ++ [⟨n, v⟩])) = some ⟨n, v⟩ := by
        rw [rowOf] at hnone ⊢
        rw [Db.put_self, List.find?_append, hnone]
        simp [isTotals, totalPeriod]
      have hzero := h.totals (totalPeriod v)
      rw [totalsOf_none hnone, Prod.mk.injEq] at hzero
      obtain ⟨hused, hreserved⟩ := hzero
      rw [totalsOf_some hrow]
      simp only [Pi.sub_apply, Pi.add_apply, Pi.single_eq_same, Prod.mk.injEq]
      constructor <;> linarith
    · have hrow : rowOf k (d.put usagePeriodTotals (d usagePeriodTotals ++ [⟨n, v⟩])) = rowOf k d := by
        have hnot : isTotalsOf k (⟨n, v⟩ : Entry UsagePeriodTotal) = false :=
          (Bool.not_eq_true _).mp fun hv => hk (isTotalsOf_iff.mp hv)
        rw [rowOf, Db.put_self, List.find?_append, List.find?_cons_of_neg (by simp [hnot]), rowOf]
        simp
      rw [totalsOf_congr hrow, h.totals k]
      simp [Pi.single_eq_of_ne (Ne.symm hk)]
  amounts := by
    rw [Db.put_of_ne _ (by decide)]
    exact h.amounts
  once := by
    rw [Db.put_self, List.map_append, List.map_singleton]
    refine List.nodup_append.mpr ⟨h.once, List.nodup_singleton _, fun x hx y hy => ?_⟩
    rintro rfl
    obtain ⟨e, he, hperiod⟩ := List.mem_map.mp hx
    rw [List.mem_singleton] at hy
    have hfound := List.find?_eq_none.mp hnone e he
    exact hfound (isTotalsOf_iff.mpr (hperiod.trans hy))

lemma rowOf_updated {p : Entry UsagePeriodTotal → Bool} (f : UsagePeriodTotal → UsagePeriodTotal)
    (hkeep : ∀ r, totalPeriod (f r) = totalPeriod r) (k : Period) (d : Database) :
    rowOf k (d.put usagePeriodTotals (updateRows p f (d usagePeriodTotals))) = (rowOf k d).map (updateEntry p f) := by
  rw [rowOf, Db.put_self]
  refine find_updateRows fun e _ _ => ?_
  rw [Bool.eq_iff_iff, isTotalsOf_iff, isTotalsOf_iff, hkeep]

/-- An update of the totals of one period that moves them by `charged` and `freed`. -/
lemma Apart.updateTotals (h : Apart unfolded unfreed d) {p : Entry UsagePeriodTotal → Bool}
    {f : UsagePeriodTotal → UsagePeriodTotal} {charged freed : ℚ}
    (hp : ∀ e ∈ d usagePeriodTotals, p e = true → isTotalsOf k e = true) (hrow : ∀ e, rowOf k d = some e → p e = true)
    (hkeep : ∀ r, totalPeriod (f r) = totalPeriod r)
    (hf : ∀ e, rowOf k d = some e → ((f e.val).used, (f e.val).reserved) = (e.val.used + charged, e.val.reserved - freed))
    (hmissing : rowOf k d = none → charged = 0 ∧ freed = 0) :
    Apart (unfolded - Pi.single k charged) (unfreed - Pi.single k freed)
      (d.put usagePeriodTotals (updateRows p f (d usagePeriodTotals))) where
  totals k' := by
    have hfind := rowOf_updated (p := p) f hkeep k' d
    rw [Db.put_of_ne _ (by decide), Db.put_of_ne _ (by decide)]
    have hbefore := h.totals k'
    by_cases hk : k' = k
    · subst hk
      simp only [Pi.sub_apply, Pi.single_eq_same]
      cases hsome : rowOf k' d with
      | none =>
        obtain ⟨rfl, rfl⟩ := hmissing hsome
        rw [hsome] at hfind
        rw [totalsOf_none hsome] at hbefore
        rw [totalsOf_none hfind, hbefore]
        simp
      | some e =>
        rw [hsome] at hfind
        rw [totalsOf_some hsome, Prod.mk.injEq] at hbefore
        obtain ⟨hused, hreserved⟩ := hbefore
        rw [totalsOf_some hfind, updateEntry, if_pos (hrow e hsome), hf e hsome, hused, hreserved, Prod.mk.injEq]
        constructor <;> ring
    · simp only [Pi.sub_apply, Pi.single_eq_of_ne hk, sub_zero]
      rw [← hbefore]
      refine totalsOf_congr ?_
      rw [hfind]
      cases hsome : rowOf k' d with
      | none => rfl
      | some e =>
        have hnot : ¬p e = true := fun hpe => hk <| by
          rw [← isTotalsOf_iff.mp (hp e (List.mem_of_find?_eq_some hsome) hpe)]
          exact (isTotalsOf_iff.mp (List.find?_some hsome)).symm
        rw [Option.map_some, updateEntry, if_neg hnot]
  amounts := by
    rw [Db.put_of_ne _ (by decide)]
    exact h.amounts
  once := by
    rw [Db.put_self]
    have hsame : (updateRows p f (d usagePeriodTotals)).map (fun e => totalPeriod e.val) =
        (d usagePeriodTotals).map fun e => totalPeriod e.val := by
      rw [updateRows, List.map_map]
      refine List.map_congr_left fun e _ => ?_
      dsimp only [Function.comp]
      split_ifs
      · exact hkeep e.val
      · rfl
    rw [hsame]
    exact h.once

/-- Freeing holds that are still in the totals: the clamp is not met. -/
lemma Apart.free (h : Apart unfolded unfreed d) {amount : ℚ} (hpos : 0 ≤ amount) (hle : amount ≤ unfreed k) :
    Apart unfolded (unfreed - Pi.single k amount)
      (d.put usagePeriodTotals (updateRows (isTotalsOf k) (freeHold amount) (d usagePeriodTotals))) := by
  have hreserved := hle.trans (h.unfreed_le k)
  have hfreed : Apart (unfolded - Pi.single k 0) (unfreed - Pi.single k amount)
      (d.put usagePeriodTotals (updateRows (isTotalsOf k) (freeHold amount) (d usagePeriodTotals))) := by
    refine h.updateTotals (fun _ _ hp => hp) (fun e he => List.find?_some he) (fun _ => rfl) (fun e he => ?_)
      fun hnone => ⟨rfl, ?_⟩
    · rw [totalsOf_some he] at hreserved
      have hclamp : max 0 (e.val.reserved - amount) = e.val.reserved - amount := max_eq_right (sub_nonneg.mpr hreserved)
      simp [freeHold, hclamp]
    · rw [totalsOf_none hnone] at hreserved
      exact le_antisymm hreserved hpos
  exact hfreed.cast (by simp) rfl

/-- A hold for a reservation, in a period that has its row. -/
lemma Apart.hold (h : Apart unfolded unfreed d) (hrow : (rowOf k d).isSome = true) (amount : ℚ) :
    Apart unfolded (unfreed + Pi.single k amount) (d.put usagePeriodTotals
      (updateRows (isTotalsOf k) (fun r => { r with reserved := r.reserved + amount }) (d usagePeriodTotals))) := by
  have hheld : Apart (unfolded - Pi.single k 0) (unfreed - Pi.single k (-amount)) (d.put usagePeriodTotals
      (updateRows (isTotalsOf k) (fun r => { r with reserved := r.reserved + amount }) (d usagePeriodTotals))) := by
    refine h.updateTotals (fun _ _ hp => hp) (fun e he => List.find?_some he) (fun _ => rfl) (fun e _ => by simp)
      fun hnone => ?_
    rw [hnone] at hrow
    cases hrow
  exact hheld.cast (by simp) (by rw [Pi.single_neg, sub_neg_eq_add])

/-- Folding a charge and freeing the hold that it replaces. -/
lemma Apart.fold {amount freed : ℚ} (h : Apart (Pi.single k amount) (Pi.single k freed) d)
    (hrow : (rowOf k d).isSome = true) : Level (d.put usagePeriodTotals (updateRows (isTotalsOf k)
      (fun r => { freeHold freed r with used := r.used + amount }) (d usagePeriodTotals))) := by
  have hreserved : freed ≤ (totalsOf k d).2 := by simpa using h.unfreed_le k
  have hfolded : Apart (Pi.single k amount - Pi.single k amount) (Pi.single k freed - Pi.single k freed)
      (d.put usagePeriodTotals (updateRows (isTotalsOf k)
        (fun r => { freeHold freed r with used := r.used + amount }) (d usagePeriodTotals))) := by
    refine h.updateTotals (fun _ _ hp => hp) (fun e he => List.find?_some he) (fun _ => rfl) (fun e he => ?_)
      fun hnone => ?_
    · rw [totalsOf_some he] at hreserved
      have hclamp : max 0 (e.val.reserved - freed) = e.val.reserved - freed := max_eq_right (sub_nonneg.mpr hreserved)
      simp [freeHold, hclamp]
    · rw [hnone] at hrow
      cases hrow
  exact hfolded.cast (sub_self _).symm (sub_self _).symm

section Statements
variable {ε : Type} {α : Type}

/-- The tables that totals depend on. -/
def sources : List TableName := [usageEvents, usageReservations, usagePeriodTotals]

lemma Apart.same (h : Apart unfolded unfreed d) (hsame : ∀ t ∈ sources, d' t = d t) : Apart unfolded unfreed d' :=
  h.frame (hsame _ (by decide)) (hsame _ (by decide)) (hsame _ (by decide))

/-- Programs that write to none of them. -/
lemma Apart.ensures_others {S : List TableName} {p : Tx ε α} (h : Apart unfolded unfreed s.db) (hp : Checked S p)
    (hS : ∀ t ∈ sources, t ∉ S) :
    p.Ensures s fun _ s' => Apart unfolded unfreed s'.db ∧ ∀ k, rowOf k s'.db = rowOf k s.db :=
  Prog.Ensures.mono hp.ensures_frame fun _ s' hsame =>
    ⟨h.same fun t ht => hsame t (hS t ht), fun k => by rw [rowOf, hsame _ (hS _ (by decide)), rowOf]⟩

variable [FromSql ε]

lemma rowOf_none_of_taken {v : UsagePeriodTotal} (h : d.taken (κ := UniqueKey) usagePeriodTotals v = false) :
    rowOf (totalPeriod v) d = none := by
  rw [rowOf, List.find?_eq_none]
  intro e he hrow
  have hany : ¬((uniqueKeys usagePeriodTotals e.val).any fun k => (uniqueKeys usagePeriodTotals v).contains k) = true :=
    List.any_eq_false.mp (h : (d usagePeriodTotals).any _ = false) e he
  rw [congrFun (conflicts_totals v) e] at hany
  exact hany hrow

/-- Afterwards the period has its row. -/
lemma Apart.ensures_lockTotals (h : Level s.db) (k : Period) :
    (lockTotals k.customerId k.meterKey k.periodKey : Tx ε _).Ensures s fun _ s' =>
      Level s'.db ∧ (rowOf k s'.db).isSome = true := by
  refine ensures_insertUnless_cases.bind fun inserted s₁ h₁ => ?_
  have hlevel : Level s₁.db := by
    rcases h₁ with ⟨-, hdb⟩ | ⟨-, -, htaken, hdb⟩
    · rwa [hdb]
    · rw [hdb]
      exact (h.insertTotals (rowOf_none_of_taken htaken) _).cast (by simp) (by simp)
  refine ensures_selectOneForUpdate.bind fun e s₂ h₂ => .pure ?_
  obtain ⟨hrow, rfl⟩ := h₂
  exact ⟨hlevel, by rw [show rowOf k s₁.db = some e from hrow]; rfl⟩

/-- A lazy expiry closes stale reservations and frees their holds. -/
lemma Apart.ensures_expire (h : Level s.db) (k : Period) (now : Time) :
    (expireStaleReservations k.customerId k.meterKey k.periodKey now : Tx ε ℚ).Ensures s fun _ s' =>
      Level s'.db ∧ ((rowOf k s.db).isSome = true → (rowOf k s'.db).isSome = true) := by
  set stale := (s.db usageReservations).filter (isStale k.customerId k.meterKey k.periodKey now) with hstale
  have hholds : holds stale = Pi.single k (sumAmounts stale) := by
    refine holds_of_period fun e he => ?_
    have hmatch := (List.mem_filter.mp he).2
    simp only [isStale, Bool.and_eq_true, beq_iff_eq] at hmatch
    obtain ⟨⟨⟨⟨hcustomer, hmeter⟩, hperiod⟩, hpending⟩, -⟩ := hmatch
    exact ⟨hpending, by rw [reservationPeriod, hcustomer, hmeter, hperiod]⟩
  have hpos : 0 ≤ sumAmounts stale := by
    refine List.sum_nonneg fun x hx => ?_
    obtain ⟨e, he, rfl⟩ := List.mem_map.mp hx
    exact h.amounts e (List.mem_of_mem_filter he)
  refine ensures_update.bind fun expired s₁ h₁ => ?_
  obtain ⟨rfl, hdb⟩ := h₁
  have hclosed : Apart 0 (Pi.single k (sumAmounts stale)) s₁.db := by
    rw [hdb]
    exact (h.close (by decide)).cast rfl (by rw [← hholds, zero_add])
  have hrow : rowOf k s₁.db = rowOf k s.db := by rw [rowOf, hdb, Db.put_of_ne _ (by decide), rowOf]
  have hsum : sumAmounts (stale.map fun e => ⟨e.id, setReservation .expired e.val⟩) = sumAmounts stale := by
    rw [sumAmounts, sumAmounts, List.map_map]
    rfl
  rw [← hstale, hsum]
  dsimp only
  split
  · refine ensures_update.bind fun _ s₂ h₂ => .pure ?_
    obtain ⟨-, hdb₂⟩ := h₂
    refine ⟨?_, fun hsome => ?_⟩
    · rw [hdb₂]
      exact (hclosed.free hpos (by simp)).cast rfl (by simp)
    · rw [hdb₂, rowOf_updated (freeHold _) (fun _ => rfl), hrow]
      simpa using hsome
  · rename_i hnot
    have hzero : sumAmounts stale = 0 := le_antisymm (not_lt.mp hnot) hpos
    refine .pure ⟨hclosed.cast rfl (by simp [hzero]), fun hsome => ?_⟩
    rwa [hrow]

/-- Closing one pending reservation and freeing its hold. -/
lemma Apart.ensures_close {e : ReservationRow} (h : Level s.db) (hs : s.Keyed) (he : e ∈ s.db usageReservations)
    (hpending : e.val.status = .pending) {status : ReservationStatus} (hstatus : status ≠ .pending)
    {k : List ReservationRow → Tx ε α} {Q : α → DbStore → Prop}
    (hk : ∀ rows s₁, Apart 0 (Pi.single (reservationPeriod e.val) e.val.amount) s₁.db → (k rows).Ensures s₁ Q) :
    (SqlStatements.update usageReservations (fun x => x.id == e.id) (setReservation status) >>= k).Ensures s Q := by
  refine ensures_update.bind fun rows s₁ h₁ => hk rows s₁ ?_
  rw [h₁.2]
  refine (h.close hstatus).cast rfl ?_
  rw [hs.filter_id he, zero_add]
  simp [holds, heldBy, hpending]

end Statements

lemma checked_recordDecision {ε : Type} [FromSql ε] (record : DecisionRecord) :
    Checked [quotaDecisions] (recordDecision record : Tx ε ℕ) :=
  (checked_insertRow (by decide) _).bind fun _ => .pure _

lemma writeThresholds_outbox (customerId : ℕ) (meterKey periodKey : String) (usedAfter : ℚ) (limit : Option ℚ)
    (utcNow : Time) (thresholds : List ℕ) : Checked [outboxEvents]
      (writeThresholds customerId meterKey periodKey usedAfter limit utcNow thresholds) := by
  induction thresholds with
  | nil => exact .pure ()
  | cons pct thresholds ih => exact (writeOutbox_checked (by decide) _ _ _).bind fun _ => ih

lemma isSome_rowOf {e : Entry UsagePeriodTotal} (he : e ∈ d usagePeriodTotals) (hk : isTotalsOf k e = true) :
    (rowOf k d).isSome = true := by
  rw [rowOf, List.find?_isSome]
  exact ⟨e, he, hk⟩

theorem ensures_reserve (h : Level s.db) (clock : Clock) (input : ReserveInput) :
    (reserve clock input).Ensures s fun _ s' => Level s'.db := by
  let k : Period := ⟨input.customerId, input.meterKey, input.periodKey⟩
  refine ensures_select.bind fun existing s₀ h₀ => ?_
  obtain ⟨-, rfl⟩ := h₀
  cases existing with
  | some existing => exact .pure h
  | none =>
    refine Prog.Ensures.bind (Apart.ensures_lockTotals (s := ⟨s.db, s.seq + 1⟩) h k) fun _ s₁ h₁ => ?_
    refine Prog.Ensures.bind (h₁.1.ensures_expire k clock.now) fun _ s₂ h₂ => ?_
    have hrow := h₂.2 h₁.2
    refine Prog.Ensures.bind (h₂.1.ensures_others (checked_selectOne (S := []) _) (by simp)) fun totals s₃ h₃ => ?_
    refine Prog.Ensures.bind (h₃.1.ensures_others (checked_recordDecision _) (by decide)) fun _ s₄ h₄ => ?_
    rw [← h₃.2, ← h₄.2] at hrow
    split
    · exact .pure h₄.1
    refine ensures_insertUnless_cases.bind fun reservation s₅ h₅ => ?_
    rcases h₅ with ⟨rfl, hdb⟩ | ⟨rfl, hcheck, -, hdb⟩
    · have hlevel : Level s₅.db := by rw [hdb]; exact h₄.1
      exact Prog.Ensures.bind (hlevel.ensures_others (checked_selectOne (S := []) _) (by simp)) fun _ s₆ h₆ => .pure h₆.1
    · have hreserved : Apart 0 (-Pi.single k input.amount) s₅.db := by
        rw [hdb]
        exact (h₄.1.reserve (by simpa [Schema.check, checkRow] using hcheck) _).cast rfl (by simp [heldBy, reservationPeriod, k])
      have hrow₅ : (rowOf k s₅.db).isSome = true := by
        rwa [rowOf, hdb, Db.put_of_ne _ (by decide)]
      refine ensures_update.bind fun _ s₆ h₆ => .pure ?_
      rw [h₆.2]
      exact (hreserved.hold hrow₅ input.amount).cast rfl (neg_add_cancel _).symm

/-- The end of a commit, from the fold on. -/
lemma Apart.ensures_fold {amount freed : ℚ} (h : Apart (Pi.single k amount) (Pi.single k freed) s.db) (clock : Clock)
    (input : CommitInput) (hcustomer : input.customerId = k.customerId) (event : UsageEventRow) :
    (do
      let totals ← updateOne usagePeriodTotals (isTotals input.customerId k.meterKey k.periodKey)
        fun r => { freeHold freed r with used := r.used + amount }
      let usedAfter := totals.val.used
      let thresholds := crossedThresholds (usedAfter - amount) usedAfter input.limit input.thresholdPercents
      writeThresholds input.customerId k.meterKey k.periodKey usedAfter input.limit clock.utcNow thresholds
      pure (.ok (.committed event usedAfter thresholds)) : Tx UsageError (Except UsageError CommitOutcome)).Ensures s
        fun _ s' => Level s'.db := by
  rw [hcustomer]
  refine ensures_updateOne.bind fun totals s₁ h₁ => ?_
  obtain ⟨⟨e, he, hk, -⟩, hdb⟩ := h₁
  have hlevel : Level s₁.db := by
    rw [hdb]
    exact h.fold (isSome_rowOf he hk)
  refine Prog.Ensures.bind (hlevel.ensures_others (writeThresholds_outbox _ _ _ _ _ _ _) (by decide)) fun _ s₂ h₂ => ?_
  exact .pure h₂.1

lemma ensures_append_direct (h : Level s.db) (clock : Clock) (input : CommitInput) (meterKey : String) (amount : ℚ)
    (periodKey : String) : (appendEvent clock input meterKey amount periodKey none).Ensures s fun _ s' => Level s'.db := by
  refine ensures_insertUnless_cases.bind fun event s₁ h₁ => ?_
  rcases h₁ with ⟨rfl, hdb⟩ | ⟨rfl, -, -, hdb⟩
  · have hlevel : Level s₁.db := by rw [hdb]; exact h
    exact Prog.Ensures.bind (hlevel.ensures_others (checked_selectOne (S := []) _) (by simp)) fun _ s₂ h₂ => .pure h₂.1
  · have hcharged : Apart (Pi.single ⟨input.customerId, meterKey, periodKey⟩ amount)
        (Pi.single ⟨input.customerId, meterKey, periodKey⟩ 0) s₁.db := by
      rw [hdb]
      exact (h.charge _ _).cast (by simp [chargedBy, eventPeriod]) (by simp)
    exact hcharged.ensures_fold clock input rfl _

/-- The commit of a pending reservation. -/
lemma ensures_append_held {e : ReservationRow} (h : Level s.db) (hs : s.Keyed) (he : e ∈ s.db usageReservations)
    (hpending : e.val.status = .pending) (clock : Clock) (input : CommitInput)
    (hcustomer : e.val.customerId = input.customerId) :
    (appendEvent clock input e.val.meterKey e.val.amount e.val.periodKey (some e.id)).Ensures s
      fun _ s' => Level s'.db := by
  refine ensures_insertUnless_cases.bind fun event s₁ h₁ => ?_
  rcases h₁ with ⟨rfl, hdb⟩ | ⟨rfl, -, -, hdb⟩
  · have hlevel : Level s₁.db := by rw [hdb]; exact h
    exact Prog.Ensures.bind (hlevel.ensures_others (checked_selectOne (S := []) _) (by simp)) fun _ s₂ h₂ => .pure h₂.1
  · have hcharged : Apart (Pi.single (reservationPeriod e.val) e.val.amount) 0 s₁.db := by
      rw [hdb]
      exact (h.charge _ _).cast (by simp [chargedBy, eventPeriod, reservationPeriod, hcustomer]) rfl
    have hmem : e ∈ s₁.db usageReservations := by rwa [hdb, Db.put_of_ne _ (by decide)]
    have hfilter : (s₁.db usageReservations).filter (fun x => x.id == e.id) = [e] := by
      rw [hdb, Db.put_of_ne _ (by decide)]
      exact hs.filter_id he
    refine Prog.Ensures.bind (Q := fun _ s₂ => Apart (Pi.single (reservationPeriod e.val) e.val.amount)
      (Pi.single (reservationPeriod e.val) e.val.amount) s₂.db) ?_ fun _ s₂ h₂ => ?_
    · refine ensures_update.bind fun _ s₂ h₂ => .pure ?_
      rw [h₂.2]
      refine (hcharged.close (by decide)).cast rfl ?_
      rw [hfilter, zero_add]
      simp [holds, heldBy, hpending]
    · exact h₂.ensures_fold (k := reservationPeriod e.val) clock input hcustomer.symm _

lemma Apart.ensures_free {ε : Type} [FromSql ε] {amount : ℚ} (h : Apart 0 (Pi.single k amount) s.db)
    (hpos : 0 ≤ amount) : (SqlStatements.update usagePeriodTotals (isTotalsOf k) (freeHold amount) : Tx ε _).Ensures s
      fun _ s' => Level s'.db := by
  refine Prog.Ensures.mono ensures_update fun _ s₁ h₁ => ?_
  rw [h₁.2]
  exact (h.free hpos (by simp)).cast rfl (sub_self _).symm

/-- A reservation that is looked up, closed and freed, as a release and a late commit do. -/
lemma ensures_close_and_free {ε : Type} [FromSql ε] {α : Type} {e : ReservationRow} {reservationId customerId : ℕ}
    (h : Level s.db) (hs : s.Keyed) (he : e ∈ s.db usageReservations)
    (hown : isOwnReservation reservationId customerId e = true) (hpending : e.val.status = .pending)
    {status : ReservationStatus} (hstatus : status ≠ .pending) (answer : α) :
    (do
      let _ ← SqlStatements.update usageReservations (fun e => e.id == reservationId) (setReservation status)
      let _ ← SqlStatements.update usagePeriodTotals (isTotals customerId e.val.meterKey e.val.periodKey)
        (freeHold e.val.amount)
      pure answer : Tx ε α).Ensures s fun _ s' => Level s'.db := by
  simp only [isOwnReservation, Bool.and_eq_true, beq_iff_eq] at hown
  obtain ⟨rfl, rfl⟩ := hown
  refine Apart.ensures_close h hs he hpending hstatus fun _ s₁ h₁ => ?_
  exact Prog.Ensures.bind (h₁.ensures_free (h.amounts e he)) fun _ s₂ h₂ => .pure h₂

theorem ensures_release (h : Level s.db) (hs : s.Keyed) (customerId reservationId : ℕ) :
    (release customerId reservationId).Ensures s fun _ s' => Level s'.db := by
  refine ensures_selectForUpdate.bind fun reservation s₀ h₀ => ?_
  obtain ⟨hfind, rfl⟩ := h₀
  cases reservation with
  | none => exact .pure h
  | some e =>
    have hs₀ : (⟨s.db, s.seq + 1⟩ : DbStore).Keyed := hs.mono (Nat.le_succ _)
    dsimp only
    split
    · exact .pure h
    rename_i hpending
    exact ensures_close_and_free (s := ⟨s.db, s.seq + 1⟩) h hs₀ (List.mem_of_find?_eq_some hfind.symm)
      (List.find?_some hfind.symm) (not_not.mp hpending) (by decide) _

theorem ensures_commit (h : Level s.db) (hs : s.Keyed) (clock : Clock) (input : CommitInput) :
    (commit clock input).Ensures s fun _ s' => Level s'.db := by
  refine ensures_select.bind fun existing s₀ h₀ => ?_
  obtain ⟨-, rfl⟩ := h₀
  cases existing with
  | some existing => exact .pure h
  | none =>
    dsimp only
    split
    · refine ensures_selectForUpdate.bind fun reservation s₁ h₁ => ?_
      obtain ⟨hfind, rfl⟩ := h₁
      have hs₁ : (⟨s.db, s.seq + 1 + 1⟩ : DbStore).Keyed := hs.mono (Nat.le_add_right s.seq 2)
      cases reservation with
      | none => exact .fail
      | some e =>
        have hmem : e ∈ s.db usageReservations := List.mem_of_find?_eq_some hfind.symm
        have hown := List.find?_some hfind.symm
        dsimp only
        split
        · exact .fail
        rename_i hpending
        split
        · exact ensures_close_and_free (s := ⟨s.db, s.seq + 1 + 1⟩) h hs₁ hmem hown (not_not.mp hpending) (by decide) _
        · simp only [isOwnReservation, Bool.and_eq_true, beq_iff_eq] at hown
          obtain ⟨rfl, hcustomer⟩ := hown
          exact ensures_append_held (s := ⟨s.db, s.seq + 1 + 1⟩) h hs₁ hmem (not_not.mp hpending) clock input hcustomer
    · rename_i meterKey amount _
      let k : Period := ⟨input.customerId, meterKey, input.periodKey⟩
      refine Prog.Ensures.bind (Apart.ensures_lockTotals (s := ⟨s.db, s.seq + 1⟩) h k) fun _ s₁ h₁ => ?_
      refine Prog.Ensures.bind (h₁.1.ensures_expire k clock.now) fun _ s₂ h₂ => ?_
      refine Prog.Ensures.bind (h₂.1.ensures_others (checked_selectOne (S := []) _) (by simp)) fun totals s₃ h₃ => ?_
      refine Prog.Ensures.bind (h₃.1.ensures_others (checked_recordDecision _) (by decide)) fun _ s₄ h₄ => ?_
      split
      · refine Prog.Ensures.bind (h₄.1.ensures_others (writeOutbox_checked (S := [outboxEvents]) (by decide) _ _ _)
          (by decide)) fun _ s₅ h₅ => .pure h₅.1
      · exact ensures_append_direct h₄.1 clock input _ _ _

/-- What the totals still hold of closed reservations. -/
def owed (rows : List ReservationRow) : Period → ℚ :=
  (rows.map fun e => (Pi.single (reservationPeriod e.val) e.val.amount : Period → ℚ)).sum

lemma owed_cons (e : ReservationRow) (rows : List ReservationRow) :
    owed (e :: rows) = Pi.single (reservationPeriod e.val) e.val.amount + owed rows := by
  simp [owed]

lemma owed_nonneg {rows : List ReservationRow} (h : ∀ e ∈ rows, 0 ≤ e.val.amount) : 0 ≤ owed rows := by
  refine List.sum_nonneg fun x hx => ?_
  obtain ⟨e, he, rfl⟩ := List.mem_map.mp hx
  exact Pi.single_nonneg.mpr (h e he)

/-- Freeing one hold after the other. -/
lemma Apart.ensures_freeHolds {rows : List ReservationRow} (h : Apart 0 (owed rows) s.db)
    (hpos : ∀ e ∈ rows, 0 ≤ e.val.amount) : (freeHolds rows).Ensures s fun _ s' => Level s'.db := by
  induction rows generalizing s with
  | nil => exact .pure h
  | cons e rows ih =>
    obtain ⟨hamount, hrest⟩ := List.forall_mem_cons.mp hpos
    have hle : e.val.amount ≤ owed (e :: rows) (reservationPeriod e.val) := by
      rw [owed_cons, Pi.add_apply, Pi.single_eq_same]
      exact le_add_of_nonneg_right (owed_nonneg hrest _)
    refine ensures_update.bind fun _ s₁ h₁ => ih ?_ hrest
    rw [h₁.2]
    refine (h.free hamount hle).cast rfl ?_
    rw [owed_cons, add_sub_cancel_left]

/-- The rows that a sweep updates are those it has picked. -/
lemma pickExpired_perm {n : ℕ} {now : Time} {batch : ℕ} (env : Env Row UniqueKey) (hd : Keyed n env.db) :
    ((env.db usageReservations).filter fun e =>
      true && ((pickExpired now batch env).map (·.id)).contains e.id).Perm (pickExpired now batch env) := by
  have hrows : (env.db usageReservations).Nodup := (hd.nodup _).of_map _
  refine (List.perm_ext_iff_of_nodup (hrows.filter _) ?_).mpr fun e => ?_
  · exact ((List.perm_insertionSort _ _).nodup_iff.mpr (hrows.filter _)).sublist (List.take_sublist _ _)
  · simp only [List.mem_filter, Bool.true_and, List.contains_iff_mem, List.mem_map]
    constructor
    · rintro ⟨he, e', he', hid⟩
      rwa [← hd.unique (mem_pickExpired he').1 he hid]
    · exact fun he => ⟨(mem_pickExpired he).1, e, he, rfl⟩

theorem ensures_sweep (h : Level s.db) (hs : s.Keyed) (clock : Clock) (batch : ℕ) :
    (sweepExpiredReservations clock batch).Ensures s fun _ s' => Level s'.db := by
  set picked := pickExpired clock.now batch s.env with hpicked
  have hholds : holds picked = owed (picked.map fun e => ⟨e.id, setReservation .expired e.val⟩) := by
    rw [owed, List.map_map, holds]
    refine congrArg List.sum (List.map_congr_left fun e he => ?_)
    rw [heldBy, if_pos (mem_pickExpired he).2.1]
    rfl
  refine Prog.Ensures.bind (Q := fun rows s₁ => Apart 0 (owed rows) s₁.db ∧ ∀ e ∈ rows, 0 ≤ e.val.amount)
    (ensures_statement fun c rows hat => ?_) fun rows s₁ h₁ =>
      Prog.Ensures.bind (h₁.1.ensures_freeHolds h₁.2) fun _ s₂ h₂ => .pure h₂
  cases hat
  refine ⟨?_, fun e he => ?_⟩
  · refine (h.close (by decide)).cast rfl ?_
    have hperm : holds ((s.db usageReservations).filter fun e => true && (picked.map (·.id)).contains e.id) =
        holds picked := ((pickExpired_perm s.env hs).map _).sum_eq
    rw [zero_add, hperm, hholds]
  · obtain ⟨e₀, he₀, rfl⟩ := List.mem_map.mp he
    exact h.amounts e₀ (mem_pickExpired he₀).1

theorem ensures_adjustUsage (h : Level s.db) (hs : Stored s) (input : UsageAdjustmentInput) :
    (adjustUsage input).Ensures s fun _ s' => Level s'.db := by
  let k : Period := ⟨input.customerId, input.meterKey, input.periodKey⟩
  refine ensures_select.bind fun known s₀ h₀ => ?_
  obtain ⟨-, rfl⟩ := h₀
  split
  · exact .fail
  refine ensures_select.bind fun metered s₁ h₁ => ?_
  obtain ⟨-, rfl⟩ := h₁
  split
  · exact .fail
  have hs₁ : Stored (⟨s.db, s.seq + 1 + 1⟩ : DbStore) := hs.advance (n := s.seq + 1 + 1) (Nat.le_add_right s.seq 2)
  refine Prog.Ensures.bind (ensures_insertUnless_cases.and
    ((checked_insertUnless (S := [usageEvents]) (by decide) _).ensures hs₁)) fun inserted s₂ h₂ => ?_
  obtain ⟨hcases, hs₂, -⟩ := h₂
  rcases hcases with ⟨rfl, hdb⟩ | ⟨rfl, -, -, hdb⟩
  · have hlevel : Level s₂.db := by rw [hdb]; exact h
    exact Prog.Ensures.bind (hlevel.ensures_others (checked_selectOne (S := []) _) (by simp)) fun _ s₃ h₃ => .pure h₃.1
  · have hcharged : Apart (Pi.single k input.amount) 0 s₂.db := by
      rw [hdb]
      exact (h.charge _ _).cast (by simp [chargedBy, eventPeriod, k]) rfl
    refine Prog.Ensures.bind (Q := fun _ s₃ => Level s₃.db) (ensures_upsert_cases.mono fun e s₃ h₃ => ?_) fun e s₃ h₃ =>
      Prog.Ensures.bind (h₃.ensures_others (writeOperatorAudit_checked (S := [commercialAuditEvents]) (by decide) _)
        (by decide)) fun _ s₄ h₄ => .pure h₄.1
    rw [holder_totals] at h₃
    rcases h₃ with ⟨e₀, hheld, -, hdb₃⟩ | ⟨hfree, -, hdb₃⟩
    · have hrow : rowOf k s₂.db = some e₀ := hheld
      have hfolded : Apart (Pi.single k input.amount - Pi.single k input.amount) (0 - Pi.single k 0) s₃.db := by
        rw [hdb₃]
        refine hcharged.updateTotals (fun e he hid => ?_) (fun e he => ?_) (fun _ => rfl) (fun e _ => by simp)
          fun hnone => ?_
        · rw [hs₂.keyed.unique he (List.mem_of_find?_eq_some hheld) (by simpa using hid)]
          exact List.find?_some hheld
        · rw [hrow] at he
          simp [Option.some.inj he]
        · rw [hrow] at hnone
          cases hnone
      exact hfolded.cast (sub_self _).symm (by simp)
    · rw [hdb₃]
      exact (hcharged.insertTotals (v := ⟨input.customerId, input.meterKey, input.periodKey, input.amount, 0⟩) hfree
        _).cast (sub_self _).symm (by simp)

lemma level_others {S : List TableName} {s' : DbStore} (h : Level s.db) (hS : ∀ t ∈ sources, t ∉ S)
    (hfollows : Follows S s s') : Level s'.db := h.same fun t ht => hfollows.table (hS t ht)

lemma level_after {ε α : Type} {p : Tx ε α} (h : Level s.db) (hp : p.Ensures s fun _ s' => Level s'.db) :
    Level (after p s).db := after_ensures (R := fun s' => Level s'.db) hp fun _ hdb => hdb ▸ h

lemma level_request (h : Level s.db) (hs : Stored s) (clock : Clock) (ctx : CustomerContext) (customerId : ℕ)
    (request : CustomerRequest) : Level (request.apply clock ctx customerId s).db := by
  have hfollows := request.apply_follows clock ctx customerId s
  cases request with
  | mfaStatus => exact level_others (S := [customerProfiles]) h (by decide) hfollows
  | register => exact level_others (S := registrationTables) h (by decide) hfollows
  | activate => exact level_others (S := activationTables) h (by decide) hfollows
  | heartbeat => exact level_others (S := [installations]) h (by decide) hfollows
  | deactivate => exact level_others (S := [installations, licenseActivations, commercialAuditEvents]) h (by decide) hfollows
  | lease => exact level_others (S := leaseTables) h (by decide) hfollows
  | checkout => exact level_others (S := [checkoutSessions]) h (by decide) hfollows
  | reserve input => exact level_after h (ensures_reserve h clock _)
  | commit input => exact level_after h (ensures_commit h hs.keyed clock _)
  | release reservationId => exact level_after h (ensures_release h hs.keyed customerId reservationId)
  | requestDeletion => exact level_others (S := requestTables) h (by decide) hfollows
  | cancelDeletion => exact level_others (S := requestTables) h (by decide) hfollows

/-- Every operation folds what it has charged and frees what it has closed before it ends. -/
theorem level_apply (h : Level s.db) (hs : Stored s) (op : Operation) : Level (op.apply s).db := by
  have hfollows := op.apply_follows s
  cases op with
  | provision => exact level_others (S := provisioningTables) h (by decide) hfollows
  | customer clock authUserId aal request =>
    unfold Operation.apply
    dsimp only
    split
    · exact level_request h hs clock _ _ request
    · exact h
  | suspend => exact level_others (S := statusTables) h (by decide) hfollows
  | restore => exact level_others (S := statusTables) h (by decide) hfollows
  | requireMfa => exact level_others (S := mfaTables) h (by decide) hfollows
  | issueLicense => exact level_others (S := [licenses, commercialAuditEvents]) h (by decide) hfollows
  | revokeLicense => exact level_others (S := revocationTables) h (by decide) hfollows
  | override => exact level_others (S := [entitlementOverrides, commercialAuditEvents]) h (by decide) hfollows
  | adjustUsage input => exact level_after h (ensures_adjustUsage h hs input)
  | fleetPolicy => exact level_others (S := [fleets, commercialAuditEvents]) h (by decide) hfollows
  | webhook => exact level_others (S := stripeWebhookEvents :: projectionTables) h (by decide) hfollows
  | resync => exact level_others (S := projectionTables) h (by decide) hfollows
  | sweep clock batch => exact level_after h (ensures_sweep h hs.keyed clock batch)
  | advanceDeletion => exact level_others (S := requestTables) h (by decide) hfollows
  | rejectDeletion => exact level_others (S := requestTables) h (by decide) hfollows
  | executeDeletion => exact level_others (S := deletionTables) h (by decide) hfollows

/-- Each totals row is the one that is found for its period. -/
lemma Apart.rowOf_mem (h : Apart unfolded unfreed d) {e : Entry UsagePeriodTotal} (he : e ∈ d usagePeriodTotals) :
    rowOf (totalPeriod e.val) d = some e := by
  obtain ⟨e', he'⟩ := Option.isSome_iff_exists.mp (isSome_rowOf he (isTotalsOf_iff.mpr rfl))
  rw [he', Option.some.injEq]
  exact List.inj_on_of_nodup_map h.once (List.mem_of_find?_eq_some he') he (isTotalsOf_iff.mp (List.find?_some he'))

lemma Apart.derived (h : Level d) : Derived d where
  totals k := by
    rw [usedIn_eq, pendingIn_eq, h.totals k]
    simp
  unclamped k rows hrows := by
    rw [h.totals k, Pi.zero_apply, add_zero, ← pendingIn_eq]
    refine (hrows.map _).sum_le_sum fun x hx => ?_
    obtain ⟨e, he, rfl⟩ := List.mem_map.mp hx
    exact h.amounts e (List.mem_of_mem_filter he)
  rebuilt := by
    refine (List.map_congr_left fun e he => ?_).trans (List.map_id _)
    have htotals := h.totals (totalPeriod e.val)
    rw [totalsOf_some (h.rowOf_mem he), Prod.mk.injEq, Pi.zero_apply, sub_zero, add_zero,
      ← usedIn_eq, ← pendingIn_eq] at htotals
    rw [← htotals.1, ← htotals.2]
    rfl

/-- Nothing has been metered yet. -/
def Unused (d : Database) : Prop := ∀ t ∈ sources, d t = []

lemma level_unused (h : Unused d) : Level d where
  totals k := by
    have hnone : rowOf k d = none := by rw [rowOf, h _ (by decide), List.find?_nil]
    rw [totalsOf_none hnone, h usageEvents (by decide), h usageReservations (by decide)]
    simp [charges, holds]
  amounts := by
    rw [h _ (by decide)]
    exact fun e he => absurd he List.not_mem_nil
  once := by
    rw [h _ (by decide)]
    exact List.nodup_nil

/-- In every state that any operations reach, the totals equal the ledger and the pending reservations. -/
theorem totals_equal_sources (hs : Stored s) (hunused : Unused s.db) (ops : List Operation) :
    EachState (fun s => Derived s.db) ops s := by
  have hstep : ∀ (op : Operation) (s : DbStore), Stored s ∧ Level s.db → True → Stored (op.apply s) ∧ Level (op.apply s).db :=
    fun op s h _ => ⟨(op.apply_follows s).stored h.1, level_apply h.2 h.1 op⟩
  exact (eachState_of_step hstep ⟨hs, level_unused hunused⟩ (eachStep_true ops s)).mono fun s h => h.2.derived

/-- Five of ten tokens are reserved and committed, one more is reserved and swept, and two are refunded. -/
def meteredRun : List Operation :=
  [.customer ⟨0, 0⟩ 100 none (.reserve ⟨0, "tokens", 5, some 10, "2026-06", 60, "k1", none⟩),
    .customer ⟨1, 1⟩ 100 none (.commit ⟨0, .reservation 14, some 10, "2026-06", [50], "k2", none⟩),
    .customer ⟨2, 2⟩ 100 none (.reserve ⟨0, "tokens", 1, some 10, "2026-06", 60, "k3", none⟩),
    .sweep ⟨100, 100⟩ 10,
    .adjustUsage ⟨"op", 0, "tokens", -2, "2026-06", "k4", "refund", none⟩]

theorem totals_equal_sources_metered : EachState (fun s => Derived s.db) meteredRun sampleStore ∧
    currentTotals 0 "tokens" "2026-06" (runAll meteredRun sampleStore).db = (3, 0) := by
  refine ⟨totals_equal_sources sampleStore_stored (fun t ht => ?_) meteredRun, by decide +kernel⟩
  simp only [sources, List.mem_cons, List.not_mem_nil, or_false] at ht
  rcases ht with rfl | rfl | rfl <;> rfl

end ForgeCustomer.UsageTotals
