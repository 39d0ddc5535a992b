import Mathlib

/-!
# Pure commercial rules

`domain::subscription`, `domain::license`, `domain::deletion` and `domain::usage`. A status
column holds one of the values of its check constraint, so it is an enumeration here.
-/
namespace ForgeCustomer.DomainRules

inductive SubscriptionStatus where
  | trialing | active | pastDue | unpaid | canceled | incomplete | paused
deriving DecidableEq

namespace SubscriptionStatus

def asStr : SubscriptionStatus → String
  | trialing => "trialing"
  | active => "active"
  | pastDue => "past_due"
  | unpaid => "unpaid"
  | canceled => "canceled"
  | incomplete => "incomplete"
  | paused => "paused"

/-- Trialing and active grant cloud; everything else does not. -/
def grantsCloud : SubscriptionStatus → Bool
  | trialing | active => true
  | _ => false

end SubscriptionStatus

/-- Unknown and empty input fails closed to `incomplete`. -/
def normalizeStripeStatus (raw : String) : SubscriptionStatus :=
  if raw = "trialing" then .trialing
  else if raw = "active" then .active
  else if raw = "past_due" then .pastDue
  else if raw = "unpaid" then .unpaid
  else if raw = "canceled" then .canceled
  else if raw = "incomplete" then .incomplete
  else if raw = "incomplete_expired" then .canceled
  else if raw = "paused" then .paused
  else .incomplete

inductive LicenseStatus where
  | active | suspended | revoked | expired
deriving DecidableEq

def LicenseStatus.asStr : LicenseStatus → String
  | active => "active"
  | suspended => "suspended"
  | revoked => "revoked"
  | expired => "expired"

inductive LicenseSyncAction where
  | issue | reactivate | suspend | expire
deriving DecidableEq

/-- How a subscription-linked license must change when subscription truth changes. -/
def licenseSyncAction (existing : Option LicenseStatus) (subscription : SubscriptionStatus) :
    Option LicenseSyncAction :=
  match existing with
  | none => if subscription.grantsCloud then some .issue else none
  | some .revoked => none
  | some .active =>
    match subscription with
    | .active | .trialing | .pastDue => none
    | .canceled => some .expire
    | .unpaid | .paused | .incomplete => some .suspend
  | some .suspended =>
    match subscription with
    | .active | .trialing => some .reactivate
    | .canceled => some .expire
    | .pastDue | .unpaid | .paused | .incomplete => none
  | some .expired =>
    match subscription with
    | .active | .trialing => some .reactivate
    | _ => none

/-- Fails closed: a zero limit denies activation. -/
def canActivateDevice (activeDevices deviceLimit : ℕ) : Bool := activeDevices < deviceLimit

inductive DeletionStatus where
  | requested | verified | coolingOff | processing | completed | rejected | canceled
deriving DecidableEq

namespace DeletionStatus

def asStr : DeletionStatus → String
  | requested => "requested"
  | verified => "verified"
  | coolingOff => "cooling_off"
  | processing => "processing"
  | completed => "completed"
  | rejected => "rejected"
  | canceled => "canceled"

def terminal : DeletionStatus → Bool
  | completed | rejected | canceled => true
  | _ => false

/-- `processing` advances only through execution. -/
def nextState : DeletionStatus → Option DeletionStatus
  | requested => some verified
  | verified => some coolingOff
  | coolingOff => some processing
  | _ => none

def canCancel : DeletionStatus → Bool
  | requested | verified | coolingOff => true
  | _ => false

def canReject : DeletionStatus → Bool
  | requested | verified | coolingOff => true
  | _ => false

def canExecute : DeletionStatus → Bool
  | processing => true
  | _ => false

end DeletionStatus

inductive Decision where
  | allow | deny
deriving DecidableEq

/-- `remainingBefore = none` is the infinite remainder of an unlimited meter. -/
structure QuotaDecision where
  decision : Decision
  reason : String
  remainingBefore : Option ℚ
deriving DecidableEq

/-- Do `requested` units fit within `limit`, given what is used and reserved? -/
def decide (requested used reserved : ℚ) (limit : Option ℚ) : QuotaDecision :=
  if requested < 0 then ⟨.deny, "negative request", some 0⟩
  else match limit with
    | none => ⟨.allow, "unlimited meter", none⟩
    | some limit =>
      let remaining := limit - used - reserved
      if requested ≤ remaining then ⟨.allow, "within quota", some remaining⟩
      else
        ⟨.deny, s!"requested {requested} exceeds remaining {remaining} (limit {limit}, " ++
          s!"used {used}, reserved {reserved})", some remaining⟩

lemma decide_allow_iff {requested used reserved : ℚ} {limit : Option ℚ} :
    (decide requested used reserved limit).decision = .allow ↔
      0 ≤ requested ∧ ∀ l, limit = some l → used + reserved + requested ≤ l := by
  unfold decide
  by_cases hneg : requested < 0
  · simp [hneg]
  · have hpos : 0 ≤ requested := not_lt.mp hneg
    rw [if_neg hneg]
    cases limit with
    | none => simp [hpos]
    | some l =>
      have hle : requested ≤ l - used - reserved ↔ used + reserved + requested ≤ l := by
        constructor <;> intro h <;> linarith
      simp only [hle]
      split_ifs with h
      · simp [h, hpos]
      · simp [h]

/-- The thresholds that usage moves over, from below to at or above. -/
def crossedThresholds (usedBefore usedAfter : ℚ) (limit : Option ℚ) (percents : List ℕ) : List ℕ :=
  match limit.filter (0 < ·) with
  | none => []
  | some limit =>
    percents.filter fun pct => usedBefore < limit * pct / 100 ∧ limit * pct / 100 ≤ usedAfter

end ForgeCustomer.DomainRules
