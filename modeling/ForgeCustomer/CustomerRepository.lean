import ForgeCustomer.LicensingRepository

/-!
# Customers and their request context

`repositories::customers`, and the resolution of a customer request with
`CustomerContext::require_active`.
-/
namespace ForgeCustomer.CustomerRepository
open SqlTables SqlPrograms SqlStatements JsonValue DomainRules StripeEvents DatabaseTables AuditWriters
  LicensingRepository TableName

def isAuthUser (authUserId : ℕ) (e : Entry CustomerProfile) : Bool := e.val.authUserId == authUserId

/-- Trusts its input: the caller's token is at aal2. -/
def setMfaRequired {ε : Type} [FromSql ε] (customerId : ℕ) (required : Bool) : Tx ε Unit := do
  let _ ← update customerProfiles (fun e => e.id == customerId) fun r => { r with mfaRequired := required }
  pure ()

structure ProvisionInput where
  authUserId : ℕ
  email : Option String
  displayName : Option String
  countryCode : Option String
  timezone : Option String
deriving DecidableEq

structure ProvisionedCustomer where
  profile : Entry CustomerProfile
  defaultFleetId : ℕ
  created : Bool
deriving DecidableEq

/-- New accounts may work without a second factor for thirty days. -/
def mfaGracePeriod : Time := 30 * 24 * 3600 * 1000000

/-- SQL `trim`: spaces only. -/
def trimSpaces (s : String) : String :=
  String.ofList (((s.toList.dropWhile (· == ' ')).reverse.dropWhile (· == ' ')).reverse)

/-- `coalesce(nullif(trim(display_name), ''), 'Default fleet')`. -/
def fleetName (displayName : Option String) : String :=
  ((displayName.map trimSpaces).filter (· ≠ "")).getD "Default fleet"

def newProfile (clock : Clock) (input : ProvisionInput) : CustomerProfile :=
  { authUserId := input.authUserId
    customerType := .individual
    displayName := input.displayName
    status := .active
    countryCode := input.countryCode
    timezone := input.timezone
    mfaRequired := true
    mfaGracePeriodEndsAt := some (clock.now + mfaGracePeriod)
    createdAt := clock.now }

/-- The profile of an authenticated user, inserted once. -/
def ensureProfile {ε : Type} [FromSql ε] (clock : Clock) (input : ProvisionInput) :
    Tx ε (Entry CustomerProfile × Bool) := do
  let inserted ← insertUnless customerProfiles (newProfile clock input)
  match inserted with
  | some profile =>
    let _ ← insertRow customerStatusHistory
      { customerId := profile.id
        fromStatus := none
        toStatus := profile.val.status
        reason := "account_provisioned"
        actorType := .customer
        actorId := toString input.authUserId }
    writeOutbox "customer_created" s!"customer_created:{profile.id}"
      (.obj [("customer_id", .uuid profile.id), ("customer_type", .str profile.val.customerType.asStr),
        ("occurred_at", .time profile.val.createdAt)])
    pure (profile, true)
  | none =>
    let profile ← selectOne fun d => (d .customerProfiles).find? (isAuthUser input.authUserId)
    pure (profile, false)

def findProduct (key : String) (d : Database) : Option ℕ :=
  ((d .products).find? fun e => e.val.key == key).map (·.id)

/-- `insert … select` from the product, which may be missing. -/
def enrollFleet {ε : Type} [FromSql ε] (fleetId : ℕ) (product : Option ℕ) (channel : Option ℕ) :
    Tx ε Unit :=
  match product with
  | none => pure ()
  | some productId => ensureFleetApplication fleetId productId channel

/-- The e-mail address of the token, kept as the primary one if there is none yet. -/
def recordEmail {ε : Type} [FromSql ε] (customerId : ℕ) (email : Option String) : Tx ε Unit :=
  match email with
  | none => pure ()
  | some email => do
    let _ ← insertUnless customerEmails { customerId := customerId, email := email }
    pure ()

/-- Create or return the business profile of an authenticated user. -/
def provisionForAuthUser {ε : Type} [FromSql ε] (clock : Clock) (input : ProvisionInput) :
    Tx ε ProvisionedCustomer := do
  let (profile, created) ← ensureProfile clock input
  let channel ← select fun d => (findProduct "authorforge" d).bind fun id => stableChannel id d
  let fleet ← ensureDefaultFleet profile.id (fleetName profile.val.displayName) channel
  let product ← select (findProduct "authorforge")
  enrollFleet fleet.id product channel
  recordEmail profile.id input.email
  pure ⟨profile, fleet.id, created⟩

inductive AccessError where
  | notProvisioned
  | customerSuspended
  | accountClosed
  | mfaRequired
deriving DecidableEq

structure CustomerContext where
  customerId : Option ℕ
  status : Option CustomerStatus
  aal : Option String
  mfaRequired : Bool
  mfaGracePeriodEndsAt : Option Time
deriving DecidableEq

/-- The context of a request with a valid customer token. -/
def customerContext (authUserId : ℕ) (aal : Option String) (d : Database) : CustomerContext :=
  match (d .customerProfiles).find? (isAuthUser authUserId) with
  | some e => ⟨some e.id, some e.val.status, aal, e.val.mfaRequired, e.val.mfaGracePeriodEndsAt⟩
  | none => ⟨none, none, aal, false, none⟩

namespace CustomerContext

def isSuspended (ctx : CustomerContext) : Bool := ctx.status == some .suspended

def isAal2 (ctx : CustomerContext) : Bool := ctx.aal == some "aal2"

def mfaGraceActive (clock : Clock) (ctx : CustomerContext) : Bool :=
  ctx.mfaGracePeriodEndsAt.any fun deadline => clock.utcNow < deadline

def requireAal2 (ctx : CustomerContext) : Except AccessError Unit :=
  if ctx.isAal2 then .ok () else .error .mfaRequired

/-- A provisioned customer that is neither suspended nor closed. -/
def requireActive (clock : Clock) (ctx : CustomerContext) : Except AccessError ℕ :=
  match ctx.customerId with
  | none => .error .notProvisioned
  | some id =>
    if ctx.isSuspended then .error .customerSuspended
    else if ctx.status = some .anonymized ∨ ctx.status = some .closed then .error .accountClosed
    else if ctx.mfaRequired && !ctx.mfaGraceActive clock then (ctx.requireAal2).map fun _ => id
    else .ok id

end CustomerContext

section Checked
variable {ε : Type} [FromSql ε]

lemma setMfaRequired_checked (customerId : ℕ) (required : Bool) :
    Checked [customerProfiles] (setMfaRequired customerId required : Tx ε Unit) :=
  (checked_update (by decide) (unkeyed (by decide)) _ _).bind fun _ => .pure ()

def provisioningTables : List TableName :=
  [customerProfiles, customerStatusHistory, customerEmails, fleets, fleetApplications, outboxEvents]

lemma ensureProfile_checked (clock : Clock) (input : ProvisionInput) :
    Checked [customerProfiles, customerStatusHistory, outboxEvents] (ensureProfile clock input : Tx ε _) := by
  refine (checked_insertUnless (by decide) _).bind fun inserted => ?_
  cases inserted with
  | none => exact (checked_selectOne _).bind fun _ => .pure _
  | some profile =>
    refine (checked_insertRow (by decide) _).bind fun _ => ?_
    exact (writeOutbox_checked (by decide) _ _ _).bind fun _ => .pure _

lemma enrollFleet_checked (fleetId : ℕ) (product channel : Option ℕ) :
    Checked provisioningTables (enrollFleet fleetId product channel : Tx ε Unit) := by
  cases product with
  | none => exact .pure ()
  | some productId => exact ensureFleetApplication_checked (by decide) _ _ _

lemma recordEmail_checked (customerId : ℕ) (email : Option String) :
    Checked [customerEmails] (recordEmail customerId email : Tx ε Unit) := by
  cases email with
  | none => exact .pure ()
  | some email => exact (checked_insertUnless (by decide) _).bind fun _ => .pure ()

lemma provisionForAuthUser_checked (clock : Clock) (input : ProvisionInput) :
    Checked provisioningTables (provisionForAuthUser clock input : Tx ε _) := by
  refine ((ensureProfile_checked clock input).mono (by decide)).bind fun profile => ?_
  refine (checked_select _).bind fun channel => ?_
  refine (ensureDefaultFleet_checked (by decide) _ _ _).bind fun fleet => ?_
  refine (checked_select _).bind fun product => ?_
  refine (enrollFleet_checked _ _ _).bind fun _ => ?_
  exact ((recordEmail_checked _ _).mono (by decide)).bind fun _ => .pure _

end Checked

end ForgeCustomer.CustomerRepository
