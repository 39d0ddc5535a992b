import ForgeCustomer.LastingRows
import ForgeCustomer.OperatorRequests
import ForgeCustomer.ReleaseSafety
import ForgeCustomer.RunOrigins
import ForgeCustomer.UpdateChecks

/-!
# Update outcomes

The tickets of update checks and the reports that installations send with them (`repositories::updates`). A
check looks its candidates up in one statement and takes its ticket in another; a report is a transaction of
three statements. In a run they are interleaved with each other, with the statements of all other requests and
with what operators do to releases and campaigns.
-/
namespace ForgeCustomer.UpdateOutcomes
open SqlTables SqlPrograms SqlSessions SqlColumns Columns JsonValue StripeEvents DatabaseTables AuditWriters CommercialPolicy
  CustomerRepository UpdatesRepository UpdateChecks AdminReleases ServiceOperations LastingRows TableName
open RunOrigins (exists_setsIn run_concat run_append run_invariant run_related related_of_prefix)
open OperatorRequests (idempotencyKey except_bind_ok)
open ReleaseSafety (UniqueIds updateRows_id)

/-- The columns that the service writes. -/
structure InstallationUpdateEvent where
  installationId : ℕ
  campaignId : ℕ
  releaseId : ℕ
  updateTicket : ℕ
  eventType : String
  failureCode : Option String
  failureClass : Option String
  occurredAt : Time
  receivedAt : Time
deriving DecidableEq

structure UpdateEventInput where
  eventId : ℕ
  customerId : ℕ
  installationId : ℕ
  updateTicket : ℕ
  eventType : String
  failureCode : Option String
  failureClass : Option String
  occurredAt : Time
deriving DecidableEq

structure UpdateEventReceipt where
  eventId : ℕ
  eventType : String
  received : Bool
deriving DecidableEq

inductive UpdateEventError where
  | installationNotFound
  | invalidUpdateTicket
deriving DecidableEq

/-- The types of the check constraint on the table, too. -/
def updateEventTypes : List String :=
  ["eligible", "offered", "download_started", "downloaded", "install_started", "install_completed",
    "relaunch_confirmed", "post_update_health_passed", "post_update_health_failed", "rejected", "failed",
    "recovery_required"]

def cleanUpdateEventType (value : String) : Except UpdateValidationError String :=
  if updateEventTypes.contains (trim value) then .ok (trim value)
  else .error ⟨"event_type", "is not a supported update event type"⟩

structure InstallationUpdateEventRequest where
  updateTicket : ℕ
  eventType : String
  failureCode : Option String
  failureClass : Option String
  occurredAt : Option String

inductive UpdateEventRejection where
  | access (e : AccessError)
  | badRequest (message : String) (field : Option String)
  | validation (message field : String)
deriving DecidableEq

def cleaned {α : Type} : Except UpdateValidationError α → Except UpdateEventRejection α
  | .ok a => .ok a
  | .error e => .error (.validation e.message e.field)

def parsePathId (raw : String) : Except UpdateEventRejection ℕ :=
  match parseUuid raw with
  | some id => .ok id
  | none => .error (.badRequest "Path id must be a UUID." none)

/-- The id that the client has chosen for the event. -/
def eventIdOf (header : Option String) : Except UpdateEventRejection ℕ :=
  match idempotencyKey header with
  | none => .error (.badRequest "Update events require an Idempotency-Key header." none)
  | some raw =>
    match parseUuid raw with
    | some id => .ok id
    | none => .error (.badRequest "Idempotency-Key must be the update event UUID." (some "idempotency-key"))

section Requests
variable (parseFromRfc3339 : String → Option Time)

def parseRfc3339 (value : Option String) (field : String) : Except UpdateEventRejection (Option Time) :=
  match present value with
  | none => .ok none
  | some raw =>
    match parseFromRfc3339 raw with
    | some time => .ok (some time)
    | none => .error (.validation "must be an RFC 3339 timestamp" field)

/-- What `installation_update_event` hands to its transaction. -/
def readUpdateEvent (clock : Clock) (ctx : CustomerContext) (id : String) (header : Option String)
    (request : InstallationUpdateEventRequest) : Except UpdateEventRejection UpdateEventInput := do
  let customerId ← (ctx.requireActive clock).mapError .access
  let installationId ← parsePathId id
  let eventId ← eventIdOf header
  let eventType ← cleaned (cleanUpdateEventType request.eventType)
  let failureCode ← cleaned (cleanUpdateFailureCode request.failureCode "failure_code")
  let failureClass ← cleaned (cleanUpdateFailureCode request.failureClass "failure_class")
  let occurredAt ← parseRfc3339 parseFromRfc3339 request.occurredAt "occurred_at"
  return {
    eventId := eventId
    customerId := customerId
    installationId := installationId
    updateTicket := request.updateTicket
    eventType := eventType
    failureCode := failureCode
    failureClass := failureClass
    occurredAt := occurredAt.getD clock.utcNow }

end Requests

def installationExists (input : UpdateEventInput) (d : Database) : Bool :=
  (d .installations).any fun i => i.id == input.installationId && i.val.customerId == input.customerId

/-- The ticket is one of the installation and has not expired. -/
def isValidTicket (now : Time) (input : UpdateEventInput) (e : Entry UpdateOutcomeTicket) : Bool :=
  e.id == input.updateTicket && e.val.installationId == input.installationId && decide (now < e.val.expiresAt)

/-- Campaign and release of the ticket. -/
def ticketBinding (now : Time) (input : UpdateEventInput) (tickets : List (Entry UpdateOutcomeTicket)) :
    Option (ℕ × ℕ) :=
  (tickets.find? (isValidTicket now input)).map fun e => (e.val.campaignId, e.val.releaseId)

def newUpdateEvent (now : Time) (input : UpdateEventInput) (campaignId releaseId : ℕ) : InstallationUpdateEvent :=
  { installationId := input.installationId
    campaignId := campaignId
    releaseId := releaseId
    updateTicket := input.updateTicket
    eventType := input.eventType
    failureCode := input.failureCode
    failureClass := input.failureClass
    occurredAt := input.occurredAt
    receivedAt := now }

/-- `on conflict (id) do nothing`. -/
def insertUpdateEvent (now : Time) (input : UpdateEventInput) (campaignId releaseId : ℕ)
    (events : List (Entry InstallationUpdateEvent)) : Bool × List (Entry InstallationUpdateEvent) :=
  if events.any fun e => e.id == input.eventId then (false, events)
  else (true, events ++ [⟨input.eventId, newUpdateEvent now input campaignId releaseId⟩])

def receiptOf (input : UpdateEventInput) (received : Bool) : UpdateEventReceipt :=
  ⟨input.eventId, input.eventType, received⟩

/-- The transaction on its own. -/
def recordUpdateEvent (now : Time) (input : UpdateEventInput) (d : Database)
    (tickets : List (Entry UpdateOutcomeTicket)) (events : List (Entry InstallationUpdateEvent)) :
    Except UpdateEventError UpdateEventReceipt × List (Entry InstallationUpdateEvent) :=
  if !installationExists input d then (.error .installationNotFound, events)
  else match ticketBinding now input tickets with
  | none => (.error .invalidUpdateTicket, events)
  | some (campaignId, releaseId) =>
    let (received, events') := insertUpdateEvent now input campaignId releaseId events
    (.ok (receiptOf input received), events')

/-- What a check has decided to offer, before it takes the ticket. -/
structure Offer where
  check : UpdateCheck
  row : UpdateCandidateRow
  signature : String
  publishedAt : Time
deriving DecidableEq

section Checks
variable (hmacSha256 : List UInt8 → List UInt8 → List UInt8)

/-- `authorforge_update_check` up to the row that it offers. -/
def findOffer (config : UpdateConfig) (clock : Clock) (ctx : CustomerContext) (headers : UpdateHeaders)
    (path : UpdatePath) (s : UpdateStore) : Except UpdateCheckError (Option Offer) :=
  match ctx.requireActive clock with
  | .error e => .error (.access e)
  | .ok customerId =>
    let secret := trim config.updateRolloutSecret
    if secret = "" then .error (.serviceUnavailable "Update rollout secret is not configured.")
    else match readUpdateCheck headers path with
    | .error e => .error e
    | .ok check =>
      match firstOffer hmacSha256 secret check
          (candidateRows clock.now s.catalog (lookupInput customerId check) s.db) with
      | .error e => .error (.validation e.message e.field)
      | .ok none => .ok none
      | .ok (some (row, signature, publishedAt)) => .ok (some ⟨check, row, signature, publishedAt⟩)

/-- A check that nothing comes in between. -/
theorem authorforgeUpdateCheck_eq (config : UpdateConfig) (clock : Clock) (ctx : CustomerContext)
    (headers : UpdateHeaders) (path : UpdatePath) (s : UpdateStore) :
    authorforgeUpdateCheck hmacSha256 config clock ctx headers path s =
      match findOffer hmacSha256 config clock ctx headers path s with
      | .error e => (.error e, s)
      | .ok none => (.ok none, s)
      | .ok (some o) => offerResponse config clock.now o.check o.row o.signature o.publishedAt s := by
  unfold authorforgeUpdateCheck findOffer
  cases ctx.requireActive clock with
  | error e => rfl
  | ok customerId =>
    dsimp only
    split_ifs with hsecret
    · rfl
    cases readUpdateCheck headers path with
    | error e => rfl
    | ok check =>
      dsimp only
      cases firstOffer hmacSha256 (trim config.updateRolloutSecret) check
          (candidateRows clock.now s.catalog (lookupInput customerId check) s.db) with
      | error e => rfl
      | ok offer =>
        cases offer with
        | none => rfl
        | some offer => rfl

end Checks

/-- A report between two of its statements; `now` is the time of its transaction. -/
inductive Report where
  | opened (now : Time) (input : UpdateEventInput)
  | owned (now : Time) (input : UpdateEventInput)
  | bound (now : Time) (input : UpdateEventInput) (campaignId releaseId : ℕ)

/-- What clients are offered, of the tables of releases and campaigns. -/
def catalogOf (s : ReleaseStore) : UpdateCatalog where
  campaigns := s.campaigns.map fun e => ⟨e.id, e.val.toUpdateCampaign⟩
  releases := s.releases.map fun e => ⟨e.id, e.val.toProductRelease⟩
  artifacts := s.artifacts.map fun e => ⟨e.id, e.val.toReleaseArtifact⟩
  holds := s.holds.map fun e => ⟨e.id, e.val.toCampaignHold⟩

structure UpdateSystem where
  service : Sys Row UniqueKey Unit Unit
  releases : ReleaseStore
  tickets : List (Entry UpdateOutcomeTicket)
  events : List (Entry InstallationUpdateEvent)
  /-- The next token of a ticket. -/
  seq : ℕ
  /-- Checks that have not taken their ticket yet. -/
  offers : List Offer
  /-- Reports under way. -/
  reports : List Report
  /-- Answers to reports. -/
  receipts : List UpdateEventReceipt

inductive UpdateMove where
  /-- A statement of another request. -/
  | service (m : Move)
  | operator (op : ReleaseOperation)
  | hold (request : FleetHoldRequest)
  | unhold (request : FleetHoldRequest)
  | lookup (clock : Clock) (ctx : CustomerContext) (headers : UpdateHeaders) (path : UpdatePath)
  | issue (now : Time) (i : ℕ)
  | report (now : Time) (clock : Clock) (ctx : CustomerContext) (id : String) (header : Option String)
      (request : InstallationUpdateEventRequest)
  | own (i : ℕ)
  | bind (i : ℕ)
  | insert (i : ℕ)
  /-- A check or a report is given up: a lost connection, a crash. -/
  | dropOffer (i : ℕ)
  | dropReport (i : ℕ)

namespace UpdateSystem

def start (store : DbStore) (calls : List ServiceCall) (releases : ReleaseStore) : UpdateSystem :=
  ⟨Sys.start store (calls.map ServiceCall.prog), releases, [], [], 0, [], [], []⟩

def db (y : UpdateSystem) : Database := y.service.store.db

def updateStore (y : UpdateSystem) : UpdateStore := ⟨y.db, catalogOf y.releases, y.tickets, y.seq⟩

def setReport (y : UpdateSystem) (i : ℕ) (r : Report) : UpdateSystem := { y with reports := y.reports.set i r }

def endReport (y : UpdateSystem) (i : ℕ) : UpdateSystem := { y with reports := y.reports.eraseIdx i }

section Step
variable (hmacSha256 : List UInt8 → List UInt8 → List UInt8) (parseFromRfc3339 : String → Option Time)
  (config : UpdateConfig)

/-- A move that is not possible changes nothing. -/
def step (y : UpdateSystem) : UpdateMove → UpdateSystem
  | .service m => { y with service := (y.service.step m).getD y.service }
  | .operator op => { y with releases := op.apply y.releases }
  | .hold request => { y with releases := (addFleetHold (y.db .fleets) request y.releases).2 }
  | .unhold request => { y with releases := (removeFleetHold (y.db .fleets) request y.releases).2 }
  | .lookup clock ctx headers path =>
    match findOffer hmacSha256 config clock ctx headers path y.updateStore with
    | .ok (some o) => { y with offers := y.offers ++ [o] }
    | _ => y
  | .issue now i =>
    match y.offers[i]? with
    | some o =>
      let (_, s) := issueUpdateTicket now o.check.installationId o.row.campaignId o.row.releaseId y.updateStore
      { y with
        tickets := s.tickets
        seq := s.seq
        offers := y.offers.eraseIdx i }
    | none => y
  | .report now clock ctx id header request =>
    match readUpdateEvent parseFromRfc3339 clock ctx id header request with
    | .ok input => { y with reports := y.reports ++ [.opened now input] }
    | .error _ => y
  | .own i =>
    match y.reports[i]? with
    | some (.opened now input) =>
      if installationExists input y.db then y.setReport i (.owned now input) else y.endReport i
    | _ => y
  | .bind i =>
    match y.reports[i]? with
    | some (.owned now input) =>
      match ticketBinding now input y.tickets with
      | some (campaignId, releaseId) => y.setReport i (.bound now input campaignId releaseId)
      | none => y.endReport i
    | _ => y
  | .insert i =>
    match y.reports[i]? with
    | some (.bound now input campaignId releaseId) =>
      let (received, events) := insertUpdateEvent now input campaignId releaseId y.events
      { y.endReport i with
        events := events
        receipts := y.receipts ++ [receiptOf input received] }
    | _ => y
  | .dropOffer i => { y with offers := y.offers.eraseIdx i }
  | .dropReport i => y.endReport i

abbrev run (ms : List UpdateMove) (y : UpdateSystem) : UpdateSystem :=
  RunOrigins.run (step hmacSha256 parseFromRfc3339 config) ms y

end Step
end UpdateSystem

open UpdateSystem

/-- A report that nothing comes in between. -/
theorem recordUpdateEvent_run (hmacSha256 : List UInt8 → List UInt8 → List UInt8) (parseFromRfc3339 : String → Option Time)
    (config : UpdateConfig) {y : UpdateSystem} {now : Time} {input : UpdateEventInput} (h : y.reports = [.opened now input]) :
    let alone := recordUpdateEvent now input y.db y.tickets y.events
    let y' := run hmacSha256 parseFromRfc3339 config [.own 0, .bind 0, .insert 0] y
    y'.reports = [] ∧ y'.events = alone.2 ∧ y'.receipts = y.receipts ++ alone.1.toOption.toList := by
  obtain ⟨service, releases, tickets, events, seq, offers, reports, receipts⟩ := y
  obtain rfl : reports = [.opened now input] := h
  dsimp only [recordUpdateEvent, UpdateSystem.run, RunOrigins.run, List.foldl, step, List.getElem?_cons_zero]
  cases hexists : installationExists input (UpdateSystem.db ⟨service, releases, tickets, events, seq, offers,
      [.opened now input], receipts⟩) with
  | false => simp [endReport, Except.toOption]
  | true =>
    cases hbinding : ticketBinding now input tickets with
    | none => simp [setReport, endReport, hbinding, Except.toOption]
    | some ids =>
      obtain ⟨campaignId, releaseId⟩ := ids
      simp [setReport, endReport, hbinding, Except.toOption]

section Stepped
variable {hmacSha256 : List UInt8 → List UInt8 → List UInt8} {parseFromRfc3339 : String → Option Time}
  {config : UpdateConfig}

variable (hmacSha256 parseFromRfc3339 config) in
/-- Everything that a move can do, with what it has read. -/
inductive Stepped (y : UpdateSystem) : UpdateMove → UpdateSystem → Prop
  | idle (m : UpdateMove) : Stepped y m y
  | service (m : Move) (z : Sys Row UniqueKey Unit Unit) (stepped : y.service.step m = some z) :
      Stepped y (.service m) { y with service := z }
  | operator (op : ReleaseOperation) : Stepped y (.operator op) { y with releases := op.apply y.releases }
  | hold (request : FleetHoldRequest) :
      Stepped y (.hold request) { y with releases := (addFleetHold (y.db .fleets) request y.releases).2 }
  | unhold (request : FleetHoldRequest) :
      Stepped y (.unhold request) { y with releases := (removeFleetHold (y.db .fleets) request y.releases).2 }
  | looked (clock : Clock) (ctx : CustomerContext) (headers : UpdateHeaders) (path : UpdatePath) (o : Offer)
      (found : findOffer hmacSha256 config clock ctx headers path y.updateStore = .ok (some o)) :
      Stepped y (.lookup clock ctx headers path) { y with offers := y.offers ++ [o] }
  | issued (now : Time) (i : ℕ) (o : Offer) (offered : y.offers[i]? = some o) (s : UpdateStore)
      (ticket : s = (issueUpdateTicket now o.check.installationId o.row.campaignId o.row.releaseId y.updateStore).2) :
      Stepped y (.issue now i) { y with tickets := s.tickets, seq := s.seq, offers := y.offers.eraseIdx i }
  | opened (now : Time) (clock : Clock) (ctx : CustomerContext) (id : String) (header : Option String)
      (request : InstallationUpdateEventRequest) (input : UpdateEventInput)
      (read : readUpdateEvent parseFromRfc3339 clock ctx id header request = .ok input) :
      Stepped y (.report now clock ctx id header request) { y with reports := y.reports ++ [.opened now input] }
  | owned (i : ℕ) (now : Time) (input : UpdateEventInput) (turn : y.reports[i]? = some (.opened now input))
      (exist : installationExists input y.db = true) : Stepped y (.own i) (y.setReport i (.owned now input))
  | bound (i : ℕ) (now : Time) (input : UpdateEventInput) (turn : y.reports[i]? = some (.owned now input))
      (campaignId releaseId : ℕ) (ticket : ticketBinding now input y.tickets = some (campaignId, releaseId)) :
      Stepped y (.bind i) (y.setReport i (.bound now input campaignId releaseId))
  | ended (m : UpdateMove) (i : ℕ) : Stepped y m (y.endReport i)
  | recorded (i : ℕ) (now : Time) (input : UpdateEventInput) (campaignId releaseId : ℕ)
      (turn : y.reports[i]? = some (.bound now input campaignId releaseId))
      (fresh : ∀ e ∈ y.events, e.id ≠ input.eventId) : Stepped y (.insert i) { y.endReport i with
        events := y.events ++ [⟨input.eventId, newUpdateEvent now input campaignId releaseId⟩]
        receipts := y.receipts ++ [receiptOf input true] }
  | repeated (i : ℕ) (now : Time) (input : UpdateEventInput) (campaignId releaseId : ℕ)
      (turn : y.reports[i]? = some (.bound now input campaignId releaseId))
      (known : ∃ e ∈ y.events, e.id = input.eventId) : Stepped y (.insert i) { y.endReport i with
        receipts := y.receipts ++ [receiptOf input false] }
  | dropped (i : ℕ) : Stepped y (.dropOffer i) { y with offers := y.offers.eraseIdx i }

theorem step_stepped (y : UpdateSystem) (m : UpdateMove) :
    Stepped hmacSha256 parseFromRfc3339 config y m (y.step hmacSha256 parseFromRfc3339 config m) := by
  cases m with
  | service m =>
    cases hstep : y.service.step m with
    | none =>
      have hidle : y.step hmacSha256 parseFromRfc3339 config (.service m) = y := by simp [step, hstep]
      rw [hidle]
      exact .idle _
    | some z =>
      have hnext : y.step hmacSha256 parseFromRfc3339 config (.service m) = { y with service := z } := by
        simp [step, hstep]
      rw [hnext]
      exact .service m z hstep
  | operator op => exact .operator op
  | hold request => exact .hold request
  | unhold request => exact .unhold request
  | lookup clock ctx headers path =>
    dsimp only [step]
    split
    · exact .looked clock ctx headers path _ ‹_›
    · exact .idle _
  | issue now i =>
    dsimp only [step]
    split
    · exact .issued now i _ ‹_› _ rfl
    · exact .idle _
  | report now clock ctx id header request =>
    dsimp only [step]
    split
    · exact .opened now clock ctx id header request _ ‹_›
    · exact .idle _
  | own i =>
    dsimp only [step]
    split
    · split
      · exact .owned i _ _ ‹_› ‹_›
      · exact .ended _ i
    · exact .idle _
  | bind i =>
    dsimp only [step]
    split
    · split
      · exact .bound i _ _ ‹_› _ _ ‹_›
      · exact .ended _ i
    · exact .idle _
  | insert i =>
    dsimp only [step]
    split
    · rename_i now input campaignId releaseId hturn
      unfold insertUpdateEvent
      split
      · rename_i hknown
        obtain ⟨e, he, hid⟩ := List.any_eq_true.mp hknown
        exact .repeated i now input campaignId releaseId hturn ⟨e, he, beq_iff_eq.mp hid⟩
      · rename_i hnew
        refine .recorded i now input campaignId releaseId hturn fun e he hid => hnew ?_
        exact List.any_eq_true.mpr ⟨e, he, beq_iff_eq.mpr hid⟩
    · exact .idle _
  | dropOffer i => exact .dropped i
  | dropReport i => exact .ended _ i

variable {y y' : UpdateSystem} {m : UpdateMove}

lemma Stepped.mem_events (h : Stepped hmacSha256 parseFromRfc3339 config y m y') {e : Entry InstallationUpdateEvent}
    (he : e ∈ y'.events) : e ∈ y.events ∨ ∃ i now input campaignId releaseId, m = .insert i ∧
      .bound now input campaignId releaseId ∈ y.reports ∧
      e = ⟨input.eventId, newUpdateEvent now input campaignId releaseId⟩ := by
  cases h with
  | recorded i now input campaignId releaseId turn fresh =>
    rcases List.mem_append.mp he with hold | hnew
    · exact .inl hold
    · exact .inr ⟨i, now, input, campaignId, releaseId, rfl, List.mem_of_getElem? turn, List.mem_singleton.mp hnew⟩
  | _ => exact .inl he

/-- What a report has seen when it gets to where it is. -/
def Advanced (parseFromRfc3339 : String → Option Time) (y : UpdateSystem) (m : UpdateMove) : Report → Prop
  | .opened now input => ∃ clock ctx id header request, m = .report now clock ctx id header request ∧
      readUpdateEvent parseFromRfc3339 clock ctx id header request = .ok input
  | .owned now input => .opened now input ∈ y.reports ∧ installationExists input y.db = true
  | .bound now input campaignId releaseId => .owned now input ∈ y.reports ∧
      ticketBinding now input y.tickets = some (campaignId, releaseId)

lemma Stepped.mem_reports (h : Stepped hmacSha256 parseFromRfc3339 config y m y') {r : Report} (hr : r ∈ y'.reports) :
    r ∈ y.reports ∨ Advanced parseFromRfc3339 y m r := by
  cases h with
  | opened now clock ctx id header request input read =>
    rcases List.mem_append.mp hr with hold | hnew
    · exact .inl hold
    · rw [List.mem_singleton.mp hnew]
      exact .inr ⟨clock, ctx, id, header, request, rfl, read⟩
  | owned i now input turn exist =>
    rcases List.mem_or_eq_of_mem_set hr with hold | rfl
    · exact .inl hold
    · exact .inr ⟨List.mem_of_getElem? turn, exist⟩
  | bound i now input turn campaignId releaseId ticket =>
    rcases List.mem_or_eq_of_mem_set hr with hold | rfl
    · exact .inl hold
    · exact .inr ⟨List.mem_of_getElem? turn, ticket⟩
  | ended | recorded | repeated => exact .inl (List.mem_of_mem_eraseIdx hr)
  | _ => exact .inl hr

lemma Stepped.mem_offers (h : Stepped hmacSha256 parseFromRfc3339 config y m y') {o : Offer} (ho : o ∈ y'.offers) :
    o ∈ y.offers ∨ ∃ clock ctx headers path, m = .lookup clock ctx headers path ∧
      findOffer hmacSha256 config clock ctx headers path y.updateStore = .ok (some o) := by
  cases h with
  | looked clock ctx headers path o' found =>
    rcases List.mem_append.mp ho with hold | hnew
    · exact .inl hold
    · rw [List.mem_singleton.mp hnew]
      exact .inr ⟨clock, ctx, headers, path, rfl, found⟩
  | issued | dropped => exact .inl (List.mem_of_mem_eraseIdx ho)
  | _ => exact .inl ho

/-- The ticket of an offer, as it is issued. -/
def ticketOf (now : Time) (o : Offer) : UpdateOutcomeTicket :=
  ⟨o.check.installationId, o.row.campaignId, o.row.releaseId, now + oneHour, now⟩

lemma mem_issued {now : Time} {o : Offer} {s : UpdateStore} {e : Entry UpdateOutcomeTicket}
    (he : e ∈ (issueUpdateTicket now o.check.installationId o.row.campaignId o.row.releaseId s).2.tickets) :
    e ∈ s.tickets ∨ e.val = ticketOf now o := by
  unfold issueUpdateTicket at he
  dsimp only at he
  split at he
  · dsimp only at he
    obtain ⟨old, hold, rfl⟩ := mem_updateRows.mp he
    split
    · exact .inr rfl
    · exact .inl hold
  · rcases List.mem_append.mp he with hold | hnew
    · exact .inl hold
    · rw [List.mem_singleton.mp hnew]
      exact .inr rfl

lemma Stepped.mem_tickets (h : Stepped hmacSha256 parseFromRfc3339 config y m y') {e : Entry UpdateOutcomeTicket}
    (he : e ∈ y'.tickets) : e ∈ y.tickets ∨ ∃ now i o, m = .issue now i ∧ o ∈ y.offers ∧ e.val = ticketOf now o := by
  cases h with
  | issued now i o offered s ticket =>
    subst ticket
    rcases mem_issued he with hold | hnew
    · exact .inl hold
    · exact .inr ⟨now, i, o, rfl, List.mem_of_getElem? offered, hnew⟩
  | _ => exact .inl he

end Stepped

section Origins
variable {hmacSha256 : List UInt8 → List UInt8 → List UInt8} {parseFromRfc3339 : String → Option Time}
  {config : UpdateConfig} {store : DbStore} {calls : List ServiceCall} {releases : ReleaseStore} {ms : List UpdateMove}

/-- What sets in with a move is one of its additions. -/
lemma exists_addition {P : UpdateSystem → Prop} {Q : UpdateSystem → UpdateMove → Prop} {y₀ : UpdateSystem} (hstart : ¬P y₀)
    (hadd : ∀ y m y', Stepped hmacSha256 parseFromRfc3339 config y m y' → P y' → P y ∨ Q y m)
    (hend : P (run hmacSha256 parseFromRfc3339 config ms y₀)) :
    ∃ before m, before ++ [m] <+: ms ∧ Q (run hmacSha256 parseFromRfc3339 config before y₀) m ∧
      P (run hmacSha256 parseFromRfc3339 config (before ++ [m]) y₀) := by
  obtain ⟨before, m, hbefore, habsent, hpresent⟩ := exists_setsIn hstart hend
  refine ⟨before, m, hbefore, (hadd _ m _ (step_stepped _ m) hpresent).resolve_left habsent, ?_⟩
  rwa [UpdateSystem.run, run_concat]

lemma offer_looked {o : Offer} (ho : o ∈ (run hmacSha256 parseFromRfc3339 config ms (start store calls releases)).offers) :
    ∃ before clock ctx headers path, before ++ [.lookup clock ctx headers path] <+: ms ∧
      findOffer hmacSha256 config clock ctx headers path
        (run hmacSha256 parseFromRfc3339 config before (start store calls releases)).updateStore = .ok (some o) := by
  obtain ⟨before, m, hbefore, ⟨clock, ctx, headers, path, rfl, hfound⟩, -⟩ :=
    exists_addition (P := fun y => o ∈ y.offers) (by simp [start]) (fun _ _ _ h => h.mem_offers) ho
  exact ⟨before, clock, ctx, headers, path, hbefore, hfound⟩

lemma ticket_issued {e : Entry UpdateOutcomeTicket}
    (he : e ∈ (run hmacSha256 parseFromRfc3339 config ms (start store calls releases)).tickets) :
    ∃ before now i o, before ++ [.issue now i] <+: ms ∧
      o ∈ (run hmacSha256 parseFromRfc3339 config before (start store calls releases)).offers ∧ e.val = ticketOf now o ∧
      e ∈ (run hmacSha256 parseFromRfc3339 config (before ++ [.issue now i]) (start store calls releases)).tickets := by
  obtain ⟨before, m, hbefore, ⟨now, i, o, rfl, hoffer, hticket⟩, hissued⟩ :=
    exists_addition (P := fun y => e ∈ y.tickets) (by simp [start]) (fun _ _ _ h => h.mem_tickets) he
  exact ⟨before, now, i, o, hbefore, hoffer, hticket, hissued⟩

lemma report_advanced {r : Report}
    (hr : r ∈ (run hmacSha256 parseFromRfc3339 config ms (start store calls releases)).reports) :
    ∃ before m, before ++ [m] <+: ms ∧
      Advanced parseFromRfc3339 (run hmacSha256 parseFromRfc3339 config before (start store calls releases)) m r := by
  obtain ⟨before, m, hbefore, hadvanced, -⟩ :=
    exists_addition (P := fun y => r ∈ y.reports) (by simp [start]) (fun _ _ _ h => h.mem_reports) hr
  exact ⟨before, m, hbefore, hadvanced⟩

lemma event_recorded {e : Entry InstallationUpdateEvent}
    (he : e ∈ (run hmacSha256 parseFromRfc3339 config ms (start store calls releases)).events) :
    ∃ before i now input campaignId releaseId, before ++ [.insert i] <+: ms ∧ .bound now input campaignId releaseId ∈
        (run hmacSha256 parseFromRfc3339 config before (start store calls releases)).reports ∧
      e = ⟨input.eventId, newUpdateEvent now input campaignId releaseId⟩ := by
  obtain ⟨before, m, hbefore, ⟨i, now, input, campaignId, releaseId, rfl, hreport, hevent⟩, -⟩ :=
    exists_addition (P := fun y => e ∈ y.events) (by simp [start]) (fun _ _ _ h => h.mem_events) he
  exact ⟨before, i, now, input, campaignId, releaseId, hbefore, hreport, hevent⟩

/-- An offer is about a candidate that passes every gate for the request. -/
lemma findOffer_eligible {clock : Clock} {ctx : CustomerContext} {headers : UpdateHeaders} {path : UpdatePath}
    {s : UpdateStore} {o : Offer} (h : findOffer hmacSha256 config clock ctx headers path s = .ok (some o)) :
    ∃ x c, Eligible hmacSha256 config clock ctx headers path s x c ∧ ctx.requireActive clock = .ok x.installation.val.customerId ∧
      x.installation.id = o.check.installationId ∧ o.row = candidateRow c := by
  unfold findOffer at h
  split at h
  · cases h
  rename_i customerId hactive
  dsimp only at h
  split at h
  · cases h
  rename_i hsecret
  split at h
  · cases h
  rename_i check hread
  have hsecret' : trim (trim config.updateRolloutSecret) ≠ "" := by rwa [trim_trim]
  rw [candidateRows_eq] at h
  obtain ⟨row, signature, publishedAt, hfirst, hmem, -, -, haccepted⟩ | ⟨hfirst, -⟩ :=
    firstOffer_cases hmacSha256 hsecret' check ((orderedRows clock.now s.catalog (lookupInput customerId check) s.db).take 20)
  · rw [hfirst] at h
    cases h
    obtain ⟨x, c, hlisted, rfl⟩ := mem_orderedRows.mp (List.mem_of_mem_take hmem)
    have hcustomer : x.installation.val.customerId = customerId := hlisted.installation.2.2.1
    exact ⟨x, c, ⟨customerId, check, hactive, hread, hlisted, haccepted⟩, by rw [hactive, hcustomer],
      hlisted.installation.2.1, rfl⟩
  · rw [hfirst] at h
    cases h

lemma Stepped.service_step {y y' : UpdateSystem} {m : UpdateMove}
    (h : Stepped hmacSha256 parseFromRfc3339 config y m y') :
    y'.service = y.service ∨ ∃ sm, y.service.step sm = some y'.service := by
  cases h with
  | service sm z stepped => exact .inr ⟨sm, stepped⟩
  | _ => exact .inl rfl

variable (hmacSha256 parseFromRfc3339 config calls releases) in
/-- The service is in a reachable state, and its rows have outlasted all moves so far. -/
lemma service_lasting (hstore : Stored store) {before : List UpdateMove} (hbefore : before <+: ms) :
    (run hmacSha256 parseFromRfc3339 config ms (start store calls releases)).service.store.Keyed ∧
    serviceColumns.Lasting (run hmacSha256 parseFromRfc3339 config before (start store calls releases)).db
      (run hmacSha256 parseFromRfc3339 config ms (start store calls releases)).db := by
  let Served := fun y : UpdateSystem => Sys.Reachable (Sys.start store (calls.map ServiceCall.prog)) y.service
  have hserved : ∀ y m, Served y → Served (y.step hmacSha256 parseFromRfc3339 config m) := by
    intro y m hy
    have hstepped : Stepped hmacSha256 parseFromRfc3339 config y m _ := step_stepped y m
    obtain hsame | ⟨sm, hstep⟩ := hstepped.service_step
    · change Sys.Reachable _ _
      rw [hsame]
      exact hy
    · exact hy.step (fun _ _ _ _ _ _ _ _ => trivial) hstep
  have hlasts : ∀ y m, Served y → serviceColumns.Lasting y.db (y.step hmacSha256 parseFromRfc3339 config m).db := by
    intro y m hy
    have hstepped : Stepped hmacSha256 parseFromRfc3339 config y m _ := step_stepped y m
    obtain hsame | ⟨sm, hstep⟩ := hstepped.service_step
    · rw [UpdateSystem.db, UpdateSystem.db, hsame]
      exact .refl _ _
    · exact step_lasting hstore.keyed (progs_respect calls) hy hstep
  have hall : ∀ ms, Served (run hmacSha256 parseFromRfc3339 config ms (start store calls releases)) :=
    fun ms => run_invariant hserved .start ms
  refine ⟨(reachable_sound hstore.keyed (progs_respect calls) (hall ms)).keyed, ?_⟩
  refine related_of_prefix (R := fun y y' : UpdateSystem => serviceColumns.Lasting y.db y'.db) (fun rest => ?_) hbefore
  exact run_related (R := fun y y' : UpdateSystem => serviceColumns.Lasting y.db y'.db) (fun _ => .refl _ _) .trans hserved hlasts
    (hall before) rest

/-- At whatever two moments of a run an installation is looked at, it belongs to the same customer. -/
lemma one_owner (hstore : Stored store) {before before' : List UpdateMove} (hbefore : before <+: ms)
    (hbefore' : before' <+: ms) {e e' : Entry Installation}
    (he : e ∈ (run hmacSha256 parseFromRfc3339 config before (start store calls releases)).db installations)
    (he' : e' ∈ (run hmacSha256 parseFromRfc3339 config before' (start store calls releases)).db installations)
    (hid : e.id = e'.id) : e.val.customerId = e'.val.customerId := by
  obtain ⟨hkeyed, hlasts⟩ := service_lasting hmacSha256 parseFromRfc3339 config calls releases hstore hbefore
  obtain ⟨-, hlasts'⟩ := service_lasting hmacSha256 parseFromRfc3339 config calls releases hstore hbefore'
  obtain ⟨l, hl, hlid, hfixed⟩ := hlasts installations rfl e he
  obtain ⟨l', hl', hlid', hfixed'⟩ := hlasts' installations rfl e' he'
  obtain rfl : l = l' := Keyed.unique hkeyed hl hl' (by rw [hlid, hlid', hid])
  have howner : l.val.customerId = e.val.customerId := (congrArg Installation.customerId hfixed :)
  have howner' : l.val.customerId = e'.val.customerId := (congrArg Installation.customerId hfixed' :)
  rw [← howner, howner']

variable (hmacSha256 parseFromRfc3339 config) in
/-- An update check found the campaign and the release of the event for an installation of the customer, and
later, at `now`, the ticket of the event was issued for them. -/
def WasOffered (y₀ : UpdateSystem) (ms : List UpdateMove) (customerId : ℕ) (now : Time)
    (e : InstallationUpdateEvent) : Prop :=
  ∃ looked issued clock ctx headers path x c i,
    looked ++ [.lookup clock ctx headers path] <+: issued ∧ issued ++ [.issue now i] <+: ms ∧
    Eligible hmacSha256 config clock ctx headers path (run hmacSha256 parseFromRfc3339 config looked y₀).updateStore x c ∧
    ctx.requireActive clock = .ok customerId ∧ x.installation.id = e.installationId ∧
    c.campaign.id = e.campaignId ∧ c.release.id = e.releaseId ∧
    ⟨e.updateTicket, ⟨e.installationId, e.campaignId, e.releaseId, now + oneHour, now⟩⟩ ∈
      (run hmacSha256 parseFromRfc3339 config (issued ++ [.issue now i]) y₀).tickets

variable (parseFromRfc3339) in
/-- The customer reported the event, in a transaction begun when the event was received. -/
def WasReported (ms : List UpdateMove) (customerId : ℕ) (e : Entry InstallationUpdateEvent) : Prop :=
  ∃ reported clock ctx id header request input,
    reported ++ [.report e.val.receivedAt clock ctx id header request] <+: ms ∧
    readUpdateEvent parseFromRfc3339 clock ctx id header request = .ok input ∧
    ctx.requireActive clock = .ok customerId ∧
    e = ⟨input.eventId, newUpdateEvent e.val.receivedAt input e.val.campaignId e.val.releaseId⟩

/-- The parts of a report that has been read. -/
lemma readUpdateEvent_ok {clock : Clock} {ctx : CustomerContext} {id : String} {header : Option String}
    {request : InstallationUpdateEventRequest} {input : UpdateEventInput}
    (h : readUpdateEvent parseFromRfc3339 clock ctx id header request = .ok input) :
    ctx.requireActive clock = .ok input.customerId ∧ input.eventType ∈ updateEventTypes := by
  unfold readUpdateEvent at h
  obtain ⟨customerId, hactive, h⟩ := except_bind_ok h
  obtain ⟨installationId, -, h⟩ := except_bind_ok h
  obtain ⟨eventId, -, h⟩ := except_bind_ok h
  obtain ⟨eventType, htype, h⟩ := except_bind_ok h
  obtain ⟨failureCode, -, h⟩ := except_bind_ok h
  obtain ⟨failureClass, -, h⟩ := except_bind_ok h
  obtain ⟨occurredAt, -, h⟩ := except_bind_ok h
  cases h
  constructor
  · cases hrequire : ctx.requireActive clock with
    | error e =>
      rw [hrequire] at hactive
      cases hactive
    | ok id =>
      rw [hrequire] at hactive
      cases hactive
      rfl
  · unfold cleanUpdateEventType at htype
    split at htype
    · rename_i hknown
      cases htype
      exact List.contains_iff_mem.mp hknown
    · cases htype

lemma isValidTicket_iff {now : Time} {input : UpdateEventInput} {e : Entry UpdateOutcomeTicket} :
    isValidTicket now input e = true ↔
      e.id = input.updateTicket ∧ e.val.installationId = input.installationId ∧ now < e.val.expiresAt := by
  simp [isValidTicket, and_assoc]

lemma installationExists_iff {input : UpdateEventInput} {d : Database} : installationExists input d = true ↔
    ∃ e ∈ d installations, e.id = input.installationId ∧ e.val.customerId = input.customerId := by
  simp [installationExists]

/-- However checks, reports, other requests and operators are interleaved: an event is recorded only if less than
an hour before its transaction the service had issued its ticket for a campaign, a release and an installation that
an update check had found to pass every gate, and only for the customer who made the check. -/
theorem outcome_offered (hstore : Stored store) (calls : List ServiceCall) (releases : ReleaseStore)
    (ms : List UpdateMove) {e : Entry InstallationUpdateEvent}
    (he : e ∈ (run hmacSha256 parseFromRfc3339 config ms (start store calls releases)).events) :
    ∃ recorded i customerId now, recorded ++ [.insert i] <+: ms ∧
      WasOffered hmacSha256 parseFromRfc3339 config (start store calls releases) recorded customerId now e.val ∧
      WasReported parseFromRfc3339 recorded customerId e ∧ e.val.receivedAt < now + oneHour := by
  -- Back through the statements of the report.
  obtain ⟨recorded, i, received, input, campaignId, releaseId, hrecorded, hbound, rfl⟩ := event_recorded he
  obtain ⟨bound, mb, hboundAt, howned, hbinding⟩ := report_advanced hbound
  obtain ⟨owned, mo, hownedAt, hopened, hexists⟩ := report_advanced howned
  obtain ⟨opened, mr, hopenedAt, clock', ctx', id, header, request, rfl, hread⟩ := report_advanced hopened
  -- Back from the ticket to the check.
  obtain ⟨ticket, hticket, hids⟩ := Option.map_eq_some_iff.mp hbinding
  obtain ⟨rfl, rfl⟩ := Prod.mk.inj hids
  have hvalid := List.find?_some hticket
  obtain ⟨issued, now, j, o, hissuedAt, hoffer, hissue, hstored⟩ := ticket_issued (List.mem_of_find?_eq_some hticket)
  obtain ⟨looked, clock, ctx, headers, path, hlookedAt, hfound⟩ := offer_looked hoffer
  obtain ⟨x, c, heligible, hactive, hinstallation, hrow⟩ := findOffer_eligible hfound
  obtain ⟨htoken, howner, hexpires⟩ := isValidTicket_iff.mp hvalid
  obtain ⟨inst, hinst, hinstId, hinstOwner⟩ := installationExists_iff.mp hexists
  have hissuedBefore : issued ++ [.issue now j] <+: recorded := hissuedAt.trans ((List.prefix_append _ _).trans hboundAt)
  have hownedBefore : owned ++ [mo] <+: recorded := hownedAt.trans ((List.prefix_append _ _).trans hboundAt)
  have hlookedBefore : looked <+: recorded :=
    (List.prefix_append _ _).trans (hlookedAt.trans ((List.prefix_append _ _).trans hissuedBefore))
  -- The customer who made the check is the one who reports.
  have hlisted : x.installation ∈ (run hmacSha256 parseFromRfc3339 config looked (start store calls releases)).db
      installations := by
    obtain ⟨_, _, _, _, hlisted', _⟩ := heligible
    exact hlisted'.installation.1
  have hsame : x.installation.id = inst.id := by
    rw [hinstallation, hinstId, ← howner, hissue]
    rfl
  have hcustomer : x.installation.val.customerId = input.customerId :=
    (one_owner hstore hlookedBefore ((List.prefix_append _ _).trans hownedBefore) hlisted hinst hsame).trans hinstOwner
  have hcampaign : c.campaign.id = ticket.val.campaignId := by rw [hissue, ticketOf, hrow]; rfl
  have hrelease : c.release.id = ticket.val.releaseId := by rw [hissue, ticketOf, hrow]; rfl
  have hexpiry : ticket.val.expiresAt = now + oneHour := by rw [hissue]; rfl
  have hticketEq : ⟨input.updateTicket, ⟨input.installationId, ticket.val.campaignId, ticket.val.releaseId,
      now + oneHour, now⟩⟩ = ticket := by
    rw [← htoken, ← howner, hissue, ticketOf, ← ticketOf, ← hissue]
  refine ⟨recorded, i, input.customerId, now, hrecorded, ⟨looked, issued, clock, ctx, headers, path, x, c, j, hlookedAt,
    hissuedBefore, heligible, hcustomer ▸ hactive, ?_, ?_, ?_, ?_⟩, ⟨opened, clock', ctx', id, header, request, input,
    hopenedAt.trans ((List.prefix_append _ _).trans hownedBefore), hread, (readUpdateEvent_ok hread).1, rfl⟩, ?_⟩
  · rw [hsame, hinstId]
    rfl
  · exact hcampaign
  · exact hrelease
  · rw [← hticketEq] at hstored
    exact hstored
  · rw [← hexpiry]
    exact hexpires

end Origins

def clientService : DbStore := ⟨clientRows, 60⟩

lemma clientService_stored : Stored clientService := by
  refine ⟨⟨fun t => ?_, fun t => ?_⟩, fun t => ?_⟩ <;> cases t <;>
    simp [clientService, clientRows, Db.refsOk, Schema.refs, foreignKeys, Db.resolves, Db.has]

/-- One published release, rolled out to everybody. -/
def clientReleases : ReleaseStore where
  products := []
  channels := []
  releases := [⟨6, ⟨⟨1, "2.0.0", "build-2", 2, .published, none, none, none, some 50⟩, "op", none⟩⟩]
  artifacts := [⟨7, ⟨⟨6, "linux", "x86_64", "nsis", .updater, "authorforge/2.0.0", some "sig", .validated⟩, 1, "", "key",
    "verified"⟩⟩]
  campaigns := [⟨10, ⟨⟨1, 6, .active, 2, "standard", 100, false, none, 90⟩, "two", none, "op"⟩⟩]
  holds := []
  audits := []
  seq := 11

/-- A check, its ticket, and a report with it. -/
def clientReport : List UpdateMove :=
  [.lookup ⟨100, 100⟩ clientContext clientHeaders clientPath, .issue 100 0,
    .report 200 ⟨200, 200⟩ clientContext "00000000-0000-0000-0000-000000000005"
      (some "00000000-0000-0000-0000-0000000000ff") ⟨0, "failed", some "E1", none, none⟩,
    .own 0, .bind 0, .insert 0]

def clientRun : UpdateSystem :=
  run (fun _ _ => []) (fun _ => none) clientConfig clientReport (start clientService [] clientReleases)

lemma clientRun_events : clientRun.events = [⟨255, ⟨5, 10, 6, 0, "failed", some "E1", none, 200, 200⟩⟩] := by
  decide +kernel

theorem outcome_offered_client : ∃ recorded i customerId now, recorded ++ [.insert i] <+: clientReport ∧
    WasOffered (fun _ _ => []) (fun _ => none) clientConfig (start clientService [] clientReleases) recorded customerId now
      ⟨5, 10, 6, 0, "failed", some "E1", none, 200, 200⟩ ∧
    WasReported (fun _ => none) recorded customerId ⟨255, ⟨5, 10, 6, 0, "failed", some "E1", none, 200, 200⟩⟩ ∧
    200 < now + oneHour := by
  have hevent : ⟨255, ⟨5, 10, 6, 0, "failed", some "E1", none, 200, 200⟩⟩ ∈ clientRun.events := by simp [clientRun_events]
  exact outcome_offered clientService_stored [] clientReleases clientReport hevent

section Accounts
variable {hmacSha256 : List UInt8 → List UInt8 → List UInt8} {parseFromRfc3339 : String → Option Time}
  {config : UpdateConfig} {y y' : UpdateSystem} {m : UpdateMove}

/-- What a ticket stands for. -/
def subject (t : UpdateOutcomeTicket) : ℕ × ℕ × ℕ := (t.installationId, t.campaignId, t.releaseId)

/-- One ticket for each subject, for an hour. -/
structure TicketsOk (n : ℕ) (tickets : List (Entry UpdateOutcomeTicket)) : Prop where
  tokens : UniqueIds n tickets
  subjects : ∀ t ∈ tickets, ∀ t' ∈ tickets, subject t.val = subject t'.val → t.id = t'.id
  expiry : ∀ t ∈ tickets, t.val.expiresAt = t.val.issuedAt + oneHour

/-- Besides, one event for each id, and one answer that says it was received. -/
structure Accounted (y : UpdateSystem) : Prop where
  tickets : TicketsOk y.seq y.tickets
  events : (y.events.map (·.id)).Nodup
  received : (y.receipts.filter (·.received)).map (·.eventId) = y.events.map (·.id)

/-- What a move leaves of tickets, events and answers. -/
structure Extends (y y' : UpdateSystem) : Prop where
  tickets : ∀ t ∈ y.tickets, ∃ t' ∈ y'.tickets, t'.id = t.id ∧ subject t'.val = subject t.val
  events : y.events <+: y'.events
  receipts : y.receipts <+: y'.receipts

lemma Extends.refl (y : UpdateSystem) : Extends y y := ⟨fun t ht => ⟨t, ht, rfl, rfl⟩, List.prefix_rfl, List.prefix_rfl⟩

lemma Extends.trans {y'' : UpdateSystem} (h : Extends y y') (h' : Extends y' y'') : Extends y y'' := by
  refine ⟨fun t ht => ?_, h.events.trans h'.events, h.receipts.trans h'.receipts⟩
  obtain ⟨t', ht', hid, hsubject⟩ := h.tickets t ht
  obtain ⟨t'', ht'', hid', hsubject'⟩ := h'.tickets t' ht'
  exact ⟨t'', ht'', hid'.trans hid, hsubject'.trans hsubject⟩

/-- A ticket of the subject has got a new hour, or there is one more ticket. -/
inductive Issued (now : Time) (o : Offer) (s s' : UpdateStore) : Prop
  | renewed (isTicket : Entry UpdateOutcomeTicket → Bool)
      (same : ∀ e, isTicket e = true ↔ subject e.val = subject (ticketOf now o))
      (tickets : s'.tickets = updateRows isTicket (fun _ => ticketOf now o) s.tickets) (seq : s'.seq = s.seq)
  | added (fresh : ∀ e ∈ s.tickets, subject e.val ≠ subject (ticketOf now o))
      (tickets : s'.tickets = s.tickets ++ [⟨s.seq, ticketOf now o⟩]) (seq : s'.seq = s.seq + 1)

lemma issueUpdateTicket_issued (now : Time) (o : Offer) (s : UpdateStore) :
    Issued now o s (issueUpdateTicket now o.check.installationId o.row.campaignId o.row.releaseId s).2 := by
  have hsame : ∀ e : Entry UpdateOutcomeTicket, (e.val.installationId == o.check.installationId &&
      e.val.campaignId == o.row.campaignId && e.val.releaseId == o.row.releaseId) = true ↔
        subject e.val = subject (ticketOf now o) := by
    intro e
    simp [subject, ticketOf, and_assoc]
  unfold issueUpdateTicket
  dsimp only
  split
  · exact .renewed _ hsame rfl rfl
  · rename_i hnone
    refine .added (fun e he hsubject => ?_) rfl rfl
    exact List.find?_eq_none.mp hnone e he ((hsame e).mpr hsubject)

section Issued
variable {now : Time} {o : Offer} {s s' : UpdateStore}

/-- A renewed ticket keeps its token and its subject. -/
lemma subject_renewed {isTicket : Entry UpdateOutcomeTicket → Bool}
    (hsame : ∀ e, isTicket e = true ↔ subject e.val = subject (ticketOf now o)) (e : Entry UpdateOutcomeTicket) :
    subject (if isTicket e then (⟨e.id, ticketOf now o⟩ : Entry UpdateOutcomeTicket) else e).val = subject e.val := by
  split
  · rename_i h
    exact ((hsame e).mp h).symm
  · rfl

lemma renewed_id {isTicket : Entry UpdateOutcomeTicket → Bool} (e : Entry UpdateOutcomeTicket) :
    (if isTicket e then (⟨e.id, ticketOf now o⟩ : Entry UpdateOutcomeTicket) else e).id = e.id :=
  updateRows_id (f := fun _ => ticketOf now o) e

lemma Issued.ticketsOk (h : Issued now o s s') (hs : TicketsOk s.seq s.tickets) : TicketsOk s'.seq s'.tickets := by
  cases h with
  | renewed isTicket same tickets seq =>
    rw [tickets, seq]
    refine ⟨hs.tokens.update _ _, fun t ht t' ht' hsubject => ?_, fun t ht => ?_⟩
    · obtain ⟨x, hx, rfl⟩ := mem_updateRows.mp ht
      obtain ⟨x', hx', rfl⟩ := mem_updateRows.mp ht'
      rw [subject_renewed same, subject_renewed same] at hsubject
      exact (renewed_id x).trans ((hs.subjects x hx x' hx' hsubject).trans (renewed_id x').symm)
    · obtain ⟨x, hx, rfl⟩ := mem_updateRows.mp ht
      split
      · rfl
      · exact hs.expiry x hx
  | added fresh tickets seq =>
    rw [tickets, seq]
    have hcases : ∀ t ∈ s.tickets ++ [⟨s.seq, ticketOf now o⟩], t ∈ s.tickets ∨ t = ⟨s.seq, ticketOf now o⟩ := by simp
    refine ⟨hs.tokens.append _ (Nat.lt_succ_self _), fun t ht t' ht' hsubject => ?_, fun t ht => ?_⟩
    · rcases hcases t ht with ht | rfl
      · rcases hcases t' ht' with ht' | rfl
        · exact hs.subjects t ht t' ht' hsubject
        · exact absurd hsubject (fresh t ht)
      · rcases hcases t' ht' with ht' | rfl
        · exact absurd hsubject.symm (fresh t' ht')
        · rfl
    · rcases hcases t ht with ht | rfl
      · exact hs.expiry t ht
      · rfl

lemma Issued.kept (h : Issued now o s s') {t : Entry UpdateOutcomeTicket} (ht : t ∈ s.tickets) :
    ∃ t' ∈ s'.tickets, t'.id = t.id ∧ subject t'.val = subject t.val := by
  cases h with
  | renewed isTicket same tickets seq =>
    rw [tickets]
    exact ⟨_, mem_updateRows.mpr ⟨t, ht, rfl⟩, renewed_id t, subject_renewed same t⟩
  | added fresh tickets seq =>
    rw [tickets]
    exact ⟨t, List.mem_append_left _ ht, rfl, rfl⟩

end Issued

lemma Stepped.accounted (h : Stepped hmacSha256 parseFromRfc3339 config y m y') (hy : Accounted y) : Accounted y' := by
  cases h with
  | issued now i o offered s ticket =>
    subst ticket
    exact ⟨(issueUpdateTicket_issued now o y.updateStore).ticketsOk hy.tickets, hy.events, hy.received⟩
  | recorded i now input campaignId releaseId turn fresh =>
    refine ⟨hy.tickets, ?_, ?_⟩
    · rw [List.map_append, List.nodup_append]
      refine ⟨hy.events, by simp, fun id hid id' hid' => ?_⟩
      obtain ⟨e, he, rfl⟩ := List.mem_map.mp hid
      obtain rfl : id' = input.eventId := by simpa using hid'
      exact fresh e he
    · simp only [List.filter_append, List.map_append, hy.received]
      rfl
  | repeated i now input campaignId releaseId turn known =>
    refine ⟨hy.tickets, hy.events, ?_⟩
    change ((y.receipts ++ [receiptOf input false]).filter (·.received)).map (·.eventId) = y.events.map (·.id)
    rw [← hy.received, List.filter_append, List.map_append]
    simp [receiptOf]
  | _ => exact ⟨hy.tickets, hy.events, hy.received⟩

lemma Stepped.extends (h : Stepped hmacSha256 parseFromRfc3339 config y m y') : Extends y y' := by
  cases h with
  | issued now i o offered s ticket =>
    subst ticket
    exact ⟨fun t ht => (issueUpdateTicket_issued now o y.updateStore).kept ht, List.prefix_rfl, List.prefix_rfl⟩
  | recorded => exact ⟨fun t ht => ⟨t, ht, rfl, rfl⟩, List.prefix_append _ _, List.prefix_append _ _⟩
  | repeated => exact ⟨fun t ht => ⟨t, ht, rfl, rfl⟩, List.prefix_rfl, List.prefix_append _ _⟩
  | _ => exact ⟨fun t ht => ⟨t, ht, rfl, rfl⟩, List.prefix_rfl, List.prefix_rfl⟩

/-- From any moment of a run on, events and answers are only added and a ticket's token stands for the same
installation, campaign and release; and however often an event is reported, one row and one answer say that it was
received. -/
theorem outcomes_accounted (hmacSha256 : List UInt8 → List UInt8 → List UInt8) (parseFromRfc3339 : String → Option Time)
    (config : UpdateConfig) (store : DbStore) (calls : List ServiceCall) (releases : ReleaseStore)
    (ms rest : List UpdateMove) :
    Accounted (run hmacSha256 parseFromRfc3339 config (ms ++ rest) (start store calls releases)) ∧
      Extends (run hmacSha256 parseFromRfc3339 config ms (start store calls releases))
        (run hmacSha256 parseFromRfc3339 config (ms ++ rest) (start store calls releases)) := by
  have hstart : Accounted (start store calls releases) :=
    ⟨⟨⟨by simp [start], by simp [start]⟩, by simp [start], by simp [start]⟩, by simp [start], rfl⟩
  refine ⟨run_invariant (fun y m hy => (step_stepped y m).accounted hy) hstart _, ?_⟩
  rw [UpdateSystem.run, UpdateSystem.run, run_append]
  exact run_related (I := fun _ => True) Extends.refl Extends.trans (fun _ _ _ => trivial)
    (fun y m _ => (step_stepped y m).extends) trivial rest

end Accounts

end ForgeCustomer.UpdateOutcomes
