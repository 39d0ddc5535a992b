import ForgeCustomer.PrivacyRepository
import ForgeCustomer.SqlDiscipline

/-!
# Open deletion requests under concurrency

Whoever closes or advances a request holds the lock of its row. Whoever looks for an open request and
finds none holds nothing, so nothing keeps a second one from opening a request of its own.
-/
namespace ForgeCustomer.OpenDeletions
open SqlTables SqlPrograms SqlStatements SqlSessions SqlDiscipline Discipline DomainRules StripeEvents
  DatabaseTables AuditWriters JsonValue AdminRepository PrivacyRepository TableName

def isOpen (customerId : ℕ) (e : DeletionRequestRow) : Bool :=
  e.val.customerId == customerId && !e.val.status.terminal

/-- How many requests of the customer are open. -/
def openCount (customerId : ℕ) (d : Database) : ℕ := (d .accountDeletionRequests).countP (isOpen customerId)

/-- The transactions of the deletion workflow. -/
inductive DeletionCall where
  | request (clock : Clock) (customerId : ℕ) (reason correlationId : Option String)
  | cancel (customerId : ℕ) (correlationId : Option String)
  | advance (clock : Clock) (operatorId : String) (requestId : ℕ) (coolingOff : Time) (reason : String)
      (correlationId : Option String)
  | reject (operatorId : String) (requestId : ℕ) (reason : String) (correlationId : Option String)
  | execute (clock : Clock) (operatorId : String) (requestId : ℕ) (reason : String)
      (correlationId : Option String)

inductive Outcome where
  | requested (deletion : RequestedDeletion)
  | canceled (row : DeletionRequestRow)
  | advanced (row : DeletionRequestRow)
  | rejected (row : DeletionRequestRow)
  | executed (row : DeletionRequestRow)

abbrev DeletionTx := Prog Row UniqueKey DeletionError Outcome

def DeletionCall.prog : DeletionCall → DeletionTx
  | request clock customerId reason correlationId =>
    translate id .requested (requestDeletion clock customerId reason correlationId)
  | cancel customerId correlationId => translate id .canceled (cancelRequest customerId correlationId)
  | advance clock operatorId requestId coolingOff reason correlationId =>
    translate id .advanced (advanceRequest clock operatorId requestId coolingOff reason correlationId)
  | reject operatorId requestId reason correlationId =>
    translate id .rejected (rejectRequest operatorId requestId reason correlationId)
  | execute clock operatorId requestId reason correlationId =>
    translate id .executed (executeDeletion clock operatorId requestId reason correlationId)

/-- The customer who asks for a deletion. -/
def DeletionCall.requester : DeletionCall → Option ℕ
  | request _ customerId _ _ => some customerId
  | _ => none

/-- A commit opens at most one request, and only for its own customer; canceling or executing closes
an open one. -/
def Settles (call : DeletionCall) (r : Except DeletionError Outcome) (before after : Database) : Prop :=
  (∀ customerId, openCount customerId after ≤
    openCount customerId before + if call.requester = some customerId then 1 else 0) ∧
  match r with
  | .ok (.canceled row) => openCount row.val.customerId after < openCount row.val.customerId before
  | .ok (.executed row) => openCount row.val.customerId after < openCount row.val.customerId before
  | _ => True

/-- Only the locks of rows are relied on. -/
def rowLocks : Discipline Row UniqueKey where
  global _ := True
  evolves _ _ := True
  evolves_refl _ := trivial
  evolves_trans _ _ _ _ _ := trivial
  Key := Empty
  Part _ := Unit
  part _ _ := ()
  ok _ _ := True
  guards _ _ _ := True
  guards_mono := Discipline.noKeys_mono
  exclusive := Discipline.noKeys_exclusive

variable {L : List (Lock TableName UniqueKey)} {v : Database → Database} {d : Database} {call : DeletionCall}
  {C : Env Row UniqueKey → Change Row → List (Lock TableName UniqueKey) → Prop}

lemma allowed (v : Database → Database) (d : Database) : rowLocks.Allowed L v d :=
  ⟨trivial, trivial, fun K => K.elim, fun K => K.elim⟩

lemma commits_error (e : DeletionError) : rowLocks.Commits (Settles call) (.error e) L v d :=
  fun _ _ _ _ => ⟨fun _ => Nat.le_add_right _ _, trivial⟩

/-- An update of the one row with the id `e.id`. -/
lemma countP_update {rows : List DeletionRequestRow} {e : DeletionRequestRow} {f : DeletionRequest → DeletionRequest}
    (h : rows.filter (fun x => x.id == e.id) = [e]) (P : DeletionRequestRow → Bool) :
    (updateRows (fun x => x.id == e.id) f rows).countP P + (if P e then 1 else 0) =
      rows.countP P + if P ⟨e.id, f e.val⟩ then 1 else 0 := by
  have hhit : (updateRows (fun x => x.id == e.id) f rows).filter (fun x => x.id == e.id) = [⟨e.id, f e.val⟩] := by
    have hsame : (fun x : DeletionRequestRow => x.id == e.id) ∘
        (fun x => if x.id == e.id then ⟨x.id, f x.val⟩ else x) = fun x => x.id == e.id := by
      funext x
      dsimp only [Function.comp]
      split <;> rfl
    rw [updateRows, List.filter_map, hsame, h]
    simp
  have hmiss : (updateRows (fun x => x.id == e.id) f rows).filter (fun x => !(x.id == e.id)) =
      rows.filter fun x => !(x.id == e.id) := by
    refine filter_updateRows fun x _ hx => ?_
    simp [hx]
  rw [List.countP_eq_countP_filter_add _ P fun x => x.id == e.id,
    List.countP_eq_countP_filter_add rows P fun x => x.id == e.id, hhit, hmiss, h, List.countP_singleton,
    List.countP_singleton]
  omega

/-- Setting the status of a locked, open request. -/
structure Moves (e : DeletionRequestRow) (f : DeletionRequest → DeletionRequest) : Prop where
  customer : (f e.val).customerId = e.val.customerId
  was : e.val.status.terminal = false

/-- The row is the only one with its id, and stays so while it is locked. -/
def Holds (L : List (Lock TableName UniqueKey)) (e : DeletionRequestRow) (d : Database) : Prop :=
  Lock.row accountDeletionRequests e.id ∈ L ∧ (d .accountDeletionRequests).filter (fun x => x.id == e.id) = [e]

lemma Holds.rely {e : DeletionRequestRow} {L' : List (Lock TableName UniqueKey)} {d d' : Database}
    (h : Holds L e d) (hrely : rowLocks.Rely L d d') (hL : ∀ k ∈ L, k ∈ L') : Holds L' e d' :=
  ⟨hL _ h.1, (hrely.2.2 _ _ h.1).trans h.2⟩

/-- The answer is the row as updated, and closed if it says so. -/
def Reports (o : Outcome) (row : DeletionRequestRow) : Prop :=
  match o with
  | .canceled r => r = row ∧ row.val.status.terminal = true
  | .executed r => r = row ∧ row.val.status.terminal = true
  | _ => True

lemma commits_moved {e : DeletionRequestRow} {f : DeletionRequest → DeletionRequest} {o : Outcome}
    (hrow : Holds L e d) (hmoves : Moves e f)
    (hv : ∀ x, v x accountDeletionRequests = updateRows (fun y => y.id == e.id) f (x .accountDeletionRequests))
    (ho : Reports o ⟨e.id, f e.val⟩) : rowLocks.Commits (Settles call) (.ok o) L v d := by
  intro d' _ hrely _
  have hcount : ∀ customerId, openCount customerId (v d') + (if isOpen customerId e then 1 else 0) =
      openCount customerId d' + if isOpen customerId ⟨e.id, f e.val⟩ then 1 else 0 := by
    intro customerId
    rw [openCount, openCount, hv]
    exact countP_update (hrow.rely hrely fun _ hk => hk).2 _
  have hopen : ∀ customerId, isOpen customerId ⟨e.id, f e.val⟩ = true → isOpen customerId e = true := by
    intro customerId h
    simp only [isOpen, hmoves.customer, Bool.and_eq_true] at h ⊢
    exact ⟨h.1, by simp [hmoves.was]⟩
  have hclosed : (f e.val).status.terminal = true →
      openCount (f e.val).customerId (v d') < openCount (f e.val).customerId d' := by
    intro hterminal
    have hc := hcount (f e.val).customerId
    have hbefore : isOpen (f e.val).customerId e = true := by simp [isOpen, hmoves.customer, hmoves.was]
    have hafter : isOpen (f e.val).customerId ⟨e.id, f e.val⟩ = false := by simp [isOpen, hterminal]
    rw [if_pos hbefore, hafter, if_neg (by simp)] at hc
    omega
  refine ⟨allowed v d', fun customerId => ?_, ?_⟩
  · have hc := hcount customerId
    have hle := hopen customerId
    split at hc <;> split at hc <;> first | omega | (rename_i h1 h2; exact absurd (hle h2) h1)
  · cases o with
    | canceled row =>
      obtain ⟨rfl, hterminal⟩ := ho
      exact hclosed hterminal
    | executed row =>
      obtain ⟨rfl, hterminal⟩ := ho
      exact hclosed hterminal
    | requested | advanced | rejected => trivial

/-- The update of the request and what follows it in other tables. -/
lemma safe_setRow {S : List TableName} {e : DeletionRequestRow} {f : DeletionRequest → DeletionRequest}
    {g : DeletionRequestRow → Outcome} {k : DeletionRequestRow → Tx DeletionError Unit} (hrow : Holds L e d)
    (hmoves : Moves e f) (hv : ∀ x, v x accountDeletionRequests = x accountDeletionRequests)
    (hS : accountDeletionRequests ∉ S) (hnext : ∀ row, (k row).Touches S)
    (ho : Reports (g ⟨e.id, f e.val⟩) ⟨e.id, f e.val⟩) :
    rowLocks.Safe C (fun r => rowLocks.Commits (Settles call) (translateAnswer id g r))
      (updateOne accountDeletionRequests (fun x => x.id == e.id) f >>= fun row => k row >>= fun _ => pure row)
      L v d := by
  refine safe_bind.mpr (safe_bind.mpr (safe_statement fun d₂ _ h₂ env henv _ =>
    ⟨fun c rows hat _ => ?_, fun _ _ _ => commits_error _⟩))
  have hrow₂ := hrow.rely h₂ fun _ hk => hk
  rw [tryUpdate, henv, hv, hrow₂.2] at hat
  split at hat <;> cases hat
  change rowLocks.Safe C (fun r => rowLocks.Commits (Settles call) (translateAnswer id g r))
    (k ⟨e.id, f e.val⟩ >>= fun _ => (pure ⟨e.id, f e.val⟩ : Tx DeletionError DeletionRequestRow)) _ _ _
  refine safe_bind.mpr (safe_touches (hnext _) fun r L' v' d₃ hL h₃ hv' => ?_)
  cases r with
  | error err => exact commits_error err
  | ok a =>
    have hrow₃ : Holds L' e d₃ := Holds.rely ⟨List.mem_append_left _ hrow₂.1, hrow₂.2⟩ h₃ hL
    refine commits_moved hrow₃ hmoves (fun x => ?_) ho
    rw [hv' x _ hS, Change.apply, Db.put_self, hv]
    refine updateRows_congr (fun y _ => ?_) fun _ _ _ => rfl
    simp

/-- Rows that are found under their lock. -/
lemma safe_lock {pick : Database → Option DeletionRequestRow} {ε : Type}
    {Q : Except ε (Option DeletionRequestRow) → List (Lock TableName UniqueKey) → (Database → Database) →
      Database → Prop}
    (hpick : ∀ d e, pick d = some e → e ∈ d .accountDeletionRequests)
    (hnone : ∀ d', Q (.ok none) L id d')
    (hsome : ∀ d' e L', pick d' = some e → Holds L' e d' → Q (.ok (some e)) L' id d') :
    rowLocks.Safe C Q (selectForUpdate accountDeletionRequests pick) L id d := by
  refine safe_selectForUpdate fun d' _ _ env _ hk _ => ?_
  cases h : pick (id d') with
  | none => simpa using hnone d'
  | some e =>
    refine hsome d' e _ h ⟨by simp, ?_⟩
    exact Keyed.filter_id hk (hpick _ _ h)

lemma mem_of_findRequest {requestId : ℕ} {d : Database} {e : DeletionRequestRow}
    (h : findRequest requestId d = some e) : e ∈ d .accountDeletionRequests := List.mem_of_find?_eq_some h

lemma findRequest_id {requestId : ℕ} {d : Database} {e : DeletionRequestRow}
    (h : findRequest requestId d = some e) : e.id = requestId := by simpa using List.find?_some h

lemma mem_of_openRequest {customerId : ℕ} {d : Database} {e : DeletionRequestRow}
    (h : openRequest customerId d = some e) : e ∈ d .accountDeletionRequests ∧ isOpen customerId e = true :=
  List.mem_filter.mp (mem_of_firstBy h)

lemma safe_cancelRequest (customerId : ℕ) (correlationId : Option String) :
    rowLocks.Safe C (rowLocks.Commits (Settles call)) (DeletionCall.cancel customerId correlationId).prog L id d := by
  refine safe_translate (safe_bind.mpr (safe_lock (fun _ _ h => (mem_of_openRequest h).1) (fun d' => ?_)
    fun d' e L' he hrow => ?_))
  · exact commits_error _
  · dsimp only
    split
    · exact commits_error _
    · have hopen := (mem_of_openRequest he).2
      have hterminal : e.val.status.terminal = false := by
        simpa [isOpen] using (Bool.and_eq_true_iff.mp hopen).2
      exact safe_setRow (f := fun r => { r with status := .canceled, coolingOffUntil := none.or r.coolingOffUntil })
        (S := [commercialAuditEvents]) (g := .canceled) hrow ⟨rfl, hterminal⟩ (fun _ => rfl) (by decide)
        (fun _ => (writeCustomerAudit_checked (by decide) _).touches) ⟨rfl, rfl⟩

lemma safe_lockRequest {α : Type} {g : α → Outcome} {requestId : ℕ} {next : DeletionRequestRow → Tx DeletionError α}
    (h : ∀ d' e L', e.id = requestId → Holds L' e d' → rowLocks.Safe C
      (fun r => rowLocks.Commits (Settles call) (translateAnswer id g r)) (next e) L' id d') :
    rowLocks.Safe C (rowLocks.Commits (Settles call)) (translate id g (lockRequest requestId next)) L id d := by
  refine safe_translate (safe_bind.mpr (safe_lock (fun _ _ h => mem_of_findRequest h) (fun d' => ?_)
    fun d' e L' he hrow => ?_))
  · exact commits_error _
  · exact h d' e L' (findRequest_id he) hrow

lemma safe_rejectRequest (operatorId : String) (requestId : ℕ) (reason : String) (correlationId : Option String) :
    rowLocks.Safe C (rowLocks.Commits (Settles call))
      (DeletionCall.reject operatorId requestId reason correlationId).prog L id d := by
  refine safe_lockRequest fun d' e L' hid hrow => ?_
  obtain rfl := hid
  split
  · exact commits_error _
  · rename_i hcan
    have hterminal : e.val.status.terminal = false := by
      cases hs : e.val.status <;> simp [hs, DeletionStatus.canReject] at hcan <;> rfl
    exact safe_setRow (f := fun r => { r with status := .rejected, coolingOffUntil := none.or r.coolingOffUntil })
      (S := [commercialAuditEvents]) (g := .rejected) hrow ⟨rfl, hterminal⟩ (fun _ => rfl) (by decide)
      (fun _ => (writeOperatorAudit_checked (by decide) _).touches) trivial

lemma safe_advanceRequest (clock : Clock) (operatorId : String) (requestId : ℕ) (coolingOff : Time)
    (reason : String) (correlationId : Option String) :
    rowLocks.Safe C (rowLocks.Commits (Settles call))
      (DeletionCall.advance clock operatorId requestId coolingOff reason correlationId).prog L id d := by
  refine safe_lockRequest fun d' e L' hid hrow => ?_
  obtain rfl := hid
  split
  · exact commits_error _
  · rename_i next hnext
    have hterminal : e.val.status.terminal = false := by
      cases hs : e.val.status <;> simp [hs, DeletionStatus.nextState] at hnext <;> rfl
    split
    · exact commits_error _
    · rename_i until_ _
      exact safe_setRow (f := fun r => { r with status := next, coolingOffUntil := until_.or r.coolingOffUntil })
        (S := [commercialAuditEvents]) (g := .advanced) hrow ⟨rfl, hterminal⟩ (fun _ => rfl) (by decide)
        (fun _ => (writeOperatorAudit_checked (by decide) _).touches) trivial

lemma safe_executeDeletion (clock : Clock) (operatorId : String) (requestId : ℕ) (reason : String)
    (correlationId : Option String) :
    rowLocks.Safe C (rowLocks.Commits (Settles call))
      (DeletionCall.execute clock operatorId requestId reason correlationId).prog L id d := by
  refine safe_lockRequest fun d' e L' hid hrow => ?_
  obtain rfl := hid
  split
  · exact commits_error _
  rename_i hcan
  have hterminal : e.val.status.terminal = false := by
    cases hs : e.val.status with
    | completed | rejected | canceled => simp [hs, DeletionStatus.canExecute] at hcan
    | _ => rfl
  have hother : ∀ {α : Type} {S : List TableName} {p : Tx DeletionError α} {v : Database → Database}
      {L₁ : List (Lock TableName UniqueKey)} {d₁ : Database}
      {Q : Except DeletionError α → List (Lock TableName UniqueKey) → (Database → Database) → Database → Prop},
      p.Touches S → accountDeletionRequests ∉ S → Holds L₁ e d₁ →
      (∀ x, v x accountDeletionRequests = x accountDeletionRequests) →
      (∀ r L₂ v₂ d₂, Holds L₂ e d₂ → (∀ x, v₂ x accountDeletionRequests = x accountDeletionRequests) →
        Q r L₂ v₂ d₂) → rowLocks.Safe C Q p L₁ v d₁ := by
    intro α S p v L₁ d₁ Q hp hS hrow₁ hv h
    exact safe_touches hp fun r L₂ v₂ d₂ hL hr hv₂ => h r L₂ v₂ d₂ (hrow₁.rely hr hL) fun x => (hv₂ x _ hS).trans (hv x)
  refine safe_bind.mpr (hother (checked_selectOneForUpdate (S := []) _ _).touches (by decide) hrow (fun _ => rfl)
    fun r L₁ v₁ d₁ h₁ hv₁ => ?_)
  cases r with
  | error err => exact commits_error err
  | ok profile =>
  refine safe_bind.mpr (hother (checked_select (S := []) _).touches (by decide) h₁ hv₁ fun r L₂ v₂ d₂ h₂ hv₂ => ?_)
  cases r with
  | error err => exact commits_error err
  | ok openSubscriptions =>
  dsimp only
  split
  · exact commits_error _
  refine safe_bind.mpr (hother (freezeCustomer_checked _ _ _ _).touches (by decide) h₂ hv₂
    fun r L₃ v₃ d₃ h₃ hv₃ => ?_)
  cases r with
  | error err => exact commits_error err
  | ok receipt =>
  have hset : rowLocks.Safe C (fun r => rowLocks.Commits (Settles call) (translateAnswer id .executed r)) _ L₃ v₃ d₃ :=
      safe_setRow
    (f := fun r => { r with status := .completed, completedAt := some clock.now, receipt := some receipt })
    (S := [outboxEvents, commercialAuditEvents]) (g := .executed) (k := fun row => do
      writeOutbox "customer_anonymized" s!"customer_anonymized:{e.id}"
        (.obj [("customer_id", .uuid e.val.customerId), ("occurred_at", .time clock.utcNow)])
      writeOperatorAudit
        { eventType := "deletion_completed"
          operatorId := operatorId
          customerId := some e.val.customerId
          targetType := "deletion_request"
          targetId := toString e.id
          reason := reason
          beforeState := some (.obj [("status", .str "processing"),
            ("customer_status", .str profile.val.status.asStr)])
          afterState := some receipt
          correlationId := correlationId })
    h₃ ⟨rfl, hterminal⟩ hv₃ (by decide) (fun _ => ((writeOutbox_checked (by decide) _ _ _).bind fun _ =>
      writeOperatorAudit_checked (by decide) _).touches) ⟨rfl, rfl⟩
  simp only [bind_assoc] at hset
  exact hset

lemma safe_requestDeletion (clock : Clock) (customerId : ℕ) (reason correlationId : Option String) :
    rowLocks.Safe C (rowLocks.Commits (Settles (.request clock customerId reason correlationId)))
      (DeletionCall.request clock customerId reason correlationId).prog L id d := by
  refine safe_translate (safe_bind.mpr (safe_lock (fun _ _ h => (mem_of_openRequest h).1) (fun d' => ?_)
    fun d' e L' he hrow => ?_))
  · refine safe_bind.mpr (safe_statement fun d₁ _ _ env henv _ => ⟨fun c row hat _ => ?_, fun _ _ _ => commits_error _⟩)
    split at hat <;> cases hat
    refine safe_bind.mpr (safe_touches (writeCustomerAudit_checked (S := [commercialAuditEvents]) (by decide) _).touches
      fun r L₂ v₂ d₂ _ _ hv₂ => ?_)
    cases r with
    | error err => exact commits_error err
    | ok _ =>
    intro d₃ _ _ _
    refine ⟨allowed v₂ d₃, fun customerId' => ?_, trivial⟩
    rw [openCount, hv₂ d₃ _ (by decide), Change.apply, Db.put_self, List.countP_append, openCount]
    refine Nat.add_le_add_left ?_ _
    rw [List.countP_singleton]
    split
    · rename_i hopen
      have hc : customerId = customerId' := by simpa using (Bool.and_eq_true_iff.mp hopen).1
      rw [hc, DeletionCall.requester, if_pos rfl]
    · exact Nat.zero_le _
  · intro d₃ _ _ _
    exact ⟨allowed id d₃, fun _ => Nat.le_add_right _ _, trivial⟩

theorem DeletionCall.safe (call : DeletionCall) (d : Database) :
    rowLocks.Safe C (rowLocks.Commits (Settles call)) call.prog [] id d := by
  cases call with
  | request => exact safe_requestDeletion _ _ _ _
  | cancel => exact safe_cancelRequest _ _
  | advance => exact safe_advanceRequest _ _ _ _ _ _
  | reject => exact safe_rejectRequest _ _ _ _
  | execute => exact safe_executeDeletion _ _ _ _ _

/-- The lookup ends the transaction, or it has found no open request. -/
lemma request_lookup {clock : Clock} {customerId : ℕ} {reason correlationId : Option String}
    {l : Env Row UniqueKey → List (Lock TableName UniqueKey)} {c : Env Row UniqueKey → Change Row}
    {n : Env Row UniqueKey → DeletionTx}
    (h : (DeletionCall.request clock customerId reason correlationId).prog = .stmt l c n) (env : Env Row UniqueKey) :
    c env = .nothing ∧ ((∃ a, n env = .done a) ∨ openCount customerId env.db = 0) := by
  cases h
  refine ⟨rfl, ?_⟩
  cases hfound : openRequest customerId env.db with
  | some e =>
    refine .inl ⟨.requested ⟨e, false⟩, ?_⟩
    simp only [hfound]
    rfl
  | none =>
    refine .inr ?_
    have hnil := firstBy_eq_none hfound
    rw [List.filter_eq_nil_iff] at hnil
    exact List.countP_eq_zero.mpr hnil

abbrev DeletionSys := Sys Row UniqueKey DeletionError Outcome

section Runs
variable (calls : List DeletionCall)

/-- The session asks for a deletion of the customer. -/
def Requests (customerId i : ℕ) : Prop := ∃ call, calls[i]? = some call ∧ call.requester = some customerId

/-- The move is the lookup of a new request. -/
def Starts (customerId : ℕ) (y : DeletionSys) (m : Move) : Prop :=
  ∃ i p h, m = .advance i ∧ Requests calls customerId i ∧ y.Active i p [] h

/-- A new request is between its lookup and its end. A lookup is issued in the move that carries it out; one that would
have to wait has not been issued. -/
def Underway (customerId : ℕ) (y : DeletionSys) (i : ℕ) : Prop :=
  Requests calls customerId i ∧ ∃ p w h, y.Active i p w h ∧ w ≠ []

/-- No new request of a customer issues its lookup while another one is underway. Lookups that wait together behind a
cancellation overlap as well: in PostgreSQL both go on with what they had found. -/
def NoOverlap (y : DeletionSys) (m : Move) : Prop :=
  ∀ customerId, Starts calls customerId y m → ∀ i, ¬Underway calls customerId y i

/-- The session is about to commit no change of the requests. -/
def Passive (p : DeletionTx) (w : List (ℕ × Change Row)) : Prop :=
  (∃ o, p = .done o) ∧ ∀ d, replay w d accountDeletionRequests = d .accountDeletionRequests

def Post (i : ℕ) (r : Except DeletionError Outcome) (before after : Database) : Prop :=
  ∀ call, calls[i]? = some call → Settles call r before after

/-- The invariant of the runs without overlap. -/
structure Ordered (y : DeletionSys) : Prop where
  sound : Sound rowLocks (fun _ _ _ _ => True) (Post calls) y
  called : ∀ i p w h, y.Active i p w h → ∃ call, calls[i]? = some call ∧ (w = [] → p = call.prog)
  single : ∀ customerId, openCount customerId y.store.db ≤ 1
  quiet : ∀ customerId i p w h, Requests calls customerId i → y.Active i p w h → w ≠ [] →
    Passive p w ∨ openCount customerId y.store.db = 0
  alone : ∀ customerId i j, Underway calls customerId y i → Underway calls customerId y j → i = j

variable {calls} {y y' : DeletionSys} {customerId : ℕ}

lemma requester_prog {call : DeletionCall} (h : call.requester = some customerId) :
    ∃ clock reason correlationId, call = .request clock customerId reason correlationId := by
  cases call with
  | request clock c reason correlationId =>
    cases h
    exact ⟨clock, reason, correlationId, rfl⟩
  | cancel | advance | reject | execute => cases h

/-- A new request that is about to commit has been looked up. -/
lemma Ordered.begun (hy : Ordered calls y) {i : ℕ} {o : Outcome} {w : List (ℕ × Change Row)}
    {h : List (Lock TableName UniqueKey)} (hi : y.Active i (.done o) w h) (hreq : Requests calls customerId i) :
    w ≠ [] := by
  rintro rfl
  obtain ⟨call, hcall, hrequester⟩ := hreq
  obtain ⟨call', hcall', hprog⟩ := hy.called i _ _ _ hi
  obtain rfl : call = call' := Option.some.inj (hcall.symm.trans hcall')
  obtain ⟨clock, reason, correlationId, rfl⟩ := requester_prog hrequester
  exact absurd (hprog rfl) (by intro hc; cases hc)

/-- What a commit does to the counts. -/
lemma Ordered.settles (hy : Ordered calls y) {i : ℕ} {o : Outcome} {w : List (ℕ × Change Row)}
    {h : List (Lock TableName UniqueKey)} (hi : y.Active i (.done o) w h) :
    ∃ call, calls[i]? = some call ∧ Settles call (.ok o) y.store.db (replay w y.store.db) := by
  obtain ⟨call, hcall, -⟩ := hy.called i _ _ _ hi
  have hcommit := hy.sound.safe i _ w h hi y.store.db hy.sound.inv (Rely.refl _ _ _) ⟨_, hy.sound.view_keyed hi⟩
  exact ⟨call, hcall, hcommit.2 call hcall⟩

/-- A count of zero stays, unless a new request of the customer commits. -/
lemma Ordered.zero (hy : Ordered calls y) {i : ℕ} {o : Outcome} {w : List (ℕ × Change Row)}
    {h : List (Lock TableName UniqueKey)} (hi : y.Active i (.done o) w h) (hzero : openCount customerId y.store.db = 0)
    (hother : ¬Requests calls customerId i) : openCount customerId (replay w y.store.db) = 0 := by
  obtain ⟨call, hcall, hsettles, -⟩ := hy.settles hi
  have hle := hsettles customerId
  rw [if_neg fun hr => hother ⟨call, hcall, hr⟩] at hle
  omega

lemma Ordered.retire (hy : Ordered calls y) {i : ℕ} {s : Session Row UniqueKey DeletionError Outcome}
    (hs : ∀ p w h, s ≠ .running p w h) {log : List (Commit Row DeletionError Outcome)}
    (hsound : Sound rowLocks (fun _ _ _ _ => True) (Post calls) ⟨y.store, y.sessions.set i s, log⟩) :
    Ordered calls ⟨y.store, y.sessions.set i s, log⟩ := by
  have old : ∀ j p w h, (⟨y.store, y.sessions.set i s, log⟩ : DeletionSys).Active j p w h → y.Active j p w h := by
    intro j p w h hj
    rcases getElem?_set_running hj with ⟨-, h'⟩ | ⟨-, h'⟩
    · exact absurd h'.symm (hs p w h)
    · exact h'
  have underway : ∀ c j, Underway calls c ⟨y.store, y.sessions.set i s, log⟩ j → Underway calls c y j :=
    fun c j ⟨hr, p, w, h, hj, hw⟩ => ⟨hr, p, w, h, old j p w h hj, hw⟩
  exact
    { sound := hsound
      called := fun j p w h hj => hy.called j p w h (old j p w h hj)
      single := hy.single
      quiet := fun c j p w h hr hj => hy.quiet c j p w h hr (old j p w h hj)
      alone := fun c j k hj hk => hy.alone c j k (underway c j hj) (underway c k hk) }

lemma Ordered.commit (hy : Ordered calls y) {i : ℕ} {o : Outcome} {w : List (ℕ × Change Row)}
    {h : List (Lock TableName UniqueKey)} (hi : y.Active i (.done o) w h)
    {log : List (Commit Row DeletionError Outcome)}
    (hsound : Sound rowLocks (fun _ _ _ _ => True) (Post calls)
      ⟨⟨replay w y.store.db, y.store.seq⟩, y.sessions.set i (.finished (.ok o)), log⟩) :
    Ordered calls ⟨⟨replay w y.store.db, y.store.seq⟩, y.sessions.set i (.finished (.ok o)), log⟩ := by
  have old : ∀ j p' w' h', (y.sessions.set i (.finished (.ok o)))[j]? = some (.running p' w' h') →
      j ≠ i ∧ y.Active j p' w' h' := by
    intro j p' w' h' hj
    rcases getElem?_set_running hj with ⟨-, hf⟩ | hj
    · cases hf
    · exact hj
  have underway : ∀ c j, Underway calls c ⟨⟨replay w y.store.db, y.store.seq⟩,
      y.sessions.set i (.finished (.ok o)), log⟩ j → j ≠ i ∧ Underway calls c y j := by
    rintro c j ⟨hr, p', w', h', hj, hw⟩
    obtain ⟨hne, hj⟩ := old j p' w' h' hj
    exact ⟨hne, hr, p', w', h', hj, hw⟩
  refine
    { sound := hsound
      called := fun j p' w' h' hj => hy.called j p' w' h' (old j p' w' h' hj).2
      single := fun c => ?_
      quiet := fun c j p' w' h' hr hj hw => ?_
      alone := fun c j k hj hk => hy.alone c j k (underway c j hj).2 (underway c k hk).2 }
  · obtain ⟨call, hcall, hsettles, -⟩ := hy.settles hi
    have hle := hsettles c
    have hone := hy.single c
    dsimp only
    split at hle
    · rename_i hrequester
      have hreq : Requests calls c i := ⟨call, hcall, hrequester⟩
      rcases hy.quiet c i _ w h hreq hi (hy.begun hi hreq) with ⟨-, hsame⟩ | hzero
      · rwa [openCount, hsame]
      · omega
    · omega
  · obtain ⟨hne, hj⟩ := old j p' w' h' hj
    refine (hy.quiet c j p' w' h' hr hj hw).imp id fun hzero => hy.zero hi hzero fun hreq => hne ?_
    exact hy.alone c j i ⟨hr, p', w', h', hj, hw⟩ ⟨hreq, _, w, h, hi, hy.begun hi hreq⟩

lemma Ordered.statement (hy : Ordered calls y) {i : ℕ} {l : Env Row UniqueKey → List (Lock TableName UniqueKey)}
    {c : Env Row UniqueKey → Change Row} {n : Env Row UniqueKey → DeletionTx} {w : List (ℕ × Change Row)}
    {h : List (Lock TableName UniqueKey)} (hi : y.Active i (.stmt l c n) w h) (hD : NoOverlap calls y (.advance i))
    (hsound : Sound rowLocks (fun _ _ _ _ => True) (Post calls) ⟨⟨y.store.db, y.store.seq + 1⟩,
      y.sessions.set i (.running (n (y.env i w)) (w ++ [(y.store.seq, c (y.env i w))])
        (h ++ Sys.needs l c (y.env i w))), y.log⟩) :
    Ordered calls ⟨⟨y.store.db, y.store.seq + 1⟩,
      y.sessions.set i (.running (n (y.env i w)) (w ++ [(y.store.seq, c (y.env i w))])
        (h ++ Sys.needs l c (y.env i w))), y.log⟩ := by
  have old : ∀ j p' w' h', (y.sessions.set i (.running (n (y.env i w)) (w ++ [(y.store.seq, c (y.env i w))])
      (h ++ Sys.needs l c (y.env i w))))[j]? = some (.running p' w' h') →
      (j = i ∧ p' = n (y.env i w) ∧ w' = w ++ [(y.store.seq, c (y.env i w))]) ∨ (j ≠ i ∧ y.Active j p' w' h') := by
    intro j p' w' h' hj
    rcases getElem?_set_running hj with ⟨rfl, hf⟩ | hj
    · cases hf
      exact .inl ⟨rfl, rfl, rfl⟩
    · exact .inr hj
  -- a session that goes on was underway before, or has just been looked up
  have begun : ∀ customerId, Requests calls customerId i → w ≠ [] ∨ ∀ j, ¬Underway calls customerId y j := by
    intro customerId hr
    by_cases hw : w = []
    · subst hw
      exact .inr (hD customerId ⟨i, _, h, rfl, hr, hi⟩)
    · exact .inl hw
  refine
    { sound := hsound
      called := fun j p' w' h' hj => ?_
      single := hy.single
      quiet := fun customerId j p' w' h' hr hj hw => ?_
      alone := ?_ }
  · rcases old j p' w' h' hj with ⟨rfl, rfl, rfl⟩ | ⟨-, hj⟩
    · obtain ⟨call, hcall, -⟩ := hy.called j _ w h hi
      exact ⟨call, hcall, fun hnil => by simp at hnil⟩
    · exact hy.called j p' w' h' hj
  · rcases old j p' w' h' hj with ⟨rfl, rfl, rfl⟩ | ⟨-, hj⟩
    · by_cases hw₀ : w = []
      · subst hw₀
        obtain ⟨call, hcall, hrequester⟩ := hr
        obtain ⟨call', hcall', hprog⟩ := hy.called j _ _ _ hi
        obtain rfl : call = call' := Option.some.inj (hcall.symm.trans hcall')
        obtain ⟨clock, reason, correlationId, rfl⟩ := requester_prog hrequester
        obtain ⟨hnothing, hfound⟩ := request_lookup (hprog rfl).symm (y.env j [])
        refine hfound.imp (fun hdone => ⟨hdone, fun d => ?_⟩) id
        rw [hnothing]
        rfl
      · rcases hy.quiet customerId j _ w h hr hi hw₀ with ⟨⟨o, ho⟩, -⟩ | hzero
        · cases ho
        · exact .inr hzero
    · exact hy.quiet customerId j p' w' h' hr hj hw
  · rintro customerId j k ⟨hrj, pj, wj, hj', hj, hwj⟩ ⟨hrk, pk, wk, hk', hk, hwk⟩
    rcases old j pj wj hj' hj with ⟨rfl, -, -⟩ | ⟨hji, hj₀⟩
    · rcases old k pk wk hk' hk with ⟨rfl, -, -⟩ | ⟨hki, hk₀⟩
      · rfl
      · have hunder : Underway calls customerId y k := ⟨hrk, pk, wk, hk', hk₀, hwk⟩
        rcases begun customerId hrj with hw | hnone
        · exact hy.alone customerId j k ⟨hrj, _, w, h, hi, hw⟩ hunder
        · exact absurd hunder (hnone k)
    · have hunder : Underway calls customerId y j := ⟨hrj, pj, wj, hj', hj₀, hwj⟩
      rcases old k pk wk hk' hk with ⟨rfl, -, -⟩ | ⟨hki, hk₀⟩
      · rcases begun customerId hrk with hw | hnone
        · exact hy.alone customerId j k hunder ⟨hrk, _, w, h, hi, hw⟩
        · exact absurd hunder (hnone j)
      · exact hy.alone customerId j k hunder ⟨hrk, pk, wk, hk', hk₀, hwk⟩

theorem Ordered.step (hy : Ordered calls y) {m : Move} (hD : NoOverlap calls y m) (hm : y.step m = some y') :
    Ordered calls y' := by
  have hsound : Sound rowLocks (fun _ _ _ _ => True) (Post calls) y' :=
    hy.sound.step (fun _ _ _ _ _ _ _ _ => trivial) hm
  rcases Sys.step_cases hm with ⟨i, o, w, h, rfl, hi, rfl⟩ | ⟨i, e, w, h, rfl, hi, rfl⟩ |
    ⟨i, l, c, n, w, h, rfl, hi, -, rfl⟩ | ⟨i, p, w, h, rfl, hi, rfl⟩
  · exact hy.commit hi hsound
  · exact hy.retire (by simp) hsound
  · exact hy.statement hi hD hsound
  · exact hy.retire (by simp) hsound

lemma ordered_start {store : DbStore} (hk : store.Keyed) (hsingle : ∀ customerId, openCount customerId store.db ≤ 1) :
    Ordered calls (Sys.start store (calls.map DeletionCall.prog)) := by
  have hprog : ∀ (i : ℕ) p w h, (Sys.start store (calls.map DeletionCall.prog)).Active i p w h →
      ∃ call, calls[i]? = some call ∧ p = call.prog ∧ w = [] := by
    intro i p w h hi
    rw [Sys.Active, Sys.start, List.getElem?_map, Option.map_eq_some_iff] at hi
    obtain ⟨q, hq, he⟩ := hi
    rw [List.getElem?_map, Option.map_eq_some_iff] at hq
    obtain ⟨call, hcall, rfl⟩ := hq
    cases he
    exact ⟨call, hcall, rfl, rfl⟩
  have hsafe : ∀ (i : ℕ) p, (calls.map DeletionCall.prog)[i]? = some p → ∀ d, rowLocks.Inv d →
      rowLocks.Safe (fun _ _ _ => True) (rowLocks.Commits (Post calls i)) p [] id d := by
    intro i p hp d _
    rw [List.getElem?_map, Option.map_eq_some_iff] at hp
    obtain ⟨call, hcall, rfl⟩ := hp
    refine Safe.mono (fun r L v d h d' hd' hr hk => ?_) (call.safe d)
    have hcommit := h d' hd' hr hk
    cases r with
    | ok o =>
      refine ⟨hcommit.1, fun call' hcall' => ?_⟩
      obtain rfl : call = call' := Option.some.inj (hcall.symm.trans hcall')
      exact hcommit.2
    | error e =>
      intro call' hcall'
      obtain rfl : call = call' := Option.some.inj (hcall.symm.trans hcall')
      exact hcommit
  refine
    { sound := reach_sound ⟨trivial, fun K => K.elim⟩ hk hsafe .start
      called := fun i p w h hi => ?_
      single := hsingle
      quiet := fun c i p w h _ hi hw => ?_
      alone := ?_ }
  · obtain ⟨call, hcall, rfl, -⟩ := hprog i p w h hi
    exact ⟨call, hcall, fun _ => rfl⟩
  · obtain ⟨-, -, -, rfl⟩ := hprog i p w h hi
    exact absurd rfl hw
  · rintro c i j ⟨-, p, w, h, hi, hw⟩ -
    obtain ⟨-, -, -, rfl⟩ := hprog i p w h hi
    exact absurd rfl hw

theorem ordered_of_reach {store : DbStore} (hk : store.Keyed) (hsingle : ∀ customerId, openCount customerId store.db ≤ 1)
    (hy : Sys.ReachWhen (NoOverlap calls) (Sys.start store (calls.map DeletionCall.prog)) y) : Ordered calls y := by
  induction hy with
  | start => exact ordered_start hk hsingle
  | step _ hD hm ih => exact ih.step hD hm

/-- No request of the customer is open, and none underway will open one. -/
structure Shut (calls : List DeletionCall) (customerId : ℕ) (y : DeletionSys) : Prop where
  zero : openCount customerId y.store.db = 0
  passive : ∀ i p w h, Requests calls customerId i → y.Active i p w h → w ≠ [] → Passive p w

/-- The commit of a successful cancellation. -/
def Cancels (customerId : ℕ) (c : Commit Row DeletionError Outcome) : Prop :=
  ∃ row, c.answer = .ok (.canceled row) ∧ row.val.customerId = customerId

/-- The commit of a successful execution. -/
def Executes (customerId : ℕ) (c : Commit Row DeletionError Outcome) : Prop :=
  ∃ row, c.answer = .ok (.executed row) ∧ row.val.customerId = customerId

lemma Ordered.shut (hy : Ordered calls y) {m : Move} (hm : y.step m = some y') {c : Commit Row DeletionError Outcome}
    (hlog : y'.log = y.log ++ [c]) (hc : Cancels customerId c) : Shut calls customerId y' := by
  obtain ⟨row, hanswer, rfl⟩ := hc
  rcases Sys.step_cases hm with ⟨i, o, w, h, rfl, hi, rfl⟩ | ⟨i, e, w, h, rfl, hi, rfl⟩ |
    ⟨i, l, change, n, w, h, rfl, hi, -, rfl⟩ | ⟨i, p, w, h, rfl, hi, rfl⟩
  · obtain rfl : _ = c := by simpa using hlog
    obtain rfl : o = .canceled row := by simpa using hanswer
    obtain ⟨call, hcall, -, hlt⟩ := hy.settles hi
    have hone := hy.single row.val.customerId
    dsimp only at hlt
    refine ⟨by dsimp only; omega, fun j p' w' h' hr hj hw => ?_⟩
    rcases getElem?_set_running hj with ⟨-, hf⟩ | ⟨-, hj⟩
    · cases hf
    · exact (hy.quiet _ j p' w' h' hr hj hw).resolve_right (by omega)
  · obtain rfl : _ = c := by simpa using hlog
    simp at hanswer
  · simp at hlog
  · simp at hlog

lemma Shut.step (hs : Shut calls customerId y) (hy : Ordered calls y) {m : Move} (hno : ¬Starts calls customerId y m)
    (hm : y.step m = some y') : Shut calls customerId y' ∧
      ∃ new, y'.log = y.log ++ new ∧ ∀ c ∈ new, ¬Executes customerId c := by
  rcases Sys.step_cases hm with ⟨i, o, w, h, rfl, hi, rfl⟩ | ⟨i, e, w, h, rfl, hi, rfl⟩ |
    ⟨i, l, change, n, w, h, rfl, hi, -, rfl⟩ | ⟨i, p, w, h, rfl, hi, rfl⟩
  · refine ⟨⟨?_, fun j p' w' h' hr hj hw => ?_⟩, _, rfl, fun c hc => ?_⟩
    · by_cases hreq : Requests calls customerId i
      · have hsame := (hs.passive i _ w h hreq hi (hy.begun hi hreq)).2 y.store.db
        dsimp only
        rw [openCount, hsame]
        exact hs.zero
      · exact hy.zero hi hs.zero hreq
    · rcases getElem?_set_running hj with ⟨-, hf⟩ | ⟨-, hj⟩
      · cases hf
      · exact hs.passive j p' w' h' hr hj hw
    · obtain rfl := List.mem_singleton.mp hc
      rintro ⟨row, hanswer, rfl⟩
      obtain rfl : o = .executed row := by simpa using hanswer
      obtain ⟨call, -, -, hlt⟩ := hy.settles hi
      have hzero := hs.zero
      dsimp only at hlt
      omega
  · refine ⟨⟨hs.zero, fun j p' w' h' hr hj hw => ?_⟩, _, rfl, fun c hc => ?_⟩
    · rcases getElem?_set_running hj with ⟨-, hf⟩ | ⟨-, hj⟩
      · cases hf
      · exact hs.passive j p' w' h' hr hj hw
    · obtain rfl := List.mem_singleton.mp hc
      rintro ⟨row, hanswer, -⟩
      simp at hanswer
  · refine ⟨⟨hs.zero, fun j p' w' h' hr hj hw => ?_⟩, [], by simp, by simp⟩
    rcases getElem?_set_running hj with ⟨rfl, hf⟩ | ⟨-, hj⟩
    · cases hf
      have hw₀ : w ≠ [] := by
        rintro rfl
        exact hno ⟨j, _, h, rfl, hr, hi⟩
      obtain ⟨⟨o, ho⟩, -⟩ := hs.passive j _ w h hr hi hw₀
      cases ho
    · exact hs.passive j p' w' h' hr hj hw
  · refine ⟨⟨hs.zero, fun j p' w' h' hr hj hw => ?_⟩, [], by simp, by simp⟩
    rcases getElem?_set_running hj with ⟨-, hf⟩ | ⟨-, hj⟩
    · cases hf
    · exact hs.passive j p' w' h' hr hj hw

/-- If new requests of a customer do not overlap, from the issue of their lookups on, at most one request is open at a
time, and once one has been canceled no deletion is executed unless a later one starts. -/
theorem canceled_never_executed {store : DbStore} (hk : store.Keyed)
    (hsingle : ∀ customerId, openCount customerId store.db ≤ 1)
    (hy : Sys.ReachWhen (NoOverlap calls) (Sys.start store (calls.map DeletionCall.prog)) y) :
    (∀ customerId, openCount customerId y.store.db ≤ 1) ∧
    ∀ customerId m c y₁ y₂, NoOverlap calls y m → y.step m = some y₁ → y₁.log = y.log ++ [c] →
      Cancels customerId c →
      Sys.ReachWhen (fun z m => NoOverlap calls z m ∧ ¬Starts calls customerId z m) y₁ y₂ →
      ∃ new, y₂.log = y₁.log ++ new ∧ ∀ c ∈ new, ¬Executes customerId c := by
  have hordered := ordered_of_reach hk hsingle hy
  refine ⟨hordered.single, fun customerId m c y₁ y₂ hD hm hlog hc hreach => ?_⟩
  have hrest : Ordered calls y₂ ∧ Shut calls customerId y₂ ∧
      ∃ new, y₂.log = y₁.log ++ new ∧ ∀ c ∈ new, ¬Executes customerId c := by
    induction hreach with
    | start => exact ⟨hordered.step hD hm, hordered.shut hm hlog hc, [], by simp, by simp⟩
    | step _ hd hstep ih =>
      obtain ⟨hordered', hshut, new, hnew, hnone⟩ := ih
      obtain ⟨hshut', new', hnew', hnone'⟩ := hshut.step hordered' hd.2 hstep
      refine ⟨hordered'.step hd.1 hstep, hshut', new ++ new', by rw [hnew', hnew, List.append_assoc], ?_⟩
      intro c' hc'
      rcases List.mem_append.mp hc' with hc' | hc'
      · exact hnone c' hc'
      · exact hnone' c' hc'
  exact hrest.2.2

/-- With at most one new request of each customer nothing overlaps. -/
lemma noOverlap_of_one (h : ∀ c i j, Requests calls c i → Requests calls c j → i = j) (y : DeletionSys) (m : Move) :
    NoOverlap calls y m := by
  rintro c ⟨i, p, held, -, hi, hactive⟩ j ⟨hj, p', w', held', hactive', hw⟩
  obtain rfl := h c i j hi hj
  cases hactive.symm.trans hactive'
  exact hw rfl

end Runs

def oneCustomerRows : ∀ t, List (Entry (Row t))
  | .customerProfiles => [⟨0, ⟨100, .individual, none, .active, none, none, false, none, 0⟩⟩]
  | _ => []

def oneCustomer : DbStore := ⟨oneCustomerRows, 1⟩

lemma oneCustomer_keyed : oneCustomer.Keyed := by
  refine ⟨fun t => ?_, fun t => ?_⟩ <;> cases t <;> simp [oneCustomer, oneCustomerRows]

lemma oneCustomer_single (customerId : ℕ) : openCount customerId oneCustomer.db ≤ 1 := Nat.zero_le 1

/-- The customer asks twice. -/
def twoRequests : List DeletionCall := [.request ⟨1, 1⟩ 0 none none, .request ⟨2, 2⟩ 0 none none]

/-- Both find no open request before the first one inserts its own. -/
def overlappingMoves : List Move :=
  [.advance 0, .advance 1] ++ List.replicate 3 (.advance 0) ++ List.replicate 3 (.advance 1)

theorem two_open_requests : ∃ y, Sys.Reachable (Sys.start oneCustomer (twoRequests.map DeletionCall.prog)) y ∧
    openCount 0 y.store.db = 2 := by
  have hcount : (Sys.run overlappingMoves (Sys.start oneCustomer (twoRequests.map DeletionCall.prog))).map
      (fun y => openCount 0 y.store.db) = some 2 := by decide
  obtain ⟨y, hy, hopen⟩ := Option.map_eq_some_iff.mp hcount
  exact ⟨y, Sys.reachable_of_run .start hy, hopen⟩

/-- A request that is canceled before an operator tries to execute it. -/
def canceledCalls : List DeletionCall :=
  [.request ⟨1, 1⟩ 0 none none, .cancel 0 none, .execute ⟨3, 3⟩ "op" 2 "due" none]

lemma canceledCalls_one (c i j : ℕ) (hi : Requests canceledCalls c i) (hj : Requests canceledCalls c j) : i = j := by
  have hfirst : ∀ i, Requests canceledCalls c i → i = 0 := by
    rintro i ⟨call, hcall, hrequester⟩
    match i with
    | 0 => rfl
    | 1 | 2 => cases hcall; cases hrequester
    | i + 3 => cases hcall
  rw [hfirst i hi, hfirst j hj]

def canceledCustomer (c : Commit Row DeletionError Outcome) : Option ℕ :=
  match c.answer with
  | .ok (.canceled row) => some row.val.customerId
  | _ => none

lemma cancels_of_canceledCustomer {customerId : ℕ} {c : Commit Row DeletionError Outcome}
    (h : canceledCustomer c = some customerId) : Cancels customerId c := by
  unfold canceledCustomer at h
  split at h
  · rename_i row hrow
    exact ⟨row, hrow, Option.some.inj h⟩
  · cases h

/-- The request is committed and its cancellation about to be. -/
def canceledMoves : List Move := List.replicate 4 (.advance 0) ++ List.replicate 3 (.advance 1)

def executionMoves : List Move := List.replicate 2 (.advance 2)

/-- The sizes of the log around the cancellation, and whose request it is that the last commit has canceled. -/
def canceledRun : Option (ℕ × ℕ × Option ℕ) :=
  (Sys.run canceledMoves (Sys.start oneCustomer (canceledCalls.map DeletionCall.prog))).bind fun y =>
    (y.step (.advance 1)).bind fun y₁ => (Sys.run executionMoves y₁).map fun _ =>
      (y.log.length, y₁.log.length, y₁.log.getLast?.bind canceledCustomer)

theorem canceled_never_executed_sample : ∃ y y₁ y₂ new,
    Sys.run canceledMoves (Sys.start oneCustomer (canceledCalls.map DeletionCall.prog)) = some y ∧
    y.step (.advance 1) = some y₁ ∧ Sys.run executionMoves y₁ = some y₂ ∧
    openCount 0 y.store.db ≤ 1 ∧ y₂.log = y₁.log ++ new ∧ ∀ c ∈ new, ¬Executes 0 c := by
  have hrun : canceledRun = some (1, 2, some 0) := by decide
  unfold canceledRun at hrun
  obtain ⟨y, hy, hrun⟩ := Option.bind_eq_some_iff.mp hrun
  obtain ⟨y₁, hy₁, hrun⟩ := Option.bind_eq_some_iff.mp hrun
  obtain ⟨y₂, hy₂, hrun⟩ := Option.map_eq_some_iff.mp hrun
  obtain ⟨hbefore, hafter, hlast⟩ : y.log.length = 1 ∧ y₁.log.length = 2 ∧
      y₁.log.getLast?.bind canceledCustomer = some 0 := by simpa using hrun
  have hlog : ∃ c, y₁.log = y.log ++ [c] := by
    rcases step_log hy₁ with ⟨hsame, -⟩ | ⟨c, hc, -⟩
    · rw [hsame] at hafter
      omega
    · exact ⟨c, hc⟩
  obtain ⟨c, hlog⟩ := hlog
  rw [hlog, List.getLast?_append_of_ne_nil _ (by simp)] at hlast
  have hD : ∀ y m, NoOverlap canceledCalls y m := noOverlap_of_one canceledCalls_one
  have hlate : ∀ m ∈ executionMoves, ∀ z, NoOverlap canceledCalls z m ∧ ¬Starts canceledCalls 0 z m := by
    intro m hm z
    refine ⟨hD z m, ?_⟩
    rintro ⟨i, p, h, rfl, hreq, -⟩
    obtain rfl : i = 2 := by simpa using List.eq_of_mem_replicate hm
    exact absurd (canceledCalls_one 0 2 0 hreq ⟨_, rfl, rfl⟩) (by decide)
  have hkept := canceled_never_executed oneCustomer_keyed oneCustomer_single
    (Sys.reachWhen_of_run (fun _ _ _ => hD _ _) .start hy)
  obtain ⟨new, hnew, hnone⟩ := hkept.2 0 (.advance 1) c y₁ y₂ (hD _ _) hy₁ hlog
    (cancels_of_canceledCustomer (by simpa using hlast)) (Sys.reachWhen_of_run hlate .start hy₂)
  exact ⟨y, y₁, y₂, new, hy, hy₁, hy₂, hkept.1 0, hnew, hnone⟩

end ForgeCustomer.OpenDeletions
