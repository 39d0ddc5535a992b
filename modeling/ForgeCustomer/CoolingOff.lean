import ForgeCustomer.AccountDeletion
import ForgeCustomer.OpenDeletions

/-!
# Cooling off

The history of a deletion request over a run of the service. Five operations share the row of a request;
what any of them does to it is said once, and the history follows.
-/
namespace ForgeCustomer.CoolingOff
open SqlTables SqlPrograms SqlStatements DomainRules StripeEvents DatabaseTables AuditWriters PrivacyRepository
  OpenDeletions ServiceOperations CustomerAccess TableName

def statusOf (requestId : ℕ) (d : Database) : Option DeletionStatus :=
  (findRequest requestId d).map (·.val.status)

/-- The operation, if it changes the status of the request, with the status afterwards. -/
def changeBy (requestId : ℕ) (op : Operation) (s : DbStore) : List (Operation × Option DeletionStatus) :=
  if statusOf requestId (op.apply s).db = statusOf requestId s.db then []
  else [(op, statusOf requestId (op.apply s).db)]

/-- All changes of the status of a request in a run. -/
def transitions (requestId : ℕ) : List Operation → DbStore → List (Operation × Option DeletionStatus)
  | [], _ => []
  | op :: ops, s => changeBy requestId op s ++ transitions requestId ops (op.apply s)

/-- The time and the cooling-off duration of an operator who advances the request. -/
def advanceOf (requestId : ℕ) : Operation → Option (Clock × Time)
  | .advanceDeletion clock _ target coolingOff _ _ => if target = requestId then some (clock, coolingOff) else none
  | _ => none

/-- The four states in order, and the third one left when its duration was over. -/
def CooledOff (requestId : ℕ) (history : List (Operation × Option DeletionStatus)) : Prop :=
  ∃ request verify cool process execute : Operation,
    history = [(request, some .requested), (verify, some .verified), (cool, some .coolingOff),
      (process, some .processing), (execute, some .completed)] ∧
    ∃ entered coolingOff left unused, advanceOf requestId cool = some (entered, coolingOff) ∧
      advanceOf requestId process = some (left, unused) ∧ entered.utcNow + coolingOff ≤ left.utcNow

/-- What an operation makes of an existing request. -/
inductive Moved (op : Operation) (e : DeletionRequestRow) : DeletionRequest → Prop
  | canceled (early : e.val.status.canCancel = true) : Moved op e { e.val with status := .canceled }
  | rejected (early : e.val.status.canReject = true) : Moved op e { e.val with status := .rejected }
  | advanced (clock : Clock) (coolingOff : Time) (next : DeletionStatus) (stamp : Option Time)
      (operator : advanceOf e.id op = some (clock, coolingOff)) (forward : e.val.status.nextState = some next)
      (stamped : coolingOffStamp clock coolingOff e.val next = .ok stamp) :
      Moved op e { e.val with status := next, coolingOffUntil := stamp.or e.val.coolingOffUntil }
  | completed (completedAt : Option Time) (receipt : Option JsonValue.Value) (due : e.val.status.canExecute = true) :
      Moved op e { e.val with status := .completed, completedAt := completedAt, receipt := receipt }

/-- What an operation does to the request with an id. -/
inductive RequestChange (op : Operation) (requestId : ℕ) :
    Option DeletionRequestRow → Option DeletionRequestRow → Prop
  | same (row : Option DeletionRequestRow) : RequestChange op requestId row row
  | opened (v : DeletionRequest) (fresh : v.status = .requested) : RequestChange op requestId none (some ⟨requestId, v⟩)
  | moved (e : DeletionRequestRow) (v : DeletionRequest) (move : Moved op e v) :
      RequestChange op requestId (some e) (some ⟨e.id, v⟩)

variable {op : Operation} {requestId : ℕ} {s : DbStore} {d d' : Database}

lemma findRequest_congr (h : d' accountDeletionRequests = d accountDeletionRequests) :
    findRequest requestId d' = findRequest requestId d := by
  rw [findRequest, findRequest, h]

lemma change_of_same (h : d' accountDeletionRequests = d accountDeletionRequests) :
    RequestChange op requestId (findRequest requestId d) (findRequest requestId d') := by
  rw [findRequest_congr h]
  exact .same _

/-- The one row that is updated makes the move. -/
lemma change_of_update {e : DeletionRequestRow} {f : DeletionRequest → DeletionRequest}
    (hfind : findRequest e.id d = some e)
    (hdb : d' accountDeletionRequests = updateRows (fun x => x.id == e.id) f (d accountDeletionRequests))
    (hmove : Moved op e (f e.val)) : RequestChange op requestId (findRequest requestId d) (findRequest requestId d') := by
  have hafter : findRequest requestId d' =
      (findRequest requestId d).map (updateEntry (fun x => x.id == e.id) f) := by
    rw [findRequest, hdb, find_updateRows (fun _ _ _ => rfl)]
    rfl
  by_cases hid : e.id = requestId
  · subst hid
    rw [hafter, hfind]
    simpa [updateEntry] using RequestChange.moved e _ hmove
  · have hsame : findRequest requestId d' = findRequest requestId d := by
      rw [hafter]
      cases hrow : findRequest requestId d with
      | none => rfl
      | some row =>
        have hne : ¬row.id = e.id := by
          rw [findRequest_id hrow]
          exact fun h => hid h.symm
        simp [updateEntry, hne]
    rw [hsame]
    exact .same _

/-- A new row is the request with a new id, and hides no other. -/
lemma change_of_insert {n : ℕ} {v : DeletionRequest} (hnew : ∀ e ∈ d accountDeletionRequests, e.id < n)
    (hdb : d' accountDeletionRequests = d accountDeletionRequests ++ [⟨n, v⟩]) (hfresh : v.status = .requested) :
    RequestChange op requestId (findRequest requestId d) (findRequest requestId d') := by
  have hafter : findRequest requestId d' =
      (findRequest requestId d).or (if n = requestId then some ⟨n, v⟩ else none) := by
    rw [findRequest, hdb, List.find?_append]
    by_cases hid : n = requestId <;> simp [findRequest, hid]
  by_cases hid : n = requestId
  · subst hid
    have hnone : findRequest n d = none := by
      refine List.find?_eq_none.mpr fun e he => ?_
      have hlt := hnew e he
      simp only [beq_iff_eq]
      omega
    rw [hafter, hnone]
    simpa using RequestChange.opened v hfresh
  · rw [hafter, if_neg hid, Option.or_none]
    exact .same _

/-- Whatever follows on other tables leaves the change as it is. -/
lemma ensures_rest {ε α : Type} {S : List TableName} {p : Tx ε α} (hp : Checked S p) (hS : accountDeletionRequests ∉ S)
    (h : RequestChange op requestId (findRequest requestId d) (findRequest requestId s.db)) :
    p.Ensures s fun _ s' => RequestChange op requestId (findRequest requestId d) (findRequest requestId s'.db) := by
  refine hp.ensures_frame.mono fun _ s' hframe => ?_
  rw [findRequest_congr (hframe _ hS)]
  exact h

lemma ensures_requestDeletion {ε : Type} [FromSql ε] (hk : s.Keyed) (clock : Clock) (customerId : ℕ) (reason correlationId : Option String) :
    (requestDeletion clock customerId reason correlationId : Tx ε _).Ensures s fun _ s' =>
      RequestChange op requestId (findRequest requestId s.db) (findRequest requestId s'.db) := by
  refine ensures_selectForUpdate.bind fun existing s₁ h₁ => ?_
  obtain ⟨-, rfl⟩ := h₁
  cases existing with
  | some request => exact .pure (.same _)
  | none =>
    refine ensures_insertRow.bind fun request s₂ h₂ => ?_
    refine (ensures_rest (S := [commercialAuditEvents]) (writeCustomerAudit_checked (by decide) _) (by decide) ?_).bind
      fun _ s₃ h₃ => .pure h₃
    refine change_of_insert (n := s.seq + 1) (fun e he => ?_) (by rw [h₂.2, Db.put_self]) rfl
    have hlt := hk.below accountDeletionRequests e he
    omega

lemma ensures_cancelRequest (hk : s.Keyed) (customerId : ℕ) (correlationId : Option String) :
    (cancelRequest customerId correlationId).Ensures s fun _ s' =>
      RequestChange op requestId (findRequest requestId s.db) (findRequest requestId s'.db) := by
  refine ensures_selectForUpdate.bind fun request s₁ h₁ => ?_
  obtain ⟨hfound, rfl⟩ := h₁
  cases request with
  | none => exact .fail
  | some e =>
    have hmem := (mem_of_openRequest hfound.symm).1
    have hfind : findRequest e.id s.db = some e := hk.find_of_mem hmem (by simp) fun x hx => by simpa using hx
    dsimp only
    split
    · exact .fail
    rename_i hearly
    refine ensures_updateOne.bind fun updated s₂ h₂ => ?_
    refine (ensures_rest (S := [commercialAuditEvents]) (writeCustomerAudit_checked (by decide) _) (by decide) ?_).bind
      fun _ s₃ h₃ => .pure h₃
    exact change_of_update hfind (by rw [h₂.2, Db.put_self]) (.canceled (by simpa using hearly))

lemma ensures_rejectRequest (operatorId : String) (target : ℕ) (reason : String) (correlationId : Option String) :
    (rejectRequest operatorId target reason correlationId).Ensures s fun _ s' =>
      RequestChange op requestId (findRequest requestId s.db) (findRequest requestId s'.db) := by
  refine ensures_selectForUpdate.bind fun request s₁ h₁ => ?_
  obtain ⟨hfound, rfl⟩ := h₁
  cases request with
  | none => exact .fail
  | some e =>
    obtain rfl : e.id = target := findRequest_id hfound.symm
    dsimp only
    split
    · exact .fail
    rename_i hearly
    refine ensures_updateOne.bind fun updated s₂ h₂ => ?_
    refine (ensures_rest (S := [commercialAuditEvents]) (writeOperatorAudit_checked (by decide) _) (by decide) ?_).bind
      fun _ s₃ h₃ => .pure h₃
    exact change_of_update hfound.symm (by rw [h₂.2, Db.put_self]) (.rejected (by simpa using hearly))

lemma ensures_advanceRequest (clock : Clock) (operatorId : String) (target : ℕ) (coolingOff : Time) (reason : String)
    (correlationId : Option String) :
    (advanceRequest clock operatorId target coolingOff reason correlationId).Ensures s fun _ s' =>
      RequestChange (.advanceDeletion clock operatorId target coolingOff reason correlationId) requestId
        (findRequest requestId s.db) (findRequest requestId s'.db) := by
  refine ensures_selectForUpdate.bind fun request s₁ h₁ => ?_
  obtain ⟨hfound, rfl⟩ := h₁
  cases request with
  | none => exact .fail
  | some e =>
    obtain rfl : e.id = target := findRequest_id hfound.symm
    dsimp only
    split
    · exact .fail
    rename_i next hnext
    split
    · exact .fail
    rename_i stamp hstamp
    have hmove : Moved (.advanceDeletion clock operatorId e.id coolingOff reason correlationId) e
        { e.val with status := next, coolingOffUntil := stamp.or e.val.coolingOffUntil } :=
      .advanced clock coolingOff next stamp (by simp [advanceOf]) hnext hstamp
    refine ensures_updateOne.bind fun updated s₂ h₂ => ?_
    refine (ensures_rest (S := [commercialAuditEvents]) (writeOperatorAudit_checked (by decide) _) (by decide) ?_).bind
      fun _ s₃ h₃ => .pure h₃
    exact change_of_update hfound.symm (by rw [h₂.2, Db.put_self]) hmove

lemma ensures_executeDeletion (clock : Clock) (operatorId : String) (target : ℕ) (reason : String)
    (correlationId : Option String) :
    (PrivacyRepository.executeDeletion clock operatorId target reason correlationId).Ensures s fun _ s' =>
      RequestChange op requestId (findRequest requestId s.db) (findRequest requestId s'.db) := by
  refine (executeDeletion_executed clock operatorId target reason correlationId).mono fun _ s' h => ?_
  obtain ⟨request, hdone⟩ := h
  obtain ⟨receipt, hrequests⟩ := hdone.requests
  obtain rfl : request.id = target := findRequest_id hdone.found
  exact change_of_update hdone.found hrequests (.completed (some clock.now) (some receipt) hdone.due)

/-- Five operations write to the requests. -/
theorem apply_request (hs : Stored s) (op : Operation) (requestId : ℕ) :
    RequestChange op requestId (findRequest requestId s.db) (findRequest requestId (op.apply s).db) := by
  have hframe : accountDeletionRequests ∉ op.tables →
      RequestChange op requestId (findRequest requestId s.db) (findRequest requestId (op.apply s).db) := fun ht =>
    change_of_same ((op.apply_follows s).table ht)
  have hsame : ∀ s' : DbStore, s'.db = s.db →
      RequestChange op requestId (findRequest requestId s.db) (findRequest requestId s'.db) := fun s' hdb =>
    change_of_same (by rw [hdb])
  cases op with
  | advanceDeletion clock operatorId target coolingOff reason correlationId =>
    exact after_ensures (ensures_advanceRequest clock operatorId target coolingOff reason correlationId) hsame
  | rejectDeletion operatorId target reason correlationId =>
    exact after_ensures (ensures_rejectRequest operatorId target reason correlationId) hsame
  | executeDeletion clock operatorId target reason correlationId =>
    exact after_ensures (ensures_executeDeletion clock operatorId target reason correlationId) hsame
  | customer clock authUserId aal request =>
    cases request with
    | requestDeletion reason correlationId =>
      unfold Operation.apply
      dsimp only
      split
      · exact after_ensures (ensures_requestDeletion hs.keyed clock _ reason correlationId) hsame
      · exact .same _
    | cancelDeletion correlationId =>
      unfold Operation.apply
      dsimp only
      split
      · exact after_ensures (ensures_cancelRequest hs.keyed _ correlationId) hsame
      · exact .same _
    | _ =>
      refine hframe ?_
      dsimp only [Operation.tables, CustomerRequest.tables]
      decide
  | _ =>
    refine hframe ?_
    dsimp only [Operation.tables]
    decide

/-- How a request has come to its status, and until when its cooling-off lasts. -/
inductive Way (requestId : ℕ) : DeletionStatus → Option Time → List (Operation × Option DeletionStatus) → Prop
  | requested (op : Operation) (until_ : Option Time) : Way requestId .requested until_ [(op, some .requested)]
  | verified {history} {until_ : Option Time} (op : Operation) (before : Way requestId .requested until_ history) :
      Way requestId .verified until_ (history ++ [(op, some .verified)])
  | coolingOff {history} {until_ : Option Time} (op : Operation) (clock : Clock) (duration : Time)
      (operator : advanceOf requestId op = some (clock, duration)) (before : Way requestId .verified until_ history) :
      Way requestId .coolingOff (some (clock.utcNow + duration)) (history ++ [(op, some .coolingOff)])
  | processing {history} {t : Time} (op : Operation) (clock : Clock) (unused : Time)
      (operator : advanceOf requestId op = some (clock, unused)) (passed : t ≤ clock.utcNow)
      (before : Way requestId .coolingOff (some t) history) :
      Way requestId .processing (some t) (history ++ [(op, some .processing)])
  | completed {history} {until_ : Option Time} (op : Operation) (before : Way requestId .processing until_ history) :
      Way requestId .completed until_ (history ++ [(op, some .completed)])
  | rejected {history} {until_ : Option Time} {status : DeletionStatus} (op : Operation)
      (before : Way requestId status until_ history) : Way requestId .rejected until_ (history ++ [(op, some .rejected)])
  | canceled {history} {until_ : Option Time} {status : DeletionStatus} (op : Operation)
      (before : Way requestId status until_ history) : Way requestId .canceled until_ (history ++ [(op, some .canceled)])

/-- A request without a row has no history. -/
def Traced (requestId : ℕ) (history : List (Operation × Option DeletionStatus)) : Option DeletionRequestRow → Prop
  | none => history = []
  | some e => Way requestId e.val.status e.val.coolingOffUntil history

lemma transitions_snoc (requestId : ℕ) (ops : List Operation) (op : Operation) (s : DbStore) :
    transitions requestId (ops ++ [op]) s = transitions requestId ops s ++ changeBy requestId op (runAll ops s) := by
  induction ops generalizing s with
  | nil => simp [transitions]
  | cons first ops ih => simp [transitions, ih]

/-- Only an open request is moved, and always to another status. -/
lemma Moved.leaves {e : DeletionRequestRow} {v : DeletionRequest} (h : Moved op e v) :
    e.val.status.terminal = false ∧ v.status ≠ e.val.status := by
  cases h with
  | canceled early => cases hstatus : e.val.status <;> simp_all [DeletionStatus.canCancel, DeletionStatus.terminal]
  | rejected early => cases hstatus : e.val.status <;> simp_all [DeletionStatus.canReject, DeletionStatus.terminal]
  | advanced clock coolingOff next stamp operator forward =>
    cases hstatus : e.val.status <;> rw [hstatus] at forward <;> cases forward <;>
      simp [DeletionStatus.terminal]
  | completed completedAt receipt due =>
    cases hstatus : e.val.status <;> simp_all [DeletionStatus.canExecute, DeletionStatus.terminal]

/-- A move leads on from the way so far. -/
lemma Way.move {history : List (Operation × Option DeletionStatus)} {e : DeletionRequestRow} {v : DeletionRequest}
    (hway : Way e.id e.val.status e.val.coolingOffUntil history) (hmove : Moved op e v) :
    Way e.id v.status v.coolingOffUntil (history ++ [(op, some v.status)]) := by
  cases hmove with
  | canceled early => exact .canceled op hway
  | rejected early => exact .rejected op hway
  | completed completedAt receipt due =>
    cases hstatus : e.val.status <;> simp [hstatus, DeletionStatus.canExecute] at due
    rw [hstatus] at hway
    exact .completed op hway
  | advanced clock coolingOff next stamp operator forward stamped =>
    cases hstatus : e.val.status <;> rw [hstatus] at forward hway <;> cases forward
    · -- the stamp is left alone
      cases stamped
      exact .verified op hway
    · cases stamped
      exact .coolingOff op clock coolingOff operator hway
    · unfold coolingOffStamp at stamped
      cases huntil : e.val.coolingOffUntil with
      | none => simp [huntil] at stamped
      | some t =>
        rw [huntil] at hway
        simp only [huntil] at stamped
        split_ifs at stamped with hactive
        cases stamped
        exact .processing op clock coolingOff operator (not_lt.mp hactive) hway

lemma Traced.change {history : List (Operation × Option DeletionStatus)} (hs : Stored s)
    (h : Traced requestId history (findRequest requestId s.db)) :
    Traced requestId (history ++ changeBy requestId op s) (findRequest requestId (op.apply s).db) := by
  have hchange := apply_request hs op requestId
  unfold changeBy statusOf
  generalize hafter : findRequest requestId (op.apply s).db = after at hchange
  cases hbefore : findRequest requestId s.db with
  | none =>
    rw [hbefore] at h hchange
    obtain rfl : history = [] := h
    cases hchange with
    | same => exact rfl
    | opened v fresh =>
      simp only [Option.map_some, Option.map_none, reduceCtorEq, if_false, List.nil_append]
      rw [fresh]
      show Way requestId v.status v.coolingOffUntil _
      rw [fresh]
      exact .requested op _
  | some e =>
    rw [hbefore] at h hchange
    obtain rfl : e.id = requestId := findRequest_id hbefore
    cases hchange with
    | same => simpa using h
    | moved _ v move =>
      simp only [Option.map_some, Option.some.injEq, if_neg move.leaves.2]
      exact Way.move h move

/-- The history of every request that a run opens is a way to its status. -/
theorem traced_run {s₀ : DbStore} (hs : Stored s₀) (hnone : s₀.db .accountDeletionRequests = [])
    (ops : List Operation) (requestId : ℕ) :
    Traced requestId (transitions requestId ops s₀) (findRequest requestId (runAll ops s₀).db) := by
  induction ops using List.reverseRecOn with
  | nil =>
    have hfind : findRequest requestId s₀.db = none := by simp [findRequest, hnone]
    rw [runAll_nil, hfind]
    rfl
  | append_singleton ops op ih =>
    rw [transitions_snoc, runAll_append]
    exact ih.change (runAll_stored hs ops)

lemma Way.cooledOff {until_ : Option Time} {history : List (Operation × Option DeletionStatus)}
    (h : Way requestId .completed until_ history) : CooledOff requestId history := by
  cases h with
  | completed execute h =>
    cases h with
    | processing process left unused hprocess hpassed h =>
      cases h with
      | coolingOff cool entered coolingOff hcool h =>
        cases h with
        | verified verify h =>
          cases h with
          | requested request =>
            exact ⟨request, verify, cool, process, execute, rfl, entered, coolingOff, left, unused, hcool, hprocess,
              hpassed⟩

/-- No operation changes a request that is completed, rejected or canceled. -/
lemma apply_terminal (hs : Stored s) {e : DeletionRequestRow} (he : e ∈ s.db accountDeletionRequests)
    (hterminal : e.val.status.terminal = true) (op : Operation) : e ∈ (op.apply s).db accountDeletionRequests := by
  have hfind : findRequest e.id s.db = some e :=
    hs.keyed.find_of_mem he (by simp) fun x hx => by simpa using hx
  have hchange := apply_request hs op e.id
  rw [hfind] at hchange
  generalize hafter : findRequest e.id (op.apply s).db = after at hchange
  cases hchange with
  | same => exact mem_of_findRequest hafter
  | moved _ v move => simp [move.leaves.1] at hterminal

/-- In every run a completed request has gone through all four states and waited for its cooling-off, and a
request in a terminal state stays as it is. -/
theorem deletion_after_cooling_off {s₀ : DbStore} (hs : Stored s₀) (hnone : s₀.db .accountDeletionRequests = [])
    (ops : List Operation) :
    (∀ requestId, statusOf requestId (runAll ops s₀).db = some .completed →
      CooledOff requestId (transitions requestId ops s₀)) ∧
    ∀ e ∈ (runAll ops s₀).db .accountDeletionRequests, e.val.status.terminal = true →
      ∀ later, e ∈ (runAll (ops ++ later) s₀).db .accountDeletionRequests := by
  constructor
  · intro requestId hcompleted
    have htraced := traced_run hs hnone ops requestId
    obtain ⟨e, hfind, hstatus⟩ := Option.map_eq_some_iff.mp hcompleted
    rw [hfind, Traced, hstatus] at htraced
    exact htraced.cooledOff
  · intro e he hterminal later
    rw [runAll_append]
    have hrun : Stored (runAll ops s₀) := runAll_stored hs ops
    generalize runAll ops s₀ = s at he hrun
    induction later generalizing s with
    | nil => exact he
    | cons op later ih => exact ih _ (apply_terminal hrun he hterminal op) ((op.apply_follows s).stored hrun)

/-- A deletion with a cooling-off of ten, executed as soon as it may be. -/
def patientRun : List Operation :=
  [.customer ⟨1, 1⟩ 100 none (.requestDeletion none none), .advanceDeletion ⟨2, 2⟩ "op" 7 10 "verified" none,
    .advanceDeletion ⟨3, 3⟩ "op" 7 10 "cooling off" none, .advanceDeletion ⟨12, 12⟩ "op" 7 10 "too early" none,
    .advanceDeletion ⟨13, 13⟩ "op" 7 10 "processing" none, .executeDeletion ⟨14, 14⟩ "op" 7 "execute" none]

theorem deletion_after_cooling_off_patient : CooledOff 7 (transitions 7 patientRun freshAccount) :=
  (deletion_after_cooling_off freshAccount_stored rfl patientRun).1 7 (by decide)

end ForgeCustomer.CoolingOff
