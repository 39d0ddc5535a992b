import ForgeCustomer.DatabaseTables

/-!
# The outbox publisher

`workers::outbox`: any number of publishers over one outbox. A tick reads a batch without claiming
it, publishes row after row and records each outcome.
-/
namespace ForgeCustomer.OutboxWorker
open SqlTables JsonValue StripeEvents DatabaseTables

inductive OutboxStatus where
  | pending | delivered | deadLetter
deriving DecidableEq

/-- A row of `outbox_events` with the columns of its delivery. -/
structure OutboxRow where
  id : ℕ
  event : OutboxEvent
  status : OutboxStatus
  attempts : ℕ
  lastError : Option String
  nextAttemptAt : Time
  deliveredAt : Option Time
  createdAt : Time

/-- The defaults of a new row. -/
def enqueued (e : Entry OutboxEvent) (now : Time) : OutboxRow :=
  { id := e.id
    event := e.val
    status := .pending
    attempts := 0
    lastError := none
    nextAttemptAt := now
    deliveredAt := none
    createdAt := now }

def second : Time := 1000000

/-- Capped exponential. -/
def backoffFor (attempts : ℕ) : Time := min (2 ^ attempts) 3600 * second

def maxAttempts : ℕ := 12

/-- `order by created_at limit 50`. -/
def due (now : Time) (rows : List OutboxRow) : List OutboxRow :=
  ((rows.filter fun r => r.status == .pending && decide (r.nextAttemptAt ≤ now)).insertionSort
    fun a b => a.createdAt ≤ b.createdAt).take 50

/-- What publishing the row as it was read makes of the row as it is stored. -/
def recordOutcome (now : Time) (row : OutboxRow) (outcome : Except String Unit) (stored : OutboxRow) : OutboxRow :=
  match outcome with
  | .ok _ => { stored with status := .delivered, deliveredAt := some now }
  | .error e =>
    { stored with
      attempts := row.attempts + 1
      status := if maxAttempts ≤ row.attempts + 1 then .deadLetter else .pending
      lastError := some e
      nextAttemptAt := now + backoffFor (row.attempts + 1) }

/-- `update … where id = $1`. -/
def updateRow (id : ℕ) (f : OutboxRow → OutboxRow) (rows : List OutboxRow) : List OutboxRow :=
  rows.map fun r => if r.id = id then f r else r

/-- Where a publisher stands in its tick. -/
inductive Worker where
  | idle
  | publishing (row : OutboxRow) (rest : List OutboxRow)
  | answered (row : OutboxRow) (outcome : Except String Unit) (rest : List OutboxRow)

/-- `for row in due`. -/
def Worker.next : List OutboxRow → Worker
  | [] => .idle
  | row :: rest => .publishing row rest

/-- The rows as a publisher holds them. -/
def Worker.batch : Worker → List OutboxRow
  | .idle => []
  | .publishing row rest => row :: rest
  | .answered row _ rest => row :: rest

@[simp] lemma Worker.batch_next (rows : List OutboxRow) : (Worker.next rows).batch = rows := by
  cases rows <;> rfl

/-- The outbox, the publishers, and the recorded failures. -/
structure State where
  outbox : List OutboxRow
  workers : ℕ → Worker
  failures : List ℕ

/-- A commit adds an event; a publisher reads, gets an answer, records it, or gives its tick up. -/
inductive Move where
  | enqueue (e : Entry OutboxEvent) (now : Time)
  | read (worker : ℕ) (now : Time)
  | publish (worker : ℕ) (outcome : Except String Unit)
  | record (worker : ℕ) (now : Time)
  | stop (worker : ℕ)

def recorded (row : OutboxRow) : Except String Unit → List ℕ
  | .ok _ => []
  | .error _ => [row.id]

def step (s : State) : Move → Option State
  | .enqueue e now =>
    if s.outbox.any fun r => r.id == e.id then none
    else some { s with outbox := s.outbox ++ [enqueued e now] }
  | .read i now =>
    match s.workers i with
    | .idle => some { s with workers := Function.update s.workers i (.next (due now s.outbox)) }
    | _ => none
  | .publish i outcome =>
    match s.workers i with
    | .publishing row rest => some { s with workers := Function.update s.workers i (.answered row outcome rest) }
    | _ => none
  | .record i now =>
    match s.workers i with
    | .answered row outcome rest =>
      some ⟨updateRow row.id (recordOutcome now row outcome) s.outbox,
        Function.update s.workers i (.next rest), s.failures ++ recorded row outcome⟩
    | _ => none
  | .stop i => some { s with workers := Function.update s.workers i .idle }

def run : List Move → State → Option State
  | [], s => some s
  | m :: ms, s => (step s m).bind (run ms)

/-- No events yet, and every publisher idle. -/
def start : State := ⟨[], fun _ => .idle, []⟩

/-- Delivered events stay delivered and no counter goes down. -/
def Advances (rows rows' : List OutboxRow) : Prop :=
  ∀ r ∈ rows, ∃ r' ∈ rows', r'.id = r.id ∧ (r.status = .delivered → r'.status = .delivered) ∧ r.attempts ≤ r'.attempts

/-- Every dead letter has failed often enough. -/
def DeadLettersEarned (s : State) : Prop :=
  ∀ r ∈ s.outbox, r.status = .deadLetter → maxAttempts ≤ s.failures.count r.id

/-- The move records no failure of an event that is delivered by now, or that others have counted on. -/
def Current (s : State) (m : Move) : Prop :=
  ∀ i now row e rest, m = .record i now → s.workers i = .answered row (.error e) rest →
    ∀ r ∈ s.outbox, r.id = row.id → r.status ≠ .delivered ∧ r.attempts ≤ row.attempts + 1

/-- `Q` holds of every step of the run. -/
def EachStep (Q : State → Move → State → Prop) : List Move → State → Prop
  | [], _ => True
  | m :: ms, s => ∀ s', step s m = some s' → Q s m s' ∧ EachStep Q ms s'

lemma Advances.refl (rows : List OutboxRow) : Advances rows rows := fun r hr => ⟨r, hr, rfl, id, le_refl _⟩

lemma Advances.trans {rows rows' rows'' : List OutboxRow} (h : Advances rows rows') (h' : Advances rows' rows'') :
    Advances rows rows'' := by
  intro r hr
  obtain ⟨r', hr', hid, hdelivered, hle⟩ := h r hr
  obtain ⟨r'', hr'', hid', hdelivered', hle'⟩ := h' r' hr'
  exact ⟨r'', hr'', hid'.trans hid, fun hd => hdelivered' (hdelivered hd), hle.trans hle'⟩

@[simp] lemma recordOutcome_id (now : Time) (row : OutboxRow) (outcome : Except String Unit) (r : OutboxRow) :
    (recordOutcome now row outcome r).id = r.id := by
  cases outcome <;> rfl

lemma mem_updateRow {id : ℕ} {f : OutboxRow → OutboxRow} {rows : List OutboxRow} {r : OutboxRow} (hr : r ∈ rows) :
    (if r.id = id then f r else r) ∈ updateRow id f rows := List.mem_map_of_mem hr

/-- No row counts more failures than were recorded, as stored or as read. -/
structure Counted (s : State) : Prop where
  stored : ∀ r ∈ s.outbox, r.attempts ≤ s.failures.count r.id
  held : ∀ i, ∀ r ∈ (s.workers i).batch, r.attempts ≤ s.failures.count r.id
  dead : DeadLettersEarned s

lemma counted_start : Counted start :=
  ⟨fun _ h => by simp [start] at h, fun _ _ h => by simp [start, Worker.batch] at h,
    fun _ h => by simp [start] at h⟩

lemma mem_due {now : Time} {rows : List OutboxRow} {r : OutboxRow} (h : r ∈ due now rows) : r ∈ rows := by
  have hsorted := List.mem_of_mem_take h
  rw [List.mem_insertionSort] at hsorted
  exact (List.mem_filter.mp hsorted).1

lemma count_recorded (failures : List ℕ) (row : OutboxRow) (outcome : Except String Unit) (id : ℕ) :
    failures.count id ≤ (failures ++ recorded row outcome).count id := by
  rw [List.count_append]
  exact Nat.le_add_right _ _

/-- What the publishers hold after one of them has moved on to rows it held before. -/
lemma held_update {s : State} {i : ℕ} {w : Worker} (hs : Counted s)
    (hw : ∀ r ∈ w.batch, r.attempts ≤ s.failures.count r.id) :
    ∀ j, ∀ r ∈ (Function.update s.workers i w j).batch, r.attempts ≤ s.failures.count r.id := by
  intro j r hr
  by_cases hj : j = i
  · subst hj
    rw [Function.update_self] at hr
    exact hw r hr
  · rw [Function.update_of_ne hj] at hr
    exact hs.held j r hr

lemma Counted.record {s : State} (hs : Counted s) {i : ℕ} {row : OutboxRow} {outcome : Except String Unit}
    {rest : List OutboxRow} (hw : s.workers i = .answered row outcome rest) (now : Time) :
    Counted ⟨updateRow row.id (recordOutcome now row outcome) s.outbox,
      Function.update s.workers i (.next rest), s.failures ++ recorded row outcome⟩ := by
  have hrow : ∀ r ∈ row :: rest, r.attempts ≤ s.failures.count r.id := by
    intro r hr
    exact hs.held i r (by rw [hw]; exact hr)
  have hgrow := count_recorded s.failures row outcome
  refine ⟨fun r' hr' => ?_, fun j r hr => ?_, fun r' hr' hdead => ?_⟩
  · obtain ⟨r, hr, rfl⟩ := List.mem_map.mp hr'
    split
    · rename_i hid
      rw [recordOutcome_id, hid]
      cases outcome with
      | ok => exact (hid ▸ hs.stored r hr).trans (hgrow row.id)
      | error e =>
        have hread := hrow row (by simp)
        simp only [recordOutcome, recorded, List.count_append, List.count_singleton_self]
        omega
    · exact (hs.stored r hr).trans (hgrow r.id)
  · refine le_trans (held_update hs (w := .next rest) (fun r hr => ?_) j r hr) (hgrow r.id)
    rw [Worker.batch_next] at hr
    exact hrow r (by simp [hr])
  · obtain ⟨r, hr, rfl⟩ := List.mem_map.mp hr'
    split at hdead
    · rename_i hid
      rw [if_pos hid, recordOutcome_id, hid]
      cases outcome with
      | ok => cases hdead
      | error e =>
        have hread := hrow row (by simp)
        simp only [recordOutcome] at hdead
        split at hdead
        · simp only [recorded, List.count_append, List.count_singleton_self]
          omega
        · cases hdead
    · rename_i hid
      rw [if_neg hid]
      exact (hs.dead r hr hdead).trans (hgrow r.id)

/-- What a step can be: a new event, a publisher that moves on without a write, or a recorded outcome. -/
lemma step_cases {s s' : State} {m : Move} (hm : step s m = some s') :
    (∃ e now, m = .enqueue e now ∧ s' = { s with outbox := s.outbox ++ [enqueued e now] }) ∨
    (∃ i w, (∀ j now, m ≠ .record j now) ∧ (∀ r ∈ w.batch, r ∈ s.outbox ∨ r ∈ (s.workers i).batch) ∧
      s' = { s with workers := Function.update s.workers i w }) ∨
    ∃ i now row outcome rest, m = .record i now ∧ s.workers i = .answered row outcome rest ∧
      s' = ⟨updateRow row.id (recordOutcome now row outcome) s.outbox,
        Function.update s.workers i (.next rest), s.failures ++ recorded row outcome⟩ := by
  cases m with
  | enqueue e now =>
    simp only [step] at hm
    split at hm
    · cases hm
    · cases hm
      exact .inl ⟨e, now, rfl, rfl⟩
  | read i now =>
    simp only [step] at hm
    split at hm <;> cases hm
    refine .inr (.inl ⟨i, .next (due now s.outbox), by simp, fun r hr => ?_, rfl⟩)
    rw [Worker.batch_next] at hr
    exact .inl (mem_due hr)
  | publish i outcome =>
    simp only [step] at hm
    split at hm
    · rename_i row rest hw
      cases hm
      refine .inr (.inl ⟨i, .answered row outcome rest, by simp, fun r hr => .inr ?_, rfl⟩)
      rw [hw]
      exact hr
    · cases hm
  | record i now =>
    simp only [step] at hm
    split at hm
    · rename_i row outcome rest hw
      cases hm
      exact .inr (.inr ⟨i, now, row, outcome, rest, rfl, hw, rfl⟩)
    · cases hm
  | stop i =>
    cases hm
    exact .inr (.inl ⟨i, .idle, by simp, fun r hr => by simp [Worker.batch] at hr, rfl⟩)

lemma Counted.enqueue {s : State} (hs : Counted s) (e : Entry OutboxEvent) (now : Time) :
    Counted { s with outbox := s.outbox ++ [enqueued e now] } := by
  have hnew : ∀ r ∈ s.outbox ++ [enqueued e now], r ∈ s.outbox ∨ r = enqueued e now := by
    intro r hr
    exact (List.mem_append.mp hr).imp id List.mem_singleton.mp
  refine ⟨fun r hr => ?_, hs.held, fun r hr hdead => ?_⟩
  · rcases hnew r hr with hr | rfl
    · exact hs.stored r hr
    · exact Nat.zero_le _
  · rcases hnew r hr with hr | rfl
    · exact hs.dead r hr hdead
    · cases hdead

theorem Counted.step {s s' : State} (hs : Counted s) {m : Move} (hm : step s m = some s') : Counted s' := by
  rcases step_cases hm with ⟨e, now, -, rfl⟩ | ⟨i, w, -, hw, rfl⟩ | ⟨i, now, row, outcome, rest, -, hw, rfl⟩
  · exact hs.enqueue e now
  · exact ⟨hs.stored, held_update hs fun r hr => (hw r hr).elim (hs.stored r) (hs.held i r), hs.dead⟩
  · exact hs.record hw now

/-- Recording a failure advances the outbox exactly when the row is as the publisher has to expect it. -/
lemma advances_failure_iff (rows : List OutboxRow) (now : Time) (row : OutboxRow)
    (e : String) : Advances rows (updateRow row.id (recordOutcome now row (.error e)) rows) ↔
      ∀ r ∈ rows, r.id = row.id → r.status ≠ .delivered ∧ r.attempts ≤ row.attempts + 1 := by
  constructor
  · intro h r hr hid
    obtain ⟨r', hr', hid', hdelivered, hle⟩ := h r hr
    obtain ⟨r₀, hr₀, rfl⟩ := List.mem_map.mp hr'
    have hid₀ : r₀.id = row.id := by
      split at hid'
      · assumption
      · exact hid'.trans hid
    rw [if_pos hid₀] at hdelivered hle
    refine ⟨fun hd => ?_, hle⟩
    have hstatus := hdelivered hd
    simp only [recordOutcome] at hstatus
    split at hstatus <;> cases hstatus
  · intro h r hr
    refine ⟨_, mem_updateRow hr, ?_⟩
    split
    · rename_i hid
      obtain ⟨hstatus, hle⟩ := h r hr hid
      exact ⟨rfl, fun hd => absurd hd hstatus, hle⟩
    · exact ⟨rfl, id, le_refl _⟩

lemma advances_success (rows : List OutboxRow) (now : Time) (row : OutboxRow) (u : Unit) :
    Advances rows (updateRow row.id (recordOutcome now row (.ok u)) rows) := by
  intro r hr
  refine ⟨_, mem_updateRow hr, ?_⟩
  split
  · exact ⟨rfl, fun _ => rfl, le_refl _⟩
  · exact ⟨rfl, id, le_refl _⟩

theorem advances_iff {s s' : State} {m : Move} (hm : step s m = some s') :
    Advances s.outbox s'.outbox ↔ Current s m := by
  rcases step_cases hm with ⟨e, now, rfl, rfl⟩ | ⟨i, w, hne, -, rfl⟩ | ⟨i, now, row, outcome, rest, rfl, hw, rfl⟩
  · refine iff_of_true (fun r hr => ⟨r, List.mem_append_left _ hr, rfl, id, le_refl _⟩) ?_
    intro j now' row e' rest hj
    cases hj
  · exact iff_of_true (Advances.refl _) fun j now row e rest hj => absurd hj (hne j now)
  · cases outcome with
    | ok u =>
      refine iff_of_true (advances_success _ _ _ u) fun j now' row' e rest' hj hw' => ?_
      cases hj
      rw [hw] at hw'
      cases hw'
    | error e =>
      refine (advances_failure_iff s.outbox now row e).trans ⟨fun h j now' row' e' rest' hj hw' => ?_, fun h => ?_⟩
      · cases hj
        rw [hw] at hw'
        cases hw'
        exact h
      · exact h i now row e rest rfl hw

lemma counted_run {ms : List Move} {s s' : State} (hs : Counted s) (h : run ms s = some s') : Counted s' := by
  induction ms generalizing s with
  | nil => cases h; exact hs
  | cons m ms ih =>
    obtain ⟨t, ht, h⟩ := Option.bind_eq_some_iff.mp h
    exact ih (hs.step ht) h

lemma EachStep.congr {Q R : State → Move → State → Prop} (hQR : ∀ s m s', step s m = some s' →
    (Q s m s' ↔ R s m s')) {ms : List Move} {s : State} : EachStep Q ms s ↔ EachStep R ms s := by
  induction ms generalizing s with
  | nil => exact Iff.rfl
  | cons m ms ih =>
    refine forall_congr' fun s' => forall_congr' fun hm => ?_
    rw [hQR s m s' hm, ih]

lemma EachStep.advances {ms : List Move} {s s' : State} (h : EachStep (fun s _ s' => Advances s.outbox s'.outbox) ms s)
    (hrun : run ms s = some s') : Advances s.outbox s'.outbox := by
  induction ms generalizing s with
  | nil => cases hrun; exact .refl _
  | cons m ms ih =>
    obtain ⟨t, ht, hrun⟩ := Option.bind_eq_some_iff.mp hrun
    obtain ⟨hstep, hrest⟩ := h t ht
    exact hstep.trans (ih hrest hrun)

/-- In every run dead letters have failed often enough. All its steps advance the outbox exactly when
none records a failure against a row that has moved on, and then so does any stretch of it. -/
theorem outbox_monotone_iff (ms₁ ms₂ : List Move) :
    (∀ s, run ms₁ start = some s → DeadLettersEarned s) ∧
    (∀ s, run ms₁ start = some s → (EachStep (fun s _ s' => Advances s.outbox s'.outbox) ms₂ s ↔
      EachStep (fun s m _ => Current s m) ms₂ s)) ∧
    ∀ s s', run ms₁ start = some s → run ms₂ s = some s' → EachStep (fun s m _ => Current s m) ms₂ s →
      Advances s.outbox s'.outbox := by
  have hiff : ∀ s, run ms₁ start = some s → (EachStep (fun s _ s' => Advances s.outbox s'.outbox) ms₂ s ↔
      EachStep (fun s m _ => Current s m) ms₂ s) := fun _ _ => EachStep.congr fun _ _ _ hm => advances_iff hm
  refine ⟨fun s hs => (counted_run counted_start hs).dead, hiff, fun s s' hs hs' hcurrent => ?_⟩
  exact EachStep.advances ((hiff s hs).mpr hcurrent) hs'

def oneEvent : Entry OutboxEvent := ⟨0, ⟨"customer_anonymized", "customer_anonymized:7", .null⟩⟩

/-- Both read the event; the first one delivers it. -/
def deliveredMoves : List Move :=
  [.enqueue oneEvent 0, .read 0 1, .read 1 1, .publish 0 (.ok ()), .publish 1 (.error "timeout"), .record 0 2]

/-- The statuses after the delivery, and after the second one has recorded its failure. -/
def overlapStatuses : Option (List OutboxStatus × List OutboxStatus) :=
  (run deliveredMoves start).bind fun s => (step s (.record 1 3)).map fun s' =>
    (s.outbox.map (·.status), s'.outbox.map (·.status))

/-- A delivered event becomes pending again. -/
theorem delivered_reopened : ∃ s s', run deliveredMoves start = some s ∧ run [.record 1 3] s = some s' ∧
    ∃ r ∈ s.outbox, r.status = .delivered ∧ ∀ r' ∈ s'.outbox, r'.status = .pending := by
  have hstatuses : overlapStatuses = some ([.delivered], [.pending]) := by decide
  obtain ⟨s, hs, h⟩ := Option.bind_eq_some_iff.mp hstatuses
  obtain ⟨s', hs', h⟩ := Option.map_eq_some_iff.mp h
  obtain ⟨hbefore, hafter⟩ := Prod.mk.inj h
  refine ⟨s, s', hs, by simp [run, hs'], ?_⟩
  obtain ⟨r, hr, hstatus⟩ := List.mem_map.mp (hbefore ▸ List.mem_singleton_self OutboxStatus.delivered)
  refine ⟨r, hr, hstatus, fun r' hr' => ?_⟩
  have hmem : r'.status ∈ s'.outbox.map (·.status) := List.mem_map_of_mem hr'
  rw [hafter] at hmem
  exact List.mem_singleton.mp hmem

end ForgeCustomer.OutboxWorker
