import ForgeCustomer.DatabaseTables

/-!
# Audit and outbox writers

The sanitized inserts that the repositories share (`licensing.rs`, `admin.rs`).
-/
namespace ForgeCustomer.AuditWriters
open SqlTables SqlPrograms SqlStatements JsonValue DatabaseTables StripeEvents TableName

/-- The instants one transaction reads: the database's `now()`, fixed at its start, and the
server's `Utc::now()`. -/
structure Clock where
  now : Time
  utcNow : Time
deriving DecidableEq

variable {ε : Type} [FromSql ε]

def writeOutbox (eventType deliveryKey : String) (payload : Value) : Tx ε Unit := do
  let _ ← insertUnless outboxEvents
    { eventType := eventType, deliveryKey := deliveryKey, payload := sanitize payload }
  pure ()

structure CustomerAudit where
  eventType : String
  customerId : ℕ
  targetType : String
  targetId : String
  reason : String
  beforeState : Option Value
  afterState : Option Value
  correlationId : Option String

def writeCustomerAudit (record : CustomerAudit) : Tx ε Unit := do
  let _ ← insertRow commercialAuditEvents
    { eventType := record.eventType
      actorType := .customer
      actorId := toString record.customerId
      customerId := some record.customerId
      targetType := some record.targetType
      targetId := some record.targetId
      reason := record.reason
      beforeState := record.beforeState.map sanitize
      afterState := record.afterState.map sanitize
      correlationId := record.correlationId }
  pure ()

/-- Every admin mutation writes one. -/
structure OperatorAudit where
  eventType : String
  operatorId : String
  customerId : Option ℕ
  targetType : String
  targetId : String
  reason : String
  beforeState : Option Value
  afterState : Option Value
  correlationId : Option String

def writeOperatorAudit (record : OperatorAudit) : Tx ε Unit := do
  let _ ← insertRow commercialAuditEvents
    { eventType := record.eventType
      actorType := .operator
      actorId := record.operatorId
      customerId := record.customerId
      targetType := some record.targetType
      targetId := some record.targetId
      reason := record.reason
      beforeState := record.beforeState.map sanitize
      afterState := record.afterState.map sanitize
      correlationId := record.correlationId }
  pure ()

variable {S : List TableName}

lemma writeOutbox_checked (h : .outboxEvents ∈ S) (eventType deliveryKey : String) (payload : Value) :
    Checked S (writeOutbox eventType deliveryKey payload : Tx ε Unit) :=
  (checked_insertUnless h _).bind fun _ => .pure ()

lemma writeCustomerAudit_checked (h : .commercialAuditEvents ∈ S) (record : CustomerAudit) :
    Checked S (writeCustomerAudit record : Tx ε Unit) :=
  (checked_insertRow h _).bind fun _ => .pure ()

lemma writeOperatorAudit_checked (h : .commercialAuditEvents ∈ S) (record : OperatorAudit) :
    Checked S (writeOperatorAudit record : Tx ε Unit) :=
  (checked_insertRow h _).bind fun _ => .pure ()

/-- An event is queued unless its delivery key is taken. -/
lemma ensures_writeOutbox {s : DbStore} {eventType key : String} {payload : Value} :
    (writeOutbox eventType key payload : Tx ε Unit).Ensures s fun _ s' =>
      (s'.db = s.db ∧ ∃ e ∈ s.db outboxEvents, e.val.deliveryKey = key) ∨
      (s'.db = s.db.put outboxEvents (s.db outboxEvents ++ [⟨s.seq, ⟨eventType, key, sanitize payload⟩⟩]) ∧
        ∀ e ∈ s.db outboxEvents, e.val.deliveryKey ≠ key) := by
  refine Prog.Ensures.bind (Q := fun _ s' =>
    (s'.db = s.db ∧ ∃ e ∈ s.db outboxEvents, e.val.deliveryKey = key) ∨
    (s'.db = s.db.put outboxEvents (s.db outboxEvents ++ [⟨s.seq, ⟨eventType, key, sanitize payload⟩⟩]) ∧
      ∀ e ∈ s.db outboxEvents, e.val.deliveryKey ≠ key)) ?_ fun _ _ h => .pure h
  refine ensures_statement fun c a hattempt => ?_
  rcases tryInsertUnless_ok hattempt with ⟨htaken, rfl, -⟩ | ⟨htaken, rfl, -⟩
  · simp [Store.env, Db.taken, Schema.keys, uniqueKeys] at htaken
    exact .inl ⟨rfl, htaken⟩
  · simp [Store.env, Db.taken, Schema.keys, uniqueKeys] at htaken
    exact .inr ⟨rfl, htaken⟩

variable {s : DbStore}

lemma runs_writeOutbox (eventType deliveryKey : String) (payload : Value) :
    (writeOutbox eventType deliveryKey payload : Tx ε Unit).Runs s fun _ _ => True :=
  (runs_insertUnless rfl rfl).bind fun _ _ _ => .pure trivial

lemma runs_writeOperatorAudit {record : OperatorAudit}
    (h : record.customerId.all (s.db.has customerProfiles) = true) :
    (writeOperatorAudit record : Tx ε Unit).Runs s fun _ _ => True := by
  refine (runs_insertRow rfl rfl ?_).bind fun _ _ _ => .pure trivial
  cases hc : record.customerId with
  | none => simp [Db.refsOk, Schema.refs, foreignKeys]
  | some c => simpa [Db.refsOk, Schema.refs, foreignKeys, hc, Db.resolves] using h

lemma runs_writeCustomerAudit {record : CustomerAudit}
    (h : s.db.has customerProfiles record.customerId = true) :
    (writeCustomerAudit record : Tx ε Unit).Runs s fun _ _ => True := by
  refine (runs_insertRow rfl rfl ?_).bind fun _ _ _ => .pure trivial
  simpa [Db.refsOk, Schema.refs, foreignKeys, Db.resolves] using h

end ForgeCustomer.AuditWriters
