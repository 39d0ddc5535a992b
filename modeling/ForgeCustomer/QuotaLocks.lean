import ForgeCustomer.ReservationLifecycle
import ForgeCustomer.SqlWaiting

/-!
# The locks of the quota engine

Reserve and direct commit lock the totals row before the reservations they expire; reservation commit, release and
sweep lock reservations before totals rows.
-/
namespace ForgeCustomer.QuotaLocks
open SqlTables SqlPrograms SqlStatements SqlSessions SqlDiscipline SqlWaiting Discipline DomainRules StripeEvents
  DatabaseTables AuditWriters UsageRepository ReservationLifecycle TableName

/-- A customer, meter and period. -/
abbrev TotalsKey := ℕ × String × String

def isOf (K : TotalsKey) (e : Entry UsagePeriodTotal) : Bool := isTotals K.1 K.2.1 K.2.2 e

def totalsIds (K : TotalsKey) (rows : List (Entry UsagePeriodTotal)) : List ℕ := (rows.filter (isOf K)).map (·.id)

/-- Each customer, meter and period keeps its one totals row. -/
def totalsRows : Discipline Row UniqueKey where
  global _ := True
  evolves d d' := ∀ K, totalsIds K (d .usagePeriodTotals) ≠ [] →
    totalsIds K (d' .usagePeriodTotals) = totalsIds K (d .usagePeriodTotals)
  evolves_refl _ _ _ := rfl
  evolves_trans _ _ _ h h' K hK := (h' K (h K hK ▸ hK)).trans (h K hK)
  Key := TotalsKey
  Part _ := List ℕ
  part K d := totalsIds K (d .usagePeriodTotals)
  ok _ x := x.length ≤ 1
  guards K x L := x = [] ∧ (Lock.key (.periodTotal K.1 K.2.1 K.2.2) : Lock TableName UniqueKey) ∈ L
  guards_mono _ _ _ _ h hL := ⟨h.1, hL _ h.2⟩
  exclusive _ _ _ _ _ h h' := ⟨_, h.2, h'.2⟩

variable {K : TotalsKey} {d d' : Database} {L L' : List (Lock TableName UniqueKey)} {v v' : Database → Database}

lemma mem_totalsIds {n : ℕ} {rows : List (Entry UsagePeriodTotal)} :
    n ∈ totalsIds K rows ↔ ∃ e ∈ rows, isOf K e = true ∧ e.id = n := by
  simp [totalsIds, and_assoc]

lemma totalsIds_append (K : TotalsKey) (rows rows' : List (Entry UsagePeriodTotal)) :
    totalsIds K (rows ++ rows') = totalsIds K rows ++ totalsIds K rows' := by
  simp [totalsIds]

/-- The update leaves a totals row to its customer, meter and period. -/
def KeepsKey (f : UsagePeriodTotal → UsagePeriodTotal) : Prop :=
  ∀ r, (f r).customerId = r.customerId ∧ (f r).meterKey = r.meterKey ∧ (f r).periodKey = r.periodKey

lemma totalsIds_updateRows {f : UsagePeriodTotal → UsagePeriodTotal} (hf : KeepsKey f)
    (p : Entry UsagePeriodTotal → Bool) (rows : List (Entry UsagePeriodTotal)) :
    totalsIds K (updateRows p f rows) = totalsIds K rows := by
  have hkept : ∀ e ∈ rows, p e = true → isOf K ⟨e.id, f e.val⟩ = isOf K e := by
    intro e _ _
    obtain ⟨h₁, h₂, h₃⟩ := hf e.val
    simp [isOf, isTotals, h₁, h₂, h₃]
  rw [totalsIds, filter_updateRows_kept hkept, List.map_map]
  exact List.map_congr_left fun e _ => updateEntry_id p f e

/-- So far the transaction has added no totals row. -/
def AddsNone (v : Database → Database) : Prop :=
  ∀ x K, totalsIds K (v x usagePeriodTotals) = totalsIds K (x usagePeriodTotals)

lemma addsNone_of_same (h : ∀ x, v x usagePeriodTotals = x usagePeriodTotals) : AddsNone v := by
  intro x K
  rw [h]

lemma AddsNone.frame (h : AddsNone v) (hv : ∀ x, v' x usagePeriodTotals = v x usagePeriodTotals) : AddsNone v' := by
  intro x K
  rw [hv, h]

abbrev folding (p : Entry UsagePeriodTotal → Bool) (ids : List ℕ) (f : UsagePeriodTotal → UsagePeriodTotal) :
    Change Row := .update usagePeriodTotals p ids f

lemma AddsNone.update (h : AddsNone v) {f : UsagePeriodTotal → UsagePeriodTotal} (hf : KeepsKey f)
    (p : Entry UsagePeriodTotal → Bool) (ids : List ℕ) (n : ℕ) : AddsNone fun x => (folding p ids f).apply n (v x) := by
  intro x K
  beta_reduce
  rw [Change.apply, Db.put_self]
  exact (totalsIds_updateRows hf _ _).trans (h x K)

variable {ε α β : Type}

/-- Only a missing totals row is added, under the lock of its unique key. -/
lemma allowed_of_ids (hone : ∀ K, (totalsIds K (v d usagePeriodTotals)).length ≤ 1)
    (hsame : ∀ K, totalsIds K (v d usagePeriodTotals) = totalsIds K (d usagePeriodTotals) ∨
      totalsIds K (d usagePeriodTotals) = [] ∧ Lock.key (.periodTotal K.1 K.2.1 K.2.2) ∈ L) : totalsRows.Allowed L v d where
  global := trivial
  evolves K hK := (hsame K).resolve_right fun h => hK h.1
  ok := hone
  guarded := hsame

lemma AddsNone.allowed (h : AddsNone v) (hd : totalsRows.Inv d) : totalsRows.Allowed L v d := by
  refine allowed_of_ids (fun K => ?_) fun K => .inl (h d K)
  rw [h]
  exact hd.2 K

/-- Any answer will do. -/
abbrev Ends : Except ε α → List (Lock TableName UniqueKey) → (Database → Database) → Database → Prop :=
  totalsRows.Commits fun _ _ _ => True

lemma AddsNone.commits (h : AddsNone v) (r : Except ε α) : Ends r L v d := by
  intro d' hd' _ _
  cases r with
  | error e => trivial
  | ok a => exact ⟨h.allowed hd', trivial⟩

abbrev quotaTables : List TableName := [usagePeriodTotals, usageReservations]

/-- The tables that the quota engine writes to besides. -/
abbrev sideTables : List TableName := [usageEvents, quotaDecisions, outboxEvents]

/-- No row of the quota tables is locked. -/
def Free (L : List (Lock TableName UniqueKey)) : Prop := ∀ t ∈ quotaTables, ∀ n, Lock.row t n ∉ L

/-- How a transaction goes about its locks. -/
inductive Stance where
  | quota (K : TotalsKey) (now : Time)
  | closing
  | sweeping

/-- For which totals rows a transaction may ask. -/
def Stance.asksTotals (s : Stance) (L : List (Lock TableName UniqueKey)) (d : Database) (n : ℕ) : Prop :=
  match s with
  | .quota _ _ => Lock.row usagePeriodTotals n ∈ L ∨ Free L
  | .closing => ∀ m, Lock.row usagePeriodTotals m ∉ L
  | .sweeping => ∃ r ∈ d .usageReservations, Lock.row usageReservations r.id ∈ L ∧
      ∃ e ∈ d .usagePeriodTotals, e.id = n ∧ isTotals r.val.customerId r.val.meterKey r.val.periodKey e = true

/-- For which reservations a transaction may ask. -/
def Stance.asksReservation (s : Stance) (L : List (Lock TableName UniqueKey)) (env : Env Row UniqueKey) (d : Database)
    (n : ℕ) : Prop :=
  match s with
  | .quota K now => n = env.fresh ∨ (∃ m, Lock.row usagePeriodTotals m ∈ L) ∧
      ∃ e ∈ d .usageReservations, e.id = n ∧ isStale K.1 K.2.1 K.2.2 now e = true
  | .closing => Lock.row usageReservations n ∈ L ∨ Free L
  | .sweeping => env.busy (Lock.row usageReservations n) = false

def Stance.Asks (s : Stance) (L : List (Lock TableName UniqueKey)) (env : Env Row UniqueKey) (d : Database)
    (asked : List (Lock TableName UniqueKey)) : Prop :=
  (∀ n, Lock.row usagePeriodTotals n ∈ asked → s.asksTotals L d n) ∧
  ∀ n, Lock.row usageReservations n ∈ asked → s.asksReservation L env d n

abbrev Follows (s : Stance) (tx : Tx ε α) : List (Lock TableName UniqueKey) → (Database → Database) → Database → Prop :=
  Ordered totalsRows s.Asks Ends tx

variable {s : Stance} {env : Env Row UniqueKey}

lemma asks_side (L : List (Lock TableName UniqueKey)) (env : Env Row UniqueKey) (d : Database)
    (asked : List (Lock TableName UniqueKey)) (h : ∀ t, t ∉ sideTables → ∀ n, Lock.row t n ∉ asked) :
    s.Asks L env d asked :=
  ⟨fun n hn => absurd hn (h _ (by decide) n), fun n hn => absurd hn (h _ (by decide) n)⟩

lemma asks_nothing (L : List (Lock TableName UniqueKey)) (env : Env Row UniqueKey) (d : Database) : s.Asks L env d [] :=
  asks_side L env d [] fun _ _ _ hn => by cases hn

lemma AddsNone.follows_pure (h : AddsNone v) (a : α) : Follows s (pure a : Tx ε α) L v d :=
  h.commits (.ok a : Except ε α)

lemma ends_error (e : ε) : Ends (.error e : Except ε α) L v d := fun _ _ _ _ => trivial

lemma follows_fail (e : ε) : Follows s (.fail e : Tx ε α) L v d := ends_error (α := α) e

/-- Statements about side tables: no quota row is written or locked. -/
structure Side (tx : Tx ε α) : Prop where
  lockless : Lockless tx
  touches : tx.Touches sideTables

lemma Side.pure (a : α) : Side (pure a : Tx ε α) := ⟨.pure a, .pure _ a⟩

lemma Side.bind {tx : Tx ε α} {k : α → Tx ε β} (h : Side tx) (hk : ∀ a, Side (k a)) : Side (tx >>= k) :=
  ⟨h.lockless.bind fun a => (hk a).lockless, Prog.Touches.bind h.touches fun a => (hk a).touches⟩

section SideStatements
variable [FromSql ε]

lemma side_select (f : Database → α) : Side (select f : Tx ε α) := ⟨lockless_select f, (checked_select f).touches⟩

lemma side_selectOne (f : Database → Option α) : Side (selectOne f : Tx ε α) :=
  ⟨lockless_statement _, (checked_selectOne f).touches⟩

lemma side_recordDecision (record : DecisionRecord) : Side (recordDecision record : Tx ε _) := by
  refine Side.bind ⟨lockless_statement _, (checked_insertRow ?_ _).touches⟩ fun _ => .pure _
  simp

lemma side_writeOutbox (topic deliveryKey : String) (payload : JsonValue.Value) :
    Side (writeOutbox topic deliveryKey payload : Tx ε _) := by
  refine ⟨?_, (writeOutbox_checked (by simp) _ _ _).touches⟩
  exact (lockless_statement _).bind fun _ => .pure _

end SideStatements

lemma side_writeThresholds (customerId : ℕ) (meterKey periodKey : String) (usedAfter : ℚ) (limit : Option ℚ)
    (utcNow : Time) (thresholds : List ℕ) :
    Side (writeThresholds customerId meterKey periodKey usedAfter limit utcNow thresholds) := by
  induction thresholds with
  | nil => exact .pure _
  | cons pct thresholds ih => exact (side_writeOutbox _ _ _).bind fun _ => ih

/-- After statements about side tables the quota rows are as before. -/
lemma follows_side {tx : Tx ε α} {k : α → Tx ε β} (hside : Side tx)
    (hk : ∀ a L' v' d', (∀ l ∈ L, l ∈ L') → (∀ t ∈ quotaTables, ∀ n, Lock.row t n ∈ L' → Lock.row t n ∈ L) →
      totalsRows.Rely L d d' → (∀ x, ∀ t ∈ quotaTables, v' x t = v x t) → Follows s (k a) L' v' d') :
    Follows s (tx >>= k) L v d := by
  refine ordered_bind.mpr (ordered_others hside.lockless hside.touches asks_side fun r L' v' d' hL hL' hr hv => ?_)
  have hquota : ∀ t ∈ quotaTables, t ∉ sideTables := by decide
  cases r with
  | ok a => exact hk a L' v' d' hL (fun t ht n => hL' t (hquota t ht) n) hr fun x t ht => hv x t (hquota t ht)
  | error e => exact ends_error e

lemma follows_finish {tx : Tx ε α} (hside : Side tx)
    (hends : ∀ (r : Except ε α) L' v' d', (∀ l ∈ L, l ∈ L') → totalsRows.Rely L d d' →
      (∀ x, ∀ t ∈ quotaTables, v' x t = v x t) → Ends r L' v' d') : Follows s tx L v d := by
  have hquota : ∀ t ∈ quotaTables, t ∉ sideTables := by decide
  exact ordered_others hside.lockless hside.touches asks_side fun r L' v' d' hL _ hr hv =>
    hends r L' v' d' hL hr fun x t ht => hv x t (hquota t ht)

/-- An update asks for the rows that it finds. -/
lemma follows_update [FromSql ε] {t : TableName} {p : Entry (Row t) → Bool} {f : Row t → Row t}
    {k : List (Entry (Row t)) → Tx ε β}
    (h : ∀ d' env n, totalsRows.Inv d' → totalsRows.Rely L d d' →
      s.Asks L env d' (((v d' t).filter p).map fun e => Lock.row t e.id) ∧
      Follows s (k (((v d' t).filter p).map fun e => ⟨e.id, f e.val⟩))
        (L ++ ((v d' t).filter p).map fun e => Lock.row t e.id)
        (fun x => (Change.update t p (((v d' t).filter p).map (·.id)) f : Change Row).apply n (v x)) d') :
    Follows s (SqlStatements.update t p f >>= k) L v d := by
  refine ordered_bind.mpr (ordered_statement fun d' hd' hr env henv _ => ⟨fun c rows hat => ?_,
    fun e _ => ⟨asks_nothing _ _ _, ends_error _⟩⟩)
  obtain ⟨rfl, rfl⟩ := tryUpdate_ok hat
  have := h d' env env.fresh hd' hr
  rw [← henv] at this
  simpa [Change.locks, List.map_map, Function.comp_def] using this

lemma row_not_mem_map {t u : TableName} (hne : t ≠ u) {γ : Type} (f : γ → ℕ) (xs : List γ) (n : ℕ) :
    (Lock.row t n : Lock TableName UniqueKey) ∉ xs.map fun x => Lock.row u (f x) := by
  intro hmem
  obtain ⟨x, -, heq⟩ := List.mem_map.mp hmem
  cases heq
  exact hne rfl

lemma keepsKey_freeHold (amount : ℚ) : KeepsKey (freeHold amount) := fun _ => ⟨rfl, rfl, rfl⟩

lemma keepsKey_fold (reservedDelta amount : ℚ) :
    KeepsKey fun r => { freeHold reservedDelta r with used := r.used + amount } := fun _ => ⟨rfl, rfl, rfl⟩

lemma keepsKey_hold (amount : ℚ) : KeepsKey fun r => { r with reserved := r.reserved + amount } :=
  fun _ => ⟨rfl, rfl, rfl⟩

/-- The transaction holds no totals row and has added none. -/
structure Below (L : List (Lock TableName UniqueKey)) (v : Database → Database) : Prop where
  totals : ∀ m, Lock.row usagePeriodTotals m ∉ L
  adds : AddsNone v

lemma Below.after (h : Below L v) (hL : ∀ t ∈ quotaTables, ∀ n, Lock.row t n ∈ L' → Lock.row t n ∈ L)
    (hv : ∀ x, ∀ t ∈ quotaTables, v' x t = v x t) : Below L' v' :=
  ⟨fun m hm => h.totals m (hL _ (by simp) m hm), h.adds.frame fun x => hv x _ (by simp)⟩

lemma below_start : Below [] (id : Database → Database) ∧ Free [] :=
  ⟨⟨by simp, addsNone_of_same fun _ => rfl⟩, by simp [Free]⟩

lemma Below.bind_lock (h : Below L v) (hfree : Free L) {k : Option ReservationRow → Tx ε β}
    (reservationId customerId : ℕ) (hnone : ∀ L' d', Below L' v → Follows .closing (k none) L' v d')
    (hsome : ∀ e₀ L' d', isOwnReservation reservationId customerId e₀ = true → Lock.row usageReservations e₀.id ∈ L' →
      Below L' v → Follows .closing (k (some e₀)) L' v d') :
    Follows .closing (selectForUpdate usageReservations (fun d =>
      (d .usageReservations).find? (isOwnReservation reservationId customerId)) >>= k) L v d := by
  refine ordered_bind.mpr (ordered_selectForUpdate fun d' _ _ env _ => ?_)
  cases hfind : (v d' .usageReservations).find? (isOwnReservation reservationId customerId) with
  | none =>
    refine ⟨asks_nothing _ _ _, hnone _ _ ?_⟩
    simpa using h
  | some e₀ =>
    refine ⟨⟨fun n hn => ?_, fun n _ => .inr hfree⟩, hsome e₀ _ _ (List.find?_some hfind) (by simp) ⟨fun m hm => ?_, h.adds⟩⟩
    · simp at hn
    · exact h.totals m (by simpa using hm)

section Closing
variable [FromSql ε]

lemma Below.bind_close (h : Below L v) {k : List ReservationRow → Tx ε β} {reservationId : ℕ}
    (hlock : Lock.row usageReservations reservationId ∈ L) (f : UsageReservation → UsageReservation)
    (hk : ∀ rows L' v' d', Below L' v' → Follows .closing (k rows) L' v' d') :
    Follows .closing (SqlStatements.update usageReservations (only reservationId) f >>= k) L v d := by
  refine follows_update fun d' env n _ _ => ⟨⟨fun m hm => ?_, fun m hm => .inl ?_⟩, hk _ _ _ _ ⟨fun m hm => ?_, ?_⟩⟩
  · exact absurd hm (row_not_mem_map (by decide) _ _ m)
  · obtain ⟨e, he, heq⟩ := List.mem_map.mp hm
    have hid : e.id = reservationId := beq_iff_eq.mp (List.mem_filter.mp he).2
    cases heq
    exact hid ▸ hlock
  · rcases List.mem_append.mp hm with hm | hm
    · exact h.totals m hm
    · exact row_not_mem_map (by decide) _ _ m hm
  · exact h.adds.frame fun x => Db.put_of_ne _ (by decide) _

/-- The totals row is the last one to be locked. -/
lemma Below.bind_fold (h : Below L v) {k : List (Entry UsagePeriodTotal) → Tx ε β} {f : UsagePeriodTotal → UsagePeriodTotal}
    (hf : KeepsKey f) (p : Entry UsagePeriodTotal → Bool) (hside : ∀ rows, Side (k rows)) :
    Follows .closing (SqlStatements.update usagePeriodTotals p f >>= k) L v d := by
  refine follows_update fun d' env n _ _ => ⟨⟨fun m _ => h.totals, fun m hm => ?_⟩, ?_⟩
  · exact absurd hm (row_not_mem_map (by decide) _ _ m)
  · refine follows_finish (hside _) fun r L' v' d'' _ _ hv => ?_
    exact ((h.adds.update hf p _ n).frame fun x => hv x _ (by simp)).commits r

lemma side_one {γ : Type} (rows : List γ) : Side (one rows : Tx ε γ) := by
  cases rows with
  | nil => exact ⟨trivial, trivial⟩
  | cons row rows => exact .pure _

end Closing

lemma side_thresholds (clock : Clock) (input : CommitInput) (meterKey : String) (amount : ℚ) (periodKey : String)
    (event : UsageEventRow) (totals : Entry UsagePeriodTotal) :
    Side (do
      let usedAfter := totals.val.used
      let thresholds := crossedThresholds (usedAfter - amount) usedAfter input.limit input.thresholdPercents
      writeThresholds input.customerId meterKey periodKey usedAfter input.limit clock.utcNow thresholds
      pure (.ok (.committed event usedAfter thresholds)) : Tx UsageError (Except UsageError CommitOutcome)) :=
  (side_writeThresholds _ _ _ _ _ _ _).bind fun _ => .pure _

lemma side_insertEvent (event : Row usageEvents) : Side (insertUnless usageEvents event : Tx UsageError _) := by
  have hchecked : Checked sideTables (insertUnless usageEvents event : Tx UsageError _) :=
    checked_insertUnless (by simp) event
  exact ⟨lockless_statement _, hchecked.touches⟩

lemma Below.append (h : Below L v) (clock : Clock) (input : CommitInput) (meterKey : String) (amount : ℚ)
    (periodKey : String) {reservationId : ℕ} (hlock : Lock.row usageReservations reservationId ∈ L) :
    Follows .closing (appendEvent clock input meterKey amount periodKey (some reservationId)) L v d := by
  refine follows_side (side_insertEvent _) fun event L' v' d' hL hL' _ hv => ?_
  have h' := h.after hL' hv
  cases event with
  | none =>
    refine follows_finish ((side_selectOne _).bind fun _ => .pure _) fun r L'' v'' d'' _ _ hv' => ?_
    exact (h'.adds.frame fun x => hv' x _ (by simp)).commits r
  | some event =>
    simp only [closeReservation, updateOne, Prog.bind_assoc]
    refine h'.bind_close (hL _ hlock) _ fun _ L'' v'' d'' h'' => ?_
    refine h''.bind_fold (keepsKey_fold _ _) _ fun rows => ?_
    exact (side_one rows).bind fun totals => side_thresholds _ _ _ _ _ _ _

theorem follows_release (customerId reservationId : ℕ) (d : Database) :
    Follows .closing (release customerId reservationId) [] id d := by
  obtain ⟨hbelow, hfree⟩ := below_start
  refine hbelow.bind_lock hfree _ _ (fun _ _ h => h.adds.follows_pure _) fun e₀ L d hown hlock h => ?_
  obtain ⟨rfl, -⟩ := isOwnReservation_iff.mp hown
  dsimp only
  split
  · exact h.adds.follows_pure _
  refine h.bind_close hlock _ fun _ L v d h => ?_
  exact h.bind_fold (keepsKey_freeHold _) _ fun _ => .pure _

lemma taken_eq (row : UsagePeriodTotal) (d : Database) : d.taken (κ := UniqueKey) usagePeriodTotals row =
    (d usagePeriodTotals).any (isOf (row.customerId, row.meterKey, row.periodKey)) :=
  congrArg (d usagePeriodTotals).any (conflicts_totals row)

lemma totalsIds_eq_nil {rows : List (Entry UsagePeriodTotal)} : totalsIds K rows = [] ↔ rows.any (isOf K) = false := by
  simp [totalsIds, List.filter_eq_nil_iff, List.any_eq_false]

/-- The one totals row of `K`, as the transaction sees it, is `n`, and its writes may be committed. -/
structure Known (K : TotalsKey) (n : ℕ) (L : List (Lock TableName UniqueKey)) (v : Database → Database)
    (d : Database) : Prop where
  ids : ∀ d', totalsRows.Inv d' → totalsRows.Rely L d d' → totalsIds K (v d' usagePeriodTotals) = [n]
  allowed : ∀ d', totalsRows.Inv d' → totalsRows.Rely L d d' → totalsRows.Allowed L v d'

lemma Known.frame {n : ℕ} (h : Known K n L v d) (hL : ∀ k ∈ L, k ∈ L') (hr : totalsRows.Rely L d d')
    (hv : ∀ x K', totalsIds K' (v' x usagePeriodTotals) = totalsIds K' (v x usagePeriodTotals)) :
    Known K n L' v' d' where
  ids x hx hrx := (hv x K).trans (h.ids x hx (hr.trans (hrx.mono hL)))
  allowed x hx hrx := by
    have hallowed := h.allowed x hx (hr.trans (hrx.mono hL))
    refine allowed_of_ids (fun K' => ?_) fun K' => ?_
    · rw [hv]
      exact hallowed.ok K'
    · rcases hallowed.guarded K' with hsame | ⟨hnone, hlock⟩
      · exact .inl ((hv x K').trans hsame)
      · exact .inr ⟨hnone, hL _ hlock⟩

lemma Known.commits {n : ℕ} (h : Known K n L v d) (r : Except ε α) : Ends r L v d := by
  intro d' hd' hr _
  cases r with
  | error e => trivial
  | ok a => exact ⟨h.allowed d' hd' hr, trivial⟩

/-- A stored totals row stays the one of its customer, meter and period. -/
lemma known_stored {n : ℕ} (hids : totalsIds K (d usagePeriodTotals) = [n]) (hv : AddsNone v) : Known K n L v d where
  ids x _ hr := by rw [hv, hr.1 K (by simp [hids]), hids]
  allowed x hx _ := hv.allowed hx

/-- A new totals row is the only one, because its unique key is locked. -/
lemma known_added {n : ℕ} (row : UsagePeriodTotal)
    (hnone : totalsIds (row.customerId, row.meterKey, row.periodKey) (d usagePeriodTotals) = [])
    (hlock : Lock.key (.periodTotal row.customerId row.meterKey row.periodKey) ∈ L)
    (hv : ∀ x, v x usagePeriodTotals = x usagePeriodTotals ++ [⟨n, row⟩]) :
    Known (row.customerId, row.meterKey, row.periodKey) n L v d := by
  have hadded : ∀ x, totalsRows.Rely L d x → totalsIds (row.customerId, row.meterKey, row.periodKey) (x usagePeriodTotals) = [] :=
    fun x hr => (hr.2.1 (row.customerId, row.meterKey, row.periodKey) ⟨hnone, hlock⟩).trans hnone
  have hself : totalsIds (row.customerId, row.meterKey, row.periodKey) [⟨n, row⟩] = [n] := by
    simp [totalsIds, isOf, isTotals]
  have hother : ∀ K' : TotalsKey, K' ≠ (row.customerId, row.meterKey, row.periodKey) → totalsIds K' [⟨n, row⟩] = [] := by
    rintro ⟨c, m, p⟩ hne
    simp only [totalsIds_eq_nil, List.any_cons, List.any_nil, Bool.or_false, isOf, isTotals, Bool.and_eq_false_iff,
      beq_eq_false_iff_ne]
    by_contra hall
    push Not at hall
    exact hne (by rw [hall.1.1, hall.1.2, hall.2])
  have hview : ∀ x K', K' ≠ (row.customerId, row.meterKey, row.periodKey) →
      totalsIds K' (v x usagePeriodTotals) = totalsIds K' (x usagePeriodTotals) := fun x K' hne => by
    rw [hv, totalsIds_append, hother K' hne, List.append_nil]
  have hown : ∀ x, totalsRows.Rely L d x →
      totalsIds (row.customerId, row.meterKey, row.periodKey) (v x usagePeriodTotals) = [n] := fun x hr => by
    rw [hv, totalsIds_append, hadded x hr, hself, List.nil_append]
  refine ⟨fun x _ hr => hown x hr, fun x hx hr => allowed_of_ids (fun K' => ?_) fun K' => ?_⟩
  · by_cases hK' : K' = (row.customerId, row.meterKey, row.periodKey)
    · rw [hK', hown x hr, List.length_singleton]
    · rw [hview x K' hK']
      exact hx.2 K'
  · by_cases hK' : K' = (row.customerId, row.meterKey, row.periodKey)
    · subst hK'
      exact .inr ⟨hadded x hr, hlock⟩
    · exact .inl (hview x K' hK')

abbrev opening (row : UsagePeriodTotal) : Change Row := .insert usagePeriodTotals row

lemma find_of_ids {n : ℕ} {rows : List (Entry UsagePeriodTotal)} (h : totalsIds K rows = [n]) :
    ∃ e, rows.find? (isTotals K.1 K.2.1 K.2.2) = some e ∧ e.id = n := by
  obtain ⟨e₀, he₀, hof, -⟩ := mem_totalsIds.mp (h ▸ List.mem_singleton_self n)
  cases hfind : rows.find? (isTotals K.1 K.2.1 K.2.2) with
  | none => exact absurd hof (List.find?_eq_none.mp hfind e₀ he₀)
  | some e =>
    have hmem : e.id ∈ totalsIds K rows :=
      mem_totalsIds.mpr ⟨e, List.mem_of_find?_eq_some hfind, List.find?_some hfind, rfl⟩
    rw [h] at hmem
    exact ⟨e, rfl, List.mem_singleton.mp hmem⟩

/-- The transaction holds its totals row. -/
structure Seated (K : TotalsKey) (n : ℕ) (L : List (Lock TableName UniqueKey)) (v : Database → Database)
    (d : Database) : Prop where
  lock : Lock.row usagePeriodTotals n ∈ L
  known : Known K n L v d

variable {n : ℕ}

lemma Seated.frame (h : Seated K n L v d) (hL : ∀ k ∈ L, k ∈ L') (hr : totalsRows.Rely L d d')
    (hv : ∀ x K', totalsIds K' (v' x usagePeriodTotals) = totalsIds K' (v x usagePeriodTotals)) : Seated K n L' v' d' :=
  ⟨hL _ h.lock, h.known.frame hL hr hv⟩

lemma Seated.bind_side (h : Seated K n L v d) {tx : Tx ε α} {k : α → Tx ε β} (hside : Side tx)
    (hk : ∀ a L' v' d', Seated K n L' v' d' → Follows s (k a) L' v' d') : Follows s (tx >>= k) L v d :=
  follows_side hside fun a L' v' d' hL _ hr hv => hk a L' v' d' (h.frame hL hr fun x K' => by rw [hv x _ (by simp)])

lemma Seated.finish (h : Seated K n L v d) {tx : Tx ε α} (hside : Side tx) : Follows s tx L v d :=
  follows_finish hside fun r _ _ _ hL hr hv => (h.known.frame hL hr fun x K' => by rw [hv x _ (by simp)]).commits r

lemma Seated.close (h : Seated K n L v d) (hr : totalsRows.Rely L d d') (status : ReservationStatus)
    (p : ReservationRow → Bool) (ids : List ℕ) (m : ℕ) (M : List (Lock TableName UniqueKey)) :
    Seated K n (L ++ M) (fun x => (closing status p ids).apply m (v x)) d' :=
  h.frame (fun _ hl => List.mem_append_left _ hl) hr fun x K' => congrArg (totalsIds K') (Db.put_of_ne _ (by decide) _)

section Quota
variable [FromSql ε] {now : Time}

lemma Known.bind_select (h : Known K n L v d) (hasks : Lock.row usagePeriodTotals n ∈ L ∨ Free L)
    {k : Entry UsagePeriodTotal → Tx ε β} (hk : ∀ row L' d', Seated K n L' v d' → Follows (.quota K now) (k row) L' v d') :
    Follows (.quota K now) (selectOneForUpdate usagePeriodTotals (fun d =>
      (d .usagePeriodTotals).find? (isTotals K.1 K.2.1 K.2.2)) >>= k) L v d := by
  refine ordered_bind.mpr (ordered_selectOneForUpdate fun d' hd' hr env _ => ?_)
  obtain ⟨e, hfind, rfl⟩ := find_of_ids (h.ids d' hd' hr)
  refine ⟨e, hfind, ⟨fun m hm => ?_, fun m hm => by simp at hm⟩, hk e _ _ ⟨List.mem_append_right _ (by simp), ?_⟩⟩
  · obtain rfl : m = e.id := by simpa using hm
    exact hasks
  · exact h.frame (fun _ hl => List.mem_append_left _ hl) hr fun _ _ => rfl

lemma follows_lockTotals (hfree : Free L) (hv : ∀ x, ∀ t ∈ quotaTables, v x t = x t)
    {customerId : ℕ} {meterKey periodKey : String} {k : ℚ × ℚ → Tx ε β}
    (hk : ∀ a n L' v' d', Seated (customerId, meterKey, periodKey) n L' v' d' →
      (∀ x, v' x usageReservations = x usageReservations) →
      Follows (.quota (customerId, meterKey, periodKey) now) (k a) L' v' d') :
    Follows (.quota (customerId, meterKey, periodKey) now) (lockTotals customerId meterKey periodKey >>= k) L v d := by
  simp only [lockTotals, Prog.bind_assoc]
  refine ordered_bind.mpr (ordered_statement fun d' hd' _ env henv _ => ⟨fun c row hat => ?_,
    fun _ _ => ⟨asks_nothing _ _ _, ends_error _⟩⟩)
  have hsame : env.db usagePeriodTotals = d' usagePeriodTotals := by rw [henv, hv _ _ (by simp)]
  have hreservations : ∀ x, v x usageReservations = x usageReservations := fun x => hv x _ (by simp)
  rcases tryInsertUnless_ok hat with ⟨htaken, rfl, rfl⟩ | ⟨htaken, rfl, rfl⟩
  · refine ⟨asks_nothing _ _ _, ?_⟩
    have hids : totalsIds (customerId, meterKey, periodKey) (d' usagePeriodTotals) ≠ [] := by
      rw [taken_eq, hsame] at htaken
      exact fun hnone => by simp [totalsIds_eq_nil.mp hnone] at htaken
    obtain ⟨n, hn⟩ := List.length_eq_one_iff.mp (le_antisymm (hd'.2 (customerId, meterKey, periodKey))
      (List.length_pos_iff.mpr hids))
    have hknown := known_stored (L := L) hn (addsNone_of_same fun x => hv x _ (by simp))
    simp only [Change.locks, List.append_nil]
    refine hknown.bind_select (.inr hfree) fun row L' d'' hseated => ?_
    exact hk _ n L' _ d'' hseated hreservations
  · refine ⟨⟨fun m _ => .inr hfree, fun m hm => ?_⟩, ?_⟩
    · simp [Change.locks] at hm
    have hnone : totalsIds (customerId, meterKey, periodKey) (d' usagePeriodTotals) = [] := by
      rw [taken_eq, hsame] at htaken
      exact totalsIds_eq_nil.mpr htaken
    have hlocks : (opening ⟨customerId, meterKey, periodKey, 0, 0⟩).locks env.fresh =
        [Lock.row usagePeriodTotals env.fresh, Lock.key (.periodTotal customerId meterKey periodKey)] := rfl
    have hview : ∀ x, (opening ⟨customerId, meterKey, periodKey, 0, 0⟩).apply env.fresh (v x) usagePeriodTotals =
        x usagePeriodTotals ++ [⟨env.fresh, ⟨customerId, meterKey, periodKey, 0, 0⟩⟩] := fun x => by
      rw [Change.apply, Db.put_self, hv x _ (by simp)]
    have hknown := known_added (L := L ++ ([] ++ (opening ⟨customerId, meterKey, periodKey, 0, 0⟩).locks env.fresh))
      ⟨customerId, meterKey, periodKey, 0, 0⟩ hnone (by simp [hlocks]) hview
    refine hknown.bind_select (.inl (by simp [hlocks])) fun row L' d'' hseated => ?_
    refine hk _ _ L' _ d'' hseated fun x => ?_
    rw [Change.apply, Db.put_of_ne _ (by decide), hreservations]

/-- The totals row is written under its lock. -/
lemma Seated.bind_fold (h : Seated K n L v d) {f : UsagePeriodTotal → UsagePeriodTotal} (hf : KeepsKey f)
    {k : List (Entry UsagePeriodTotal) → Tx ε β}
    (hk : ∀ rows L' v' d', Seated K n L' v' d' → Follows (.quota K now) (k rows) L' v' d') :
    Follows (.quota K now) (SqlStatements.update usagePeriodTotals (isTotals K.1 K.2.1 K.2.2) f >>= k) L v d := by
  refine follows_update fun d' env m hd' hr => ⟨⟨fun i hi => .inl ?_, fun i hi => ?_⟩, hk _ _ _ _ ?_⟩
  · obtain ⟨e, he, heq⟩ := List.mem_map.mp hi
    have hmem : e.id ∈ totalsIds K (v d' usagePeriodTotals) := List.mem_map_of_mem he
    rw [h.known.ids d' hd' hr, List.mem_singleton] at hmem
    cases heq
    exact hmem ▸ h.lock
  · exact absurd hi (row_not_mem_map (by decide) _ _ i)
  · refine h.frame (fun _ hl => List.mem_append_left _ hl) hr fun x K' => ?_
    rw [Change.apply, Db.put_self]
    exact totalsIds_updateRows hf _ _

/-- A lazy expiry asks for stale reservations only. -/
lemma Seated.bind_expire {customerId : ℕ} {meterKey periodKey : String}
    (h : Seated (customerId, meterKey, periodKey) n L v d) (hv : ∀ x, v x usageReservations = x usageReservations)
    {k : ℚ → Tx ε β} (hk : ∀ a L' v' d', Seated (customerId, meterKey, periodKey) n L' v' d' →
      Follows (.quota (customerId, meterKey, periodKey) now) (k a) L' v' d') :
    Follows (.quota (customerId, meterKey, periodKey) now)
      (expireStaleReservations customerId meterKey periodKey now >>= k) L v d := by
  rw [expireStaleReservations, Prog.bind_assoc]
  refine follows_update fun d' env m hd' hr => ⟨⟨fun i hi => ?_, fun i hi => .inr ⟨⟨n, h.lock⟩, ?_⟩⟩, ?_⟩
  · exact absurd hi (row_not_mem_map (by decide) _ _ i)
  · obtain ⟨e, he, heq⟩ := List.mem_map.mp hi
    obtain ⟨hmem, hstale⟩ := List.mem_filter.mp he
    rw [hv] at hmem
    cases heq
    exact ⟨e, hmem, rfl, hstale⟩
  · dsimp only
    split
    · rw [Prog.bind_assoc]
      exact (h.close hr _ _ _ _ _).bind_fold (keepsKey_freeHold _) fun _ L' v' d'' h' => hk _ L' v' d'' h'
    · exact hk _ _ _ _ (h.close hr _ _ _ _ _)

end Quota

lemma start_free : Free [] := by simp [Free]

theorem follows_reserve (clock : Clock) (input : ReserveInput) (d : Database) :
    Follows (.quota (input.customerId, input.meterKey, input.periodKey) clock.now) (reserve clock input) [] id d := by
  refine follows_side (side_select _) fun existing L v d _ hL _ hv => ?_
  cases existing with
  | some existing => exact (addsNone_of_same fun x => hv x _ (by simp)).follows_pure _
  | none =>
    refine follows_lockTotals (fun t ht m hm => start_free t ht m (hL t ht m hm)) hv fun _ n L v d h hR => ?_
    refine h.bind_expire hR fun _ L v d h => ?_
    refine h.bind_side (side_selectOne _) fun totals L v d h => ?_
    refine h.bind_side (side_recordDecision _) fun _ L v d h => ?_
    split
    · exact h.finish (.pure _)
    refine ordered_bind.mpr (ordered_statement fun d' _ hr env _ _ => ⟨fun c reservation hat => ?_,
      fun _ _ => ⟨asks_nothing _ _ _, ends_error _⟩⟩)
    rcases tryInsertUnless_ok hat with ⟨-, rfl, rfl⟩ | ⟨-, rfl, rfl⟩
    · refine ⟨asks_nothing _ _ _, ?_⟩
      have h' : Seated _ n (L ++ ([] ++ [])) v d' := h.frame (fun _ hl => List.mem_append_left _ hl) hr fun _ _ => rfl
      exact h'.finish ((side_selectOne _).bind fun _ => .pure _)
    · refine ⟨⟨fun m hm => ?_, fun m hm => .inl ?_⟩, ?_⟩
      · simp [Change.locks] at hm
      · simpa [Change.locks] using hm
      refine Seated.bind_fold (h.frame (fun _ hl => List.mem_append_left _ hl) hr fun x K' =>
        congrArg (totalsIds K') (Db.put_of_ne _ (by decide) _)) (keepsKey_hold _) fun _ L v d h => ?_
      exact h.finish (.pure _)

lemma Seated.append {now : Time} (clock : Clock) (input : CommitInput) {meterKey periodKey : String}
    (h : Seated (input.customerId, meterKey, periodKey) n L v d) (amount : ℚ) :
    Follows (.quota (input.customerId, meterKey, periodKey) now)
      (appendEvent clock input meterKey amount periodKey none) L v d := by
  refine h.bind_side (side_insertEvent _) fun event L v d h => ?_
  cases event with
  | none => exact h.finish ((side_selectOne _).bind fun _ => .pure _)
  | some event =>
    simp only [updateOne, Prog.bind_assoc]
    refine h.bind_fold (keepsKey_fold _ _) fun rows L v d h => ?_
    exact h.finish ((side_one rows).bind fun totals => side_thresholds _ _ _ _ _ _ _)

/-- Which locks a commit asks for depends on its mode. -/
def commitStance (clock : Clock) (input : CommitInput) : Stance :=
  match input.mode with
  | .reservation _ => .closing
  | .direct meterKey _ => .quota (input.customerId, meterKey, input.periodKey) clock.now

theorem follows_commit (clock : Clock) (input : CommitInput) (d : Database) :
    Follows (commitStance clock input) (commit clock input) [] id d := by
  refine follows_side (side_select _) fun existing L v d _ hL _ hv => ?_
  have hadds : AddsNone v := addsNone_of_same fun x => hv x _ (by simp)
  have hfree : Free L := fun t ht m hm => start_free t ht m (hL t ht m hm)
  cases existing with
  | some existing => exact hadds.follows_pure _
  | none =>
    unfold commitStance
    generalize input.mode = mode
    cases mode with
    | reservation reservationId =>
      have hbelow : Below L v := ⟨fun m => hfree _ (by simp) m, hadds⟩
      refine hbelow.bind_lock hfree _ _ (fun _ _ _ => follows_fail _) fun e₀ L d hown hlock h => ?_
      obtain ⟨rfl, -⟩ := isOwnReservation_iff.mp hown
      dsimp only
      split
      · exact follows_fail _
      split
      · refine h.bind_close hlock _ fun _ L v d h => ?_
        exact h.bind_fold (keepsKey_freeHold _) _ fun _ => .pure _
      · exact h.append _ _ _ _ _ hlock
    | direct meterKey amount =>
      refine follows_lockTotals hfree hv fun _ n L v d h hR => ?_
      refine h.bind_expire hR fun _ L v d h => ?_
      refine h.bind_side (side_selectOne _) fun totals L v d h => ?_
      refine h.bind_side (side_recordDecision _) fun _ L v d h => ?_
      split
      · exact h.finish ((side_writeOutbox _ _ _).bind fun _ => .pure _)
      · exact h.append _ _ _

/-- Reservations that a sweep has locked, as they were committed. -/
def Swept (rows : List ReservationRow) (L : List (Lock TableName UniqueKey)) (d : Database) : Prop :=
  ∀ e ∈ rows, Lock.row usageReservations e.id ∈ L ∧ ∃ r ∈ d usageReservations, r.id = e.id ∧
    r.val.customerId = e.val.customerId ∧ r.val.meterKey = e.val.meterKey ∧ r.val.periodKey = e.val.periodKey

lemma Swept.later {rows : List ReservationRow} (h : Swept rows L d) (hr : totalsRows.Rely L d d')
    (hL : ∀ k ∈ L, k ∈ L') : Swept rows L' d' := by
  intro e he
  obtain ⟨hlock, r, hmem, hid, hkey⟩ := h e he
  have hsame := hr.2.2 usageReservations e.id hlock
  have hfound : r ∈ (d' usageReservations).filter fun x => x.id == e.id := by
    rw [hsame]
    exact List.mem_filter.mpr ⟨hmem, by simp [hid]⟩
  exact ⟨hL _ hlock, r, (List.mem_filter.mp hfound).1, hid, hkey⟩

lemma follows_freeHolds {rows : List ReservationRow} (hswept : Swept rows L d) (hv : AddsNone v) {β : Type} {k : Tx SqlError β}
    (hk : ∀ L' v' d', AddsNone v' → Follows .sweeping k L' v' d') :
    Follows .sweeping (freeHolds rows >>= fun _ => k) L v d := by
  induction rows generalizing L v d with
  | nil => exact hk L v d hv
  | cons e rows ih =>
    obtain ⟨i, r⟩ := e
    simp only [freeHolds, Prog.bind_assoc]
    refine follows_update fun d' env n _ hr => ⟨⟨fun m hm => ?_, fun m hm => ?_⟩, ?_⟩
    · obtain ⟨hlock, r', hmem, rfl, hcustomer, hmeter, hperiod⟩ := hswept.later hr (fun _ hl => hl) _ List.mem_cons_self
      obtain ⟨e, he, heq⟩ := List.mem_map.mp hm
      have hid : e.id ∈ totalsIds (r.customerId, r.meterKey, r.periodKey) (v d' usagePeriodTotals) :=
        List.mem_map_of_mem he
      rw [hv] at hid
      obtain ⟨e', he', hof, hid'⟩ := mem_totalsIds.mp hid
      cases heq
      refine ⟨r', hmem, hlock, e', he', hid', ?_⟩
      rw [hcustomer, hmeter, hperiod]
      exact hof
    · exact absurd hm (row_not_mem_map (by decide) _ _ m)
    · have hrest : Swept rows L d := fun x hx => hswept x (List.mem_cons_of_mem _ hx)
      exact ih (hrest.later hr fun _ hl => List.mem_append_left _ hl) (hv.update (keepsKey_freeHold _) _ _ n)

theorem follows_sweep (clock : Clock) (batch : ℕ) (d : Database) :
    Follows .sweeping (sweepExpiredReservations clock batch) [] id d := by
  refine ordered_bind.mpr (ordered_statement fun d' _ _ env henv _ => ⟨fun c expired hat => ?_,
    fun _ _ => ⟨asks_nothing _ _ _, ends_error _⟩⟩)
  cases hat
  refine ⟨⟨fun m hm => ?_, fun m hm => ?_⟩, ?_⟩
  · simp [Change.locks] at hm
  · simp only [Change.locks, List.nil_append, List.mem_map, Lock.row.injEq, true_and] at hm
    obtain ⟨i, ⟨e, he, rfl⟩, rfl⟩ := hm
    exact (mem_pickExpired he).2.2
  · refine follows_freeHolds (fun e he => ?_) ?_ fun L' v' d'' hv => hv.follows_pure _
    · obtain ⟨r, hr, rfl⟩ := List.mem_map.mp he
      have hmem := (mem_pickExpired hr).1
      rw [henv] at hmem
      refine ⟨?_, r, hmem, rfl, rfl, rfl, rfl⟩
      simp only [Change.locks, List.nil_append, List.mem_map, Lock.row.injEq, true_and]
      exact ⟨r.id, ⟨r, hr, rfl⟩, rfl⟩
    · exact (addsNone_of_same fun _ => rfl : AddsNone id).frame fun x => Db.put_of_ne _ (by decide) _

end ForgeCustomer.QuotaLocks
