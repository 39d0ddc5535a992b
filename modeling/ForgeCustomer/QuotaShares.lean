import ForgeCustomer.SqlDiscipline
import ForgeCustomer.UsageTotals

/-!
# Shares of the quota engine

The totals row, the pending reservations and the ledger of a customer's meter in one period are its share. Whoever changes
a share holds its totals row by the time it commits; a reserve and a direct commit hold it from the beginning.
-/
namespace ForgeCustomer.QuotaShares
open SqlTables SqlPrograms SqlStatements SqlSessions SqlDiscipline Discipline DomainRules StripeEvents DatabaseTables
  AuditWriters UsageRepository UsagePeriods UsageTotals TableName

/-- What an operator has granted by an event. -/
def grantOf (r : UsageEvent) : ℚ := if r.kind = .adjustment then max 0 r.amount else 0

def grantedIn (k : Period) (d : Database) : ℚ :=
  (((d usageEvents).filter fun e => eventPeriod e.val == k).map fun e => grantOf e.val).sum

/-- What the tables say about a customer's meter in one period. -/
structure Share where
  rows : List (Entry UsagePeriodTotal)
  pending : List ReservationRow
  charged : ℚ
  granted : ℚ

def share (k : Period) (d : Database) : Share :=
  ⟨(d usagePeriodTotals).filter (isTotalsOf k), pendingRows k d, usedIn k d, grantedIn k d⟩

def Share.used (x : Share) : ℚ := (x.rows.map (·.val.used)).sum

def Share.reserved (x : Share) : ℚ := (x.rows.map (·.val.reserved)).sum

/-- What limits have to cover. -/
def Share.spent (x : Share) : ℚ := x.used + x.reserved - x.granted

/-- The totals are those of the ledger and of the pending reservations. -/
structure Share.Balanced (x : Share) : Prop where
  one : x.rows.length ≤ 1
  opened : x.pending ≠ [] → x.rows ≠ []
  amounts : ∀ e ∈ x.pending, 0 ≤ e.val.amount
  used : x.used = x.charged
  reserved : x.reserved = sumAmounts x.pending
  granted : 0 ≤ x.granted

/-- An allowed request of the customer for the meter had at least this limit. -/
def Covered (k : Period) (d : Database) (amount : ℚ) : Prop :=
  amount ≤ 0 ∨ ∃ q ∈ d quotaDecisions, q.val.customerId = k.customerId ∧ q.val.meterKey = k.meterKey ∧
    q.val.decision = .allow ∧ ∀ limit, q.val.limitValue = some limit → amount ≤ limit

/-- The totals row of the period is locked, or its unique key while there is none. -/
def Held (k : Period) (x : Share) (L : List (Lock TableName UniqueKey)) : Prop :=
  (x.rows = [] ∧ Lock.key (.periodTotal k.customerId k.meterKey k.periodKey) ∈ L) ∨
    ∃ e ∈ x.rows, Lock.row usagePeriodTotals e.id ∈ L

def Remembers (d d' : Database) : Prop := ∀ q ∈ d quotaDecisions, q ∈ d' quotaDecisions

variable {k k' : Period} {d d' : Database} {x y : Share} {b b' : ℚ} {L L' : List (Lock TableName UniqueKey)}
  {v v' : Database → Database}

lemma Held.mono (h : Held k x L) (hL : ∀ l ∈ L, l ∈ L') : Held k x L' := by
  rcases h with ⟨hnone, hkey⟩ | ⟨e, he, hrow⟩
  · exact .inl ⟨hnone, hL _ hkey⟩
  · exact .inr ⟨e, he, hL _ hrow⟩

lemma eq_singleton {α : Type} {rows : List α} (h : rows.length ≤ 1) {e : α} (he : e ∈ rows) : rows = [e] := by
  cases rows with
  | nil => cases he
  | cons e' rest =>
    obtain rfl : rest = [] := List.length_eq_zero_iff.mp (Nat.le_zero.mp (Nat.le_of_succ_le_succ h))
    rw [List.mem_singleton.mp he]

lemma Held.exclusive (h : Held k x L) (h' : Held k x L') (hone : x.rows.length ≤ 1) : ∃ l ∈ L, l ∈ L' := by
  rcases h with ⟨hnone, hkey⟩ | ⟨e, he, hrow⟩ <;> rcases h' with ⟨hnone', hkey'⟩ | ⟨e', he', hrow'⟩
  · exact ⟨_, hkey, hkey'⟩
  · rw [hnone] at he'
    cases he'
  · rw [hnone'] at he
    cases he
  · rw [eq_singleton hone he, List.mem_singleton] at he'
    exact ⟨_, hrow, he' ▸ hrow'⟩

lemma Covered.mono (h : Covered k d b) (hd : Remembers d d') (hb : b' ≤ b) : Covered k d' b' := by
  rcases h with hzero | ⟨q, hq, hcustomer, hmeter, hallow, hlimit⟩
  · exact .inl (hb.trans hzero)
  · exact .inr ⟨q, hd q hq, hcustomer, hmeter, hallow, fun l hl => hb.trans (hlimit l hl)⟩

/-- Whoever changes the share of a period holds its totals row. -/
def accounts : Discipline Row UniqueKey where
  global d := (∃ n, Keyed n d) ∧ ∀ k, Covered k d (share k d).spent
  evolves := Remembers
  evolves_refl _ _ hq := hq
  evolves_trans _ _ _ h h' q hq := h' q (h q hq)
  Key := Period
  Part _ := Share
  part := share
  ok _ := Share.Balanced
  guards := Held
  guards_mono _ _ _ _ := Held.mono
  exclusive _ _ _ _ hok h h' := h.exclusive h' hok.one

/-- The tables that a share is read from. -/
lemma share_congr (h : ∀ t ∈ sources, d' t = d t) (k : Period) : share k d' = share k d := by
  unfold share pendingRows usedIn grantedIn
  rw [h usagePeriodTotals (by decide), h usageReservations (by decide), h usageEvents (by decide)]

lemma share_totals (k : Period) (d : Database) (rows : List (Entry UsagePeriodTotal)) :
    share k (d.put usagePeriodTotals rows) = { share k d with rows := rows.filter (isTotalsOf k) } := by
  unfold share pendingRows usedIn grantedIn
  rw [Db.put_self, Db.put_of_ne _ (by decide), Db.put_of_ne _ (by decide)]

def isPendingIn (k : Period) (e : ReservationRow) : Bool := e.val.status == .pending && reservationPeriod e.val == k

lemma share_reservations (k : Period) (d : Database) (rows : List ReservationRow) :
    share k (d.put usageReservations rows) = { share k d with pending := rows.filter (isPendingIn k) } := by
  unfold share pendingRows usedIn grantedIn
  rw [Db.put_self, Db.put_of_ne _ (by decide), Db.put_of_ne _ (by decide)]
  rfl

lemma share_event (k : Period) (d : Database) (n : ℕ) (r : UsageEvent) :
    share k (d.put usageEvents (d usageEvents ++ [⟨n, r⟩])) =
      { share k d with
        charged := (share k d).charged + if eventPeriod r = k then r.amount else 0
        granted := (share k d).granted + if eventPeriod r = k then grantOf r else 0 } := by
  unfold share pendingRows usedIn grantedIn
  rw [Db.put_self, Db.put_of_ne _ (by decide), Db.put_of_ne _ (by decide), List.filter_append]
  by_cases hk : eventPeriod r = k
  · simp [hk]
  · simp [hk]

variable {ε α β : Type} {C : Env Row UniqueKey → Change Row → List (Lock TableName UniqueKey) → Prop}

abbrev Settles : Except ε α → List (Lock TableName UniqueKey) → (Database → Database) → Database → Prop :=
  accounts.Commits fun _ _ _ => True

abbrev Settling (C : Env Row UniqueKey → Change Row → List (Lock TableName UniqueKey) → Prop) (tx : Tx ε α) :
    List (Lock TableName UniqueKey) → (Database → Database) → Database → Prop :=
  accounts.Safe C Settles tx

lemma settles_error (e : ε) : Settles (.error e : Except ε α) L v d := fun _ _ _ _ => trivial

lemma settling_fail (e : ε) : Settling C (.fail e : Tx ε α) L v d := settles_error (α := α) e

/-- The transaction holds the period, its writes leave the share `y` there and no other share changed, and the amount
`b` is covered. -/
structure Owns (k : Period) (y : Share) (b : ℚ) (L : List (Lock TableName UniqueKey)) (v : Database → Database)
    (d : Database) : Prop where
  held : Held k (share k d) L
  mine : ∀ d', accounts.Inv d' → accounts.Rely L d d' → share k (v d') = y
  others : ∀ d', accounts.Inv d' → accounts.Rely L d d' → ∀ k', k' ≠ k → share k' (v d') = share k' d'
  remembers : ∀ d', Remembers d' (v d')
  covered : ∀ d', accounts.Inv d' → accounts.Rely L d d' → Covered k (v d') b

/-- A balanced share that is covered may be committed. -/
lemma Owns.commits (h : Owns k y b L v d) (hy : y.Balanced) (hb : y.spent ≤ b) (r : Except ε α) : Settles r L v d := by
  intro d' hd' hr hkeyed
  cases r with
  | error e => trivial
  | ok a =>
    have hmine := h.mine d' hd' hr
    refine ⟨⟨⟨hkeyed, fun k' => ?_⟩, h.remembers d', fun k' => ?_, fun k' => ?_⟩, trivial⟩ <;> by_cases hk : k' = k
    · rw [hk, hmine]
      exact (h.covered d' hd' hr).mono (fun _ hq => hq) hb
    · rw [h.others d' hd' hr k' hk]
      exact (hd'.1.2 k').mono (h.remembers d') (le_refl _)
    · change (share k' (v d')).Balanced
      rwa [hk, hmine]
    · change (share k' (v d')).Balanced
      rw [h.others d' hd' hr k' hk]
      exact hd'.2 k'
    · have hsame : share k d' = share k d := hr.2.1 k h.held
      refine .inr ?_
      change Held k' (share k' d') L
      rw [hk, hsame]
      exact h.held
    · exact .inl (h.others d' hd' hr k' hk)

/-- Later, after more writes to the share. -/
lemma Owns.later {y' : Share} (h : Owns k y b L v d) (hL : ∀ l ∈ L, l ∈ L') (hr : accounts.Rely L d d')
    (hmine : ∀ z, share k (v z) = y → share k (v' z) = y')
    (hothers : ∀ z k', k' ≠ k → share k' (v' z) = share k' (v z)) (hremembers : ∀ z, Remembers (v z) (v' z)) :
    Owns k y' b L' v' d' := by
  have hsame : share k d' = share k d := hr.2.1 k h.held
  have hrely : ∀ z, accounts.Rely L' d' z → accounts.Rely L d z := fun z hz => hr.trans (hz.mono hL)
  refine ⟨?_, fun z hz hrz => hmine z (h.mine z hz (hrely z hrz)), fun z hz hrz k' hk => ?_,
    fun z q hq => hremembers z q (h.remembers z q hq), fun z hz hrz => ?_⟩
  · rw [hsame]
    exact h.held.mono hL
  · rw [hothers z k' hk, h.others z hz (hrely z hrz) k' hk]
  · exact (h.covered z hz (hrely z hrz)).mono (hremembers z) (le_refl b)

/-- The tables that balanced and covered shares depend on. -/
abbrev quotaSources : List TableName := quotaDecisions :: sources

lemma Owns.frame (h : Owns k y b L v d) (hL : ∀ l ∈ L, l ∈ L') (hr : accounts.Rely L d d')
    (hv : ∀ x, ∀ t ∈ quotaSources, v' x t = v x t) : Owns k y b L' v' d' := by
  have hshare : ∀ z k', share k' (v' z) = share k' (v z) :=
    fun z k' => share_congr (fun t ht => hv z t (List.mem_cons_of_mem _ ht)) k'
  refine h.later hL hr (fun z hz => by rw [hshare, hz]) (fun z k' _ => hshare z k') fun z q hq => ?_
  rwa [hv z quotaDecisions (by decide)]

/-- Statements about other tables. -/
lemma Owns.bind_side {S : List TableName} (h : Owns k y b L v d) {tx : Tx ε α} {next : α → Tx ε β} (htx : tx.Touches S)
    (hS : ∀ t ∈ quotaSources, t ∉ S) (hnext : ∀ a L' v' d', Owns k y b L' v' d' → Settling C (next a) L' v' d') :
    Settling C (tx >>= next) L v d := by
  refine safe_bind.mpr (safe_touches htx fun r L' v' d' hL hr hv => ?_)
  cases r with
  | error e => exact settles_error e
  | ok a => exact hnext a L' v' d' (h.frame hL hr fun x t ht => hv x t (hS t ht))

lemma Owns.finish {S : List TableName} (h : Owns k y b L v d) (hy : y.Balanced) (hb : y.spent ≤ b) {tx : Tx ε α}
    (htx : tx.Touches S) (hS : ∀ t ∈ quotaSources, t ∉ S) : Settling C tx L v d :=
  safe_touches htx fun r _ _ _ hL hr hv => (h.frame hL hr fun x t ht => hv x t (hS t ht)).commits hy hb r

section Statements
variable [FromSql ε]

/-- An update of the totals row. -/
lemma Owns.bind_totals {i : ℕ} {t : UsagePeriodTotal} (h : Owns k y b L v d) (hrows : y.rows = [⟨i, t⟩])
    (f : UsagePeriodTotal → UsagePeriodTotal) (hf : ∀ r, totalPeriod (f r) = totalPeriod r)
    {next : List (Entry UsagePeriodTotal) → Tx ε β}
    (hnext : ∀ L' v' d', Owns k { y with rows := [⟨i, f t⟩] } b L' v' d' → Settling C (next [⟨i, f t⟩]) L' v' d') :
    Settling C (SqlStatements.update usagePeriodTotals (isTotalsOf k) f >>= next) L v d := by
  refine safe_bind.mpr (safe_statement fun d' hd' hr env henv _ => ⟨fun c rows hat _ => ?_, fun _ _ _ => settles_error _⟩)
  obtain ⟨rfl, rfl⟩ := tryUpdate_ok hat
  have hfound : (env.db usagePeriodTotals).filter (isTotalsOf k) = [⟨i, t⟩] := by
    rw [henv, ← hrows, ← h.mine d' hd' hr]
    rfl
  have hmatch : isTotalsOf k (⟨i, t⟩ : Entry UsagePeriodTotal) = true :=
    (List.mem_filter.mp (hfound ▸ List.mem_singleton_self (⟨i, t⟩ : Entry UsagePeriodTotal))).2
  have hkept : ∀ (k' : Period) e, isTotalsOf k' ⟨e.id, f e.val⟩ = isTotalsOf k' e := by
    intro k' e
    rw [Bool.eq_iff_iff, isTotalsOf_iff, isTotalsOf_iff, hf]
  simp only [hfound, List.map_cons, List.map_nil]
  refine hnext _ _ _ (h.later (fun _ hl => List.mem_append_left _ hl) hr (fun z hz => ?_) (fun z k' hk => ?_) fun z q hq => ?_)
  · rw [Change.apply, share_totals, hz]
    rw [filter_updateRows_kept fun e _ _ => hkept k e]
    have hrow : (v z usagePeriodTotals).filter (isTotalsOf k) = [⟨i, t⟩] := by
      rw [← hrows, ← hz]
      rfl
    simp [hrow, updateEntry, hmatch]
  · rw [Change.apply, share_totals]
    have hsame : (updateRows (fun e => isTotalsOf k e && [i].contains e.id) f (v z usagePeriodTotals)).filter
        (isTotalsOf k') = (v z usagePeriodTotals).filter (isTotalsOf k') := by
      refine filter_updateRows fun e _ hp => ?_
      have hperiod := isTotalsOf_iff.mp (Bool.and_eq_true_iff.mp hp).1
      have hnot : isTotalsOf k' e = false := (Bool.not_eq_true _).mp fun hk' => hk (by rw [← isTotalsOf_iff.mp hk', hperiod])
      exact ⟨hnot, by rw [hkept, hnot]⟩
    rw [hsame]
    rfl
  · rwa [Change.apply, Db.put_of_ne _ (by decide)]

/-- An expiry of the overdue reservations of the period. -/
lemma Owns.bind_expired (h : Owns k y b L v d) (now : Time) {next : List ReservationRow → Tx ε β}
    (hnext : ∀ L' v' d', Owns k { y with pending := y.pending.filter fun e => !decide (e.val.expiresAt ≤ now) } b L' v' d' →
      Settling C (next ((y.pending.filter fun e => decide (e.val.expiresAt ≤ now)).map fun e =>
        ⟨e.id, setReservation .expired e.val⟩)) L' v' d') :
    Settling C (SqlStatements.update usageReservations (isStale k.customerId k.meterKey k.periodKey now)
      (setReservation .expired) >>= next) L v d := by
  refine safe_bind.mpr (safe_statement fun d' hd' hr env henv _ => ⟨fun c rows hat _ => ?_, fun _ _ _ => settles_error _⟩)
  obtain ⟨rfl, rfl⟩ := tryUpdate_ok hat
  have hstale : ∀ e : ReservationRow, isStale k.customerId k.meterKey k.periodKey now e =
      (decide (e.val.expiresAt ≤ now) && isPendingIn k e) := by
    obtain ⟨customerId, meterKey, periodKey⟩ := k
    intro e
    rw [Bool.eq_iff_iff]
    simp only [isStale, isPendingIn, reservationPeriod, Bool.and_eq_true, beq_iff_eq, decide_eq_true_eq, Period.mk.injEq]
    tauto
  have hpending : ∀ z, share k (v z) = y → (v z usageReservations).filter (isPendingIn k) = y.pending := by
    rintro z rfl
    rfl
  have hfound : (env.db usageReservations).filter (isStale k.customerId k.meterKey k.periodKey now) =
      y.pending.filter fun e => decide (e.val.expiresAt ≤ now) := by
    rw [henv, ← hpending d' (h.mine d' hd' hr), List.filter_filter]
    exact List.filter_congr fun e _ => hstale e
  simp only [hfound]
  refine hnext _ _ _ (h.later (fun _ hl => List.mem_append_left _ hl) hr (fun z hz => ?_) (fun z k' hk => ?_) fun z q hq => ?_)
  · rw [Change.apply, share_reservations, hz, filter_updateRows_drop fun e _ _ => rfl]
    have hopen : (v z usageReservations).filter (fun e => isPendingIn k e &&
        !(isStale k.customerId k.meterKey k.periodKey now e &&
          ((y.pending.filter fun e => decide (e.val.expiresAt ≤ now)).map (·.id)).contains e.id)) =
        y.pending.filter fun e => !decide (e.val.expiresAt ≤ now) := by
      have hrest : (y.pending.filter fun e => !decide (e.val.expiresAt ≤ now)) =
          (v z usageReservations).filter fun e => !decide (e.val.expiresAt ≤ now) && isPendingIn k e := by
        rw [← hpending z hz, List.filter_filter]
      rw [hrest]
      refine List.filter_congr fun e he => ?_
      rw [hstale, Bool.and_comm]
      cases hin : isPendingIn k e with
      | false => rw [Bool.and_false, Bool.and_false]
      | true =>
        have hmem : e ∈ y.pending := hpending z hz ▸ List.mem_filter.mpr ⟨he, hin⟩
        have hhit := filter_hit (t := usageReservations) (p := fun e : Entry (Row usageReservations) =>
          decide (e.val.expiresAt ≤ now)) hmem
        simp only [Bool.and_true]
        exact congrArg not hhit
    rw [hopen]
  · rw [Change.apply, share_reservations, filter_updateRows_drop fun e _ _ => rfl]
    have hsame : (v z usageReservations).filter (fun e => isPendingIn k' e &&
        !(isStale k.customerId k.meterKey k.periodKey now e &&
          ((y.pending.filter fun e => decide (e.val.expiresAt ≤ now)).map (·.id)).contains e.id)) =
        (v z usageReservations).filter (isPendingIn k') := by
      refine List.filter_congr fun e _ => ?_
      cases hin : isPendingIn k' e with
      | false => rfl
      | true =>
        have hother : isPendingIn k e = false := by
          simp only [isPendingIn, Bool.and_eq_true, beq_iff_eq] at hin
          simp [isPendingIn, hin.2, hk]
        rw [hstale, hother]
        simp
    rw [hsame]
    rfl
  · rwa [Change.apply, Db.put_of_ne _ (by decide)]

/-- A new reservation of the period. -/
lemma Owns.reserve (h : Owns k y b L v d) {r : UsageReservation} (hpending : r.status = .pending)
    (hperiod : reservationPeriod r = k) (n : ℕ) (hL : ∀ l ∈ L, l ∈ L') (hr : accounts.Rely L d d') :
    Owns k { y with pending := y.pending ++ [⟨n, r⟩] } b L'
      (fun x => (Change.insert usageReservations r : Change Row).apply n (v x)) d' := by
  refine h.later hL hr (fun z hz => ?_) (fun z k' hk => ?_) fun z q hq => ?_
  · rw [Change.apply, share_reservations, hz, List.filter_append]
    have hself : ([⟨n, r⟩] : List ReservationRow).filter (isPendingIn k) = [⟨n, r⟩] := by
      simp [isPendingIn, hpending, hperiod]
    have hold : (v z usageReservations).filter (isPendingIn k) = y.pending := by
      rw [← hz]
      rfl
    rw [hself, hold]
  · rw [Change.apply, share_reservations, filter_append_other]
    · rfl
    · simp [isPendingIn, hperiod, Ne.symm hk]
  · rwa [Change.apply, Db.put_of_ne _ (by decide)]

lemma mem_decided (q : QuotaDecisionRow) (n : ℕ) (d : Database) :
    (⟨n, q⟩ : Entry QuotaDecisionRow) ∈ (Change.insert quotaDecisions q : Change Row).apply n d quotaDecisions := by
  rw [Change.apply, Db.put_self]
  exact List.mem_append_right _ (List.mem_singleton_self _)

/-- A new decision covers up to its limit if it allows the request. -/
lemma Owns.decided (h : Owns k y b L v d) (q : QuotaDecisionRow) (n : ℕ) (hL : ∀ l ∈ L, l ∈ L')
    (hr : accounts.Rely L d d') : Owns k y b L'
      (fun x => (Change.insert quotaDecisions q : Change Row).apply n (v x)) d' := by
  have hsame : ∀ z k', share k' ((Change.insert quotaDecisions q : Change Row).apply n (v z)) = share k' (v z) :=
    fun z => share_congr fun t ht => Db.put_of_ne _ (by rintro rfl; revert ht; decide) _
  refine h.later hL hr (fun z hz => by rw [hsame, hz]) (fun z k' _ => hsame z k')
    fun z p hp => ?_
  rw [Change.apply, Db.put_self]
  exact List.mem_append_left _ hp

lemma Owns.bind_decision (h : Owns k y b L v d) (record : DecisionRecord) (hcustomer : record.customerId = k.customerId)
    (hmeter : record.meterKey = k.meterKey) {next : ℕ → Tx ε β}
    (hnext : ∀ n L' v' d', Owns k y b L' v' d' →
      (∀ b', record.decision = .allow → (∀ l, record.limit = some l → b' ≤ l) → Owns k y b' L' v' d') →
      Settling C (next n) L' v' d') : Settling C (recordDecision record >>= next) L v d := by
  simp only [recordDecision, Prog.bind_assoc]
  refine safe_bind.mpr (safe_statement fun d' hd' hr env henv _ => ⟨fun c row hat _ => ?_, fun _ _ _ => settles_error _⟩)
  obtain ⟨-, rfl, rfl⟩ := tryInsert_ok hat
  refine hnext _ _ _ _ (h.decided _ env.fresh (fun _ hl => List.mem_append_left _ hl) hr) fun b' hallow hlimit =>
    { h.decided _ env.fresh (fun _ hl => List.mem_append_left _ hl) hr with covered := fun z _ _ => ?_ }
  exact .inr ⟨_, mem_decided _ _ _, hcustomer, hmeter, hallow, hlimit⟩

/-- A new event of the period. -/
lemma Owns.charge (h : Owns k y b L v d) {r : UsageEvent} (hperiod : eventPeriod r = k) (n : ℕ)
    (hL : ∀ l ∈ L, l ∈ L') (hr : accounts.Rely L d d') :
    Owns k { y with charged := y.charged + r.amount, granted := y.granted + grantOf r } b L'
      (fun x => (Change.insert usageEvents r : Change Row).apply n (v x)) d' := by
  refine h.later hL hr (fun z hz => ?_) (fun z k' hk => ?_) fun z q hq => ?_
  · rw [Change.apply, share_event, hz, if_pos hperiod, if_pos hperiod]
  · have hother : ¬eventPeriod r = k' := fun hsame => hk (hsame.symm.trans hperiod)
    rw [Change.apply, share_event, if_neg hother, if_neg hother, add_zero, add_zero]
  · rwa [Change.apply, Db.put_of_ne _ (by decide)]

/-- A balanced share with its totals row. -/
structure Share.Open (y : Share) (i : ℕ) (t : UsagePeriodTotal) : Prop where
  balanced : y.Balanced
  row : y.rows = [⟨i, t⟩]

lemma Share.Open.used {i : ℕ} {t : UsagePeriodTotal} (h : y.Open i t) : y.used = t.used := by
  simp [Share.used, h.row]

lemma Share.Open.reserved {i : ℕ} {t : UsagePeriodTotal} (h : y.Open i t) : y.reserved = t.reserved := by
  simp [Share.reserved, h.row]

/-- Nothing has been written to the tables of the quota engine. -/
def Untouched (v : Database → Database) : Prop := ∀ x, ∀ t ∈ quotaSources, v x t = x t

/-- With the lock of the totals row the share is what it is. -/
lemma Untouched.owns (h : Untouched v) (hheld : Held k (share k d) L) :
    Owns k (share k d) (share k d).spent L v d := by
  have hshare : ∀ z k', share k' (v z) = share k' z :=
    fun z k' => share_congr (fun t ht => h z t (List.mem_cons_of_mem _ ht)) k'
  have hremembers : ∀ z, Remembers z (v z) := fun z q hq => by rwa [h z quotaDecisions (by decide)]
  have hsame : ∀ z, accounts.Rely L d z → share k z = share k d := fun z hz => hz.2.1 k hheld
  refine ⟨hheld, fun z _ hz => (hshare z k).trans (hsame z hz), fun z _ _ k' _ => hshare z k', hremembers, fun z hz hrz => ?_⟩
  rw [← hsame z hrz]
  exact (hz.1.2 k).mono (hremembers z) (le_refl _)

/-- The totals of a period that nobody has used. -/
def opening (k : Period) : UsagePeriodTotal := ⟨k.customerId, k.meterKey, k.periodKey, 0, 0⟩

/-- The first totals row of a period. -/
lemma Owns.addRow (h : Owns k y b L v d) (hnone : y.rows = []) {t : UsagePeriodTotal} (ht : totalPeriod t = k) (n : ℕ) :
    Owns k { y with rows := [⟨n, t⟩] } b L
      (fun x => (Change.insert usagePeriodTotals t : Change Row).apply n (v x)) d := by
  have hown : isTotalsOf k (⟨n, t⟩ : Entry UsagePeriodTotal) = true := isTotalsOf_iff.mpr ht
  refine h.later (fun _ hl => hl) (Rely.refl _ _ _) (fun z hz => ?_) (fun z k' hk => ?_) fun z q hq => ?_
  · have hrows : (v z usagePeriodTotals).filter (isTotalsOf k) = [] := by
      rw [← hnone, ← hz]
      rfl
    rw [Change.apply, share_totals, hz, List.filter_append, hrows, List.filter_cons, if_pos hown]
    rfl
  · have hother : isTotalsOf k' (⟨n, t⟩ : Entry UsagePeriodTotal) = false :=
      (Bool.not_eq_true _).mp fun hk' => hk ((isTotalsOf_iff.mp hk').symm.trans ht)
    rw [Change.apply, share_totals, filter_append_other hother]
    rfl
  · rwa [Change.apply, Db.put_of_ne _ (by decide)]

lemma Share.Balanced.opened_with (h : y.Balanced) (hnone : y.rows = []) (k : Period) (n : ℕ) :
    Share.Open { y with rows := [⟨n, opening k⟩] } n (opening k) ∧ Share.spent { y with rows := [⟨n, opening k⟩] } = y.spent := by
  have hused : y.used = 0 := by simp [Share.used, hnone]
  have hreserved : y.reserved = 0 := by simp [Share.reserved, hnone]
  refine ⟨⟨⟨by simp, fun _ => by simp, h.amounts, ?_, ?_, h.granted⟩, rfl⟩, ?_⟩
  · rw [← h.used, hused]
    simp [Share.used, opening]
  · rw [← h.reserved, hreserved]
    simp [Share.reserved, opening]
  · rw [Share.spent, Share.spent, hused, hreserved]
    simp [Share.used, Share.reserved, opening]

/-- After `lock_totals` the transaction holds the period and its totals row exists. -/
lemma Untouched.bind_lockTotals (h : Untouched v) (k : Period) {next : ℚ × ℚ → Tx ε β}
    (hnext : ∀ a y i t L' v' d', y.Open i t → Owns k y y.spent L' v' d' → Settling C (next a) L' v' d') :
    Settling C (lockTotals k.customerId k.meterKey k.periodKey >>= next) L v d := by
  simp only [lockTotals, Prog.bind_assoc]
  refine safe_bind.mpr (safe_statement fun d₁ hd₁ _ env henv _ => ⟨fun c row hat _ => ?_, fun _ _ _ => settles_error _⟩)
  refine safe_bind.mpr (safe_statement fun d₂ hd₂ hr env₂ henv₂ _ => ⟨fun c₂ row₂ hat₂ _ => ?_, fun _ _ _ => settles_error _⟩)
  split at hat₂ <;> cases hat₂
  rename_i hfind
  rcases tryInsertUnless_ok hat with ⟨-, rfl, rfl⟩ | ⟨htaken, rfl, rfl⟩
  · have hmem : row₂ ∈ (share k d₂).rows := by
      rw [henv₂] at hfind
      have hrow := List.mem_of_find?_eq_some hfind
      rw [Change.apply, h d₂ _ (by decide)] at hrow
      exact List.mem_filter.mpr ⟨hrow, List.find?_some hfind⟩
    have hbalanced : (share k d₂).Balanced := hd₂.2 k
    refine hnext _ _ row₂.id row₂.val _ _ _ ⟨hbalanced, eq_singleton hbalanced.one hmem⟩ (h.owns (.inr ⟨row₂, hmem, ?_⟩))
    simp [hfind]
  · have hnone : (share k d₁).rows = [] := by
      rw [henv] at htaken
      have hrow := List.find?_eq_none.mp (rowOf_none_of_taken htaken)
      rw [h d₁ _ (by decide)] at hrow
      exact List.filter_eq_nil_iff.mpr hrow
    have howns : Owns k (share k d₁) (share k d₁).spent
        (L ++ ([] ++ (Change.insert usagePeriodTotals (opening k) : Change Row).locks env.fresh)) v d₁ := by
      refine h.owns (.inl ⟨hnone, ?_⟩)
      simp [Change.locks, Schema.keys, uniqueKeys, opening]
    have hbalanced : (share k d₁).Balanced := hd₁.2 k
    obtain ⟨hopen, hspent⟩ := hbalanced.opened_with hnone k env.fresh
    have howns' := howns.addRow hnone (t := opening k) rfl env.fresh
    rw [← hspent] at howns'
    exact hnext _ _ _ _ _ _ _ hopen (howns'.frame (fun _ hl => List.mem_append_left _ hl) hr fun _ _ _ => rfl)

lemma sumAmounts_filter_not (p : ReservationRow → Bool) (rows : List ReservationRow) :
    sumAmounts (rows.filter fun e => !p e) = sumAmounts rows - sumAmounts (rows.filter p) := by
  induction rows with
  | nil => simp [sumAmounts]
  | cons e rows ih =>
    simp only [sumAmounts] at ih ⊢
    rw [List.filter_cons, List.filter_cons]
    cases p e with
    | true => simp [ih]
    | false =>
      simp only [Bool.not_false, if_true, Bool.false_eq_true, if_false, List.map_cons, List.sum_cons, ih]
      ring

lemma sumAmounts_nonneg {rows : List ReservationRow} (h : ∀ e ∈ rows, 0 ≤ e.val.amount) : 0 ≤ sumAmounts rows := by
  refine List.sum_nonneg fun q hq => ?_
  obtain ⟨e, he, rfl⟩ := List.mem_map.mp hq
  exact h e he

/-- Reservations of an open share are closed and their holds are freed. -/
lemma Share.Open.free {i : ℕ} {t : UsagePeriodTotal} (h : y.Open i t) (p : ReservationRow → Bool) :
    ∃ t', t' = freeHold (sumAmounts (y.pending.filter p)) t ∧
      Share.Open { y with rows := [⟨i, t'⟩], pending := y.pending.filter fun e => !p e } i t' ∧
      Share.spent { y with rows := [⟨i, t'⟩], pending := y.pending.filter fun e => !p e } =
        y.spent - sumAmounts (y.pending.filter p) := by
  have hreserved := h.reserved ▸ h.balanced.reserved
  have hused := h.used ▸ h.balanced.used
  have hrest : 0 ≤ sumAmounts (y.pending.filter fun e => !p e) :=
    sumAmounts_nonneg fun e he => h.balanced.amounts e (List.mem_of_mem_filter he)
  have hsum := sumAmounts_filter_not p y.pending
  have hclamp : max 0 (t.reserved - sumAmounts (y.pending.filter p)) = t.reserved - sumAmounts (y.pending.filter p) := by
    refine max_eq_right ?_
    rw [hreserved, ← hsum]
    exact hrest
  refine ⟨_, rfl, ⟨⟨by simp, fun _ => by simp, fun e he => h.balanced.amounts e (List.mem_of_mem_filter he), ?_, ?_,
    h.balanced.granted⟩, rfl⟩, ?_⟩
  · simpa [Share.used, freeHold] using hused
  · simp only [Share.reserved, freeHold, List.map_cons, List.map_nil, List.sum_cons, List.sum_nil, add_zero]
    rw [hclamp, hreserved, hsum]
  · rw [Share.spent, Share.spent, h.used, h.reserved]
    simp only [Share.used, Share.reserved, freeHold, List.map_cons, List.map_nil, List.sum_cons, List.sum_nil, add_zero]
    rw [hclamp]
    ring

/-- A lazy expiry closes overdue reservations and frees their holds. -/
lemma Owns.bind_expire {i : ℕ} {t : UsagePeriodTotal} (h : Owns k y b L v d) (hopen : y.Open i t) (now : Time)
    {next : ℚ → Tx ε β}
    (hnext : ∀ a y' t' L' v' d', y'.Open i t' → y'.spent ≤ y.spent → Owns k y' b L' v' d' → Settling C (next a) L' v' d') :
    Settling C (expireStaleReservations k.customerId k.meterKey k.periodKey now >>= next) L v d := by
  rw [expireStaleReservations, Prog.bind_assoc]
  refine h.bind_expired now fun L' v' d' h' => ?_
  set due := y.pending.filter fun e => decide (e.val.expiresAt ≤ now) with hdue
  have hreclaimed : sumAmounts (due.map fun e => ⟨e.id, setReservation .expired e.val⟩) = sumAmounts due := by
    rw [sumAmounts, sumAmounts, List.map_map]
    rfl
  have hpos : 0 ≤ sumAmounts due := sumAmounts_nonneg fun e he => hopen.balanced.amounts e (List.mem_of_mem_filter he)
  obtain ⟨t', ht', hopen', hspent⟩ := hopen.free fun e => decide (e.val.expiresAt ≤ now)
  rw [hreclaimed]
  dsimp only
  split
  · rw [Prog.bind_assoc]
    refine h'.bind_totals hopen.row (freeHold _) (fun _ => rfl) fun L'' v'' d'' h'' => ?_
    rw [ht'] at hopen' hspent
    refine hnext _ _ _ _ _ _ hopen' ?_ h''
    rw [hspent]
    linarith
  · rename_i hnot
    have hzero : sumAmounts due = 0 := le_antisymm (not_lt.mp hnot) hpos
    have hsame : t' = t := by
      have hreserved : 0 ≤ t.reserved := by
        rw [← hopen.reserved, hopen.balanced.reserved]
        exact sumAmounts_nonneg hopen.balanced.amounts
      rw [ht', ← hdue, hzero]
      simp [freeHold, hreserved]
    rw [hsame, ← hopen.row] at hopen' hspent
    refine hnext _ _ t _ _ _ hopen' ?_ h'
    rw [hspent, ← hdue, hzero, sub_zero]

/-- The totals are read from the row that the transaction holds. -/
lemma Owns.bind_readTotals {i : ℕ} {t : UsagePeriodTotal} (h : Owns k y b L v d) (hrow : y.rows = [⟨i, t⟩])
    {next : ℚ × ℚ → Tx ε β} (hnext : ∀ L' v' d', Owns k y b L' v' d' → Settling C (next (t.used, t.reserved)) L' v' d') :
    Settling C (readTotals k.customerId k.meterKey k.periodKey >>= next) L v d := by
  refine safe_bind.mpr (safe_statement fun d' hd' hr env henv _ => ⟨fun c a hat _ => ?_, fun _ _ _ => settles_error _⟩)
  have hfind : (env.db usagePeriodTotals).find? (isTotals k.customerId k.meterKey k.periodKey) = some ⟨i, t⟩ := by
    have hrows : (v d' usagePeriodTotals).filter (isTotalsOf k) = [⟨i, t⟩] := by
      rw [← hrow, ← h.mine d' hd' hr]
      rfl
    rw [henv, ← List.head?_filter, hrows]
    rfl
  simp only [hfind, Option.map_some] at hat
  cases hat
  exact hnext _ _ _ (h.frame (fun _ hl => List.mem_append_left _ hl) hr fun _ _ _ => rfl)

end Statements

/-- Writes to other tables may be committed. -/
lemma Untouched.commits (h : Untouched v) (r : Except ε α) : Settles r L v d := by
  intro d' hd' _ hkeyed
  have hshare : ∀ k, share k (v d') = share k d' := share_congr fun t ht => h d' t (List.mem_cons_of_mem _ ht)
  have hremembers : Remembers d' (v d') := fun q hq => by rwa [h d' quotaDecisions (by decide)]
  cases r with
  | error e => trivial
  | ok a =>
    refine ⟨⟨⟨hkeyed, fun k => ?_⟩, hremembers, fun k => ?_, fun k => .inl (hshare k)⟩, trivial⟩
    · rw [hshare k]
      exact (hd'.1.2 k).mono hremembers (le_refl _)
    · change (share k (v d')).Balanced
      rw [hshare k]
      exact hd'.2 k

lemma Untouched.settles_pure (h : Untouched v) (a : α) : Settling C (pure a : Tx ε α) L v d :=
  h.commits (.ok a : Except ε α)

lemma Owns.settles_pure (h : Owns k y b L v d) (hy : y.Balanced) (hb : y.spent ≤ b) (a : α) :
    Settling C (pure a : Tx ε α) L v d := h.commits hy hb (.ok a : Except ε α)

lemma untouched_id : Untouched id := fun _ _ _ => rfl

lemma settling_others {S : List TableName} {tx : Tx ε α} (htx : tx.Touches S) (hS : ∀ t ∈ quotaSources, t ∉ S)
    (hv : Untouched v) : Settling C tx L v d :=
  safe_touches htx fun r _ _ _ _ _ hv' =>
    Untouched.commits (fun x t ht => (hv' x t (hS t ht)).trans (hv x t ht)) r

/-- What a decision to allow has checked. -/
lemma Share.Open.allowed {i : ℕ} {t : UsagePeriodTotal} (h : y.Open i t) {amount : ℚ} {limit : Option ℚ}
    (hallow : (DomainRules.decide amount t.used t.reserved limit).decision = .allow) :
    0 ≤ amount ∧ ∀ l, limit = some l → y.spent + amount ≤ l := by
  obtain ⟨hpos, hlimit⟩ := decide_allow_iff.mp hallow
  refine ⟨hpos, fun l hl => ?_⟩
  have hgranted := h.balanced.granted
  have hbound := hlimit l hl
  rw [Share.spent, h.used, h.reserved]
  linarith

/-- A reservation with its hold. -/
lemma Share.Open.hold {i : ℕ} {t : UsagePeriodTotal} (h : y.Open i t) {e : ReservationRow} (hpos : 0 ≤ e.val.amount) :
    Share.Balanced { y with rows := [⟨i, { t with reserved := t.reserved + e.val.amount }⟩], pending := y.pending ++ [e] } ∧
      Share.spent { y with
        rows := [⟨i, { t with reserved := t.reserved + e.val.amount }⟩], pending := y.pending ++ [e] } =
        y.spent + e.val.amount := by
  have hused := h.used ▸ h.balanced.used
  have hreserved := h.reserved ▸ h.balanced.reserved
  refine ⟨⟨by simp, fun _ => by simp, fun e' he' => ?_, ?_, ?_, h.balanced.granted⟩, ?_⟩
  · rcases List.mem_append.mp he' with hold | hnew
    · exact h.balanced.amounts e' hold
    · rwa [List.mem_singleton.mp hnew]
  · simpa [Share.used] using hused
  · simp [Share.reserved, sumAmounts, hreserved]
  · rw [Share.spent, Share.spent, h.used, h.reserved]
    simp only [Share.used, Share.reserved, List.map_cons, List.map_nil, List.sum_cons, List.sum_nil, add_zero]
    ring

theorem settles_reserve (clock : Clock) (input : ReserveInput) (d : Database) :
    Settling C (reserve clock input) [] id d := by
  refine safe_bind.mpr (safe_select fun d _ _ _ _ _ => ?_)
  dsimp only
  split
  · exact untouched_id.settles_pure _
  refine untouched_id.bind_lockTotals ⟨input.customerId, input.meterKey, input.periodKey⟩ fun _ y i t L v d hopen h => ?_
  refine h.bind_expire hopen clock.now fun _ y' t L v d hopen' hle h => ?_
  refine h.bind_readTotals hopen'.row fun L v d h => ?_
  refine h.bind_decision _ rfl rfl fun _ L v d h hcovers => ?_
  dsimp only
  split
  · exact h.settles_pure hopen'.balanced hle _
  rename_i hallow
  obtain ⟨hpos, hlimit⟩ := hopen'.allowed hallow
  have hcovered := hcovers (y'.spent + input.amount) hallow hlimit
  refine safe_bind.mpr (safe_statement fun d' _ hr env _ _ => ⟨fun c reservation hat _ => ?_, fun _ _ _ => settles_error _⟩)
  rcases tryInsertUnless_ok hat with ⟨-, rfl, rfl⟩ | ⟨-, rfl, rfl⟩
  · refine (h.frame (fun _ hl => List.mem_append_left _ hl) hr fun _ _ _ => rfl).finish hopen'.balanced hle
      ((checked_selectOne (S := []) _).bind fun _ => .pure _).touches (by simp)
  · let r : UsageReservation := ⟨input.customerId, input.meterKey, input.amount, input.idempotencyKey, .pending,
      input.periodKey, clock.utcNow + input.ttl⟩
    refine Owns.bind_totals (hcovered.reserve (r := r) rfl rfl env.fresh (fun _ hl => List.mem_append_left _ hl) hr)
      hopen'.row (fun r => { r with reserved := r.reserved + input.amount }) (fun _ => rfl) fun L v d h => ?_
    obtain ⟨hbalanced, hspent⟩ := hopen'.hold (e := ⟨env.fresh, r⟩) hpos
    exact h.settles_pure hbalanced hspent.le _

/-- A charge that the totals row has taken in. -/
lemma Share.Open.charge {i : ℕ} {t : UsagePeriodTotal} (h : y.Open i t) (amount : ℚ) :
    Share.Balanced { y with rows := [⟨i, { freeHold 0 t with used := t.used + amount }⟩], charged := y.charged + amount } ∧
      Share.spent { y with rows := [⟨i, { freeHold 0 t with used := t.used + amount }⟩], charged := y.charged + amount } =
        y.spent + amount := by
  have hused := h.used ▸ h.balanced.used
  have hreserved := h.reserved ▸ h.balanced.reserved
  have hpos : 0 ≤ t.reserved := hreserved ▸ sumAmounts_nonneg h.balanced.amounts
  refine ⟨⟨by simp, fun _ => by simp, h.balanced.amounts, ?_, ?_, h.balanced.granted⟩, ?_⟩
  · simp [Share.used, hused]
  · simpa [Share.reserved, freeHold, hpos] using hreserved
  · rw [Share.spent, Share.spent, h.used, h.reserved]
    simp only [Share.used, Share.reserved, freeHold, sub_zero, max_eq_right hpos, List.map_cons, List.map_nil,
      List.sum_cons, List.sum_nil, add_zero]
    ring

lemma thresholds_touches (clock : Clock) (input : CommitInput) (meterKey : String) (amount : ℚ) (periodKey : String)
    (event : UsageEventRow) (totals : Entry UsagePeriodTotal) :
    (do
      let usedAfter := totals.val.used
      let thresholds := crossedThresholds (usedAfter - amount) usedAfter input.limit input.thresholdPercents
      writeThresholds input.customerId meterKey periodKey usedAfter input.limit clock.utcNow thresholds
      pure (.ok (.committed event usedAfter thresholds)) : Tx UsageError (Except UsageError CommitOutcome)).Touches
        [outboxEvents] :=
  ((writeThresholds_outbox _ _ _ _ _ _ _).bind fun _ => .pure _).touches

lemma Owns.settles_append {i : ℕ} {t : UsagePeriodTotal} (clock : Clock) (input : CommitInput) {meterKey periodKey : String}
    (h : Owns ⟨input.customerId, meterKey, periodKey⟩ y b L v d) (hopen : y.Open i t) (amount : ℚ)
    (hcovered : y.spent + amount ≤ b) (hle : y.spent ≤ b) :
    Settling C (appendEvent clock input meterKey amount periodKey none) L v d := by
  refine safe_bind.mpr (safe_statement fun d' _ hr env _ _ => ⟨fun c event hat _ => ?_, fun _ _ _ => settles_error _⟩)
  rcases tryInsertUnless_ok hat with ⟨-, rfl, rfl⟩ | ⟨-, rfl, rfl⟩
  · exact (h.frame (fun _ hl => List.mem_append_left _ hl) hr fun _ _ _ => rfl).finish hopen.balanced hle
      ((checked_selectOne (S := []) _).bind fun _ => .pure _).touches (by simp)
  · simp only [updateOne, Prog.bind_assoc]
    let r : UsageEvent := ⟨input.customerId, meterKey, amount, periodKey, input.idempotencyKey, none, .commit⟩
    have hgrant : y.granted + grantOf r = y.granted := by simp [grantOf, r]
    refine Owns.bind_totals (h.charge (r := r) rfl env.fresh (fun _ hl => List.mem_append_left _ hl) hr) hopen.row
      (fun r => { freeHold 0 r with used := r.used + amount }) (fun _ => rfl) fun L v d h => ?_
    obtain ⟨hbalanced, hspent⟩ := hopen.charge amount
    simp only [hgrant] at h
    exact h.finish hbalanced (hspent.le.trans hcovered) (thresholds_touches _ _ _ _ _ _ _) (by decide)

end ForgeCustomer.QuotaShares
