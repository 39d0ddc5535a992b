import ForgeCustomer.QuotaLocks

/-!
# Deadlocks of the quota engine

A reserve that finds a stale reservation locked by a release waits for it with its totals row in hand, which is the
row that the release locks next.
-/
namespace ForgeCustomer.QuotaDeadlocks
open SqlTables SqlPrograms SqlStatements SqlSessions SqlDiscipline SqlWaiting Discipline DomainRules StripeEvents
  DatabaseTables UsageRepository ReservationLifecycle QuotaLocks TableName

abbrev UsageSys := Sys Row UniqueKey Unit Unit

/-- How a call goes about its locks. -/
def stance : UsageCall → Stance
  | .reserve clock input => .quota (input.customerId, input.meterKey, input.periodKey) clock.now
  | .commit clock input => commitStance clock input
  | .release _ _ => .closing
  | .sweepExpiredReservations _ _ => .sweeping

lemma follows_translate {ε α : Type} {s : Stance} {tx : Tx ε α} {d : Database} (h : Follows s tx [] id d) :
    Follows s (translate (fun _ => ()) (fun _ => ()) tx : Tx Unit Unit) [] id d := by
  refine ordered_translate (h.mono fun r L v d hr d' hd' hrely hk => ?_)
  have := hr d' hd' hrely hk
  cases r <;> exact this

lemma follows_prog (call : UsageCall) (d : Database) : Follows (stance call) call.prog [] id d := by
  cases call with
  | reserve clock input => exact follows_translate (follows_reserve clock input d)
  | commit clock input => exact follows_translate (follows_commit clock input d)
  | release customerId reservationId => exact follows_translate (follows_release customerId reservationId d)
  | sweepExpiredReservations clock batch => exact follows_translate (follows_sweep clock batch d)

def isTotalsLock : Lock TableName UniqueKey → Bool
  | .row .usagePeriodTotals _ => true
  | _ => false

/-- When a reserve or direct commit has its totals row, no other transaction has locked a reservation that is stale
for it. -/
def ExpiresFreely (y : UsageSys) (i : ℕ) : Stance → Prop
  | .quota K now => (y.held i).any isTotalsLock = true → ∀ e ∈ y.store.db .usageReservations,
      isStale K.1 K.2.1 K.2.2 now e = true → y.busy i (.row .usageReservations e.id) = false
  | _ => True

/-- The totals rows that a sweep has locked come before those it still has to free for the reservations it has
locked. -/
def SweepsInOrder (rank : ℕ → ℕ) (y : UsageSys) (i : ℕ) : Stance → Prop
  | .sweeping => ∀ e ∈ y.store.db .usagePeriodTotals, .row .usagePeriodTotals e.id ∈ y.held i →
      ∀ e' ∈ y.store.db .usagePeriodTotals, .row .usagePeriodTotals e'.id ∉ y.held i →
      (∃ r ∈ y.store.db .usageReservations, .row .usageReservations r.id ∈ y.held i ∧
        isTotals r.val.customerId r.val.meterKey r.val.periodKey e' = true) → rank e.id < rank e'.id
  | _ => True

section Runs
variable {store : DbStore} {calls : List UsageCall} {y : UsageSys} {i j : ℕ}

/-- What the next statement of each session may ask for. -/
def obligation (calls : List UsageCall) (i : ℕ) : List (Lock TableName UniqueKey) → Env Row UniqueKey → Database →
    List (Lock TableName UniqueKey) → Prop :=
  match calls[i]? with
  | some call => (stance call).Asks
  | none => fun _ _ _ _ => False

lemma ordered_calls : ∀ i p, (calls.map UsageCall.prog)[i]? = some p → ∀ d, totalsRows.Inv d →
    Ordered totalsRows (obligation calls i) (totalsRows.Commits fun _ _ _ => True) p [] id d := by
  intro i p hp d _
  rw [List.getElem?_map, Option.map_eq_some_iff] at hp
  obtain ⟨call, hcall, rfl⟩ := hp
  unfold obligation
  rw [hcall]
  exact follows_prog call d

variable (hkeyed : store.Keyed) (hone : ∀ K, (totalsIds K (store.db .usagePeriodTotals)).length ≤ 1)
  (hy : Sys.Reachable (Sys.start store (calls.map UsageCall.prog)) y)
include hkeyed hone hy

lemma sound_quota : Sound totalsRows (fun _ _ _ _ => True) (fun _ _ _ _ => True) y :=
  sound_of_ordered ⟨trivial, hone⟩ hkeyed ordered_calls hy

lemma asks_obeys {k : Lock TableName UniqueKey} (hk : k ∈ asks y i) : ∃ call env, (call, i) ∈ calls.zipIdx ∧
    env.fresh = y.store.seq ∧ env.busy = y.busy i ∧ (stance call).Asks (y.held i) env y.store.db (asks y i) := by
  obtain ⟨l, c, n, w, held, hi, -⟩ := asks_active hk
  have hasked := asked_of_reach ⟨trivial, hone⟩ hkeyed ordered_calls hy hi
  have hasks : asks y i = Sys.needs l c (y.env i w) := by
    unfold asks
    rw [hi]
  rw [← held_eq hi, ← hasks] at hasked
  cases hcall : calls[i]? with
  | none =>
    rw [obligation, hcall] at hasked
    exact hasked.elim
  | some call =>
    rw [obligation, hcall] at hasked
    exact ⟨call, _, List.mem_zipIdx_iff_getElem?.mpr hcall, rfl, rfl, hasked⟩

/-- Session `i`, whose stance is `s`, waits for the stored row `e` that session `j` has locked. -/
structure Stalled (calls : List UsageCall) (y : UsageSys) (i j : ℕ) (t : TableName) (e : Entry (Row t)) (s : Stance)
    (env : Env Row UniqueKey) : Prop where
  call : ∃ call, (call, i) ∈ calls.zipIdx ∧ stance call = s
  other : i ≠ j
  watched : t ∈ quotaTables
  stored : e ∈ y.store.db t
  asked : Lock.row t e.id ∈ asks y i
  held : Lock.row t e.id ∈ y.held j
  fresh : env.fresh = y.store.seq
  busy : env.busy = y.busy i
  obeys : s.Asks (y.held i) env y.store.db (asks y i)

lemma stalled_of_waits (hw : Waits quotaTables y i j) : ∃ t e s env, Stalled calls y i j t e s env := by
  obtain ⟨hne, t, ht, e, he, hask, hheld⟩ := hw
  obtain ⟨call, env, hcall, hfresh, hbusy, hobeys⟩ := asks_obeys hkeyed hone hy hask
  exact ⟨t, e, stance call, env, ⟨call, hcall, rfl⟩, hne, ht, he, hask, hheld, hfresh, hbusy, hobeys⟩

variable {t : TableName} {e : Entry (Row t)} {s : Stance} {env : Env Row UniqueKey}

lemma Stalled.not_own (h : Stalled calls y i j t e s env) : Lock.row t e.id ∉ y.held i :=
  fun hown => not_held_twice (sound_quota hkeyed hone hy) h.other hown h.held

omit hkeyed hone hy in
/-- Somebody waits for what a session on a cycle holds. -/
lemma not_free_of_deadlocked (hi : Deadlocked quotaTables y i) : ¬Free (y.held i) := by
  obtain ⟨j, ⟨-, t, ht, e, -, -, hheld⟩, -⟩ := hi.awaited
  exact fun hfree => hfree t ht e.id hheld

variable (hexpires : ∀ x ∈ calls.zipIdx, ExpiresFreely y x.2 (stance x.1))
include hexpires

/-- A reserve or direct commit only waits for its totals row, when nobody waits for it. -/
lemma not_quota_of_deadlocked (hi : Deadlocked quotaTables y i) {K : TotalsKey} {now : Time}
    (h : Stalled calls y i j t e (.quota K now) env) : False := by
  obtain ⟨call, hcall, hstance⟩ := h.call
  rcases List.mem_cons.mp h.watched with rfl | ht
  · rcases h.obeys.1 e.id h.asked with hown | hfree
    · exact h.not_own hkeyed hone hy hown
    · exact not_free_of_deadlocked hi hfree
  · obtain rfl := List.mem_singleton.mp ht
    rcases h.obeys.2 e.id h.asked with hnew | ⟨⟨m, hm⟩, e', he', hid, hstale⟩
    · have hlt := (sound_quota hkeyed hone hy).keyed.below usageReservations e h.stored
      have := h.fresh
      omega
    · have hclear := hexpires _ hcall
      rw [hstance] at hclear
      have hfree := hclear (List.any_eq_true.mpr ⟨_, hm, rfl⟩) e' he' hstale
      rw [hid, busy_of_held h.other h.held] at hfree
      cases hfree

lemma totals_of_deadlocked (hi : Deadlocked quotaTables y i) (h : Stalled calls y i j t e s env) :
    t = usagePeriodTotals := by
  rcases List.mem_cons.mp h.watched with ht | ht
  · exact ht
  obtain rfl := List.mem_singleton.mp ht
  cases s with
  | quota K now => exact (not_quota_of_deadlocked hkeyed hone hy hexpires hi h).elim
  | closing =>
    rcases h.obeys.2 e.id h.asked with hown | hfree
    · exact absurd hown (h.not_own hkeyed hone hy)
    · exact absurd hfree (not_free_of_deadlocked hi)
  | sweeping =>
    have hfree : env.busy (Lock.row usageReservations e.id) = false := h.obeys.2 e.id h.asked
    rw [h.busy, busy_of_held h.other h.held] at hfree
    cases hfree

lemma sweeping_of_deadlocked (hi : Deadlocked quotaTables y i) (h : Stalled calls y i j t e s env) : s = .sweeping := by
  cases s with
  | quota K now => exact (not_quota_of_deadlocked hkeyed hone hy hexpires hi h).elim
  | closing =>
    -- whoever waits for this session waits for a totals row, of which it has none
    obtain ⟨j', hwaits, hj'⟩ := hi.awaited
    obtain ⟨t', e', s', env', h'⟩ := stalled_of_waits hkeyed hone hy hwaits
    obtain rfl := totals_of_deadlocked hkeyed hone hy hexpires hj' h'
    obtain rfl := totals_of_deadlocked hkeyed hone hy hexpires hi h
    exact absurd h'.held (h.obeys.1 e.id h.asked e'.id)
  | sweeping => rfl

/-- A cycle takes a stale reservation that is locked when a reserve or direct commit comes to expire it, or sweeps
that free totals rows in different orders. -/
theorem no_deadlock {rank : ℕ → ℕ} (hsweeps : ∀ x ∈ calls.zipIdx, SweepsInOrder rank y x.2 (stance x.1)) :
    ¬∃ i, Deadlocked quotaTables y i := by
  rintro ⟨i, hi⟩
  refine not_deadlocked_of_increasing (fun i j n => ∃ e ∈ y.store.db usagePeriodTotals,
    Lock.row usagePeriodTotals e.id ∈ asks y i ∧ Lock.row usagePeriodTotals e.id ∈ y.held j ∧ rank e.id = n)
    (fun i j hi hw => ?_) (fun i j k n m hi hj hij hjk hn hm => ?_) hi
  · obtain ⟨t, e, s, env, h⟩ := stalled_of_waits hkeyed hone hy hw
    obtain rfl := totals_of_deadlocked hkeyed hone hy hexpires hi h
    exact ⟨_, e, h.stored, h.asked, h.held, rfl⟩
  · obtain ⟨e, he, -, hheld, rfl⟩ := hn
    obtain ⟨e', he', hask', hheld', rfl⟩ := hm
    obtain ⟨t, e₂, s, env, h⟩ := stalled_of_waits hkeyed hone hy hjk
    obtain rfl := sweeping_of_deadlocked hkeyed hone hy hexpires hj h
    obtain ⟨call, hcall, hstance⟩ := h.call
    have horder := hsweeps _ hcall
    rw [hstance] at horder
    have hnot : Lock.row usagePeriodTotals e'.id ∉ y.held j :=
      fun hown => not_held_twice (sound_quota hkeyed hone hy) hjk.1 hown hheld'
    obtain ⟨r, hr, hlock, e₃, he₃, hid, hof⟩ := h.obeys.1 e'.id hask'
    obtain rfl := (sound_quota hkeyed hone hy).keyed.unique he₃ he' hid
    exact horder e he hheld e₃ he₃ hnot ⟨r, hr, hlock, hof⟩

end Runs

instance (y : UsageSys) (i : ℕ) (s : Stance) : Decidable (ExpiresFreely y i s) :=
  match s with
  | .quota K now => inferInstanceAs (Decidable (_ → ∀ e ∈ y.store.db .usageReservations,
      isStale K.1 K.2.1 K.2.2 now e = true → y.busy i (.row .usageReservations e.id) = false))
  | .closing | .sweeping => inferInstanceAs (Decidable True)

instance (rank : ℕ → ℕ) (y : UsageSys) (i : ℕ) (s : Stance) : Decidable (SweepsInOrder rank y i s) :=
  match s with
  | .sweeping => inferInstanceAs (Decidable (∀ e ∈ y.store.db .usagePeriodTotals, _ →
      ∀ e' ∈ y.store.db .usagePeriodTotals, _ → _ → rank e.id < rank e'.id))
  | .closing | .quota _ _ => inferInstanceAs (Decidable True)

lemma heldStore_one (K : TotalsKey) : (totalsIds K (heldStore.db .usagePeriodTotals)).length ≤ 1 := by
  rw [totalsIds, List.length_map]
  exact List.length_filter_le (isOf K) (heldStore.db .usagePeriodTotals)

/-- A reserve in the period of the reservation that is held, at the time `now`. -/
def reserveMore (now : Time) : UsageCall :=
  .reserve ⟨now, now⟩ ⟨0, "tokens", 1, none, "2026-07", 60, "key_2", none⟩

def reserveAndRelease (now : Time) : List UsageCall := [reserveMore now, .release 0 2]

/-- The release locks the reservation, then the reserve its totals row. -/
def crossing : List Move := [.advance 1, .advance 1, .advance 0, .advance 0, .advance 0]

theorem reserve_release_deadlock : heldStore.Keyed ∧
    (∀ K, (totalsIds K (heldStore.db .usagePeriodTotals)).length ≤ 1) ∧
    ∃ y, Sys.Reachable (Sys.start heldStore ((reserveAndRelease 1000).map UsageCall.prog)) y ∧
      ∃ i, Deadlocked quotaTables y i := by
  have hrun : (Sys.run crossing (Sys.start heldStore ((reserveAndRelease 1000).map UsageCall.prog))).map
      (fun y => Decidable.decide (Waits quotaTables y 0 1 ∧ Waits quotaTables y 1 0)) = some true := by decide
  obtain ⟨y, hy, hwaits⟩ := Option.map_eq_some_iff.mp hrun
  obtain ⟨h01, h10⟩ := of_decide_eq_true hwaits
  exact ⟨heldStore_stored.keyed, heldStore_one, y, Sys.reachable_of_run .start hy, 0, .tail (.single h01) h10⟩

theorem no_deadlock_sample : ∃ y,
    Sys.run crossing (Sys.start heldStore ((reserveAndRelease 10).map UsageCall.prog)) = some y ∧
    Waits quotaTables y 1 0 ∧ ¬∃ i, Deadlocked quotaTables y i := by
  have hrun : (Sys.run crossing (Sys.start heldStore ((reserveAndRelease 10).map UsageCall.prog))).map
      (fun y => Decidable.decide (Waits quotaTables y 1 0 ∧
        (∀ x ∈ (reserveAndRelease 10).zipIdx, ExpiresFreely y x.2 (stance x.1)) ∧
        ∀ x ∈ (reserveAndRelease 10).zipIdx, SweepsInOrder id y x.2 (stance x.1))) = some true := by decide
  obtain ⟨y, hy, hmet⟩ := Option.map_eq_some_iff.mp hrun
  obtain ⟨hwaits, hexpires, hsweeps⟩ := of_decide_eq_true hmet
  exact ⟨y, hy, hwaits, no_deadlock heldStore_stored.keyed heldStore_one (Sys.reachable_of_run .start hy) hexpires hsweeps⟩

end ForgeCustomer.QuotaDeadlocks
