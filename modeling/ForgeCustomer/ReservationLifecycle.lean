import ForgeCustomer.SqlDiscipline
import ForgeCustomer.UsageRepository

/-!
# The life of a reservation

Commits, releases, lazy expiries and sweeps all close pending reservations, each under the lock of the reservation's
row. A committed reservation has exactly one usage event, and no other reservation has any.
-/
namespace ForgeCustomer.ReservationLifecycle
open SqlTables SqlPrograms SqlStatements SqlSessions SqlDiscipline Discipline DomainRules StripeEvents DatabaseTables
  AuditWriters UsageRepository TableName

/-- A reservation stays as it is, or a pending one is closed. -/
def Moves (r r' : UsageReservation) : Prop :=
  r' = r ∨ r.status = .pending ∧ ∃ status, status ≠ .pending ∧ r' = setReservation status r

/-- Every reservation is still there and has moved at most from pending to a final status. -/
def Advances (d d' : Database) : Prop :=
  ∀ e ∈ d .usageReservations, ∃ e' ∈ d' .usageReservations, e'.id = e.id ∧ Moves e.val e'.val

/-- The event is the charge of this reservation. -/
def Charges (event : UsageEvent) (r : UsageReservation) : Prop :=
  event.customerId = r.customerId ∧ event.meterKey = r.meterKey ∧ event.amount = r.amount ∧ event.periodKey = r.periodKey

/-- The events that carry the id of a reservation. -/
def carrying (reservationId : ℕ) (events : List UsageEventRow) : List UsageEventRow :=
  events.filter fun e => e.val.reservationId == some reservationId

/-- A committed reservation has its one event, another one has none. -/
def Accounts (r : UsageReservation) (events : List UsageEventRow) : Prop :=
  if r.status = .committed then ∃ event, events = [event] ∧ Charges event.val r else events = []

variable {r r' r'' : UsageReservation} {d d' d'' : Database}

lemma Moves.trans (h : Moves r r') (h' : Moves r' r'') : Moves r r'' := by
  rcases h with rfl | ⟨hpending, status, hstatus, rfl⟩
  · exact h'
  rcases h' with rfl | ⟨hpending', -⟩
  · exact .inr ⟨hpending, status, hstatus, rfl⟩
  · exact absurd hpending' hstatus

lemma Advances.refl (d : Database) : Advances d d := fun e he => ⟨e, he, rfl, .inl rfl⟩

lemma Advances.trans (h : Advances d d') (h' : Advances d' d'') : Advances d d'' := by
  intro e he
  obtain ⟨e', he', hid, hmove⟩ := h e he
  obtain ⟨e'', he'', hid', hmove'⟩ := h' e' he'
  exact ⟨e'', he'', hid'.trans hid, hmove.trans hmove'⟩

lemma carrying_append (i : ℕ) (events events' : List UsageEventRow) :
    carrying i (events ++ events') = carrying i events ++ carrying i events' := List.filter_append _ _

def withId (i : ℕ) (rows : List ReservationRow) : List ReservationRow := rows.filter fun e => e.id == i

lemma mem_withId {i : ℕ} {rows : List ReservationRow} {e : ReservationRow} :
    e ∈ withId i rows ↔ e ∈ rows ∧ e.id = i := by
  simp [withId]

/-- A reservation, its events, and the lock of its row. -/
def lifecycle : Discipline Row UniqueKey where
  global d := ((d .usageReservations).map (·.id)).Nodup
  evolves := Advances
  evolves_refl := Advances.refl
  evolves_trans _ _ _ := Advances.trans
  Key := ℕ
  Part _ := List ReservationRow × List UsageEventRow
  part i d := (withId i (d .usageReservations), carrying i (d .usageEvents))
  ok _ x := (∀ e ∈ x.1, Accounts e.val x.2) ∧ (x.1 = [] → x.2 = [])
  guards i _ L := (Lock.row TableName.usageReservations i : Lock TableName UniqueKey) ∈ L
  guards_mono _ _ _ _ h hL := hL _ h
  exclusive i _ _ _ _ h h' := ⟨Lock.row TableName.usageReservations i, h, h'⟩

/-- What a transaction has done to reservations and events so far: it has closed the reservations that `p` selects,
which it has locked while they were pending, and it has added rows. -/
structure Effect (p : ReservationRow → Bool) (status : ReservationStatus) (news : List ReservationRow)
    (events : List UsageEventRow) (L : List (Lock TableName UniqueKey)) (v : Database → Database) (d : Database) :
    Prop where
  locked : ∀ e, p e = true → Lock.row usageReservations e.id ∈ L
  pending : ∀ e ∈ d usageReservations, p e = true → e.val.status = .pending
  rows : ∀ x, v x usageReservations = updateRows p (setReservation status) (x usageReservations) ++ news
  events : ∀ x, v x usageEvents = x usageEvents ++ events
  created : ∀ e ∈ news, e.val.status = .pending ∧ Lock.row usageReservations e.id ∈ L

/-- The events added are those of the reservations closed. -/
structure Balanced (p : ReservationRow → Bool) (status : ReservationStatus) (events : List UsageEventRow)
    (d : Database) : Prop where
  final : status ≠ .pending
  charged : ∀ e ∈ d usageReservations, p e = true → Accounts (setReservation status e.val) (carrying e.id events)
  attached : ∀ event ∈ events, ∀ i, event.val.reservationId = some i →
    ∃ e ∈ d usageReservations, e.id = i ∧ p e = true

variable {p : ReservationRow → Bool} {status : ReservationStatus} {news : List ReservationRow}
  {events : List UsageEventRow} {L L' : List (Lock TableName UniqueKey)} {v v' : Database → Database}

/-- Locked reservations are the same later. -/
lemma mem_of_locked {e : ReservationRow} (hr : lifecycle.Rely L d d') (hlock : Lock.row usageReservations e.id ∈ L) :
    e ∈ d' usageReservations ↔ e ∈ d usageReservations := by
  have hsame := hr.2.2 usageReservations e.id hlock
  constructor
  · intro he
    have hmem : e ∈ (d' usageReservations).filter fun x => x.id == e.id := List.mem_filter.mpr ⟨he, by simp⟩
    rw [hsame] at hmem
    exact (List.mem_filter.mp hmem).1
  · intro he
    have hmem : e ∈ (d usageReservations).filter fun x => x.id == e.id := List.mem_filter.mpr ⟨he, by simp⟩
    rw [← hsame] at hmem
    exact (List.mem_filter.mp hmem).1

lemma Effect.rely (h : Effect p status news events L v d) (hr : lifecycle.Rely L d d') :
    Effect p status news events L v d' :=
  { h with pending := fun e he hp => h.pending e ((mem_of_locked hr (h.locked e hp)).mp he) hp }

lemma Effect.balanced_rely (h : Effect p status news events L v d) (hb : Balanced p status events d)
    (hr : lifecycle.Rely L d d') : Balanced p status events d' where
  final := hb.final
  charged e he hp := hb.charged e ((mem_of_locked hr (h.locked e hp)).mp he) hp
  attached event hevent i hi := by
    obtain ⟨e, he, hid, hp⟩ := hb.attached event hevent i hi
    exact ⟨e, (mem_of_locked hr (h.locked e hp)).mpr he, hid, hp⟩

/-- Statements about other tables do not matter. -/
lemma Effect.frame (h : Effect p status news events L v d) (hL : ∀ k ∈ L, k ∈ L')
    (hrows : ∀ x, v' x usageReservations = v x usageReservations) (hevents : ∀ x, v' x usageEvents = v x usageEvents) :
    Effect p status news events L' v' d where
  locked e hp := hL _ (h.locked e hp)
  pending := h.pending
  rows x := (hrows x).trans (h.rows x)
  events x := (hevents x).trans (h.events x)
  created e he := ⟨(h.created e he).1, hL _ (h.created e he).2⟩

lemma effect_nothing (status : ReservationStatus) (L : List (Lock TableName UniqueKey)) (d : Database) :
    Effect (fun _ => false) status [] [] L id d where
  locked _ hp := by cases hp
  pending _ _ hp := by cases hp
  rows x := by simp [updateRows]
  events x := by simp
  created _ he := by simp at he

lemma balanced_unattached (hstatus : status ≠ .pending) (hnot : status ≠ .committed)
    (hevents : ∀ event ∈ events, event.val.reservationId = none) (p : ReservationRow → Bool) (d : Database) :
    Balanced p status events d where
  final := hstatus
  charged e _ _ := by
    have hnone : carrying e.id events = [] := List.filter_eq_nil_iff.mpr fun event hevent => by simp [hevents event hevent]
    simp [Accounts, setReservation, hnot, hnone]
  attached event hevent i hi := by
    rw [hevents event hevent] at hi
    cases hi

abbrev close (status : ReservationStatus) (p : ReservationRow → Bool) : ReservationRow → ReservationRow :=
  updateEntry p (setReservation status)

lemma mem_close {rows : List ReservationRow} {e : ReservationRow} (he : e ∈ rows) :
    close status p e ∈ updateRows p (setReservation status) rows :=
  mem_updateRows.mpr ⟨e, he, rfl⟩

lemma Effect.mem (h : Effect p status news events L v d) {e : ReservationRow} (he : e ∈ d usageReservations) :
    close status p e ∈ v d usageReservations := by
  rw [h.rows]
  exact List.mem_append_left _ (mem_close he)

lemma Effect.mem_cases (h : Effect p status news events L v d) {e' : ReservationRow}
    (he' : e' ∈ v d usageReservations) :
    (∃ e ∈ d usageReservations, e' = close status p e) ∨ e' ∈ news := by
  rw [h.rows] at he'
  rcases List.mem_append.mp he' with hmem | hmem
  · obtain ⟨e, he, rfl⟩ := mem_updateRows.mp hmem
    exact .inl ⟨e, he, rfl⟩
  · exact .inr hmem

lemma Effect.advances (h : Effect p status news events L v d) (hb : Balanced p status events d) :
    Advances d (v d) := by
  intro e he
  refine ⟨close status p e, h.mem he, updateEntry_id _ _ _, ?_⟩
  unfold close updateEntry
  split_ifs with hp
  · exact .inr ⟨h.pending e he hp, status, hb.final, rfl⟩
  · exact .inl rfl

/-- Only locked reservations change. -/
lemma Effect.guarded (h : Effect p status news events L v d) (hb : Balanced p status events d) (i : ℕ) :
    lifecycle.part i (v d) = lifecycle.part i d ∨ lifecycle.guards i (lifecycle.part i d) L := by
  by_cases hlock : (Lock.row usageReservations i : Lock TableName UniqueKey) ∈ L
  · exact .inr hlock
  refine .inl (Prod.ext ?_ ?_)
  · have hnews : withId i news = [] := List.filter_eq_nil_iff.mpr fun e he hid =>
      hlock (by simpa using (beq_iff_eq.mp hid) ▸ (h.created e he).2)
    have hrows : withId i (updateRows p (setReservation status) (d usageReservations)) =
        withId i (d usageReservations) := by
      refine filter_updateRows fun e _ hp => ?_
      have hne : ¬e.id = i := fun hid => hlock (hid ▸ h.locked e hp)
      simp [hne]
    change withId i (v d usageReservations) = withId i (d usageReservations)
    rw [h.rows, withId, List.filter_append, ← withId, ← withId, hnews, List.append_nil]
    exact hrows
  · have hevents : carrying i events = [] := List.filter_eq_nil_iff.mpr fun event hevent hi => by
      obtain ⟨e, -, hid, hp⟩ := hb.attached event hevent i (by simpa using hi)
      exact hlock (hid ▸ h.locked e hp)
    change carrying i (v d usageEvents) = carrying i (d usageEvents)
    rw [h.events, carrying_append, hevents, List.append_nil]

/-- The reservations and their events still match. -/
lemma Effect.accounted (h : Effect p status news events L v d) (hb : Balanced p status events d)
    (hd : lifecycle.Inv d) (hk : ((v d usageReservations).map (·.id)).Nodup) (i : ℕ) :
    lifecycle.ok i (lifecycle.part i (v d)) := by
  have hok := hd.2 i
  have hevents : carrying i (v d usageEvents) = carrying i (d usageEvents) ++ carrying i events := by
    rw [h.events, carrying_append]
  by_cases hex : ∃ e ∈ d usageReservations, e.id = i
  · obtain ⟨e, he, rfl⟩ := hex
    have honly : ∀ e' ∈ withId e.id (v d usageReservations), e' = close status p e := fun e' he' =>
      List.inj_on_of_nodup_map hk (mem_withId.mp he').1 (h.mem he)
        ((mem_withId.mp he').2.trans (updateEntry_id _ _ _).symm)
    refine ⟨fun e' he' => ?_, fun hnone => ?_⟩
    · rw [honly e' he']
      change Accounts (close status p e).val (carrying e.id (v d usageEvents))
      rw [hevents]
      have hold : Accounts e.val (carrying e.id (d usageEvents)) := hok.1 e (mem_withId.mpr ⟨he, rfl⟩)
      unfold close updateEntry
      split_ifs with hp
      · rw [Accounts, h.pending e he hp, if_neg (by decide)] at hold
        rw [hold, List.nil_append]
        exact hb.charged e he hp
      · have hnew : carrying e.id events = [] := List.filter_eq_nil_iff.mpr fun event hevent hi => by
          obtain ⟨e₂, he₂, hid, hp₂⟩ := hb.attached event hevent e.id (by simpa using hi)
          exact hp (List.inj_on_of_nodup_map hd.1 he₂ he hid ▸ hp₂)
        rwa [hnew, List.append_nil]
    · have hmem : close status p e ∈ withId e.id (v d usageReservations) :=
        mem_withId.mpr ⟨h.mem he, updateEntry_id _ _ _⟩
      change withId e.id (v d usageReservations) = [] at hnone
      simp [hnone] at hmem
  · have hno : withId i (d usageReservations) = [] := List.filter_eq_nil_iff.mpr fun e he hid =>
      hex ⟨e, he, by simpa using hid⟩
    have hold : carrying i (d usageEvents) = [] := hok.2 hno
    have hnew : carrying i events = [] := List.filter_eq_nil_iff.mpr fun event hevent hi => by
      obtain ⟨e, he, hid, -⟩ := hb.attached event hevent i (by simpa using hi)
      exact hex ⟨e, he, hid⟩
    have hnone : carrying i (v d usageEvents) = [] := by rw [hevents, hold, hnew, List.append_nil]
    refine ⟨fun e' he' => ?_, fun _ => hnone⟩
    obtain ⟨he', hid'⟩ := mem_withId.mp he'
    change Accounts e'.val (carrying i (v d usageEvents))
    rw [hnone]
    rcases h.mem_cases he' with ⟨e, he, rfl⟩ | hmem
    · exact absurd ⟨e, he, (updateEntry_id _ _ _).symm.trans hid'⟩ hex
    · rw [Accounts, (h.created e' hmem).1, if_neg (by decide)]

/-- New reservations are pending. -/
def Opens (d d' : Database) : Prop :=
  ∀ e' ∈ d' .usageReservations, (∀ e ∈ d .usageReservations, e.id ≠ e'.id) → e'.val.status = .pending

variable {ε α : Type}

def Post (_ : Except ε α) (d d' : Database) : Prop := Opens d d'

lemma commits_error (e : ε) : lifecycle.Commits (ε := ε) (α := α) Post (.error e) L v d :=
  fun _ _ _ _ e' he' hnew => absurd rfl (hnew e' he')

theorem Effect.commits (h : Effect p status news events L v d) (hb : Balanced p status events d)
    (answer : Except ε α) : lifecycle.Commits Post answer L v d := by
  intro d' hd' hr hk
  obtain ⟨n, hk⟩ := hk
  have h' := h.rely hr
  have hb' := h.balanced_rely hb hr
  have hnodup : ((v d' usageReservations).map (·.id)).Nodup := hk.nodup usageReservations
  cases answer with
  | error e => exact fun e' he' hnew => absurd rfl (hnew e' he')
  | ok a =>
    refine ⟨⟨hnodup, h'.advances hb', h'.accounted hb' hd' hnodup, h'.guarded hb'⟩, fun e' he' hnew => ?_⟩
    rcases h'.mem_cases he' with ⟨e, he, rfl⟩ | hmem
    · exact absurd (updateEntry_id _ _ _).symm (hnew e he)
    · exact (h'.created e' hmem).1

def otherTables : List TableName := [usagePeriodTotals, quotaDecisions, outboxEvents]

abbrev Closes (tx : Prog Row UniqueKey ε α) : List (Lock TableName UniqueKey) → (Database → Database) → Database → Prop :=
  lifecycle.Safe (fun _ _ _ => True) (lifecycle.Commits Post) tx

variable {β : Type} {tx : Prog Row UniqueKey ε α}

lemma Effect.after_others (h : Effect p status news events L v d) (hL : ∀ k ∈ L, k ∈ L')
    (hv : ∀ x, ∀ t, t ∉ otherTables → v' x t = v x t) : Effect p status news events L' v' d :=
  h.frame hL (fun x => hv x _ (by decide)) fun x => hv x _ (by decide)

/-- Statements about other tables come in between. -/
lemma Effect.bind {k : α → Prog Row UniqueKey ε β} (h : Effect p status news events L v d)
    (hp : tx.Touches otherTables) (hk : ∀ a L' v' d', (∀ l ∈ L, l ∈ L') → lifecycle.Rely L d d' →
      Effect p status news events L' v' d' → Closes (k a) L' v' d') : Closes (tx >>= k) L v d := by
  refine safe_bind.mpr (safe_touches hp fun r L' v' d' hL hr hv => ?_)
  cases r with
  | ok a => exact hk a L' v' d' hL hr ((h.rely hr).after_others hL hv)
  | error e => exact commits_error e

/-- Only statements about other tables are left. -/
lemma Effect.finish (h : Effect p status news events L v d) (hb : Balanced p status events d)
    (hp : tx.Touches otherTables) : Closes tx L v d :=
  safe_touches hp fun r _ _ _ hL hr hv => ((h.rely hr).after_others hL hv).commits (h.balanced_rely hb hr) r

lemma updateRows_none (f : UsageReservation → UsageReservation) (rows : List ReservationRow) :
    updateRows (fun _ => false) f rows = rows := by
  simp [updateRows]

/-- So far no reservation has been closed or added. -/
lemma Effect.rows_same (h : Effect (fun _ => false) status [] events L v d) (x : Database) :
    v x usageReservations = x usageReservations := by
  rw [h.rows, updateRows_none, List.append_nil]

abbrev closing (status : ReservationStatus) (p : ReservationRow → Bool) (ids : List ℕ) : Change Row :=
  .update usageReservations p ids (setReservation status)

abbrev adding (row : UsageReservation) : Change Row := .insert usageReservations row

abbrev charging (event : UsageEvent) : Change Row := .insert usageEvents event

lemma Effect.update {status' : ReservationStatus} (h : Effect (fun _ => false) status' [] events L v d)
    (status : ReservationStatus) (p : ReservationRow → Bool) (ids : List ℕ)
    (hpending : ∀ e ∈ d usageReservations, p e = true → e.id ∈ ids → e.val.status = .pending) (n : ℕ) :
    Effect (fun e => p e && ids.contains e.id) status [] events
      (L ++ ([] ++ (closing status p ids).locks n)) (fun x => (closing status p ids).apply n (v x)) d where
  locked e hp := by
    simp only [Bool.and_eq_true, List.contains_iff_mem] at hp
    exact List.mem_append_right _ (List.mem_map_of_mem hp.2)
  pending e he hp := by
    simp only [Bool.and_eq_true, List.contains_iff_mem] at hp
    exact hpending e he hp.1 hp.2
  rows x := by
    rw [Change.apply, Db.put_self, h.rows_same, List.append_nil]
  events x := by
    rw [Change.apply, Db.put_of_ne _ (by decide)]
    exact h.events x
  created _ he := by simp at he

lemma Effect.insertReservation (h : Effect p status [] events L v d) {row : UsageReservation}
    (hrow : row.status = .pending) (n : ℕ) : Effect p status [⟨n, row⟩] events
      (L ++ ([] ++ (adding row).locks n)) (fun x => (adding row).apply n (v x)) d where
  locked e hp := List.mem_append_left _ (h.locked e hp)
  pending := h.pending
  rows x := by rw [Change.apply, Db.put_self, h.rows, List.append_nil]
  events x := by
    rw [Change.apply, Db.put_of_ne _ (by decide)]
    exact h.events x
  created e he := by
    obtain rfl := List.mem_singleton.mp he
    exact ⟨hrow, List.mem_append_right _ (by simp [Change.locks])⟩

lemma Effect.insertEvent (h : Effect p status news [] L v d) (event : UsageEvent) (n : ℕ) :
    Effect p status news [⟨n, event⟩] (L ++ ([] ++ (charging event).locks n))
      (fun x => (charging event).apply n (v x)) d where
  locked e hp := List.mem_append_left _ (h.locked e hp)
  pending := h.pending
  rows x := by
    rw [Change.apply, Db.put_of_ne _ (by decide)]
    exact h.rows x
  events x := by rw [Change.apply, Db.put_self, h.events, List.append_nil]
  created e he := ⟨(h.created e he).1, List.mem_append_left _ (h.created e he).2⟩

lemma Effect.nothing (h : Effect p status news events L v d) (n : ℕ) :
    Effect p status news events (L ++ ([] ++ (Change.nothing : Change Row).locks n))
      (fun x => (Change.nothing : Change Row).apply n (v x)) d :=
  h.frame (fun _ hl => List.mem_append_left _ hl) (fun _ => rfl) fun _ => rfl

section Touches
variable [FromSql ε]

lemma touches_select {f : Database → α} : (select f : Prog Row UniqueKey ε α).Touches otherTables :=
  (checked_select f).touches

lemma touches_selectOne {f : Database → Option α} : (selectOne f : Prog Row UniqueKey ε α).Touches otherTables :=
  (checked_selectOne f).touches

lemma touches_totals {p : Entry UsagePeriodTotal → Bool} {f : UsagePeriodTotal → UsagePeriodTotal} :
    (SqlStatements.update usagePeriodTotals p f : Prog Row UniqueKey ε _).Touches otherTables :=
  (checked_update (by decide) (unkeyed (by decide)) _ _).touches

lemma touches_lockTotals (customerId : ℕ) (meterKey periodKey : String) :
    (lockTotals customerId meterKey periodKey : Tx ε _).Touches otherTables :=
  ((checked_insertUnless (by decide) _).bind fun _ => (checked_selectOneForUpdate _ _).bind fun _ => .pure _).touches

lemma touches_recordDecision (record : DecisionRecord) : (recordDecision record : Tx ε _).Touches otherTables :=
  ((checked_insertRow (by decide) _).bind fun _ => .pure _).touches

end Touches

lemma balanced_expired (p : ReservationRow → Bool) (d : Database) : Balanced p .expired [] d :=
  balanced_unattached (by decide) (by decide) (by simp) p d

section Expiry
variable [FromSql ε]

lemma isStale_pending {customerId : ℕ} {meterKey periodKey : String} {now : Time} {e : ReservationRow}
    (h : isStale customerId meterKey periodKey now e = true) : e.val.status = .pending := by
  simp only [isStale, Bool.and_eq_true, beq_iff_eq] at h
  exact h.1.2

/-- A lazy expiry closes the stale reservations that it has locked. -/
lemma Effect.bind_expire {k : ℚ → Prog Row UniqueKey ε β} (h : Effect (fun _ => false) .expired [] [] L v d)
    (customerId : ℕ) (meterKey periodKey : String) (now : Time)
    (hk : ∀ p a L' v' d', Effect p .expired [] [] L' v' d' → Closes (k a) L' v' d') :
    Closes (expireStaleReservations customerId meterKey periodKey now >>= k) L v d := by
  rw [expireStaleReservations, Prog.bind_assoc]
  refine safe_bind.mpr (safe_statement fun d₁ _ h₁ env _ _ => ⟨fun c expired hat _ => ?_, fun _ _ _ => commits_error _⟩)
  obtain ⟨rfl, -⟩ := tryUpdate_ok hat
  have heffect := (h.rely h₁).update .expired (isStale customerId meterKey periodKey now)
    (((env.db usageReservations).filter (isStale customerId meterKey periodKey now)).map (·.id))
    (fun e _ hp _ => isStale_pending hp) env.fresh
  refine heffect.bind ?_ fun a L' v' d' _ _ h' => hk _ a L' v' d' h'
  dsimp only
  split
  · exact Prog.Touches.bind touches_totals fun _ => .pure _ _
  · exact .pure _ _

end Expiry

theorem safe_reserve (clock : Clock) (input : ReserveInput) (d : Database) : Closes (reserve clock input) [] id d := by
  refine (effect_nothing .expired [] d).bind touches_select fun existing L v d _ _ h => ?_
  cases existing with
  | some existing => exact h.finish (balanced_expired _ _) (.pure _ _)
  | none =>
    refine h.bind (touches_lockTotals _ _ _) fun _ L v d _ _ h => ?_
    refine h.bind_expire _ _ _ _ fun p _ L v d h => ?_
    refine h.bind touches_selectOne fun totals L v d _ _ h => ?_
    refine h.bind (touches_recordDecision _) fun _ L v d _ _ h => ?_
    split
    · exact h.finish (balanced_expired _ _) (.pure _ _)
    refine safe_bind.mpr (safe_statement fun d₁ _ h₁ env _ _ => ⟨fun c reservation hat _ => ?_,
      fun _ _ _ => commits_error _⟩)
    rcases tryInsertUnless_ok hat with ⟨-, rfl, rfl⟩ | ⟨-, rfl, rfl⟩
    · refine ((h.rely h₁).nothing env.fresh).finish (balanced_expired _ _) ?_
      exact Prog.Touches.bind touches_selectOne fun _ => .pure _ _
    · refine ((h.rely h₁).insertReservation rfl env.fresh).finish (balanced_expired _ _) ?_
      exact Prog.Touches.bind touches_totals fun _ => .pure _ _

lemma touches_writeThresholds (customerId : ℕ) (meterKey periodKey : String) (usedAfter : ℚ) (limit : Option ℚ)
    (utcNow : Time) (thresholds : List ℕ) :
    (writeThresholds customerId meterKey periodKey usedAfter limit utcNow thresholds).Touches otherTables := by
  induction thresholds with
  | nil => exact .pure _ _
  | cons pct thresholds ih =>
    exact Prog.Touches.bind (writeOutbox_checked (by decide) _ _ _).touches fun _ => ih

/-- A reservation that is pending and whose lock is held. -/
structure Held (e : ReservationRow) (L : List (Lock TableName UniqueKey)) (d : Database) : Prop where
  mem : e ∈ d usageReservations
  lock : Lock.row usageReservations e.id ∈ L
  pending : e.val.status = .pending

lemma Held.rely {e : ReservationRow} (h : Held e L d) (hr : lifecycle.Rely L d d') (hL : ∀ k ∈ L, k ∈ L') :
    Held e L' d' where
  mem := (mem_of_locked hr h.lock).mpr h.mem
  lock := hL _ h.lock
  pending := h.pending

abbrev only (i : ℕ) (e : ReservationRow) : Bool := e.id == i

lemma eq_of_only {e e₀ : ReservationRow} (hd : lifecycle.Inv d) (he₀ : e₀ ∈ d usageReservations)
    (he : e ∈ d usageReservations) (hp : only e₀.id e = true) : e = e₀ :=
  List.inj_on_of_nodup_map hd.1 he he₀ (beq_iff_eq.mp hp)

/-- Closing the one reservation that is held. -/
lemma Effect.bind_close {k : List ReservationRow → Prog Row UniqueKey ε β} [FromSql ε] {status' : ReservationStatus}
    (h : Effect (fun _ => false) status' [] events L v d) {e₀ : ReservationRow} (hheld : Held e₀ L d)
    (status : ReservationStatus) (hk : ∀ rows L' v' d', lifecycle.Inv d' → e₀ ∈ d' usageReservations →
      Effect (only e₀.id) status [] events L' v' d' → Closes (k rows) L' v' d') :
    Closes (SqlStatements.update usageReservations (only e₀.id) (setReservation status) >>= k) L v d := by
  refine safe_bind.mpr (safe_statement fun d₁ hd₁ h₁ env henv _ => ⟨fun c rows hat _ => ?_,
    fun _ _ _ => commits_error _⟩)
  obtain ⟨rfl, -⟩ := tryUpdate_ok hat
  have hrely := h.rely h₁
  have hmem : e₀ ∈ d₁ usageReservations := (hheld.rely h₁ fun _ hl => hl).mem
  have hview : e₀ ∈ env.db usageReservations := by
    rw [henv, hrely.rows_same]
    exact hmem
  set ids := ((env.db usageReservations).filter (only e₀.id)).map (·.id) with hids
  have hin : e₀.id ∈ ids := List.mem_map_of_mem (List.mem_filter.mpr ⟨hview, by simp⟩)
  have hhit : (fun e : ReservationRow => only e₀.id e && ids.contains e.id) = only e₀.id := by
    funext e
    by_cases hid : e.id = e₀.id
    · simp [hid, hin]
    · simp [hid]
  have heffect := hrely.update status (only e₀.id) ids
    (fun e he hp _ => (eq_of_only hd₁ hmem he hp) ▸ hheld.pending) env.fresh
  rw [hhit] at heffect
  exact hk _ _ _ d₁ hd₁ hmem heffect

/-- A closed reservation with the event that charges it. -/
lemma balanced_charged {e₀ : ReservationRow} {event : UsageEventRow} (hd : lifecycle.Inv d)
    (hmem : e₀ ∈ d usageReservations) (hid : event.val.reservationId = some e₀.id) (hcharges : Charges event.val e₀.val) :
    Balanced (only e₀.id) .committed [event] d where
  final := by decide
  charged e he hp := by
    obtain rfl := eq_of_only hd hmem he hp
    have hcarrying : carrying e.id [event] = [event] := by simp [carrying, hid]
    have hset : (setReservation .committed e.val).status = .committed := rfl
    rw [hcarrying, Accounts, if_pos hset]
    exact ⟨event, rfl, hcharges⟩
  attached event' hevent' i hi := by
    obtain rfl := List.mem_singleton.mp hevent'
    obtain rfl : e₀.id = i := Option.some.inj (hid.symm.trans hi)
    exact ⟨e₀, hmem, rfl, by simp⟩

lemma touches_fold (clock : Clock) (input : CommitInput) (meterKey : String) (amount : ℚ) (periodKey : String)
    (reservedDelta : ℚ) (event : UsageEventRow) :
    Prog.Touches otherTables (do
      let totals ← updateOne usagePeriodTotals (isTotals input.customerId meterKey periodKey)
        fun r => { freeHold reservedDelta r with used := r.used + amount }
      let usedAfter := totals.val.used
      let thresholds := crossedThresholds (usedAfter - amount) usedAfter input.limit input.thresholdPercents
      writeThresholds input.customerId meterKey periodKey usedAfter input.limit clock.utcNow thresholds
      pure (.ok (.committed event usedAfter thresholds)) : Tx UsageError (Except UsageError CommitOutcome)) := by
  refine Prog.Touches.bind (checked_updateOne (by decide) (unkeyed (by decide)) _ _).touches fun totals => ?_
  exact Prog.Touches.bind (touches_writeThresholds _ _ _ _ _ _ _) fun _ => .pure _ _

/-- An event without a reservation. -/
lemma Effect.append_direct (h : Effect p .expired [] [] L v d) (clock : Clock) (input : CommitInput)
    (meterKey : String) (amount : ℚ) (periodKey : String) :
    Closes (appendEvent clock input meterKey amount periodKey none) L v d := by
  refine safe_bind.mpr (safe_statement fun d₁ _ h₁ env _ _ => ⟨fun c event hat _ => ?_, fun _ _ _ => commits_error _⟩)
  rcases tryInsertUnless_ok hat with ⟨-, rfl, rfl⟩ | ⟨-, rfl, rfl⟩
  · refine ((h.rely h₁).nothing env.fresh).finish (balanced_expired _ _) ?_
    exact Prog.Touches.bind touches_selectOne fun _ => .pure _ _
  · refine ((h.rely h₁).insertEvent _ env.fresh).finish (balanced_unattached (by decide) (by decide) ?_ _ _) ?_
    · intro event hevent
      rw [List.mem_singleton.mp hevent]
    · exact touches_fold _ _ _ _ _ _ _

/-- An event for the reservation that is held. -/
lemma Effect.append_held (h : Effect (fun _ => false) .expired [] [] L v d) {e₀ : ReservationRow} (hheld : Held e₀ L d)
    (clock : Clock) (input : CommitInput) (hcustomer : e₀.val.customerId = input.customerId) :
    Closes (appendEvent clock input e₀.val.meterKey e₀.val.amount e₀.val.periodKey (some e₀.id)) L v d := by
  refine safe_bind.mpr (safe_statement fun d₁ _ h₁ env _ _ => ⟨fun c event hat _ => ?_, fun _ _ _ => commits_error _⟩)
  rcases tryInsertUnless_ok hat with ⟨-, rfl, rfl⟩ | ⟨-, rfl, rfl⟩
  · refine ((h.rely h₁).nothing env.fresh).finish (balanced_expired _ _) ?_
    exact Prog.Touches.bind touches_selectOne fun _ => .pure _ _
  · have heffect := (h.rely h₁).insertEvent
      { customerId := input.customerId
        meterKey := e₀.val.meterKey
        amount := e₀.val.amount
        periodKey := e₀.val.periodKey
        idempotencyKey := input.idempotencyKey
        reservationId := some e₀.id
        kind := .commit } env.fresh
    simp only [closeReservation, Prog.bind_assoc]
    refine heffect.bind_close (hheld.rely h₁ fun _ hl => List.mem_append_left _ hl) .committed
      fun rows L' v' d' hd' hmem h' => ?_
    refine h'.finish (balanced_charged hd' hmem rfl ⟨hcustomer.symm, rfl, rfl, rfl⟩) ?_
    exact touches_fold _ _ _ _ _ _ _

lemma isOwnReservation_iff {reservationId customerId : ℕ} {e : ReservationRow} :
    isOwnReservation reservationId customerId e = true ↔ e.id = reservationId ∧ e.val.customerId = customerId := by
  simp [isOwnReservation]

/-- A reservation is looked up under its lock. -/
lemma Effect.bind_lock {k : Option ReservationRow → Prog Row UniqueKey ε β}
    (h : Effect (fun _ => false) status [] events L v d) (reservationId customerId : ℕ)
    (hnone : ∀ L' v' d', Effect (fun _ => false) status [] events L' v' d' → Closes (k none) L' v' d')
    (hsome : ∀ e₀ L' v' d', isOwnReservation reservationId customerId e₀ = true → e₀ ∈ d' usageReservations →
      Lock.row usageReservations e₀.id ∈ L' → Effect (fun _ => false) status [] events L' v' d' →
      Closes (k (some e₀)) L' v' d') :
    Closes (selectForUpdate usageReservations (fun d =>
      (d .usageReservations).find? (isOwnReservation reservationId customerId)) >>= k) L v d := by
  refine safe_bind.mpr (safe_selectForUpdate fun d₁ _ h₁ env _ _ _ => ?_)
  have hrely := h.rely h₁
  have hview : (v d₁ .usageReservations) = d₁ .usageReservations := hrely.rows_same d₁
  cases hfind : (v d₁ .usageReservations).find? (isOwnReservation reservationId customerId) with
  | none => exact hnone _ _ _ (hrely.frame (fun _ hl => List.mem_append_left _ hl) (fun _ => rfl) fun _ => rfl)
  | some e₀ =>
    refine hsome e₀ _ _ _ (List.find?_some hfind) ?_ (List.mem_append_right _ (by simp))
      (hrely.frame (fun _ hl => List.mem_append_left _ hl) (fun _ => rfl) fun _ => rfl)
    rw [← hview]
    exact List.mem_of_find?_eq_some hfind

theorem safe_release (customerId reservationId : ℕ) (d : Database) :
    Closes (release customerId reservationId) [] id d := by
  refine (effect_nothing .expired [] d).bind_lock _ _ (fun _ _ _ h => h.finish (balanced_expired _ _) (.pure _ _))
    fun e₀ L v d hown hmem hlock h => ?_
  obtain ⟨rfl, -⟩ := isOwnReservation_iff.mp hown
  dsimp only
  split
  · exact h.finish (balanced_expired _ _) (.pure _ _)
  rename_i hpending
  refine h.bind_close ⟨hmem, hlock, not_not.mp hpending⟩ .released fun _ L v d _ _ h => ?_
  refine h.finish (balanced_unattached (by decide) (by decide) (by simp) _ _) ?_
  exact Prog.Touches.bind touches_totals fun _ => .pure _ _

theorem safe_commit (clock : Clock) (input : CommitInput) (d : Database) : Closes (commit clock input) [] id d := by
  refine (effect_nothing .expired [] d).bind touches_select fun existing L v d _ _ h => ?_
  cases existing with
  | some existing => exact h.finish (balanced_expired _ _) (.pure _ _)
  | none =>
    dsimp only
    split
    · refine h.bind_lock _ _ (fun _ _ _ _ => commits_error _) fun e₀ L v d hown hmem hlock h => ?_
      obtain ⟨rfl, hcustomer⟩ := isOwnReservation_iff.mp hown
      dsimp only
      split
      · exact commits_error _
      rename_i hpending
      have hheld : Held e₀ L d := ⟨hmem, hlock, not_not.mp hpending⟩
      split
      · refine h.bind_close hheld .expired fun _ L v d _ _ h => ?_
        refine h.finish (balanced_expired _ _) ?_
        exact Prog.Touches.bind touches_totals fun _ => .pure _ _
      · exact h.append_held hheld clock input hcustomer
    · refine h.bind (touches_lockTotals _ _ _) fun _ L v d _ _ h => ?_
      refine h.bind_expire _ _ _ _ fun p _ L v d h => ?_
      refine h.bind touches_selectOne fun totals L v d _ _ h => ?_
      refine h.bind (touches_recordDecision _) fun _ L v d _ _ h => ?_
      split
      · refine h.finish (balanced_expired _ _) ?_
        exact Prog.Touches.bind (writeOutbox_checked (by decide) _ _ _).touches fun _ => .pure _ _
      · exact h.append_direct _ _ _ _ _

lemma touches_freeHolds (expired : List ReservationRow) : (freeHolds expired).Touches otherTables := by
  induction expired with
  | nil => exact .pure _ _
  | cons e expired ih => exact Prog.Touches.bind touches_totals fun _ => ih

theorem safe_sweep (clock : Clock) (batch : ℕ) (d : Database) :
    Closes (sweepExpiredReservations clock batch) [] id d := by
  refine safe_bind.mpr (safe_statement fun d₁ hd₁ h₁ env henv _ => ⟨fun c expired hat _ => ?_,
    fun _ _ _ => commits_error _⟩)
  cases hat
  refine ((effect_nothing .expired [] d).rely h₁ |>.update .expired _ _ (fun e he _ hid => ?_) env.fresh).finish
    (balanced_expired _ _) (Prog.Touches.bind (touches_freeHolds _) fun _ => .pure _ _)
  obtain ⟨picked, hpicked, hid⟩ := List.mem_map.mp hid
  obtain ⟨hmem, hpending, -⟩ := mem_pickExpired hpicked
  rw [henv] at hmem
  rw [List.inj_on_of_nodup_map hd₁.1 he hmem hid.symm]
  exact hpending

inductive UsageCall where
  | reserve (clock : Clock) (input : ReserveInput)
  | commit (clock : Clock) (input : CommitInput)
  | release (customerId reservationId : ℕ)
  | sweepExpiredReservations (clock : Clock) (batch : ℕ)

/-- The transaction of a call, whatever it answers. -/
def UsageCall.prog : UsageCall → Tx Unit Unit
  | .reserve clock input => translate (fun _ => ()) (fun _ => ()) (UsageRepository.reserve clock input)
  | .commit clock input => translate (fun _ => ()) (fun _ => ()) (UsageRepository.commit clock input)
  | .release customerId reservationId =>
    translate (fun _ => ()) (fun _ => ()) (UsageRepository.release customerId reservationId)
  | .sweepExpiredReservations clock batch =>
    translate (fun _ => ()) (fun _ => ()) (UsageRepository.sweepExpiredReservations clock batch)

lemma closes_translate (h : Closes tx L v d) :
    Closes (translate (fun _ => ()) (fun _ => ()) tx : Tx Unit Unit) L v d := by
  refine safe_translate (h.mono fun r L v d hr d' hd' hrely hk => ?_)
  have := hr d' hd' hrely hk
  cases r <;> exact this

lemma UsageCall.safe (call : UsageCall) (d : Database) : Closes call.prog [] id d := by
  cases call with
  | reserve clock input => exact closes_translate (safe_reserve clock input d)
  | commit clock input => exact closes_translate (safe_commit clock input d)
  | release customerId reservationId => exact closes_translate (safe_release customerId reservationId d)
  | sweepExpiredReservations clock batch => exact closes_translate (safe_sweep clock batch d)

/-- Every committed reservation has its one event, and the others have none. -/
def Accounted (d : Database) : Prop :=
  ∀ e ∈ d .usageReservations, Accounts e.val (carrying e.id (d .usageEvents))

lemma Accounts.committed_iff {rows : List UsageEventRow} {r : UsageReservation} (h : Accounts r rows) :
    r.status = .committed ↔ ∃ event, rows = [event] := by
  unfold Accounts at h
  split_ifs at h with hcommitted
  · obtain ⟨event, hrows, -⟩ := h
    exact ⟨fun _ => ⟨event, hrows⟩, fun _ => hcommitted⟩
  · exact ⟨fun h' => absurd h' hcommitted, fun ⟨event, hrows⟩ => by simp [h] at hrows⟩

lemma Accounts.charges {rows : List UsageEventRow} {r : UsageReservation} (h : Accounts r rows) :
    ∀ event ∈ rows, Charges event.val r := by
  unfold Accounts at h
  intro event hevent
  split_ifs at h with hcommitted
  · obtain ⟨event', rfl, hcharges⟩ := h
    rwa [List.mem_singleton.mp hevent]
  · simp [h] at hevent

section Runs
variable {store : DbStore} {calls : List UsageCall} {y y' : Sys Row UniqueKey Unit Unit}

/-- No event carries the id of a reservation that is not there. -/
lemma carrying_missing {i : ℕ} (hintact : d.Intact) (hnone : withId i (d usageReservations) = []) :
    carrying i (d usageEvents) = [] := by
  refine List.filter_eq_nil_iff.mpr fun event hevent hi => ?_
  have hid : event.val.reservationId = some i := by simpa using hi
  have hreference : Ref.id usageReservations i ∈ foreignKeys usageEvents event.val :=
    List.mem_append_right _ (List.mem_map_of_mem (by simp [hid]))
  have hresolves := List.all_eq_true.mp (hintact usageEvents event hevent) _ hreference
  simp only [Db.resolves, Db.has, List.any_eq_true] at hresolves
  obtain ⟨e, he, hid⟩ := hresolves
  exact List.filter_eq_nil_iff.mp hnone e he hid

lemma inv_of_stored (hstored : Stored store) (hstart : Accounted store.db) : lifecycle.Inv store.db := by
  refine ⟨hstored.keyed.nodup usageReservations, fun i => ⟨fun e he => ?_, fun hnone => ?_⟩⟩
  · obtain ⟨hmem, rfl⟩ := mem_withId.mp he
    exact hstart e hmem
  · exact carrying_missing hstored.intact hnone

lemma sound_of_reach (hstored : Stored store) (hstart : Accounted store.db)
    (hy : Sys.Reachable (Sys.start store (calls.map UsageCall.prog)) y) :
    Sound lifecycle (fun _ _ _ _ => True) (fun _ => Post) y := by
  refine reach_sound (inv_of_stored hstored hstart) hstored.keyed (fun i p hp d _ => ?_) hy
  obtain ⟨call, -, rfl⟩ := List.mem_map.mp (List.mem_of_getElem? hp)
  exact call.safe d

lemma advances_of_reach (hstored : Stored store) (hstart : Accounted store.db)
    (hy : Sys.Reachable (Sys.start store (calls.map UsageCall.prog)) y) (hy' : Sys.Reachable y y') :
    Sys.Reachable (Sys.start store (calls.map UsageCall.prog)) y' ∧ Advances y.store.db y'.store.db := by
  induction hy' with
  | start => exact ⟨hy, .refl _⟩
  | @step z z' m _ hC hm ih =>
    have hz' := ih.1.step hC hm
    refine ⟨hz', ?_⟩
    rcases step_log hm with ⟨-, hdb⟩ | ⟨c, hlog, hbefore, hafter⟩
    · rw [hdb]
      exact ih.2
    · have hcommit := ((sound_of_reach hstored hstart hz').log c (by simp [hlog])).2.1
      rw [hbefore, hafter] at hcommit
      exact ih.2.trans hcommit

/-- Reservations are made pending and move at most once, to a final status; the committed ones are those with exactly
one usage event, which is their charge. -/
theorem reservation_lifecycle (hstored : Stored store) (hstart : Accounted store.db)
    (hy : Sys.Reachable (Sys.start store (calls.map UsageCall.prog)) y) :
    (∀ e ∈ y.store.db .usageReservations,
      (e.val.status = .committed ↔ ∃ event, carrying e.id (y.store.db .usageEvents) = [event]) ∧
      ∀ event ∈ y.store.db .usageEvents, event.val.reservationId = some e.id → Charges event.val e.val) ∧
    (∀ c ∈ y.log, Opens c.before c.after ∧ Advances c.before c.after) ∧
    ∀ y', Sys.Reachable y y' → Advances y.store.db y'.store.db := by
  have hsound := sound_of_reach hstored hstart hy
  refine ⟨fun e he => ?_, fun c hc => ?_, fun y' hy' => (advances_of_reach hstored hstart hy hy').2⟩
  · have haccounts : Accounts e.val (carrying e.id (y.store.db usageEvents)) :=
      (hsound.inv.2 e.id).1 e (mem_withId.mpr ⟨he, rfl⟩)
    refine ⟨haccounts.committed_iff, fun event hevent hid => haccounts.charges event ?_⟩
    exact List.mem_filter.mpr ⟨hevent, by simp [hid]⟩
  · obtain ⟨-, hadvances, hpost⟩ := hsound.log c hc
    exact ⟨hpost, hadvances⟩

end Runs

def heldRows : ∀ t, List (Entry (Row t))
  | .customerProfiles => [⟨0, ⟨10, .individual, none, .active, none, none, false, none, 0⟩⟩]
  | .usageMeters => [⟨1, ⟨"tokens", "token", .monthly⟩⟩]
  | .usageReservations => [⟨2, ⟨0, "tokens", 5, "key_1", .pending, "2026-07", 900⟩⟩]
  | .usagePeriodTotals => [⟨3, ⟨0, "tokens", "2026-07", 0, 5⟩⟩]
  | _ => []

def heldStore : DbStore := ⟨heldRows, 4⟩

lemma heldStore_stored : Stored heldStore := by
  refine ⟨⟨fun t => ?_, fun t => ?_⟩, fun t => ?_⟩
  · cases t <;> simp [heldStore, heldRows]
  · cases t <;> simp [heldStore, heldRows]
  · cases t <;> decide

lemma heldStore_accounted : Accounted heldStore.db := by
  intro e he
  obtain rfl : e = ⟨2, ⟨0, "tokens", 5, "key_1", .pending, "2026-07", 900⟩⟩ := List.mem_singleton.mp he
  rfl

def commitAndRelease : List UsageCall :=
  [.commit ⟨10, 10⟩ ⟨0, .reservation 2, none, "2026-07", [], "commit_1", none⟩, .release 0 2]

/-- The release reads the reservation only after the commit is done. -/
def commitFirst : List Move := List.replicate 6 (.advance 0) ++ List.replicate 2 (.advance 1)

def statusesAndCharges (y : Sys Row UniqueKey Unit Unit) : List (ReservationStatus × ℕ) :=
  (y.store.db .usageReservations).map fun e => (e.val.status, (carrying e.id (y.store.db .usageEvents)).length)

theorem reservation_lifecycle_sample : ∃ y,
    Sys.run commitFirst (Sys.start heldStore (commitAndRelease.map UsageCall.prog)) = some y ∧
    y.log.length = 2 ∧ statusesAndCharges y = [(.committed, 1)] ∧
    ∀ e ∈ y.store.db .usageReservations,
      (e.val.status = .committed ↔ ∃ event, carrying e.id (y.store.db .usageEvents) = [event]) ∧
      ∀ event ∈ y.store.db .usageEvents, event.val.reservationId = some e.id → Charges event.val e.val := by
  have hrun : (Sys.run commitFirst (Sys.start heldStore (commitAndRelease.map UsageCall.prog))).map
      (fun y => (y.log.length, statusesAndCharges y)) = some (2, [(.committed, 1)]) := by decide
  obtain ⟨y, hy, hresult⟩ := Option.map_eq_some_iff.mp hrun
  obtain ⟨hlog, hrows⟩ := Prod.mk.inj hresult
  have hreach := Sys.reachable_of_run .start hy
  exact ⟨y, hy, hlog, hrows, (reservation_lifecycle heldStore_stored heldStore_accounted hreach).1⟩

end ForgeCustomer.ReservationLifecycle
