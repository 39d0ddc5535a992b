import ForgeCustomer.LastingRows
import ForgeCustomer.PolicyReaders
import ForgeCustomer.QuotaShares

/-!
# Quota cover

A commit of a reservation, a release and a sweep close reservations before they hold the totals rows; the row locks of
the reservations bridge the gap. So the totals equal their sources in every interleaving, and what is used and reserved
is covered by the limit of a request that was allowed.
-/
namespace ForgeCustomer.QuotaShares
open SqlTables SqlPrograms SqlStatements SqlSessions SqlDiscipline Discipline DomainRules StripeEvents DatabaseTables
  AuditWriters UsageRepository UsagePeriods UsageTotals AdminRepository TableName

variable {k k' : Period} {d d' : Database} {x y : Share} {b b' : ℚ} {L L' : List (Lock TableName UniqueKey)}
  {v v' : Database → Database} {ε α β : Type} {C : Env Row UniqueKey → Change Row → List (Lock TableName UniqueKey) → Prop}

/-- A pending reservation as it was committed, whose row the transaction has locked. -/
structure Kept (e : ReservationRow) (L : List (Lock TableName UniqueKey)) (d : Database) : Prop where
  lock : Lock.row usageReservations e.id ∈ L
  mem : e ∈ d usageReservations
  pending : e.val.status = .pending

lemma Kept.later {e : ReservationRow} (h : Kept e L d) (hL : ∀ l ∈ L, l ∈ L') (hr : accounts.Rely L d d') : Kept e L' d' := by
  have hmem : e ∈ (d usageReservations).filter fun x => x.id == e.id := List.mem_filter.mpr ⟨h.mem, by simp⟩
  rw [← hr.2.2 _ _ h.lock] at hmem
  exact ⟨hL _ h.lock, (List.mem_filter.mp hmem).1, h.pending⟩

abbrev periodOf (e : ReservationRow) : Period := reservationPeriod e.val

def isClosed (closed : List ReservationRow) (e : ReservationRow) : Bool := (closed.map (·.id)).contains e.id

def shifted (t : UsagePeriodTotal) (folded freed : ℚ) : UsagePeriodTotal :=
  { t with used := t.used + folded, reserved := t.reserved - freed }

/-- What a commit does to the totals row, and with nothing charged a release or a sweep. -/
def takeIn (amount charge : ℚ) (r : UsagePeriodTotal) : UsagePeriodTotal :=
  { freeHold amount r with used := r.used + charge }

/-- The share once `closed` are no longer pending, `charged` is in the ledger, and the totals have taken in `folded` and
have given up `freed`. -/
def Share.closing (x : Share) (closed : List ReservationRow) (charged folded freed : ℚ) : Share :=
  ⟨x.rows.map fun t => ⟨t.id, shifted t.val folded freed⟩,
    x.pending.filter fun e => !isClosed closed e, x.charged + charged, x.granted⟩

/-- The transaction has locked and closed reservations, and holds the totals rows of those that are done. -/
structure Folding (closed done : List ReservationRow) (charged folded : Period → ℚ) (L : List (Lock TableName UniqueKey))
    (v : Database → Database) (d : Database) : Prop where
  kept : ∀ e ∈ closed, Kept e L d
  nodup : (closed.map (·.id)).Nodup
  shares : ∀ d', accounts.Inv d' → accounts.Rely L d d' → ∀ k,
    share k (v d') = (share k d').closing closed (charged k) (folded k) (owed done k)
  held : ∀ e ∈ done, Held (periodOf e) (share (periodOf e) d) L
  remembers : ∀ d', Remembers d' (v d')

variable {closed done rest : List ReservationRow} {charged folded : Period → ℚ} {e : ReservationRow}

lemma owed_append (rows rows' : List ReservationRow) : owed (rows ++ rows') = owed rows + owed rows' := by
  simp [owed]

lemma owed_eq (rows : List ReservationRow) (k : Period) :
    owed rows k = sumAmounts (rows.filter fun e => reservationPeriod e.val == k) := by
  induction rows with
  | nil => rfl
  | cons e rows ih =>
    rw [owed_cons, Pi.add_apply, ih, List.filter_cons, Pi.single_apply]
    by_cases hk : reservationPeriod e.val = k
    · simp [hk, sumAmounts]
    · simp [hk, Ne.symm hk]

/-- The closed reservations of a period are the pending ones that are closed. -/
lemma closed_perm {n : ℕ} (hd : Keyed n d) (hkept : ∀ e ∈ closed, Kept e L d) (hnodup : (closed.map (·.id)).Nodup) (k : Period) :
    ((share k d).pending.filter (isClosed closed)).Perm (closed.filter fun e => reservationPeriod e.val == k) := by
  have hrows : (d usageReservations).Nodup := (hd.nodup _).of_map _
  refine (List.perm_ext_iff_of_nodup ((hrows.filter _).filter _) ((hnodup.of_map _).filter _)).mpr fun e => ?_
  simp only [isClosed, List.mem_filter, Bool.and_eq_true, beq_iff_eq, List.contains_iff_mem, List.mem_map]
  constructor
  · rintro ⟨⟨he, -, hk⟩, e', he', hid⟩
    obtain rfl := hd.unique (hkept e' he').mem he hid
    exact ⟨he', hk⟩
  · rintro ⟨he, hk⟩
    exact ⟨⟨(hkept e he).mem, (hkept e he).pending, hk⟩, e, he, rfl⟩

/-- What stays pending. -/
lemma sumAmounts_open {n : ℕ} (hd : Keyed n d) (hkept : ∀ e ∈ closed, Kept e L d) (hnodup : (closed.map (·.id)).Nodup)
    (k : Period) : sumAmounts ((share k d).pending.filter fun e => !isClosed closed e) =
      sumAmounts (share k d).pending - owed closed k := by
  have hclosed : sumAmounts ((share k d).pending.filter (isClosed closed)) =
      sumAmounts (closed.filter fun e => reservationPeriod e.val == k) :=
    ((closed_perm hd hkept hnodup k).map _).sum_eq
  rw [sumAmounts_filter_not, hclosed, owed_eq]

/-- A pending reservation has its totals row, with all closed amounts in it. -/
lemma Kept.row (h : Kept e L d) (hd : accounts.Inv d) : ∃ t, (share (periodOf e) d).rows = [t] := by
  have hmem : e ∈ (share (periodOf e) d).pending := List.mem_filter.mpr ⟨h.mem, by simp [h.pending]⟩
  have hbalanced : (share (periodOf e) d).Balanced := hd.2 _
  obtain ⟨t, ht⟩ := List.exists_mem_of_ne_nil _ (hbalanced.opened (List.ne_nil_of_mem hmem))
  exact ⟨t, eq_singleton hbalanced.one ht⟩

lemma owed_le_reserved (hd : accounts.Inv d) (hkept : ∀ e ∈ closed, Kept e L d) (hnodup : (closed.map (·.id)).Nodup)
    (k : Period) : owed closed k ≤ (share k d).reserved := by
  obtain ⟨⟨⟨n, hkeyed⟩, -⟩, hok⟩ := hd
  have hbalanced : (share k d).Balanced := hok k
  have hopen := sumAmounts_open hkeyed hkept hnodup k
  have hpos : 0 ≤ sumAmounts ((share k d).pending.filter fun e => !isClosed closed e) :=
    sumAmounts_nonneg fun e he => hbalanced.amounts e (List.mem_of_mem_filter he)
  rw [hbalanced.reserved]
  linarith

/-- When all is folded the shares are balanced, and nobody has spent more. -/
lemma Folding.commits (h : Folding closed closed charged charged L v d) (hle : ∀ k, charged k ≤ owed closed k)
    (hzero : ∀ k, (∀ e ∈ closed, periodOf e ≠ k) → charged k = 0) (r : Except ε α) : Settles r L v d := by
  intro d' hd' hr hkeyed
  cases r with
  | error e => trivial
  | ok a =>
  have hkept : ∀ e ∈ closed, Kept e L d' := fun e he => (h.kept e he).later (fun _ hl => hl) hr
  obtain ⟨n, hn⟩ := hd'.1.1
  have hshares := h.shares d' hd' hr
  have hother : ∀ k, (∀ e ∈ closed, periodOf e ≠ k) → share k (v d') = share k d' := by
    intro k hk
    have howed : owed closed k = 0 := by
      have hnone : closed.filter (fun e => reservationPeriod e.val == k) = [] :=
        List.filter_eq_nil_iff.mpr fun e he => by simpa using hk e he
      rw [owed_eq, hnone]
      rfl
    have hpending : (share k d').pending.filter (fun e => !isClosed closed e) = (share k d').pending := by
      refine List.filter_eq_self.mpr fun e he => ?_
      by_contra hclosed
      have hmem : e ∈ (share k d').pending.filter (isClosed closed) := List.mem_filter.mpr ⟨he, by simpa using hclosed⟩
      obtain ⟨hin, hperiod⟩ := List.mem_filter.mp ((closed_perm hn hkept h.nodup k).mem_iff.mp hmem)
      exact hk e hin (beq_iff_eq.mp hperiod)
    rw [hshares k, Share.closing, hzero k hk, howed, hpending]
    simp [shifted]
  have hbalanced : ∀ k, (share k (v d')).Balanced ∧ (share k (v d')).spent ≤ (share k d').spent := by
    intro k
    have hok : (share k d').Balanced := hd'.2 k
    by_cases hk : ∀ e ∈ closed, periodOf e ≠ k
    · rw [hother k hk]
      exact ⟨hok, le_refl _⟩
    · push Not at hk
      obtain ⟨e, he, rfl⟩ := hk
      obtain ⟨t, ht⟩ := (hkept e he).row hd'
      have hopen := sumAmounts_open hn hkept h.nodup (periodOf e)
      have hused := hok.used
      have hreserved := hok.reserved
      have hbound := hle (periodOf e)
      rw [hshares (periodOf e)]
      refine ⟨⟨?_, ?_, fun e' he' => hok.amounts e' (List.mem_of_mem_filter he'), ?_, ?_, hok.granted⟩, ?_⟩
      · simp [Share.closing, ht]
      · simp [Share.closing, ht]
      · simp only [Share.used, Share.closing, shifted, ht, List.map_cons, List.map_nil, List.sum_cons, List.sum_nil] at hused ⊢
        linarith
      · simp only [Share.reserved, Share.closing, shifted, ht, List.map_cons, List.map_nil, List.sum_cons, List.sum_nil]
          at hreserved ⊢
        linarith
      · simp only [Share.spent, Share.used, Share.reserved, Share.closing, shifted, ht, List.map_cons, List.map_nil, List.sum_cons,
          List.sum_nil]
        linarith
  refine ⟨⟨⟨hkeyed, fun k => ?_⟩, h.remembers d', fun k => (hbalanced k).1, fun k => ?_⟩, trivial⟩
  · exact (hd'.1.2 k).mono (h.remembers d') (hbalanced k).2
  · by_cases hk : ∀ e ∈ closed, periodOf e ≠ k
    · exact .inl (hother k hk)
    · push Not at hk
      obtain ⟨e, he, rfl⟩ := hk
      have hsame : share (periodOf e) d' = share (periodOf e) d := hr.2.1 _ (h.held e he)
      refine .inr ?_
      change Held _ (share (periodOf e) d') L
      rw [hsame]
      exact h.held e he

lemma Folding.frame (h : Folding closed done charged folded L v d) (hL : ∀ l ∈ L, l ∈ L') (hr : accounts.Rely L d d')
    (hv : ∀ x, ∀ t ∈ quotaSources, v' x t = v x t) : Folding closed done charged folded L' v' d' := by
  refine ⟨fun e he => (h.kept e he).later hL hr, h.nodup, fun z hz hrz k => ?_, fun e he => ?_, fun z q hq => ?_⟩
  · rw [share_congr fun t ht => hv z t (List.mem_cons_of_mem _ ht)]
    exact h.shares z hz (hr.trans (hrz.mono hL)) k
  · have hsame : share (periodOf e) d' = share (periodOf e) d := hr.2.1 _ (h.held e he)
    rw [hsame]
    exact (h.held e he).mono hL
  · rw [hv z quotaDecisions (by decide)]
    exact h.remembers z q hq

section Folds
variable [FromSql ε]

lemma isTotalsOf_takeIn (k : Period) (amount charge : ℚ) (t : Entry UsagePeriodTotal) :
    isTotalsOf k (⟨t.id, takeIn amount charge t.val⟩ : Entry UsagePeriodTotal) = isTotalsOf k t := rfl

/-- The hold of the next reservation is still in the totals. -/
lemma Folding.takeIn_shifted (hd : accounts.Inv d) (hkept : ∀ e ∈ closed, Kept e L d) (hnodup : (closed.map (·.id)).Nodup)
    (hclosed : closed = done ++ e :: rest) {t : Entry UsagePeriodTotal} (ht : (share (periodOf e) d).rows = [t])
    (folded charge : ℚ) : takeIn e.val.amount charge (shifted t.val folded (owed done (periodOf e))) =
      shifted t.val (folded + charge) (owed (done ++ [e]) (periodOf e)) := by
  have hle := owed_le_reserved hd hkept hnodup (periodOf e)
  have hrest : 0 ≤ owed rest (periodOf e) := by
    refine owed_nonneg (fun e' he' => ?_) _
    have hkept' := hkept e' (by simp [hclosed, he'])
    exact (hd.2 (periodOf e')).amounts e' (List.mem_filter.mpr ⟨hkept'.mem, by simp [hkept'.pending]⟩)
  have hlast : owed (done ++ [e]) (periodOf e) = owed done (periodOf e) + e.val.amount := by
    simp [owed]
  rw [hclosed, owed_append, owed_cons, Pi.add_apply, Pi.add_apply, Pi.single_eq_same] at hle
  simp only [Share.reserved, ht, List.map_cons, List.map_nil, List.sum_cons, List.sum_nil] at hle
  have hclamp : max 0 (t.val.reserved - owed done (periodOf e) - e.val.amount) =
      t.val.reserved - (owed done (periodOf e) + e.val.amount) := by
    rw [max_eq_right (by linarith)]
    ring
  rw [takeIn, freeHold, hlast, shifted, shifted, hclamp, add_assoc]

/-- The totals row of a closed reservation takes in a charge and gives up the hold. -/
lemma Folding.bind_fold (h : Folding closed done charged folded L v d) (hclosed : closed = done ++ e :: rest) (charge : ℚ)
    {next : List (Entry UsagePeriodTotal) → Tx ε β}
    (hnext : ∀ t L' v' d', Folding closed (done ++ [e]) charged (folded + Pi.single (periodOf e) charge) L' v' d' →
      Settling C (next [t]) L' v' d') :
    Settling C (SqlStatements.update usagePeriodTotals (isTotalsOf (periodOf e)) (takeIn e.val.amount charge) >>= next)
      L v d := by
  refine safe_bind.mpr (safe_statement fun d' hd' hr env henv _ => ⟨fun _ rows hat _ => ?_, fun _ _ _ => settles_error _⟩)
  obtain ⟨rfl, rfl⟩ := tryUpdate_ok hat
  have he : e ∈ closed := by simp [hclosed]
  have hkept : ∀ e ∈ closed, Kept e L d' := fun e he => (h.kept e he).later (fun _ hl => hl) hr
  obtain ⟨t, ht⟩ := (hkept e he).row hd'
  have hmem : t ∈ (share (periodOf e) d').rows := by simp [ht]
  have hmatch : isTotalsOf (periodOf e) t = true := (List.mem_filter.mp hmem).2
  have hrows : ∀ z, accounts.Inv z → accounts.Rely L d z → ∀ k, (v z usagePeriodTotals).filter (isTotalsOf k) =
      ((share k z).closing closed (charged k) (folded k) (owed done k)).rows :=
    fun z hz hrz k => congrArg Share.rows (h.shares z hz hrz k)
  have hfound : (env.db usagePeriodTotals).filter (isTotalsOf (periodOf e)) =
      [⟨t.id, shifted t.val (folded (periodOf e)) (owed done (periodOf e))⟩] := by
    rw [henv, hrows d' hd' hr, Share.closing, ht]
    rfl
  simp only [hfound, List.map_cons, List.map_nil]
  set c : Change Row := .update usagePeriodTotals (isTotalsOf (periodOf e)) [t.id] (takeIn e.val.amount charge) with hc
  have hL : ∀ l ∈ L, l ∈ L ++ ([] ++ c.locks env.fresh) := fun _ hl => List.mem_append_left _ hl
  have hheld : Held (periodOf e) (share (periodOf e) d') (L ++ ([] ++ c.locks env.fresh)) :=
    .inr ⟨t, hmem, by simp [hc, Change.locks]⟩
  refine hnext _ _ _ _ ⟨fun e' he' => (hkept e' he').later hL (Rely.refl _ _ _), h.nodup, fun z hz hrz k => ?_,
    fun e' he' => ?_, fun z q hq => ?_⟩
  · have hrely : accounts.Rely L d z := hr.trans (hrz.mono hL)
    rw [hc, Change.apply, share_totals, h.shares z hz hrely k]
    by_cases hk : k = periodOf e
    · subst hk
      have hsame : share (periodOf e) z = share (periodOf e) d' := hrz.2.1 _ hheld
      rw [filter_updateRows_kept fun e' _ _ => isTotalsOf_takeIn _ _ _ e', hrows z hz hrely, hsame]
      have hself : isTotalsOf (periodOf e) (⟨t.id, shifted t.val (folded (periodOf e)) (owed done (periodOf e))⟩ :
          Entry UsagePeriodTotal) = true := hmatch
      have hrow := takeIn_shifted hd' hkept h.nodup hclosed ht (folded (periodOf e)) charge
      simp only [Share.closing, ht, List.map_cons, List.map_nil, updateEntry, hself, Pi.add_apply, Pi.single_eq_same]
      rw [← hrow]
      simp
    · have hrest : (updateRows (fun e' => isTotalsOf (periodOf e) e' && [t.id].contains e'.id) (takeIn e.val.amount charge)
          (v z usagePeriodTotals)).filter (isTotalsOf k) = (v z usagePeriodTotals).filter (isTotalsOf k) := by
        refine filter_updateRows fun e' _ hp => ?_
        have hperiod := isTotalsOf_iff.mp (Bool.and_eq_true_iff.mp hp).1
        have hnot : isTotalsOf k e' = false :=
          (Bool.not_eq_true _).mp fun hk' => hk (by rw [← isTotalsOf_iff.mp hk', hperiod])
        exact ⟨hnot, by rw [isTotalsOf_takeIn, hnot]⟩
      rw [hrest, hrows z hz hrely, owed_append]
      simp [Share.closing, Pi.single_eq_of_ne hk, owed]
  · rcases List.mem_append.mp he' with hdone | hlast
    · have hsame : share (periodOf e') d' = share (periodOf e') d := hr.2.1 _ (h.held e' hdone)
      rw [hsame]
      exact (h.held e' hdone).mono hL
    · rw [List.mem_singleton.mp hlast]
      exact hheld
  · rw [hc, Change.apply, Db.put_of_ne _ (by decide)]
    exact h.remembers z q hq

end Folds

/-- Nothing but charges has been written. -/
structure Started (charged : Period → ℚ) (v : Database → Database) : Prop where
  shares : ∀ x k, share k (v x) = { share k x with charged := (share k x).charged + charged k }
  reservations : ∀ x, v x usageReservations = x usageReservations
  remembers : ∀ x, Remembers x (v x)

lemma Untouched.started (h : Untouched v) : Started 0 v where
  shares x k := by
    rw [share_congr fun t ht => h x t (List.mem_cons_of_mem _ ht)]
    simp
  reservations x := h x _ (by decide)
  remembers x q hq := by rwa [h x quotaDecisions (by decide)]

lemma Untouched.charge (h : Untouched v) {r : UsageEvent} (hgrant : grantOf r = 0) (n : ℕ) :
    Started (chargedBy r) fun x => (Change.insert usageEvents r : Change Row).apply n (v x) where
  shares x k := by
    rw [Change.apply, share_event, share_congr fun t ht => h x t (List.mem_cons_of_mem _ ht), hgrant]
    simp [chargedBy, Pi.single_apply, eq_comm]
  reservations x := by
    rw [Change.apply, Db.put_of_ne _ (by decide), h x _ (by decide)]
  remembers x q hq := by
    rwa [Change.apply, Db.put_of_ne _ (by decide), h x quotaDecisions (by decide)]

lemma closing_unfolded (x : Share) (closed : List ReservationRow) (charged : ℚ) : x.closing closed charged 0 0 =
    { x with pending := x.pending.filter fun e => !isClosed closed e, charged := x.charged + charged } := by
  have hrows : x.rows.map (fun t => (⟨t.id, shifted t.val 0 0⟩ : Entry UsagePeriodTotal)) = x.rows := by simp [shifted]
  rw [Share.closing, hrows]

/-- Closed reservations are no longer pending. -/
lemma pending_of_closed {p : ReservationRow → Bool} {rows : List ReservationRow} {status : ReservationStatus}
    (hstatus : status ≠ .pending) (hp : ∀ e ∈ rows, p e = isClosed closed e) (k : Period) :
    (updateRows p (setReservation status) rows).filter (isPendingIn k) =
      (rows.filter (isPendingIn k)).filter fun e => !isClosed closed e := by
  rw [filter_updateRows_drop fun e _ _ => by simp [isPendingIn, setReservation, hstatus], List.filter_filter]
  refine List.filter_congr fun e he => ?_
  rw [hp e he, Bool.and_comm]

/-- One locked reservation is closed. -/
lemma Started.bind_close [FromSql ε] (h : Started charged v) (he : Kept e L d) {status : ReservationStatus}
    (hstatus : status ≠ .pending) {next : List ReservationRow → Tx ε β}
    (hnext : ∀ rows L' v' d', Folding [e] [] charged 0 L' v' d' → Settling C (next rows) L' v' d') :
    Settling C (SqlStatements.update usageReservations (fun x => x.id == e.id) (setReservation status) >>= next) L v d := by
  refine safe_bind.mpr (safe_statement fun d' hd' hr env henv _ => ⟨fun _ rows hat _ => ?_, fun _ _ _ => settles_error _⟩)
  obtain ⟨rfl, rfl⟩ := tryUpdate_ok hat
  have he' := he.later (fun _ hl => hl) hr
  have hhit : ∃ x ∈ env.db usageReservations, x.id = e.id := by
    refine ⟨e, ?_, rfl⟩
    rw [henv, h.reservations]
    exact he'.mem
  have hL : ∀ l ∈ L, l ∈ L ++ ([] ++ (Change.update usageReservations (fun x => x.id == e.id)
      (((env.db usageReservations).filter fun x => x.id == e.id).map (·.id)) (setReservation status) :
        Change Row).locks env.fresh) := fun _ hl => List.mem_append_left _ hl
  refine hnext _ _ _ _ ⟨?_, List.nodup_singleton _, fun z _ _ k => ?_, by simp, fun z q hq => ?_⟩
  · rintro e' he''
    rw [List.mem_singleton.mp he'']
    exact he'.later hL (Rely.refl _ _ _)
  · have hclosed : ∀ x ∈ v z usageReservations, (x.id == e.id && (((env.db usageReservations).filter
        fun x => x.id == e.id).map (·.id)).contains x.id) = isClosed [e] x := by
      intro x _
      by_cases hid : x.id = e.id
      · simp [isClosed, hid, hhit]
      · simp [isClosed, hid]
    rw [Change.apply, share_reservations, h.shares, pending_of_closed hstatus hclosed, h.reservations]
    exact (closing_unfolded (share k z) [e] (charged k)).symm
  · rw [Change.apply, Db.put_of_ne _ (by decide)]
    exact h.remembers z q hq

lemma freeHold_eq (amount : ℚ) : freeHold amount = takeIn amount 0 := by
  funext r
  simp [takeIn, freeHold]

lemma Kept.amount (h : Kept e L d) (hd : accounts.Inv d) : 0 ≤ e.val.amount := by
  have hbalanced : (share (periodOf e) d).Balanced := hd.2 _
  exact hbalanced.amounts e (List.mem_filter.mpr ⟨h.mem, by simp [h.pending]⟩)

/-- The reservation of a customer is looked up under its row lock. -/
lemma Untouched.bind_own (h : Untouched v) (reservationId customerId : ℕ) {next : Option ReservationRow → Tx ε β}
    (hnone : ∀ L' d', Settling C (next none) L' v d')
    (hsome : ∀ e L' d', accounts.Inv d' → isOwnReservation reservationId customerId e = true →
      (e.val.status = .pending → Kept e L' d') → Settling C (next (some e)) L' v d') :
    Settling C (selectForUpdate usageReservations (fun d =>
      (d .usageReservations).find? (isOwnReservation reservationId customerId)) >>= next) L v d := by
  refine safe_bind.mpr (safe_selectForUpdate fun d' hd' _ _ _ _ _ => ?_)
  dsimp only
  cases hfind : (v d' .usageReservations).find? (isOwnReservation reservationId customerId) with
  | none => exact hnone _ _
  | some e =>
    refine hsome e _ _ hd' (List.find?_some hfind) fun hpending => ⟨by simp, ?_, hpending⟩
    rw [← h d' usageReservations (by decide)]
    exact List.mem_of_find?_eq_some hfind

/-- A reservation that the transaction closes and whose hold it frees. -/
lemma Started.settles_free [FromSql ε] (h : Started 0 v) (he : Kept e L d) {status : ReservationStatus}
    (hstatus : status ≠ .pending) (hamount : 0 ≤ e.val.amount) (a : α) :
    Settling C (do
      let _ ← SqlStatements.update usageReservations (fun x => x.id == e.id) (setReservation status)
      let _ ← SqlStatements.update usagePeriodTotals (isTotalsOf (periodOf e)) (freeHold e.val.amount)
      pure a : Tx ε α) L v d := by
  refine h.bind_close he hstatus fun _ L v d h => ?_
  rw [freeHold_eq]
  refine h.bind_fold (List.nil_append [e]).symm 0 fun _ L v d h => ?_
  have hfolded : Folding [e] [e] 0 0 L v d := by simpa using h
  refine hfolded.commits (fun k => owed_nonneg (fun e' he' => ?_) k) (fun _ _ => rfl) (.ok a : Except ε α)
  rwa [List.mem_singleton.mp he']

theorem settles_release (customerId reservationId : ℕ) (d : Database) :
    Settling C (release customerId reservationId) [] id d := by
  refine untouched_id.bind_own _ _ (fun _ _ => untouched_id.settles_pure _) fun e L d hd hown hkept => ?_
  obtain ⟨i, r⟩ := e
  simp only [isOwnReservation, Bool.and_eq_true, beq_iff_eq] at hown
  obtain ⟨rfl, rfl⟩ := hown
  dsimp only
  split
  · exact untouched_id.settles_pure _
  rename_i hpending
  have hkept' := hkept (not_not.mp hpending)
  exact untouched_id.started.settles_free hkept' (by decide) (hkept'.amount hd) _

/-- The commit of a pending reservation moves its hold into the ledger. -/
lemma Untouched.settles_append (h : Untouched v) (he : Kept e L d) (clock : Clock)
    (input : CommitInput) (hcustomer : e.val.customerId = input.customerId) :
    Settling C (appendEvent clock input e.val.meterKey e.val.amount e.val.periodKey (some e.id)) L v d := by
  refine safe_bind.mpr (safe_statement fun d' _ hr env _ _ => ⟨fun c event hat _ => ?_, fun _ _ _ => settles_error _⟩)
  rcases tryInsertUnless_ok hat with ⟨-, rfl, rfl⟩ | ⟨-, rfl, rfl⟩
  · exact settling_others ((checked_selectOne (S := []) _).bind fun _ => .pure _).touches (by simp) h
  · let r : UsageEvent := ⟨input.customerId, e.val.meterKey, e.val.amount, e.val.periodKey, input.idempotencyKey, some e.id,
      .commit⟩
    have hcharged : chargedBy r = Pi.single (periodOf e) e.val.amount := by
      rw [chargedBy, eventPeriod, periodOf, reservationPeriod, hcustomer]
    have hstarted := h.charge (r := r) rfl env.fresh
    rw [hcharged] at hstarted
    have hrow : isTotals input.customerId e.val.meterKey e.val.periodKey = isTotalsOf (periodOf e) := by
      rw [← hcustomer]
      rfl
    simp only [closeReservation, updateOne, Prog.bind_assoc, hrow]
    refine hstarted.bind_close (he.later (fun _ hl => List.mem_append_left _ hl) hr) (by decide) fun _ L v d h => ?_
    refine h.bind_fold (List.nil_append [e]).symm e.val.amount fun _ L v d h => ?_
    have hfolded : Folding [e] [e] (Pi.single (periodOf e) e.val.amount) (Pi.single (periodOf e) e.val.amount) L v d := by
      simpa using h
    refine safe_touches (thresholds_touches _ _ _ _ _ _ _) fun r L' v' d' hL hr hv => ?_
    have howed : owed [e] = Pi.single (periodOf e) e.val.amount := by simp [owed]
    refine (hfolded.frame hL hr fun x t ht => hv x t ?_).commits (fun k => by rw [howed]) (fun k hk => ?_) r
    · revert t
      decide
    · exact Pi.single_eq_of_ne (Ne.symm (hk e (by simp))) _

theorem settles_commit (clock : Clock) (input : CommitInput) (d : Database) :
    Settling C (commit clock input) [] id d := by
  refine safe_bind.mpr (safe_select fun d _ _ _ _ _ => ?_)
  dsimp only
  split
  · exact untouched_id.settles_pure _
  split
  · refine untouched_id.bind_own _ _ (fun _ _ => settling_fail _) fun e L d hd hown hkept => ?_
    obtain ⟨i, r⟩ := e
    simp only [isOwnReservation, Bool.and_eq_true, beq_iff_eq] at hown
    obtain ⟨rfl, hcustomer⟩ := hown
    dsimp only
    split
    · exact settling_fail _
    rename_i hpending
    have hkept' := hkept (not_not.mp hpending)
    split
    · rw [← hcustomer]
      exact untouched_id.started.settles_free hkept' (by decide) (hkept'.amount hd) _
    · exact untouched_id.settles_append hkept' clock input hcustomer
  · rename_i meterKey amount _
    refine untouched_id.bind_lockTotals ⟨input.customerId, meterKey, input.periodKey⟩ fun _ y i t L v d hopen h => ?_
    refine h.bind_expire hopen clock.now fun _ y' t L v d hopen' hle h => ?_
    refine h.bind_readTotals hopen'.row fun L v d h => ?_
    refine h.bind_decision _ rfl rfl fun _ L v d h hcovers => ?_
    dsimp only
    split
    · exact h.finish hopen'.balanced hle
        ((writeOutbox_checked (S := [outboxEvents]) (by decide) _ _ _).bind fun _ => .pure _).touches (by decide)
    · rename_i hallow
      obtain ⟨hpos, hlimit⟩ := hopen'.allowed hallow
      have hcovered := hcovers (y'.spent + amount) hallow hlimit
      exact hcovered.settles_append clock input hopen' amount (le_refl _) (le_add_of_nonneg_right hpos)

/-- Freeing one hold after the other. -/
lemma Folding.bind_freeHolds (h : Folding closed done 0 0 L v d) (hclosed : closed = done ++ rest) {next : Tx SqlError β}
    (hnext : ∀ L' v' d', Folding closed closed 0 0 L' v' d' → Settling C next L' v' d') :
    Settling C (freeHolds (rest.map fun e => ⟨e.id, setReservation .expired e.val⟩) >>= fun _ => next) L v d := by
  induction rest generalizing done L v d with
  | nil =>
    rw [List.append_nil] at hclosed
    rw [← hclosed] at h
    exact hnext L v d h
  | cons e rest ih =>
    simp only [List.map_cons, freeHolds, Prog.bind_assoc]
    rw [freeHold_eq]
    refine h.bind_fold hclosed 0 fun _ L v d h => ?_
    have hnext' : Folding closed (done ++ [e]) 0 0 L v d := by simpa using h
    exact ih hnext' (by simp [hclosed])

theorem settles_sweep (clock : Clock) (batch : ℕ) (d : Database) :
    Settling C (sweepExpiredReservations clock batch) [] id d := by
  refine safe_bind.mpr (safe_statement fun d' hd' _ env henv hkeyed => ⟨fun c rows hat _ => ?_, fun _ _ _ => settles_error _⟩)
  cases hat
  set picked := pickExpired clock.now batch env with hpicked
  have hpick : ∀ e ∈ picked, e ∈ d' usageReservations ∧ e.val.status = .pending := by
    intro e he
    obtain ⟨hmem, hpending, -⟩ := mem_pickExpired he
    rw [henv] at hmem
    exact ⟨hmem, hpending⟩
  have hnodup : (picked.map (·.id)).Nodup := by
    have hrows : ((env.db usageReservations).map (·.id)).Nodup := by
      rw [henv]
      exact hkeyed.nodup usageReservations
    have hsorted := (List.perm_insertionSort (fun a b : ReservationRow => a.val.expiresAt ≤ b.val.expiresAt)
      ((env.db .usageReservations).filter fun e => e.val.status == .pending && (e.val.expiresAt ≤ clock.now) &&
        !env.busy (.row .usageReservations e.id))).map (·.id)
    exact ((List.take_sublist _ _).map _).nodup (hsorted.nodup_iff.mpr (hrows.sublist (List.filter_sublist.map _)))
  refine Folding.bind_freeHolds ⟨fun e he => ?_, hnodup, fun z _ _ k => ?_, by simp, fun z q hq => ?_⟩
    (List.nil_append picked).symm fun L v d h => ?_
  · obtain ⟨hmem, hpending⟩ := hpick e he
    refine ⟨?_, hmem, hpending⟩
    simp only [Change.locks, List.nil_append, List.mem_map, Lock.row.injEq, true_and]
    exact ⟨e.id, ⟨e, he, rfl⟩, rfl⟩
  · have hclosed : ∀ x ∈ z usageReservations, (true && (picked.map (·.id)).contains x.id) = isClosed picked x :=
      fun x _ => Bool.true_and _
    rw [Change.apply, share_reservations, id, pending_of_closed (by decide) hclosed]
    have hunfolded := (closing_unfolded (share k z) picked 0).symm
    rw [add_zero] at hunfolded
    exact hunfolded
  · rwa [Change.apply, Db.put_of_ne _ (by decide)]
  · refine h.commits (fun k => owed_nonneg (fun e he => ?_) k) (fun _ _ => rfl) (.ok picked.length : Except SqlError ℕ)
    obtain ⟨hmem, hpending⟩ := hpick e he
    exact (hd'.2 (periodOf e)).amounts e (List.mem_filter.mpr ⟨hmem, by simp [hpending]⟩)

def Share.adjust (y : Share) (i : ℕ) (t : UsagePeriodTotal) (amount : ℚ) : Share :=
  ⟨[⟨i, { t with used := t.used + amount }⟩], y.pending, y.charged + amount, y.granted + max 0 amount⟩

/-- An adjustment that the totals row has taken in is granted and needs no cover. -/
lemma Share.Open.adjust {i : ℕ} {t : UsagePeriodTotal} (h : y.Open i t) (amount : ℚ) :
    (y.adjust i t amount).Balanced ∧ (y.adjust i t amount).spent ≤ y.spent := by
  have hused := h.used ▸ h.balanced.used
  have hreserved := h.reserved ▸ h.balanced.reserved
  have hgranted := h.balanced.granted
  have hmax := le_max_right 0 amount
  have hpos := le_max_left 0 amount
  refine ⟨⟨by simp [Share.adjust], fun _ => by simp [Share.adjust], h.balanced.amounts, ?_, ?_, add_nonneg hgranted hpos⟩, ?_⟩
  · simp [Share.adjust, Share.used, hused]
  · simpa [Share.adjust, Share.reserved] using hreserved
  · rw [Share.spent, Share.spent, h.used, h.reserved]
    simp only [Share.adjust, Share.used, Share.reserved, List.map_cons, List.map_nil, List.sum_cons, List.sum_nil]
    linarith

/-- An adjustment locks the totals row when it folds its event. -/
lemma owns_adjusted {e : Entry UsagePeriodTotal} (he : (share k d).rows = [e])
    (hlock : Lock.row usagePeriodTotals e.id ∈ L) {r : UsageEvent} (hperiod : eventPeriod r = k)
    (hkind : r.kind = .adjustment) (n m : ℕ) : Owns k ((share k d).adjust e.id e.val r.amount) (share k d).spent L
      (fun x => (Change.update usagePeriodTotals (fun x => x.id == e.id) [e.id]
        (fun t => { t with used := t.used + r.amount }) : Change Row).apply m
          ((Change.insert usageEvents r : Change Row).apply n x)) d := by
  have hheld : Held k (share k d) L := .inr ⟨e, by simp [he], hlock⟩
  have hgrant : grantOf r = max 0 r.amount := if_pos hkind
  have hrows : ∀ (z : Database) k', ((updateRows (fun x => x.id == e.id && [e.id].contains x.id)
      (fun t => { t with used := t.used + r.amount }) (z usagePeriodTotals)).filter (isTotalsOf k')) =
        ((share k' z).rows.map (updateEntry (fun x => x.id == e.id && [e.id].contains x.id)
          fun t => { t with used := t.used + r.amount })) := fun z k' => filter_updateRows_kept fun _ _ _ => rfl
  have hsame : ∀ z, accounts.Rely L d z → share k z = share k d := fun z hz => hz.2.1 k hheld
  have hremembers : ∀ z, Remembers z ((Change.update usagePeriodTotals (fun x => x.id == e.id) [e.id]
      (fun t => { t with used := t.used + r.amount }) : Change Row).apply m
        ((Change.insert usageEvents r : Change Row).apply n z)) := by
    intro z q hq
    rwa [Change.apply, Change.apply, Db.put_of_ne _ (by decide), Db.put_of_ne _ (by decide)]
  refine ⟨hheld, fun z hz hrz => ?_, fun z hz hrz k' hk => ?_, hremembers, fun z hz hrz => ?_⟩
  · rw [Change.apply, Change.apply, share_totals, Db.put_of_ne _ (by decide), hrows, share_event, if_pos hperiod,
      if_pos hperiod, hgrant, hsame z hrz, he]
    simp [Share.adjust, updateEntry]
  · obtain ⟨N, hkeyed⟩ := hz.1.1
    have hother : ¬eventPeriod r = k' := fun h => hk (h.symm.trans hperiod)
    have hmem : e ∈ (share k z).rows := by simp [hsame z hrz, he]
    obtain ⟨hin, hown⟩ := List.mem_filter.mp hmem
    have hkept : (share k' z).rows.map (updateEntry (fun x => x.id == e.id && [e.id].contains x.id)
        fun t => { t with used := t.used + r.amount }) = (share k' z).rows := by
      refine (List.map_congr_left fun x hx => ?_).trans (List.map_id _)
      obtain ⟨hxin, hxown⟩ := List.mem_filter.mp hx
      refine if_neg fun hid => hk ?_
      obtain rfl := hkeyed.unique hxin hin (beq_iff_eq.mp (Bool.and_eq_true_iff.mp hid).1)
      exact (isTotalsOf_iff.mp hxown).symm.trans (isTotalsOf_iff.mp hown)
    rw [Change.apply, Change.apply, share_totals, Db.put_of_ne _ (by decide), hrows, share_event, if_neg hother,
      if_neg hother, hkept, add_zero, add_zero]
  · rw [← hsame z hrz]
    exact (hz.1.2 k).mono (hremembers z) (le_refl _)

/-- An adjustment of a period without totals locks their key. -/
lemma owns_granted (hnone : (share k d).rows = [])
    (hlock : Lock.key (.periodTotal k.customerId k.meterKey k.periodKey) ∈ L) {r : UsageEvent} (hperiod : eventPeriod r = k)
    (hkind : r.kind = .adjustment) (n m : ℕ) :
    Owns k (Share.adjust { share k d with rows := [⟨m, opening k⟩] } m (opening k) r.amount) (share k d).spent L
      (fun x => (Change.insert usagePeriodTotals { opening k with used := r.amount } : Change Row).apply m
        ((Change.insert usageEvents r : Change Row).apply n x)) d := by
  have howns := (untouched_id.owns (.inl ⟨hnone, hlock⟩)).charge hperiod n (fun _ hl => hl) (Rely.refl _ _ _)
  have hadded := howns.addRow hnone (t := { opening k with used := r.amount }) rfl m
  have hgrant : grantOf r = max 0 r.amount := if_pos hkind
  rw [hgrant] at hadded
  simpa [Share.adjust, opening] using hadded

theorem settles_adjustUsage (input : UsageAdjustmentInput) (d : Database) :
    Settling C (AdminRepository.adjustUsage input) [] id d := by
  refine safe_bind.mpr (safe_select fun d _ _ _ _ _ => ?_)
  dsimp only
  split
  · exact settling_fail _
  refine safe_bind.mpr (safe_select fun d _ _ _ _ _ => ?_)
  dsimp only
  split
  · exact settling_fail _
  refine safe_bind.mpr (safe_statement fun d _ _ env henv _ => ⟨fun c event hat _ => ?_, fun _ _ _ => settles_error _⟩)
  rcases tryInsertUnless_ok hat with ⟨-, rfl, rfl⟩ | ⟨-, rfl, rfl⟩
  · exact settling_others ((checked_selectOne (S := []) _).bind fun _ => .pure _).touches (by simp) untouched_id
  let k : Period := ⟨input.customerId, input.meterKey, input.periodKey⟩
  let r : UsageEvent := ⟨input.customerId, input.meterKey, input.amount, input.periodKey, input.idempotencyKey, none, .adjustment⟩
  refine safe_bind.mpr (safe_statement fun d hd _ env' henv' _ => ⟨fun c row hat' _ => ?_, fun _ _ _ => settles_error _⟩)
  have hbalanced : (share k d).Balanced := hd.2 k
  have hfind : holder (κ := UniqueKey) usagePeriodTotals ⟨input.customerId, input.meterKey, input.periodKey, input.amount, 0⟩
      env'.db = (d usagePeriodTotals).find? (isTotalsOf k) := by
    rw [holder_totals, henv', Change.apply, Db.put_of_ne _ (by decide)]
    rfl
  unfold tryUpsert at hat'
  rw [hfind] at hat'
  split at hat'
  · cases hat'
  split at hat'
  · rename_i e hheld
    split at hat' <;> cases hat'
    have hmem : e ∈ (share k d).rows := List.mem_filter.mpr ⟨List.mem_of_find?_eq_some hheld, List.find?_some hheld⟩
    have hrow := eq_singleton hbalanced.one hmem
    have hopen : (share k d).Open e.id e.val := ⟨hbalanced, hrow⟩
    obtain ⟨hadjusted, hspent⟩ := hopen.adjust input.amount
    refine (owns_adjusted hrow ?_ (r := r) rfl rfl env.fresh env'.fresh).finish hadjusted hspent
      ((writeOperatorAudit_checked (S := [commercialAuditEvents]) (by decide) _).bind fun _ => .pure _).touches (by decide)
    simp [Change.locks]
  · rename_i hnone
    split at hat' <;> cases hat'
    have hrows : (share k d).rows = [] := List.filter_eq_nil_iff.mpr (List.find?_eq_none.mp hnone)
    obtain ⟨hopen, hopened⟩ := hbalanced.opened_with hrows k env'.fresh
    obtain ⟨hadjusted, hspent⟩ := hopen.adjust input.amount
    refine (owns_granted hrows ?_ (r := r) rfl rfl env.fresh env'.fresh).finish hadjusted (hspent.trans hopened.le)
      ((writeOperatorAudit_checked (S := [commercialAuditEvents]) (by decide) _).bind fun _ => .pure _).touches (by decide)
    simp [Change.locks, Schema.keys, uniqueKeys, k]

lemma Share.Balanced.totals (h : (share k d).Balanced) : totalsOf k d = ((share k d).used, (share k d).reserved) := by
  cases hrow : rowOf k d with
  | none =>
    have hrows : (share k d).rows = [] := List.filter_eq_nil_iff.mpr (List.find?_eq_none.mp hrow)
    rw [totalsOf_none hrow, Share.used, Share.reserved, hrows]
    rfl
  | some e =>
    have hmem : e ∈ (share k d).rows := List.mem_filter.mpr ⟨List.mem_of_find?_eq_some hrow, List.find?_some hrow⟩
    have hrows := eq_singleton h.one hmem
    rw [totalsOf_some hrow, Share.used, Share.reserved, hrows]
    simp

end ForgeCustomer.QuotaShares

namespace ForgeCustomer.QuotaCover
open SqlTables SqlPrograms SqlStatements SqlSessions SqlDiscipline Discipline DomainRules StripeEvents DatabaseTables
  AuditWriters LicensingRepository CommerceRepository CustomerRepository EntitlementsRepository PrivacyRepository
  UsageRepository UsagePeriods UsageTotals AdminRepository ServiceOperations LastingRows QuotaShares TableName

variable {d : Database} {L : List (Lock TableName UniqueKey)} {v : Database → Database} {ε α : Type}
  {C : Env Row UniqueKey → Change Row → List (Lock TableName UniqueKey) → Prop}

lemma settling_silent {tx : Tx ε α} (h : Settling C tx L v d) : Settling C (silent tx) L v d := by
  refine safe_translate (Safe.mono (fun r L v d hr d' hd' hrely hkeyed => ?_) h)
  have hcommit := hr d' hd' hrely hkeyed
  cases r with
  | ok a => exact hcommit
  | error e => trivial

lemma settling_checked {S : List TableName} {tx : Tx ε α} (htx : Checked S tx) (hS : ∀ t ∈ quotaSources, t ∉ S) :
    Settling C (silent tx) [] id d := settling_silent (settling_others htx.touches hS untouched_id)

lemma settles_request (clock : Clock) (ctx : CustomerContext) (customerId : ℕ) (request : CustomerRequest)
    (d : Database) : Settling C (request.prog clock ctx customerId) [] id d := by
  cases request with
  | mfaStatus enabled =>
    unfold CustomerRequest.prog
    cases ctx.requireAal2 with
    | ok => exact settling_checked (setMfaRequired_checked _ _) (by decide)
    | error => exact settling_fail _
  | register => exact settling_checked (registerInstallation_checked _ _ _) (by decide)
  | activate => exact settling_checked (activateInstallation_checked _ _ _ _ _) (by decide)
  | heartbeat => exact settling_checked (heartbeatInstallation_checked _ _ _ _) (by decide)
  | deactivate => exact settling_checked (deactivateInstallation_checked _ _ _ _) (by decide)
  | lease => exact settling_checked (issueOfflineLease_checked _ _ _ _ _ _) (by decide)
  | checkout => exact settling_checked (recordCheckoutSession_checked (S := [checkoutSessions]) (by decide) _ _ _) (by decide)
  | reserve => exact settling_silent (settles_reserve _ _ _)
  | commit => exact settling_silent (settles_commit _ _ _)
  | release => exact settling_silent (settles_release _ _ _)
  | requestDeletion => exact settling_checked (requestDeletion_checked _ _ _ _) (by decide)
  | cancelDeletion => exact settling_checked (cancelRequest_checked _ _) (by decide)

theorem settles_call (call : ServiceCall) (d : Database) : Settling C call.prog [] id d := by
  cases call with
  | publish clock input => exact settling_checked (PolicyReaders.publishTables_checked clock input) (by decide)
  | operation op =>
  cases op with
  | provision => exact settling_checked (provisionForAuthUser_checked _ _) (by decide)
  | customer clock authUserId aal request =>
    refine safe_bind.mpr (safe_select fun d _ _ _ _ _ => ?_)
    dsimp only
    split
    · exact settles_request _ _ _ _ _
    · exact settling_fail _
  | suspend | restore => exact settling_checked (setCustomerStatus_checked _ _ _ _ _ _ _) (by decide)
  | requireMfa => exact settling_checked (setCustomerMfaRequirement_checked _ _ _ _ _ _) (by decide)
  | issueLicense => exact settling_checked (issueLicense_checked _ _) (by decide)
  | revokeLicense => exact settling_checked (revokeLicense_checked _ _ _ _ _) (by decide)
  | override => exact settling_checked (setEntitlementOverride_checked _ _ _) (by decide)
  | adjustUsage => exact settling_silent (settles_adjustUsage _ _)
  | fleetPolicy => exact settling_checked (updateFleetPolicy_checked _) (by decide)
  | webhook => exact settling_checked (processStripeWebhookEvent_checked _ _) (by decide)
  | resync => exact settling_checked (applyAdminResync_checked _ _ _ _ _ _) (by decide)
  | sweep => exact settling_silent (settles_sweep _ _ _)
  | advanceDeletion => exact settling_checked (advanceRequest_checked _ _ _ _ _ _) (by decide)
  | rejectDeletion => exact settling_checked (rejectRequest_checked _ _ _ _) (by decide)
  | executeDeletion => exact settling_checked (executeDeletion_checked _ _ _ _ _) (by decide)

/-- Balanced and covered in every period. -/
def Consistent (d : Database) : Prop := ∀ k, (share k d).Balanced ∧ Covered k d (share k d).spent

lemma Consistent.derived (h : Consistent d) : Derived d where
  totals k := by
    obtain ⟨hbalanced, -⟩ := h k
    rw [hbalanced.totals, hbalanced.used, hbalanced.reserved]
    rfl
  unclamped k rows hrows := by
    obtain ⟨hbalanced, -⟩ := h k
    rw [hbalanced.totals, hbalanced.reserved]
    refine (hrows.map _).sum_le_sum fun q hq => ?_
    obtain ⟨e, he, rfl⟩ := List.mem_map.mp hq
    exact hbalanced.amounts e he
  rebuilt := by
    refine (List.map_congr_left fun e he => ?_).trans (List.map_id _)
    obtain ⟨hbalanced, -⟩ := h (totalPeriod e.val)
    have hmem : e ∈ (share (totalPeriod e.val) d).rows := List.mem_filter.mpr ⟨he, isTotalsOf_iff.mpr rfl⟩
    have hrows := eq_singleton hbalanced.one hmem
    have hused := hbalanced.used
    have hreserved := hbalanced.reserved
    simp only [Share.used, Share.reserved, hrows, List.map_cons, List.map_nil, List.sum_cons, List.sum_nil, add_zero]
      at hused hreserved
    change (⟨e.id, { e.val with used := (share _ d).charged, reserved := sumAmounts (share _ d).pending }⟩ : Entry UsagePeriodTotal) = e
    rw [← hused, ← hreserved]

lemma consistent_unused (h : Unused d) : Consistent d := by
  intro k
  have hshare : share k d = ⟨[], [], 0, 0⟩ := by
    unfold share pendingRows usedIn grantedIn
    rw [h usagePeriodTotals (by decide), h usageReservations (by decide), h usageEvents (by decide)]
    rfl
  rw [hshare]
  exact ⟨⟨Nat.zero_le 1, fun hne => absurd rfl hne, fun e he => absurd he List.not_mem_nil, rfl, rfl, le_refl 0⟩,
    .inl (by simp [Share.spent, Share.used, Share.reserved])⟩

/-- However reservations, commits, releases, sweeps, adjustments and all other calls are interleaved and cut off, the
totals equal the ledger and the pending reservations, and what is used and reserved beyond the operators' grants is
covered by the limit of an allowed request. -/
theorem quota_covered {store : DbStore} (hkeyed : store.Keyed) (hstart : Consistent store.db) (calls : List ServiceCall)
    {y : Sys Row UniqueKey Unit Unit} (hy : Sys.Reachable (Sys.start store (calls.map ServiceCall.prog)) y) :
    Derived y.store.db ∧ ∀ k, Covered k y.store.db
      ((totalsOf k y.store.db).1 + (totalsOf k y.store.db).2 - grantedIn k y.store.db) := by
  have hsound : Sound accounts (fun _ _ _ _ => True) (fun _ _ _ _ => True) y := by
    refine reach_sound ⟨⟨⟨_, hkeyed⟩, fun k => (hstart k).2⟩, fun k => (hstart k).1⟩ hkeyed (fun i p hp d _ => ?_) hy
    obtain ⟨call, -, rfl⟩ := List.mem_map.mp (List.mem_of_getElem? hp)
    exact settles_call call d
  have hconsistent : Consistent y.store.db := fun k => ⟨hsound.inv.2 k, hsound.inv.1.2 k⟩
  refine ⟨hconsistent.derived, fun k => ?_⟩
  obtain ⟨hbalanced, hcovered⟩ := hconsistent k
  rw [hbalanced.totals]
  exact hcovered

/-- A reservation and a direct commit that do not both fit. -/
def rivals : List ServiceCall :=
  [.operation (.customer ⟨0, 0⟩ 100 none (.reserve ⟨0, "tokens", 6, some 10, "2026-06", 60, "k1", none⟩)),
    .operation (.customer ⟨0, 0⟩ 100 none (.commit ⟨0, .direct "tokens" 5, some 10, "2026-06", [], "k2", none⟩))]

/-- Both find no replay before either of them locks the totals. -/
def rivalMoves : List Move :=
  [.advance 0, .advance 1, .advance 0, .advance 1] ++ List.replicate 8 (.advance 0) ++ List.replicate 7 (.advance 1)

lemma rivals_run : (Sys.run rivalMoves (Sys.start sampleStore (rivals.map ServiceCall.prog))).any (fun y =>
    y.log.length == 2 && totalsOf ⟨0, "tokens", "2026-06"⟩ y.store.db == (0, 6)) = true := by
  decide +kernel

theorem quota_covered_rivals : ∃ y, Sys.run rivalMoves (Sys.start sampleStore (rivals.map ServiceCall.prog)) = some y ∧
    totalsOf ⟨0, "tokens", "2026-06"⟩ y.store.db = (0, 6) ∧ Derived y.store.db ∧ ∀ k, Covered k y.store.db
      ((totalsOf k y.store.db).1 + (totalsOf k y.store.db).2 - grantedIn k y.store.db) := by
  obtain ⟨y, hy, hend⟩ := (Option.any_eq_true _ _).mp rivals_run
  have hunused : Unused sampleStore.db := by
    intro t ht
    simp only [sources, List.mem_cons, List.not_mem_nil, or_false] at ht
    rcases ht with rfl | rfl | rfl <;> rfl
  exact ⟨y, hy, beq_iff_eq.mp (Bool.and_eq_true_iff.mp hend).2,
    quota_covered sampleStore_stored.keyed (consistent_unused hunused) rivals (Sys.reachable_of_run .start hy)⟩

end ForgeCustomer.QuotaCover
