import Mathlib

/-!
# Registers with a watermark and two families of writers

A register keeps a status, further terms and the time of the last write. Full events overwrite
everything, payment events only the status, and whatever is older than the watermark is
dropped. A successful payment does not reopen a closed register.
-/
namespace ForgeCustomer.WatermarkOrder
set_option linter.unusedSectionVars false

/-- The statuses that the rules below single out. -/
structure Statuses (σ : Type) where
  closed : σ
  paid : σ
  failed : σ
  paid_ne_closed : paid ≠ closed
  failed_ne_closed : failed ≠ closed
  failed_ne_paid : failed ≠ paid

@[ext] structure Reg (σ T : Type) where
  status : σ
  terms : T
  mark : ℤ

inductive Event (σ T : Type) where
  | full (time : ℤ) (status : σ) (terms : T)
  | paid (time : ℤ)
  | failed (time : ℤ)
deriving DecidableEq

variable {σ T : Type}

namespace Event

def time : Event σ T → ℤ
  | full t _ _ => t
  | paid t => t
  | failed t => t

def isFull : Event σ T → Bool
  | full _ _ _ => true
  | _ => false

def isPaid : Event σ T → Bool
  | paid _ => true
  | _ => false

end Event

def Reg.shown (r : Reg σ T) : σ × T := (r.status, r.terms)

section Rules
variable [DecidableEq σ] (S : Statuses σ)

def apply (r : Reg σ T) (e : Event σ T) : Reg σ T :=
  if e.time < r.mark then r
  else match e with
    | .full t status terms => ⟨status, terms, t⟩
    | .paid t => if r.status = S.closed then r else ⟨S.paid, r.terms, t⟩
    | .failed t => ⟨S.failed, r.terms, t⟩

def run (es : List (Event σ T)) (r : Reg σ T) : Reg σ T := es.foldl (apply S) r

/-- The register can show the terms `x` while it is not closed. -/
def Opens (r : Reg σ T) (es : List (Event σ T)) (x : T) : Prop :=
  (x = r.terms ∧ (r.status ≠ S.closed ∨ ∃ t, .failed t ∈ es)) ∨
    ∃ t status, .full t status x ∈ es ∧
      (status ≠ S.closed ∨ ∃ t', t < t' ∧ .failed t' ∈ es)

/-- The register can be closed. -/
def Closes (r : Reg σ T) (es : List (Event σ T)) : Prop :=
  r.status = S.closed ∨ ∃ t x, .full t S.closed x ∈ es

/-- The last event that is not a successful payment is full and sets the status `paid`. -/
def EndsPaid (es : List (Event σ T)) : Prop :=
  ∃ t x, .full t S.paid x ∈ es ∧ ∀ e ∈ es, t < e.time → e.isPaid = true

/-- The newest event is full, or the register never opens, or it opens with one choice of terms
only and, if the newest event is a successful payment, closing cannot swallow that payment. -/
def OrderFree (r : Reg σ T) (es : List (Event σ T)) : Prop :=
  ∀ n ∈ es, (∀ e ∈ es, e.time ≤ n.time) →
    n.isFull = true ∨ (∀ x, ¬Opens S r es x) ∨
      ((∀ x y, Opens S r es x → Opens S r es y → x = y) ∧
        (n.isPaid = false ∨ ¬Closes S r es ∨ EndsPaid S es))

variable {S}

@[simp] lemma run_nil (r : Reg σ T) : run S [] r = r := rfl

@[simp] lemma run_cons (e : Event σ T) (es : List (Event σ T)) (r : Reg σ T) :
    run S (e :: es) r = run S es (apply S r e) := rfl

@[simp] lemma run_append (es es' : List (Event σ T)) (r : Reg σ T) :
    run S (es ++ es') r = run S es' (run S es r) := List.foldl_append

lemma apply_stale {r : Reg σ T} {e : Event σ T} (h : e.time < r.mark) : apply S r e = r :=
  if_pos h

lemma apply_full {r : Reg σ T} {t : ℤ} (status : σ) (x : T) (h : r.mark ≤ t) :
    apply S r (.full t status x) = ⟨status, x, t⟩ := by
  simp [apply, Event.time, not_lt.mpr h]

lemma apply_failed {r : Reg σ T} {t : ℤ} (h : r.mark ≤ t) :
    apply S r (.failed t) = ⟨S.failed, r.terms, t⟩ := by
  simp [apply, Event.time, not_lt.mpr h]

lemma apply_paid {r : Reg σ T} {t : ℤ} (h : r.mark ≤ t) (ho : r.status ≠ S.closed) :
    apply S r (.paid t) = ⟨S.paid, r.terms, t⟩ := by
  simp [apply, Event.time, not_lt.mpr h, ho]

/-- A successful payment of a closed register is dropped, whatever its time. -/
lemma apply_paid_closed {r : Reg σ T} {e : Event σ T} (he : e.isPaid = true)
    (hc : r.status = S.closed) : apply S r e = r := by
  cases e with
  | paid t => simp [apply, hc]
  | full | failed => cases he

lemma run_stale {es : List (Event σ T)} {r : Reg σ T} (h : ∀ e ∈ es, e.time < r.mark) :
    run S es r = r := by
  induction es with
  | nil => rfl
  | cons e es ih =>
    rw [run_cons, apply_stale (h e (by simp))]
    exact ih fun e he => h e (by simp [he])

lemma run_paid_closed {es : List (Event σ T)} {r : Reg σ T} (h : ∀ e ∈ es, e.isPaid = true)
    (hc : r.status = S.closed) : run S es r = r := by
  induction es with
  | nil => rfl
  | cons e es ih =>
    rw [run_cons, apply_paid_closed (h e (by simp)) hc]
    exact ih fun e he => h e (by simp [he])

/-- What an event can do to a register. -/
lemma apply_cases (r : Reg σ T) (e : Event σ T) :
    (apply S r e = r ∧ (e.time < r.mark ∨ (e.isPaid = true ∧ r.status = S.closed))) ∨
    (∃ t status x, e = .full t status x ∧ r.mark ≤ t ∧ apply S r e = ⟨status, x, t⟩) ∨
    (∃ t, e = .failed t ∧ r.mark ≤ t ∧ apply S r e = ⟨S.failed, r.terms, t⟩) ∨
    (∃ t, e = .paid t ∧ r.mark ≤ t ∧ r.status ≠ S.closed ∧ apply S r e = ⟨S.paid, r.terms, t⟩) := by
  by_cases h : e.time < r.mark
  · exact .inl ⟨apply_stale h, .inl h⟩
  · have hle := not_lt.mp h
    cases e with
    | full t status x => exact .inr (.inl ⟨t, status, x, rfl, hle, apply_full status x hle⟩)
    | failed t => exact .inr (.inr (.inl ⟨t, rfl, hle, apply_failed hle⟩))
    | paid t =>
      by_cases hc : r.status = S.closed
      · exact .inl ⟨apply_paid_closed rfl hc, .inr ⟨rfl, hc⟩⟩
      · exact .inr (.inr (.inr ⟨t, rfl, hle, hc, apply_paid hle hc⟩))

/-- The watermark moves to the event's time or stays. -/
lemma apply_mark (r : Reg σ T) (e : Event σ T) :
    apply S r e = r ∨ (r.mark ≤ e.time ∧ (apply S r e).mark = e.time) := by
  rcases apply_cases (S := S) r e with ⟨h, -⟩ | ⟨t, status, x, rfl, hle, h⟩ | ⟨t, rfl, hle, h⟩ |
    ⟨t, rfl, hle, -, h⟩
  · exact .inl h
  all_goals exact .inr ⟨hle, by rw [h]; rfl⟩

lemma mark_le_apply (r : Reg σ T) (e : Event σ T) : r.mark ≤ (apply S r e).mark := by
  rcases apply_mark (S := S) r e with h | ⟨hle, h⟩
  · rw [h]
  · rwa [h]

lemma run_mark_le {es : List (Event σ T)} {r : Reg σ T} {b : ℤ} (hr : r.mark ≤ b)
    (h : ∀ e ∈ es, e.time ≤ b) : (run S es r).mark ≤ b := by
  induction es generalizing r with
  | nil => exact hr
  | cons e es ih =>
    refine ih ?_ fun x hx => h x (by simp [hx])
    rcases apply_mark (S := S) r e with he | ⟨-, he⟩
    · rwa [he]
    · rw [he]
      exact h e (by simp)

/-- Around its newest event, a list of events with distinct times is older. -/
lemma split_newest {es : List (Event σ T)} {n : Event σ T} (hn : n ∈ es)
    (hd : es.Pairwise fun a b => a.time ≠ b.time) (hle : ∀ e ∈ es, e.time ≤ n.time) :
    ∃ as bs, es = as ++ n :: bs ∧ (∀ e ∈ as, e.time < n.time) ∧ ∀ e ∈ bs, e.time < n.time := by
  obtain ⟨as, bs, rfl⟩ := List.append_of_mem hn
  refine ⟨as, bs, rfl, fun e he => ?_, fun e he => ?_⟩
  · have hne := (List.pairwise_append.mp hd).2.2 e he n (by simp)
    exact lt_of_le_of_ne (hle e (by simp [he])) hne
  · have hne := (List.pairwise_cons.mp (List.pairwise_append.mp hd).2.1).1 e he
    exact lt_of_le_of_ne (hle e (by simp [he])) hne.symm

/-- If the newest event is not dropped, it decides how the register ends up. -/
lemma run_newest {as bs : List (Event σ T)} {r : Reg σ T} {n : Event σ T}
    (hbs : ∀ e ∈ bs, e.time < n.time) (hn : (apply S (run S as r) n).mark = n.time) :
    run S (as ++ n :: bs) r = apply S (run S as r) n := by
  rw [run_append, run_cons]
  exact run_stale fun e he => hn ▸ hbs e he

lemma run_newest_full {es : List (Event σ T)} {r : Reg σ T} {t : ℤ} {status : σ} {x : T}
    (hn : .full t status x ∈ es) (hd : es.Pairwise fun a b => a.time ≠ b.time)
    (hle : ∀ e ∈ es, e.time ≤ t) (hr : r.mark ≤ t) : run S es r = ⟨status, x, t⟩ := by
  obtain ⟨as, bs, rfl, has, hbs⟩ := split_newest hn hd hle
  have hmark : (run S as r).mark ≤ t := run_mark_le hr fun e he => (has e he).le
  have happ := apply_full (S := S) status x hmark
  rw [run_newest hbs (by rw [happ]; rfl), happ]

lemma run_newest_failed {es : List (Event σ T)} {r : Reg σ T} {t : ℤ}
    (hn : .failed t ∈ es) (hd : es.Pairwise fun a b => a.time ≠ b.time)
    (hle : ∀ e ∈ es, e.time ≤ t) (hr : r.mark ≤ t) :
    ∃ as, (∀ e ∈ as, e ∈ es) ∧ run S es r = ⟨S.failed, (run S as r).terms, t⟩ := by
  obtain ⟨as, bs, rfl, has, hbs⟩ := split_newest hn hd hle
  have hmark : (run S as r).mark ≤ t := run_mark_le hr fun e he => (has e he).le
  have happ := apply_failed (S := S) hmark
  exact ⟨as, fun e he => by simp [he], by rw [run_newest hbs (by rw [happ]; rfl), happ]⟩

/-- The terms come from the start or from a full event. -/
lemma run_terms (es : List (Event σ T)) (r : Reg σ T) :
    (run S es r).terms = r.terms ∨ ∃ t status, .full t status (run S es r).terms ∈ es := by
  induction es using List.reverseRecOn with
  | nil => exact .inl rfl
  | append_singleton es e ih =>
    rw [run_append, run_cons, run_nil]
    have old : (run S es r).terms = r.terms ∨
        ∃ t status, .full t status (run S es r).terms ∈ es ++ [e] := by
      rcases ih with h | ⟨t, status, h⟩
      · exact .inl h
      · exact .inr ⟨t, status, by simp [h]⟩
    rcases apply_cases (S := S) (run S es r) e with ⟨h, -⟩ | ⟨t, status, x, rfl, -, h⟩ |
      ⟨t, rfl, -, h⟩ | ⟨t, rfl, -, -, h⟩
    · rwa [h]
    · rw [h]
      exact .inr ⟨t, status, by simp⟩
    · rwa [h]
    · rwa [h]

/-- Only a closing full event closes a register. -/
lemma run_open {es : List (Event σ T)} {r : Reg σ T} (hr : r.status ≠ S.closed)
    (h : ∀ t x, .full t S.closed x ∉ es) : (run S es r).status ≠ S.closed := by
  induction es generalizing r with
  | nil => exact hr
  | cons e es ih =>
    refine ih ?_ fun t x hx => h t x (by simp [hx])
    rcases apply_cases (S := S) r e with ⟨he, -⟩ | ⟨t, status, x, rfl, -, he⟩ | ⟨t, rfl, -, he⟩ |
      ⟨t, rfl, -, -, he⟩
    · rwa [he]
    · rw [he]
      rintro rfl
      exact h t x (by simp)
    · rw [he]
      exact S.failed_ne_closed
    · rw [he]
      exact S.paid_ne_closed

/-- While a register stays closed, only the full events count. -/
lemma run_closed {es : List (Event σ T)} {r : Reg σ T} (hr : r.status = S.closed)
    (h : ∀ e ∈ es, e.isPaid = true ∨ ∃ t x, e = .full t S.closed x) :
    run S es r = run S (es.filter (·.isFull)) r := by
  induction es generalizing r with
  | nil => rfl
  | cons e es ih =>
    have htail : ∀ e ∈ es, e.isPaid = true ∨ ∃ t x, e = .full t S.closed x :=
      fun x hx => h x (by simp [hx])
    rcases h e (by simp) with hp | ⟨t, x, rfl⟩
    · have hf : e.isFull = false := by cases e <;> first | rfl | cases hp
      rw [run_cons, apply_paid_closed hp hr, List.filter_cons_of_neg (by simp [hf])]
      exact ih hr htail
    · have hc : (apply S r (.full t S.closed x)).status = S.closed := by
        rcases apply_mark (S := S) r (.full t S.closed x) with he | ⟨hle, -⟩
        · rwa [he]
        · rw [apply_full (S := S) (t := t) S.closed x hle]
      rw [List.filter_cons_of_pos rfl, run_cons, run_cons]
      exact ih hc htail

lemma exists_newest {es : List (Event σ T)} (h : es ≠ []) :
    ∃ n ∈ es, ∀ e ∈ es, e.time ≤ n.time := by
  induction es with
  | nil => exact absurd rfl h
  | cons e es ih =>
    by_cases hes : es = []
    · exact ⟨e, by simp [hes]⟩
    · obtain ⟨n, hn, hle⟩ := ih hes
      rcases le_total e.time n.time with hen | hne
      · refine ⟨n, by simp [hn], fun x hx => ?_⟩
        rcases List.mem_cons.mp hx with rfl | hx
        · exact hen
        · exact hle x hx
      · refine ⟨e, by simp, fun x hx => ?_⟩
        rcases List.mem_cons.mp hx with rfl | hx
        · exact le_rfl
        · exact (hle x hx).trans hne

section Orders
variable {r : Reg σ T} {es : List (Event σ T)}

/-- Any choice of distinct events can be delivered first. -/
lemma exists_rest {α : Type} {as es : List α} (hn : as.Nodup) (hs : as ⊆ es) :
    ∃ rest, es.Perm (as ++ rest) := by
  obtain ⟨as', hperm, hsub⟩ := List.subperm_of_subset hn hs
  obtain ⟨rest, hrest⟩ := hsub.exists_perm_append
  exact ⟨rest, hrest.trans (hperm.append_right rest)⟩

/-- Whatever is delivered first, if the newest event comes next it has the last word. -/
lemma exists_order {ps : List (Event σ T)} {n : Event σ T}
    (hd : es.Pairwise fun a b => a.time ≠ b.time) (hp : (ps ++ [n]).Nodup)
    (hsub : ps ++ [n] ⊆ es) (hle : ∀ e ∈ es, e.time ≤ n.time)
    (hn : (apply S (run S ps r) n).mark = n.time) :
    ∃ es', es'.Perm es ∧ run S es' r = apply S (run S ps r) n := by
  obtain ⟨rest, hrest⟩ := exists_rest hp hsub
  refine ⟨_, hrest.symm, ?_⟩
  have hd' := (hrest.pairwise_iff fun h => Ne.symm h).mp hd
  rw [List.append_assoc, List.singleton_append]
  refine run_newest (fun e he => ?_) hn
  have hne := (List.pairwise_append.mp hd').2.2 n (by simp) e he
  exact lt_of_le_of_ne (hle e (hrest.symm.subset (by simp [he]))) hne.symm

/-- How a register ends that opens with the terms `x` just before the newest event. -/
lemma opens_order {n : Event σ T} {x : T} (hd : es.Pairwise fun a b => a.time ≠ b.time)
    (hr : ∀ e ∈ es, r.mark < e.time) (hn : n ∈ es) (hle : ∀ e ∈ es, e.time ≤ n.time)
    (hfull : n.isFull = false) (hx : Opens S r es x) :
    ∃ es', es'.Perm es ∧
      (run S es' r).shown = (if n.isPaid then S.paid else S.failed, x) := by
  have last : ∀ ps s, run S ps r = s → (ps ++ [n]).Nodup → ps ⊆ es → s.mark ≤ n.time →
      s.terms = x → (n.isPaid = true → s.status ≠ S.closed) →
      ∃ es', es'.Perm es ∧ (run S es' r).shown = (if n.isPaid then S.paid else S.failed, x) := by
    rintro ps s hs hp hsub hmark rfl hopen
    have happ : apply S s n = ⟨if n.isPaid then S.paid else S.failed, s.terms, n.time⟩ := by
      cases n with
      | full t status y => cases hfull
      | paid t => exact apply_paid hmark (hopen rfl)
      | failed t => exact apply_failed hmark
    have hsub' : ps ++ [n] ⊆ es := by
      intro e he
      rcases List.mem_append.mp he with he | he
      · exact hsub he
      · rwa [List.mem_singleton.mp he]
    obtain ⟨es', hperm, hrun⟩ := exists_order (S := S) (r := r) hd hp hsub' hle (by rw [hs, happ])
    exact ⟨es', hperm, by rw [hrun, hs, happ]; rfl⟩
  have start : r.mark ≤ n.time := (hr n hn).le
  rcases hx with ⟨rfl, hopen | ⟨g, hg⟩⟩ | ⟨t, status, hf, hst⟩
  · exact last [] r rfl (by simp) (by simp) start rfl fun _ => hopen
  · by_cases hp : n.isPaid = true
    · have hne : Event.failed g ≠ n := by rintro rfl; cases hp
      have happ : run S [.failed g] r = ⟨S.failed, r.terms, g⟩ := apply_failed (hr _ hg).le
      exact last _ _ happ (by simpa using hne) (by simpa using hg) (hle _ hg) rfl
        fun _ => S.failed_ne_closed
    · exact last [] r rfl (by simp) (by simp) start rfl fun h => absurd h hp
  · have hne : Event.full t status x ≠ n := by rintro rfl; cases hfull
    have happ : apply S r (.full t status x) = ⟨status, x, t⟩ := apply_full status x (hr _ hf).le
    by_cases hopen : n.isPaid = true → status ≠ S.closed
    · exact last [.full t status x] _ happ (by simpa using hne) (by simpa using hf) (hle _ hf) rfl
        hopen
    · obtain ⟨hp, hc⟩ := Classical.not_imp.mp hopen
      rcases hst with hst | ⟨g, hlt, hg⟩
      · exact absurd hst hc
      · have hne' : Event.failed g ≠ n := by rintro rfl; cases hp
        have both : run S [.full t status x, .failed g] r = ⟨S.failed, x, g⟩ := by
          rw [run_cons, happ]
          exact apply_failed hlt.le
        refine last _ _ both (by simp [hne, hne']) ?_ (hle _ hg) rfl fun _ => S.failed_ne_closed
        intro e he
        rcases List.mem_pair.mp he with rfl | rfl
        · exact hf
        · exact hg

/-- The newest event that is not a successful payment has the last word on the status, if
all of those events count. -/
lemma run_last_status {qs : List (Event σ T)} {s : Reg σ T} {m : Event σ T} (hm : m ∈ qs)
    (hd : qs.Pairwise fun a b => a.time ≠ b.time) (hle : ∀ e ∈ qs, e.time ≤ m.time)
    (hs : s.mark ≤ m.time) (hpaid : m.isPaid = false)
    (hst : ∀ t x, m ≠ .full t S.paid x) : (run S qs s).status ≠ S.paid := by
  cases m with
  | full t status x =>
    rw [run_newest_full hm hd hle hs]
    rintro rfl
    exact hst t x rfl
  | failed t =>
    obtain ⟨as, -, h⟩ := run_newest_failed hm hd hle hs
    rw [h]
    exact S.failed_ne_paid
  | paid t => cases hpaid

/-- A closed register drops the successful payments that come first. -/
lemma closes_order (hd : es.Pairwise fun a b => a.time ≠ b.time)
    (hr : ∀ e ∈ es, r.mark < e.time) (hc : Closes S r es) (he : ¬EndsPaid S es) :
    ∃ es', es'.Perm es ∧ (run S es' r).status ≠ S.paid := by
  have hnodup : es.Nodup := hd.imp fun h he => h (by rw [he])
  have opening : ∃ ps s, run S ps r = s ∧ ps.Nodup ∧ ps ⊆ es ∧ (∀ e ∈ ps, e.isPaid = false) ∧
      s.status = S.closed ∧ ∀ e ∈ ps, s.mark = e.time := by
    rcases hc with hc | ⟨t, x, hf⟩
    · exact ⟨[], r, rfl, by simp, by simp, by simp, hc, by simp⟩
    · exact ⟨[.full t S.closed x], _, apply_full (S := S) S.closed x (hr _ hf).le, by simp, by simpa using hf,
        by simp [Event.isPaid], rfl, by simp [Event.time]⟩
  obtain ⟨ps, s, hs, hps, hsub, hpaid, hclosed, hmark⟩ := opening
  have hfirst : (ps ++ es.filter (·.isPaid)).Nodup := by
    refine List.nodup_append.mpr ⟨hps, hnodup.filter _, ?_⟩
    rintro a ha b hb rfl
    have h1 := hpaid a ha
    have h2 := (List.mem_filter.mp hb).2
    rw [h1] at h2
    cases h2
  have hfsub : ps ++ es.filter (·.isPaid) ⊆ es :=
    List.append_subset.mpr ⟨hsub, List.filter_sublist.subset⟩
  obtain ⟨qs, hqs⟩ := exists_rest hfirst hfsub
  have hdq := (hqs.pairwise_iff fun h => Ne.symm h).mp hd
  have hqsub : ∀ e ∈ qs, e ∈ es := fun e he => hqs.symm.subset (by simp [he])
  have hqpaid : ∀ e ∈ qs, e.isPaid = false := by
    intro e he
    by_contra hp
    have hmem : e ∈ ps ++ es.filter (·.isPaid) := by
      simp [hqsub e he, (Bool.not_eq_false _).mp hp]
    exact (List.pairwise_append.mp hdq).2.2 e hmem e he rfl
  refine ⟨_, hqs.symm, ?_⟩
  rw [run_append, run_append, hs, run_paid_closed (fun e he => (List.mem_filter.mp he).2) hclosed]
  by_cases hqnil : qs = []
  · rw [hqnil, run_nil, hclosed]
    exact S.paid_ne_closed.symm
  obtain ⟨m, hm, hmle⟩ := exists_newest hqnil
  by_cases hstale : m.time < s.mark
  · rw [run_stale fun e he => (hmle e he).trans_lt hstale, hclosed]
    exact S.paid_ne_closed.symm
  · have hsm := not_lt.mp hstale
    refine run_last_status hm (List.pairwise_append.mp hdq).2.1 hmle hsm (hqpaid m hm) ?_
    rintro t x rfl
    refine he ⟨t, x, hqsub _ hm, fun e hemem hlt => ?_⟩
    by_contra hp
    have hp' := (Bool.not_eq_true _).mp hp
    rcases List.mem_append.mp (hqs.subset hemem) with h | h
    · rcases List.mem_append.mp h with h | h
      · rw [hmark e h] at hsm
        exact absurd hlt (not_lt.mpr hsm)
      · exact hp (List.mem_filter.mp h).2
    · exact absurd hlt (not_lt.mpr (hmle e h))

/-- What holds after the events `as` if the last event that is not a successful payment is the
full event at `t`, with the terms `x` that the register always opens with. -/
structure Settles (r : Reg σ T) (es : List (Event σ T)) (t : ℤ) (x : T) (s : Reg σ T) : Prop where
  opened : s.status ≠ S.closed → s.terms = x
  closing : s.status = S.closed → (s.terms = r.terms ∧ r.status = S.closed) ∨
    ∃ t', t' ≤ s.mark ∧ .full t' S.closed s.terms ∈ es
  settled : t ≤ s.mark → s.status = S.paid

lemma eq_of_time (hd : es.Pairwise fun a b => a.time ≠ b.time) {a b : Event σ T} (ha : a ∈ es)
    (hb : b ∈ es) (h : a.time = b.time) : a = b := by
  have hnodup : (es.map Event.time).Nodup := List.pairwise_map.mpr hd
  exact List.inj_on_of_nodup_map hnodup ha hb h

lemma Settles.apply {t : ℤ} {x : T} {s : Reg σ T} {e : Event σ T} (h : Settles (S := S) r es t x s)
    (he : e ∈ es) (hd : es.Pairwise fun a b => a.time ≠ b.time)
    (hx : ∀ y, Opens S r es y → y = x) (hT : .full t S.paid x ∈ es)
    (hlast : ∀ e ∈ es, t < e.time → e.isPaid = true) :
    Settles (S := S) r es t x (WatermarkOrder.apply S s e) := by
  have settled : e.isPaid = false → t ≤ e.time → e = .full t S.paid x := by
    intro hp ht
    rcases lt_or_eq_of_le ht with hlt | heq
    · rw [hlast e he hlt] at hp
      cases hp
    · exact eq_of_time hd he hT heq.symm
  rcases apply_cases (S := S) s e with ⟨hs, -⟩ | ⟨t', status, y, rfl, hle, hs⟩ |
    ⟨g, rfl, hle, hs⟩ | ⟨g, rfl, hle, hopen, hs⟩
  · rwa [hs]
  · rw [hs]
    refine ⟨fun hst => hx y (.inr ⟨t', status, he, .inl hst⟩), fun hst => .inr ⟨t', le_rfl, ?_⟩,
      fun ht => ?_⟩
    · subst hst
      exact he
    · cases settled rfl ht
      rfl
  · rw [hs]
    refine ⟨fun _ => ?_, fun hst => absurd hst S.failed_ne_closed, fun ht => ?_⟩
    · by_cases hc : s.status = S.closed
      · rcases h.closing hc with ⟨hterms, -⟩ | ⟨t', ht', hf⟩
        · exact hx _ (.inl ⟨hterms, .inr ⟨g, he⟩⟩)
        · have hlt : t' < g := by
            refine lt_of_le_of_ne (ht'.trans hle) fun heq => ?_
            cases eq_of_time hd hf he heq
          exact hx _ (.inr ⟨t', _, hf, .inr ⟨g, hlt, he⟩⟩)
      · exact h.opened hc
    · cases settled rfl ht
  · rw [hs]
    exact ⟨fun _ => h.opened hopen, fun hst => absurd hst S.paid_ne_closed, fun _ => rfl⟩

lemma settles_run {t : ℤ} {x : T} {as : List (Event σ T)} (has : as ⊆ es)
    (hd : es.Pairwise fun a b => a.time ≠ b.time) (hr : ∀ e ∈ es, r.mark < e.time)
    (hx : ∀ y, Opens S r es y → y = x) (hT : .full t S.paid x ∈ es)
    (hlast : ∀ e ∈ es, t < e.time → e.isPaid = true) :
    Settles (S := S) r es t x (run S as r) ∧ (.full t S.paid x ∈ as → t ≤ (run S as r).mark) := by
  induction as using List.reverseRecOn with
  | nil =>
    refine ⟨⟨fun hst => hx _ (.inl ⟨rfl, .inl hst⟩), fun hst => .inl ⟨rfl, hst⟩, fun ht => ?_⟩, by simp⟩
    exact absurd (hr _ hT) (not_lt.mpr ht)
  | append_singleton as e ih =>
    obtain ⟨hs, hin⟩ := ih fun a ha => has (by simp [ha])
    rw [run_append, run_cons, run_nil]
    refine ⟨hs.apply (has (by simp)) hd hx hT hlast, fun hmem => ?_⟩
    rcases List.mem_append.mp hmem with hmem | hmem
    · exact (hin hmem).trans (mark_le_apply _ _)
    · rw [← List.mem_singleton.mp hmem]
      rcases lt_or_ge t (run S as r).mark with hlt | hle
      · rw [apply_stale (by exact hlt)]
        exact hlt.le
      · rw [apply_full (S := S) S.paid x hle]

/-- The register shows `v` after the events in any order. -/
lemma orderFree_shown (hd : es.Pairwise fun a b => a.time ≠ b.time)
    (hr : ∀ e ∈ es, r.mark < e.time) (h : OrderFree S r es) :
    ∃ v, ∀ es', es'.Perm es → (run S es' r).shown = v := by
  by_cases hnil : es = []
  · exact ⟨r.shown, fun es' hp => by rw [(hnil ▸ hp : es'.Perm []).eq_nil, run_nil]⟩
  obtain ⟨n, hn, hle⟩ := exists_newest hnil
  have hrn : r.mark ≤ n.time := (hr n hn).le
  have hperm : ∀ {es' : List (Event σ T)}, es'.Perm es →
      n ∈ es' ∧ (es'.Pairwise fun a b => a.time ≠ b.time) ∧ ∀ e ∈ es', e.time ≤ n.time := by
    intro es' hp
    exact ⟨hp.symm.subset hn, (hp.symm.pairwise_iff fun h => Ne.symm h).mp hd,
      fun e he => hle e (hp.subset he)⟩
  have byFull : n.isFull = true → ∃ v, ∀ es', es'.Perm es → (run S es' r).shown = v := by
    intro hfull
    cases n with
    | full t status x =>
      refine ⟨(status, x), fun es' hp => ?_⟩
      obtain ⟨hn', hd', hle'⟩ := hperm hp
      rw [run_newest_full hn' hd' hle' hrn]
      rfl
    | paid | failed => cases hfull
  rcases h n hn hle with hfull | hnever | ⟨hagree, hcase⟩
  · exact byFull hfull
  · -- Nothing opens the register: only the full events count.
    have hclosed : r.status = S.closed := by
      by_contra hc
      exact hnever r.terms (.inl ⟨rfl, .inl hc⟩)
    have hall : ∀ e ∈ es, e.isPaid = true ∨ ∃ t x, e = .full t S.closed x := by
      intro e he
      cases e with
      | paid t => exact .inl rfl
      | failed t => exact absurd (.inl ⟨rfl, .inr ⟨t, he⟩⟩) (hnever r.terms)
      | full t status x =>
        refine .inr ⟨t, x, ?_⟩
        by_contra hne
        refine hnever x (.inr ⟨t, status, he, .inl fun hst => hne ?_⟩)
        rw [hst]
    have hfilter : ∀ es', es'.Perm es → run S es' r = run S (es'.filter (·.isFull)) r :=
      fun es' hp => run_closed hclosed fun e he => hall e (hp.subset he)
    by_cases hnone : es.filter (·.isFull) = []
    · refine ⟨r.shown, fun es' hp => ?_⟩
      have := hp.filter (·.isFull)
      rw [hnone] at this
      rw [hfilter es' hp, this.eq_nil, run_nil]
    · obtain ⟨m, hm, hmle⟩ := exists_newest hnone
      cases m with
      | full t status x =>
        refine ⟨(status, x), fun es' hp => ?_⟩
        have hpf := hp.filter (·.isFull)
        rw [hfilter es' hp, run_newest_full (hpf.symm.subset hm) ((hperm hp).2.1.filter _)
          (fun e he => hmle e (hpf.subset he)) (hr _ (List.mem_filter.mp hm).1).le]
        rfl
      | paid | failed => simp [Event.isFull] at hm
  · rcases hcase with hfailed | hopen | ⟨t, x, hT, hlast⟩
    · cases n with
      | paid t => cases hfailed
      | full t status x => exact byFull rfl
      | failed t =>
        refine ⟨(S.failed, r.terms), fun es' hp => ?_⟩
        obtain ⟨hn', hd', hle'⟩ := hperm hp
        obtain ⟨as, has, hrun⟩ := run_newest_failed hn' hd' hle' hrn
        have hstart : Opens S r es r.terms := .inl ⟨rfl, .inr ⟨t, hn⟩⟩
        have hterms : (run S as r).terms = r.terms := by
          rcases run_terms (S := S) as r with h | ⟨t', status, hf⟩
          · exact h
          · have hmem := hp.subset (has _ hf)
            have hlt : t' < t := by
              refine lt_of_le_of_ne (hle _ hmem) fun heq => ?_
              cases eq_of_time hd hmem hn heq
            exact hagree _ _ (.inr ⟨t', status, hmem, .inr ⟨t, hlt, hn⟩⟩) hstart
        rw [hrun, hterms]
        rfl
    · have hr0 : r.status ≠ S.closed := fun hc => hopen (.inl hc)
      have hf0 : ∀ t x, Event.full t S.closed x ∉ es := fun t x hf => hopen (.inr ⟨t, x, hf⟩)
      have stays : ∀ as ⊆ es, (run S as r).status ≠ S.closed ∧ (run S as r).terms = r.terms := by
        intro as has
        refine ⟨run_open hr0 fun t x hf => hf0 t x (has hf), ?_⟩
        rcases run_terms (S := S) as r with h | ⟨t, status, hf⟩
        · exact h
        · have hst : status ≠ S.closed := by
            rintro rfl
            exact hf0 _ _ (has hf)
          exact hagree _ _ (.inr ⟨t, status, has hf, .inl hst⟩) (.inl ⟨rfl, .inl hr0⟩)
      by_cases hfull : n.isFull = true
      · exact byFull hfull
      refine ⟨(if n.isPaid then S.paid else S.failed, r.terms), fun es' hp => ?_⟩
      obtain ⟨hn', hd', hle'⟩ := hperm hp
      obtain ⟨as, bs, rfl, has, hbs⟩ := split_newest hn' hd' hle'
      obtain ⟨hst, hterms⟩ := stays as fun e he => hp.subset (by simp [he])
      have hmark : (run S as r).mark ≤ n.time := run_mark_le hrn fun e he => (has e he).le
      have happ : apply S (run S as r) n = ⟨if n.isPaid then S.paid else S.failed, r.terms, n.time⟩ := by
        rw [← hterms]
        cases n with
        | full t status y => exact absurd rfl hfull
        | paid t => exact apply_paid hmark hst
        | failed t => exact apply_failed hmark
      rw [run_newest hbs (by rw [happ]), happ]
      rfl
    · refine ⟨(S.paid, x), fun es' hp => ?_⟩
      have hx : ∀ y, Opens S r es y → y = x :=
        fun y hy => hagree y x hy (.inr ⟨t, S.paid, hT, .inl S.paid_ne_closed⟩)
      obtain ⟨hset, hin⟩ := settles_run hp.subset hd hr hx hT hlast
      have hst := hset.settled (hin (hp.symm.subset hT))
      rw [Reg.shown, hst, hset.opened (by rw [hst]; exact S.paid_ne_closed)]

/-- All orders of the events leave the register showing the same, exactly if `OrderFree`. -/
theorem order_independent_iff (hd : es.Pairwise fun a b => a.time ≠ b.time)
    (hr : ∀ e ∈ es, r.mark < e.time) :
    (∀ es', es'.Perm es → (run S es' r).shown = (run S es r).shown) ↔ OrderFree S r es := by
  constructor
  · intro h n hn hle
    by_cases hfull : n.isFull = true
    · exact .inl hfull
    have hfull' := (Bool.not_eq_true _).mp hfull
    by_cases hnever : ∀ x, ¬Opens S r es x
    · exact .inr (.inl hnever)
    have reached : ∀ x, Opens S r es x →
        (run S es r).shown = (if n.isPaid then S.paid else S.failed, x) := by
      intro x hx
      obtain ⟨es', hp, hrun⟩ := opens_order hd hr hn hle hfull' hx
      rw [← h es' hp, hrun]
    refine .inr (.inr ⟨fun x y hx hy => ?_, ?_⟩)
    · have := (reached x hx).symm.trans (reached y hy)
      exact congrArg Prod.snd this
    · by_cases hpaid : n.isPaid = false
      · exact .inl hpaid
      by_cases hc : Closes S r es
      · refine .inr (.inr ?_)
        by_contra he
        obtain ⟨x, hx⟩ := not_forall_not.mp hnever
        obtain ⟨es', hp, hrun⟩ := closes_order hd hr hc he
        have hst := congrArg Prod.fst (reached x hx)
        rw [← h es' hp, (Bool.not_eq_false _).mp hpaid] at hst
        exact hrun hst
      · exact .inr (.inl hc)
  · intro h es' hp
    obtain ⟨v, hv⟩ := orderFree_shown hd hr h
    rw [hv es' hp, hv es (List.Perm.refl es)]

end Orders

end Rules

section KeepFirst
variable {α κ : Type} [DecidableEq κ] (key : α → κ)

/-- The first element with each key. -/
def keepFirst : List α → List α
  | [] => []
  | a :: l => a :: (keepFirst l).filter fun x => decide (key x ≠ key a)

variable {key}

lemma keepFirst_filter (i : κ) (l : List α) :
    keepFirst key (l.filter fun x => decide (key x ≠ i)) =
      (keepFirst key l).filter fun x => decide (key x ≠ i) := by
  induction l with
  | nil => rfl
  | cons a l ih =>
    by_cases ha : key a = i
    · have hdrop : ∀ x, (decide (key x ≠ i) && decide (key x ≠ key a)) = decide (key x ≠ i) := by
        intro x
        simp [ha]
      rw [List.filter_cons_of_neg (by simp [ha]), ih, keepFirst, List.filter_cons_of_neg (by simp [ha]),
        List.filter_filter]
      simp only [hdrop]
    · rw [List.filter_cons_of_pos (by simp [ha]), keepFirst, ih, keepFirst,
        List.filter_cons_of_pos (by simp [ha]), List.filter_filter, List.filter_filter]
      simp only [Bool.and_comm]

lemma mem_of_mem_keepFirst {l : List α} {x : α} (h : x ∈ keepFirst key l) : x ∈ l := by
  induction l with
  | nil => exact h
  | cons a l ih =>
    rcases List.mem_cons.mp h with rfl | h
    · exact List.mem_cons_self
    · exact List.mem_cons_of_mem _ (ih (List.mem_filter.mp h).1)

lemma mem_keepFirst {l : List α} (hl : ∀ x ∈ l, ∀ y ∈ l, key x = key y → x = y) {x : α} :
    x ∈ keepFirst key l ↔ x ∈ l := by
  refine ⟨mem_of_mem_keepFirst, fun h => ?_⟩
  induction l with
  | nil => exact h
  | cons a l ih =>
    by_cases ha : key x = key a
    · rw [hl x h a (by simp) ha]
      exact List.mem_cons_self
    · have hx : x ∈ l := by
        rcases List.mem_cons.mp h with rfl | h
        · exact absurd rfl ha
        · exact h
      refine List.mem_cons_of_mem _ (List.mem_filter.mpr ⟨ih ?_ hx, by simpa using ha⟩)
      exact fun y hy z hz => hl y (by simp [hy]) z (by simp [hz])

lemma keepFirst_nodup (l : List α) : (keepFirst key l).Nodup := by
  induction l with
  | nil => exact List.nodup_nil
  | cons a l ih =>
    refine List.nodup_cons.mpr ⟨fun h => ?_, ih.filter _⟩
    simpa using (List.mem_filter.mp h).2

lemma keepFirst_of_nodup {l : List α} (h : (l.map key).Nodup) : keepFirst key l = l := by
  induction l with
  | nil => rfl
  | cons a l ih =>
    rw [List.map_cons, List.nodup_cons] at h
    rw [keepFirst, ih h.2, List.filter_eq_self.mpr]
    intro x hx
    have hne : key x ≠ key a := fun heq => h.1 (heq ▸ List.mem_map_of_mem hx)
    simpa using hne

/-- With distinct keys, what is kept of a list is a permutation of any list of its elements. -/
lemma keepFirst_perm {l l' : List α} (hl : (l'.map key).Nodup) (h : ∀ x, x ∈ l ↔ x ∈ l') :
    (keepFirst key l).Perm l' := by
  refine (List.perm_ext_iff_of_nodup (keepFirst_nodup l) hl.of_map).mpr fun x => ?_
  rw [mem_keepFirst, h]
  intro x hx y hy
  exact List.inj_on_of_nodup_map hl ((h x).mp hx) ((h y).mp hy)

end KeepFirst

/-- Every permutation of a mapped list is the image of a permutation. -/
lemma exists_perm_map {α β : Type} {f : α → β} {l : List α} {l' : List β} (h : l'.Perm (l.map f)) :
    ∃ l₁ : List α, l₁.Perm l ∧ l₁.map f = l' := by
  have hrel : List.Forall₂ (fun b a => b = f a) (l.map f) l :=
    List.forall₂_map_left_iff.mpr (List.forall₂_same.mpr fun _ _ => rfl)
  obtain ⟨l₁, hl₁, hperm⟩ := List.perm_comp_forall₂ h hrel
  have hmap : List.Forall₂ Eq l' (l₁.map f) := List.forall₂_map_right_iff.mpr hl₁
  rw [List.forall₂_eq_eq_eq] at hmap
  exact ⟨l₁, hperm, hmap.symm⟩

end ForgeCustomer.WatermarkOrder
