import ForgeCustomer.OutboxWorker
import Mathlib.Algebra.BigOperators.Intervals
import Mathlib.Algebra.Order.BigOperators.Group.List

/-!
# How long an event waits in the outbox

`workers::outbox::run` polls again and again. Each row has twelve attempts, waits out a backoff
between two of them, and stands back at most while full batches of rows as old as itself are tried.
-/
namespace ForgeCustomer.OutboxProgress
open SqlTables StripeEvents DatabaseTables OutboxWorker

variable {old : Finset ℕ} {gap since deadline last t : Time} {credit : ℕ} {s s' : State} {m : Move} {ms : List Move}
  {r r' row : OutboxRow} {rest rows : List OutboxRow}

/-- The attempts a row has left. -/
def chances (r : OutboxRow) : ℕ := if r.status = .pending then maxAttempts - r.attempts else 0

/-- The backoffs between the attempts that are left. -/
def backoffs (attempts : ℕ) : Time := ∑ k ∈ Finset.Ico (attempts + 1) maxAttempts, backoffFor k

def chancesOf (old : Finset ℕ) (rows : List OutboxRow) : ℕ := (rows.map fun r => if r.id ∈ old then chances r else 0).sum

lemma chances_pos (hpending : r.status = .pending) (h : r.attempts < maxAttempts) : 0 < chances r := by
  rw [chances, if_pos hpending]
  omega

lemma chances_le (r : OutboxRow) : chances r ≤ 12 := by
  simp only [chances, maxAttempts]
  split <;> omega

lemma backoffFor_nonneg (k : ℕ) : 0 ≤ backoffFor k := by
  simp only [backoffFor, second]
  positivity

lemma backoffs_nonneg (k : ℕ) : 0 ≤ backoffs k := Finset.sum_nonneg fun k _ => backoffFor_nonneg k

lemma backoffs_succ {k : ℕ} (h : k + 1 < maxAttempts) : backoffs k = backoffFor (k + 1) + backoffs (k + 1) :=
  Finset.sum_eq_sum_Ico_succ_bot h _

/-- The cap of an hour is never reached. -/
lemma backoffs_zero : backoffs 0 = 4094 * second := by decide

lemma backoffs_le (k : ℕ) : backoffs k ≤ 4094 * second := by
  rw [← backoffs_zero]
  exact Finset.sum_le_sum_of_subset_of_nonneg (Finset.Ico_subset_Ico (by omega) le_rfl) fun k _ _ => backoffFor_nonneg k

lemma due_pending (h : r ∈ due t rows) : r.status = .pending ∧ r.nextAttemptAt ≤ t := by
  have hsorted := List.mem_of_mem_take h
  rw [List.mem_insertionSort] at hsorted
  simpa using (List.mem_filter.mp hsorted).2

lemma due_nodup (h : (rows.map (·.id)).Nodup) : ((due t rows).map (·.id)).Nodup := by
  refine List.Nodup.sublist ((List.take_sublist _ _).map _) ?_
  exact (((List.perm_insertionSort _ _).map _).nodup_iff).mpr (h.sublist (List.filter_sublist.map _))

/-- A row that is due and yet left out stands back behind fifty that are as old. -/
lemma due_full (hr : r ∈ rows) (hpending : r.status = .pending) (hnext : r.nextAttemptAt ≤ t) (hout : r ∉ due t rows) :
    (due t rows).length = 50 ∧ ∀ b ∈ due t rows, b.createdAt ≤ r.createdAt := by
  set sorted := (rows.filter fun r => r.status == .pending && decide (r.nextAttemptAt ≤ t)).insertionSort
    fun a b => a.createdAt ≤ b.createdAt with hsorted
  have hmem : r ∈ sorted := by
    rw [hsorted, List.mem_insertionSort, List.mem_filter]
    simp [hr, hpending, hnext]
  have horder : sorted.Pairwise fun a b => a.createdAt ≤ b.createdAt := List.pairwise_insertionSort _ _
  have hdue : due t rows = sorted.take 50 := rfl
  have hdrop : r ∈ sorted.drop 50 := by
    rw [← List.take_append_drop 50 sorted, List.mem_append] at hmem
    exact hmem.resolve_left (hdue ▸ hout)
  rw [← List.take_append_drop 50 sorted, List.pairwise_append] at horder
  refine ⟨?_, fun b hb => horder.2.2 b (hdue ▸ hb) r hdrop⟩
  rw [hdue, List.length_take]
  have hlength : 0 < (sorted.drop 50).length := List.length_pos_of_mem hdrop
  rw [List.length_drop] at hlength
  omega

lemma length_filter_le_chancesOf (h : ∀ r ∈ rest, 0 < chances r) :
    (rest.filter (·.id ∈ old)).length ≤ chancesOf old rest := by
  induction rest with
  | nil => exact le_rfl
  | cons r rest ih =>
    have hr := h r (by simp)
    have hrest := ih fun r' hr' => h r' (by simp [hr'])
    simp only [List.filter_cons, decide_eq_true_eq, chancesOf, List.map_cons, List.sum_cons] at hrest ⊢
    split_ifs
    · rw [List.length_cons]
      omega
    · omega

lemma chancesOf_le (hsub : rest ⊆ rows) (hnodup : rest.Nodup) : chancesOf old rest ≤ chancesOf old rows := by
  obtain ⟨picked, hperm, hsublist⟩ := List.subperm_of_subset hnodup hsub
  refine ((hperm.map _).sum_eq.symm.trans_le ?_)
  exact (hsublist.map _).sum_le_sum fun _ _ => Nat.zero_le _

lemma chancesOf_bound (old : Finset ℕ) (rows : List OutboxRow) :
    chancesOf old rows ≤ 12 * (rows.filter (·.id ∈ old)).length := by
  induction rows with
  | nil => exact le_rfl
  | cons r rows ih =>
    have hr := chances_le r
    simp only [List.filter_cons, decide_eq_true_eq, chancesOf, List.map_cons, List.sum_cons] at ih ⊢
    split_ifs
    · rw [List.length_cons]
      omega
    · omega

/-- Ids are unique, and a pending row has an attempt left. -/
structure Orderly (s : State) : Prop where
  nodup : (s.outbox.map (·.id)).Nodup
  left : ∀ r ∈ s.outbox, r.status = .pending → r.attempts < maxAttempts

lemma updateRow_ids (id : ℕ) (f : OutboxRow → OutboxRow) (hf : ∀ r, (f r).id = r.id) (rows : List OutboxRow) :
    (updateRow id f rows).map (·.id) = rows.map (·.id) := by
  rw [updateRow, List.map_map]
  refine List.map_congr_left fun r _ => ?_
  simp only [Function.comp_apply]
  split
  · exact hf r
  · rfl

lemma recordOutcome_pending {now : Time} {outcome : Except String Unit}
    (h : (recordOutcome now row outcome r).status = .pending) :
    row.attempts + 1 < maxAttempts ∧ (recordOutcome now row outcome r).attempts = row.attempts + 1 ∧
      (recordOutcome now row outcome r).nextAttemptAt = now + backoffFor (row.attempts + 1) := by
  cases outcome with
  | ok => cases h
  | error e =>
    refine ⟨?_, rfl, rfl⟩
    simp only [recordOutcome] at h
    split at h
    · cases h
    · omega

lemma orderly_start : Orderly start := ⟨List.nodup_nil, fun _ h => by simp [start] at h⟩

lemma enqueue_step {e : Entry OutboxEvent} {now : Time} (hm : step s (.enqueue e now) = some s') :
    s' = { s with outbox := s.outbox ++ [enqueued e now] } ∧ e.id ∉ s.outbox.map (·.id) := by
  simp only [step] at hm
  split at hm
  · cases hm
  · rename_i hnew
    cases hm
    refine ⟨rfl, fun hmem => hnew ?_⟩
    obtain ⟨r, hr, hid⟩ := List.mem_map.mp hmem
    exact List.any_eq_true.mpr ⟨r, hr, beq_iff_eq.mpr hid⟩

lemma Orderly.step (hs : Orderly s) (hm : step s m = some s') : Orderly s' := by
  rcases step_cases hm with ⟨e, now, rfl, rfl⟩ | ⟨i, w, -, -, rfl⟩ | ⟨i, now, row, outcome, rest, rfl, hw, rfl⟩
  · refine ⟨?_, fun r hr hpending => ?_⟩
    · rw [List.map_append, List.nodup_append_comm, List.map_cons, List.map_nil, List.singleton_append, List.nodup_cons]
      exact ⟨(enqueue_step hm).2, hs.nodup⟩
    · rcases List.mem_append.mp hr with hr | hr
      · exact hs.left r hr hpending
      · rw [List.mem_singleton.mp hr]
        simp [enqueued, maxAttempts]
  · exact ⟨hs.nodup, hs.left⟩
  · refine ⟨?_, fun r' hr' hpending => ?_⟩
    · simpa only [updateRow_ids _ _ (fun r => recordOutcome_id _ _ _ r)] using hs.nodup
    · obtain ⟨r, hr, rfl⟩ := List.mem_map.mp hr'
      split at hpending
      · rename_i hid
        rw [if_pos hid, (recordOutcome_pending hpending).2.1]
        exact (recordOutcome_pending hpending).1
      · rename_i hid
        rw [if_neg hid]
        exact hs.left r hr hpending

/-- Publisher 0 reads again within `gap` of its last read, and its answers are recorded by then.
Commits add events that are younger than `since`. -/
def Paced (gap since : Time) : Time → List Move → Prop
  | _, [] => True
  | last, .enqueue _ now :: ms => since < now ∧ Paced gap since last ms
  | last, .read i t :: ms => i = 0 ∧ last ≤ t ∧ t ≤ last + gap ∧ Paced gap since t ms
  | last, .publish i _ :: ms => i = 0 ∧ Paced gap since last ms
  | last, .record i t :: ms => i = 0 ∧ last ≤ t ∧ t ≤ last + gap ∧ Paced gap since last ms
  | _, .stop _ :: _ => False

def lastRead : Time → List Move → Time
  | last, [] => last
  | _, .read _ t :: ms => lastRead t ms
  | last, _ :: ms => lastRead last ms

/-- The publisher holds pending rows as they are stored. -/
structure Holding (s : State) : Prop extends Orderly s where
  stored : ∀ r ∈ (s.workers 0).batch, r ∈ s.outbox ∧ r.status = .pending
  once : ((s.workers 0).batch.map (·.id)).Nodup

/-- The rows of `old` are in the outbox, and other pending rows are younger. -/
structure Senior (old : Finset ℕ) (since : Time) (s : State) : Prop where
  known : ∀ i ∈ old, i ∈ s.outbox.map (·.id)
  before : ∀ r ∈ s.outbox, r.id ∈ old → r.createdAt ≤ since
  after : ∀ r ∈ s.outbox, r.status = .pending → r.id ∉ old → since < r.createdAt

/-- `credit` bounds the attempts that the tick under way leaves to the rows of `old`. What a row still
has to wait for fits before the deadline: per attempt a gap until it is read and one until the answer
is recorded, the backoffs, and the full batches the credit pays for. -/
structure Funded (old : Finset ℕ) (gap deadline : Time) (credit : ℕ) (last : Time) (s : State) : Prop where
  paid : chancesOf old s.outbox ≤ credit + ((s.workers 0).batch.filter (·.id ∈ old)).length
  held : ∀ r ∈ (s.workers 0).batch, r.id ∈ old →
    50 * (last + (2 * chances r - 1) * gap + backoffs r.attempts) + credit * gap ≤ 50 * deadline
  waiting : ∀ r ∈ s.outbox, r.id ∈ old → r.status = .pending → r ∉ (s.workers 0).batch →
    50 * (max r.nextAttemptAt last + 2 * chances r * gap + backoffs r.attempts) + credit * gap ≤ 50 * deadline

lemma Holding.chances_pos (hs : Holding s) (hr : r ∈ (s.workers 0).batch) : 0 < chances r := by
  obtain ⟨hmem, hpending⟩ := hs.stored r hr
  exact OutboxProgress.chances_pos hpending (hs.left r hmem hpending)

lemma Holding.row_eq (hs : Holding s) (hr : r ∈ s.outbox) (hrow : row ∈ s.outbox) (hid : r.id = row.id) : r = row :=
  List.inj_on_of_nodup_map hs.nodup hr hrow hid

def afterRead (s : State) (t : Time) : State :=
  { s with workers := Function.update s.workers 0 (.next (due t s.outbox)) }

@[simp] lemma batch_afterRead (s : State) (t : Time) : ((afterRead s t).workers 0).batch = due t s.outbox := by
  simp [afterRead]

lemma Holding.read (hs : Holding s) (t : Time) : Holding (afterRead s t) := by
  refine ⟨⟨hs.nodup, hs.left⟩, fun r hr => ?_, ?_⟩
  · rw [batch_afterRead] at hr
    exact ⟨mem_due hr, (due_pending hr).1⟩
  · rw [batch_afterRead]
    exact due_nodup hs.nodup

lemma Holding.length_due (hs : Holding s) (t : Time) :
    ((due t s.outbox).filter (·.id ∈ old)).length ≤ chancesOf old s.outbox := by
  refine (length_filter_le_chancesOf fun r hr => ?_).trans (chancesOf_le (fun r hr => mem_due hr) ?_)
  · exact OutboxProgress.chances_pos (due_pending hr).1 (hs.left r (mem_due hr) (due_pending hr).1)
  · exact .of_map _ (due_nodup hs.nodup)

/-- A row is read, or not due yet, or waits for a batch the credit pays for. -/
lemma Funded.read (h : Funded old gap deadline credit last s) (hs : Holding s) (hsenior : Senior old since s)
    (hidle : s.workers 0 = .idle) (hgap : 0 ≤ gap) (ht : t ≤ last + gap) :
    ∃ credit, Funded old gap deadline credit t (afterRead s t) := by
  have hpaid : chancesOf old s.outbox ≤ credit := by simpa [hidle, Worker.batch] using h.paid
  have hcost : ∀ r ∈ s.outbox, r.id ∈ old → r.status = .pending →
      50 * (max r.nextAttemptAt last + 2 * chances r * gap + backoffs r.attempts) + credit * gap ≤ 50 * deadline := by
    intro r hr hold hpending
    exact h.waiting r hr hold hpending (by simp [hidle, Worker.batch])
  set batch := (due t s.outbox).filter (·.id ∈ old) with hbatch
  obtain ⟨credit', rfl⟩ : ∃ credit', credit = credit' + batch.length :=
    ⟨_, (Nat.sub_add_cancel ((hs.length_due t).trans hpaid)).symm⟩
  have hcredit : (credit' : ℤ) * gap ≤ ((credit' + batch.length : ℕ) : ℤ) * gap := by
    gcongr
    exact Nat.le_add_right _ _
  refine ⟨credit', ?_, fun r hr hold => ?_, fun r hr hold hpending hout => ?_⟩
  · rwa [batch_afterRead]
  · rw [batch_afterRead] at hr
    have hwait := hcost r (mem_due hr) hold (due_pending hr).1
    have hnext := le_max_right r.nextAttemptAt last
    linarith
  · rw [batch_afterRead] at hout
    have hstored : r ∈ s.outbox := hr
    have hwait := hcost r hstored hold hpending
    by_cases hdue : r.nextAttemptAt ≤ t
    · obtain ⟨hfull, holder⟩ := due_full hstored hpending hdue hout
      have hall : batch = due t s.outbox := by
        refine List.filter_eq_self.mpr fun b hb => decide_eq_true ?_
        by_contra hnew
        have hyoung := hsenior.after b (mem_due hb) (due_pending hb).1 hnew
        exact absurd ((holder b hb).trans (hsenior.before r hstored hold)) (not_le.mpr hyoung)
      rw [hall, hfull] at hwait
      rw [max_eq_right hdue]
      have hnext := le_max_right r.nextAttemptAt last
      push_cast at hwait
      linarith
    · rw [max_eq_left (le_of_not_ge hdue)]
      have hnext := le_max_left r.nextAttemptAt last
      linarith

lemma chancesOf_cons (r : OutboxRow) (rows : List OutboxRow) :
    chancesOf old (r :: rows) = (if r.id ∈ old then chances r else 0) + chancesOf old rows := by
  simp only [chancesOf, List.map_cons, List.sum_cons]

lemma updateRow_cons (id : ℕ) (f : OutboxRow → OutboxRow) (r : OutboxRow) (rows : List OutboxRow) :
    updateRow id f (r :: rows) = (if r.id = id then f r else r) :: updateRow id f rows := rfl

lemma updateRow_absent {id : ℕ} (f : OutboxRow → OutboxRow) (h : id ∉ rows.map (·.id)) : updateRow id f rows = rows := by
  refine (List.map_congr_left fun r hr => if_neg fun hid => h ?_).trans (List.map_id _)
  exact hid ▸ List.mem_map_of_mem hr

lemma chancesOf_updateRow {f : OutboxRow → OutboxRow} (hf : (f row).id = row.id) (hless : chances (f row) < chances row)
    (hrow : row ∈ rows) (hnodup : (rows.map (·.id)).Nodup) :
    chancesOf old (updateRow row.id f rows) + (if row.id ∈ old then 1 else 0) ≤ chancesOf old rows := by
  induction rows with
  | nil => cases hrow
  | cons r rows ih =>
    rw [List.map_cons, List.nodup_cons] at hnodup
    rw [updateRow_cons, chancesOf_cons, chancesOf_cons]
    rcases List.mem_cons.mp hrow with rfl | hrow
    · rw [if_pos rfl, hf, updateRow_absent f hnodup.1]
      split <;> omega
    · have hne : r.id ≠ row.id := fun hid => hnodup.1 (hid ▸ List.mem_map_of_mem hrow)
      have hrest := ih hrow hnodup.2
      rw [if_neg hne]
      omega

lemma chances_record {now : Time} {outcome : Except String Unit} (hpending : row.status = .pending)
    (hleft : row.attempts < maxAttempts) : chances (recordOutcome now row outcome row) < chances row := by
  have hpos := chances_pos hpending hleft
  by_cases h : (recordOutcome now row outcome row).status = .pending
  · rw [chances, chances, if_pos h, if_pos hpending, (recordOutcome_pending h).2.1]
    omega
  · rwa [chances, if_neg h]

/-- The state after the answer for the row has been recorded. -/
def afterRecord (s : State) (now : Time) (row : OutboxRow) (outcome : Except String Unit) (rest : List OutboxRow) : State :=
  ⟨updateRow row.id (recordOutcome now row outcome) s.outbox, Function.update s.workers 0 (.next rest),
    s.failures ++ recorded row outcome⟩

@[simp] lemma batch_afterRecord (s : State) (now : Time) (row : OutboxRow) (outcome : Except String Unit)
    (rest : List OutboxRow) : ((afterRecord s now row outcome rest).workers 0).batch = rest := by
  simp [afterRecord]

section Record
variable {now : Time} {outcome : Except String Unit} (hw : s.workers 0 = .answered row outcome rest)

include hw

lemma batch_answered : (s.workers 0).batch = row :: rest := by rw [hw]; rfl

lemma Holding.answered (hs : Holding s) : row ∈ s.outbox ∧ row.status = .pending ∧ row.attempts < maxAttempts := by
  obtain ⟨hrow, hpending⟩ := hs.stored row (by simp [batch_answered hw])
  exact ⟨hrow, hpending, hs.left row hrow hpending⟩

/-- A row after the answer is another row as it was, or the answered one. -/
lemma Holding.mem_afterRecord (hs : Holding s) (hr' : r' ∈ (afterRecord s now row outcome rest).outbox) :
    (r' ∈ s.outbox ∧ r' ≠ row) ∨ r' = recordOutcome now row outcome row := by
  obtain ⟨r, hr, rfl⟩ := List.mem_map.mp hr'
  split
  · rename_i hid
    rw [hs.row_eq hr (hs.answered hw).1 hid]
    exact .inr rfl
  · rename_i hid
    exact .inl ⟨hr, fun h => hid (congrArg _ h)⟩

lemma Holding.record (hs : Holding s) : Holding (afterRecord s now row outcome rest) := by
  have honce := hs.once
  rw [batch_answered hw, List.map_cons, List.nodup_cons] at honce
  refine ⟨hs.toOrderly.step (m := .record 0 now) (by simp [step, hw, afterRecord]), fun r hr => ?_, ?_⟩
  · rw [batch_afterRecord] at hr
    obtain ⟨hmem, hpending⟩ := hs.stored r (by simp [batch_answered hw, hr])
    have hne : r.id ≠ row.id := fun hid => honce.1 (hid ▸ List.mem_map_of_mem hr)
    have hkept : (if r.id = row.id then recordOutcome now row outcome r else r) ∈ updateRow row.id _ s.outbox :=
      mem_updateRow hmem
    rw [if_neg hne] at hkept
    exact ⟨hkept, hpending⟩
  · rw [batch_afterRecord]
    exact honce.2

lemma Senior.record (h : Senior old since s) (hs : Holding s) : Senior old since (afterRecord s now row outcome rest) := by
  obtain ⟨hrow, hpending, -⟩ := hs.answered hw
  have hsame : (recordOutcome now row outcome row).createdAt = row.createdAt := by cases outcome <;> rfl
  refine ⟨fun i hi => ?_, fun r' hr' hold => ?_, fun r' hr' hstatus hnew => ?_⟩
  · simpa only [afterRecord, updateRow_ids _ _ (fun r => recordOutcome_id _ _ _ r)] using h.known i hi
  · rcases hs.mem_afterRecord hw hr' with ⟨hr, -⟩ | rfl
    · exact h.before r' hr hold
    · rw [recordOutcome_id] at hold
      exact hsame ▸ h.before row hrow hold
  · rcases hs.mem_afterRecord hw hr' with ⟨hr, -⟩ | rfl
    · exact h.after r' hr hstatus hnew
    · rw [recordOutcome_id] at hnew
      exact hsame ▸ h.after row hrow hpending hnew

lemma Funded.record (h : Funded old gap deadline credit last s) (hs : Holding s) (hlast : last ≤ now)
    (hnow : now ≤ last + gap) : Funded old gap deadline credit last (afterRecord s now row outcome rest) := by
  obtain ⟨hrow, hpending, hleft⟩ := hs.answered hw
  refine ⟨?_, fun r hr hold => ?_, fun r' hr' hold hstatus hout => ?_⟩
  · have hpaid := h.paid
    have hless : chancesOf old _ + (if row.id ∈ old then 1 else 0) ≤ chancesOf old s.outbox :=
      chancesOf_updateRow (recordOutcome_id now row outcome row) (chances_record hpending hleft) hrow hs.nodup
    rw [batch_answered hw, List.filter_cons] at hpaid
    rw [batch_afterRecord]
    simp only [afterRecord]
    by_cases hold : row.id ∈ old
    · rw [if_pos (decide_eq_true hold), List.length_cons] at hpaid
      rw [if_pos hold] at hless
      omega
    · rw [if_neg (by simpa using hold)] at hpaid
      omega
  · rw [batch_afterRecord] at hr
    exact h.held r (by simp [batch_answered hw, hr]) hold
  · rw [batch_afterRecord] at hout
    rcases hs.mem_afterRecord hw hr' with ⟨hr, hne⟩ | rfl
    · exact h.waiting r' hr hold hstatus (by simp [batch_answered hw, hout, hne])
    · rw [recordOutcome_id] at hold
      have hheld := h.held row (by simp [batch_answered hw]) hold
      obtain ⟨hagain, hattempts, hnext⟩ := recordOutcome_pending hstatus
      have hchances : (chances row : ℤ) = chances (recordOutcome now row outcome row) + 1 := by
        rw [chances, chances, if_pos hpending, if_pos hstatus, hattempts]
        omega
      rw [backoffs_succ hagain, hchances] at hheld
      rw [hattempts, hnext]
      have hbackoff := backoffFor_nonneg (row.attempts + 1)
      have hmax : max (now + backoffFor (row.attempts + 1)) last ≤ last + gap + backoffFor (row.attempts + 1) := by
        refine max_le ?_ ?_ <;> linarith
      linarith

end Record

lemma mem_enqueue {e : Entry OutboxEvent} {now : Time} (hr : r ∈ s.outbox ++ [enqueued e now]) :
    r ∈ s.outbox ∨ r = enqueued e now :=
  (List.mem_append.mp hr).imp id List.mem_singleton.mp

section Enqueue
variable {e : Entry OutboxEvent} {now : Time} (hm : step s (.enqueue e now) = some s')

include hm

lemma Holding.enqueue (hs : Holding s) : Holding s' := by
  refine ⟨hs.toOrderly.step hm, ?_, ?_⟩
  · rw [(enqueue_step hm).1]
    exact fun r hr => ⟨List.mem_append_left _ (hs.stored r hr).1, (hs.stored r hr).2⟩
  · rw [(enqueue_step hm).1]
    exact hs.once

lemma Senior.enqueue (h : Senior old since s) (hnow : since < now) : Senior old since s' := by
  obtain ⟨rfl, hnew⟩ := enqueue_step hm
  refine ⟨fun i hi => ?_, fun r hr hold => ?_, fun r hr hstatus hyoung => ?_⟩
  · rw [List.map_append]
    exact List.mem_append_left _ (h.known i hi)
  · rcases mem_enqueue hr with hr | rfl
    · exact h.before r hr hold
    · exact absurd (h.known _ hold) hnew
  · rcases mem_enqueue hr with hr | rfl
    · exact h.after r hr hstatus hyoung
    · exact hnow

lemma Funded.enqueue (h : Funded old gap deadline credit last s) (hsenior : Senior old since s) :
    Funded old gap deadline credit last s' := by
  obtain ⟨rfl, hnew⟩ := enqueue_step hm
  have hyoung : e.id ∉ old := fun hold => hnew (hsenior.known _ hold)
  refine ⟨?_, h.held, fun r hr hold hstatus hout => ?_⟩
  · have hpaid := h.paid
    simp only [chancesOf, List.map_append, List.sum_append] at hpaid ⊢
    simpa [enqueued, hyoung] using hpaid
  · rcases mem_enqueue hr with hr | rfl
    · exact h.waiting r hr hold hstatus hout
    · exact absurd hold hyoung

end Enqueue

/-- The rows of `old` get their attempts in time. -/
structure Watched (old : Finset ℕ) (gap since deadline last : Time) (s : State) : Prop where
  holding : Holding s
  senior : Senior old since s
  funded : ∃ credit, Funded old gap deadline credit last s

lemma Watched.publish (h : Watched old gap since deadline last s) {outcome : Except String Unit}
    (hm : step s (.publish 0 outcome) = some s') : Watched old gap since deadline last s' := by
  simp only [step] at hm
  split at hm
  · rename_i row rest hw
    cases hm
    have hbatch : (Function.update s.workers 0 (.answered row outcome rest) 0).batch = (s.workers 0).batch := by
      rw [Function.update_self, hw]
      rfl
    obtain ⟨⟨⟨hnodup, hleft⟩, hstored, honce⟩, ⟨hknown, hbefore, hafter⟩, credit, hpaid, hheld, hwaiting⟩ := h
    rw [← hbatch] at hstored honce hpaid hheld hwaiting
    exact ⟨⟨⟨hnodup, hleft⟩, hstored, honce⟩, ⟨hknown, hbefore, hafter⟩, credit, hpaid, hheld, hwaiting⟩
  · cases hm

theorem Watched.run (h : Watched old gap since deadline last s) (hgap : 0 ≤ gap) (hpaced : Paced gap since last ms)
    (hrun : run ms s = some s') : Watched old gap since deadline (lastRead last ms) s' := by
  induction ms generalizing s last with
  | nil => cases hrun; exact h
  | cons m ms ih =>
    obtain ⟨x, hm, hrest⟩ := Option.bind_eq_some_iff.mp hrun
    obtain ⟨hholding, hsenior, credit, hfunded⟩ := h
    cases m with
    | enqueue e now =>
      exact ih ⟨hholding.enqueue hm, hsenior.enqueue hm hpaced.1, credit, hfunded.enqueue hm hsenior⟩ hpaced.2 hrest
    | read i t =>
      obtain ⟨rfl, -, ht, hpaced⟩ := hpaced
      simp only [step] at hm
      split at hm
      · rename_i hidle
        cases hm
        exact ih ⟨hholding.read t, ⟨hsenior.known, hsenior.before, hsenior.after⟩,
          hfunded.read hholding hsenior hidle hgap ht⟩ hpaced hrest
      · cases hm
    | publish i outcome =>
      obtain ⟨rfl, hpaced⟩ := hpaced
      exact ih (Watched.publish ⟨hholding, hsenior, credit, hfunded⟩ hm) hpaced hrest
    | record i now =>
      obtain ⟨rfl, hlast, hnow, hpaced⟩ := hpaced
      simp only [step] at hm
      split at hm
      · rename_i row outcome rest hw
        cases hm
        exact ih ⟨hholding.record hw, hsenior.record hw hholding, credit, hfunded.record hw hholding hlast hnow⟩ hpaced hrest
      · cases hm
    | stop i => exact hpaced.elim

/-- After the deadline no row of `old` is pending. -/
lemma Watched.settled (h : Watched old gap since deadline last s) (hgap : 0 ≤ gap) (hlate : deadline < last)
    (hr : r ∈ s.outbox) (hold : r.id ∈ old) : r.status ≠ .pending := by
  intro hpending
  obtain ⟨hholding, -, credit, hfunded⟩ := h
  have hchances : (1 : ℤ) ≤ chances r := by exact_mod_cast chances_pos hpending (hholding.left r hr hpending)
  have hbackoffs := backoffs_nonneg r.attempts
  have hcredit : 0 ≤ (credit : ℤ) * gap := by positivity
  by_cases hheld : r ∈ (s.workers 0).batch
  · have hfits := hfunded.held r hheld hold
    have hwaits : 0 ≤ (2 * (chances r : ℤ) - 1) * gap := mul_nonneg (by linarith) hgap
    linarith
  · have hfits := hfunded.waiting r hr hold hpending hheld
    have hwaits : 0 ≤ 2 * (chances r : ℤ) * gap := by positivity
    have hmax := le_max_right r.nextAttemptAt last
    linarith

def pendingIds (s : State) : Finset ℕ := ((s.outbox.filter fun r => r.status = .pending).map (·.id)).toFinset

/-- Twelve attempts with their backoffs, and the full batches that `n` rows can fill. -/
def drainTime (gap : Time) (n : ℕ) : Time := 24 * gap + 4094 * second + ((12 * n + 49) / 50 : ℕ) * gap

lemma orderly_run (hs : Orderly s) (hrun : run ms s = some s') : Orderly s' := by
  induction ms generalizing s with
  | nil => cases hrun; exact hs
  | cons m ms ih =>
    obtain ⟨x, hm, hrun⟩ := Option.bind_eq_some_iff.mp hrun
    exact ih (hs.step hm) hrun

lemma Orderly.mem_pendingIds (hs : Orderly s) (hr : r ∈ s.outbox) : r.id ∈ pendingIds s ↔ r.status = .pending := by
  simp only [pendingIds, List.mem_toFinset, List.mem_map, List.mem_filter, decide_eq_true_eq]
  refine ⟨?_, fun h => ⟨r, ⟨hr, h⟩, rfl⟩⟩
  rintro ⟨x, ⟨hx, hpending⟩, hid⟩
  rwa [← List.inj_on_of_nodup_map hs.nodup hx hr hid]

/-- Every row is still there, with its event. -/
def Keeps (s s' : State) : Prop := ∀ r ∈ s.outbox, ∃ r' ∈ s'.outbox, r'.id = r.id ∧ r'.event = r.event

lemma keeps_step (hm : step s m = some s') : Keeps s s' := by
  rcases step_cases hm with ⟨e, now, -, rfl⟩ | ⟨i, w, -, -, rfl⟩ | ⟨i, now, row, outcome, rest, -, -, rfl⟩
  · exact fun r hr => ⟨r, List.mem_append_left _ hr, rfl, rfl⟩
  · exact fun r hr => ⟨r, hr, rfl, rfl⟩
  · refine fun r hr => ⟨_, mem_updateRow hr, ?_⟩
    split
    · cases outcome <;> exact ⟨rfl, rfl⟩
    · exact ⟨rfl, rfl⟩

lemma keeps_run (hrun : run ms s = some s') : Keeps s s' := by
  induction ms generalizing s with
  | nil => cases hrun; exact fun r hr => ⟨r, hr, rfl, rfl⟩
  | cons m ms ih =>
    obtain ⟨x, hm, hrun⟩ := Option.bind_eq_some_iff.mp hrun
    intro r hr
    obtain ⟨y, hy, hid, hevent⟩ := keeps_step hm r hr
    obtain ⟨z, hz, hid', hevent'⟩ := ih hrun y hy
    exact ⟨z, hz, hid'.trans hid, hevent'.trans hevent⟩

lemma run_append (ms ms' : List Move) (s : State) : run (ms ++ ms') s = (run ms s).bind (run ms') := by
  induction ms generalizing s with
  | nil => rfl
  | cons m ms ih =>
    simp only [List.cons_append, run, Option.bind_assoc]
    exact congrArg _ (funext ih)

lemma watched_idle {ready : Time} (hs : Orderly s) (hidle : s.workers 0 = .idle) (hgap : 0 ≤ gap)
    (hsince : ∀ r ∈ s.outbox, r.status = .pending → r.createdAt ≤ since)
    (hready : ∀ r ∈ s.outbox, r.status = .pending → r.nextAttemptAt ≤ ready) (hlast : last ≤ ready) :
    Watched (pendingIds s) gap since
      (ready + drainTime gap (s.outbox.filter fun r => r.status = .pending).length) last s := by
  have hbatch : (s.workers 0).batch = [] := by rw [hidle]; rfl
  refine ⟨⟨hs, by simp [hbatch], by simp [hbatch]⟩, ⟨fun i hi => ?_, fun r hr hold => ?_, fun r hr hpending hnew => ?_⟩,
    chancesOf (pendingIds s) s.outbox, Nat.le_add_right _ _, by simp [hbatch], fun r hr hold hpending _ => ?_⟩
  · obtain ⟨r, hr, rfl⟩ := List.mem_map.mp (List.mem_toFinset.mp hi)
    exact List.mem_map_of_mem (List.mem_filter.mp hr).1
  · exact hsince r hr ((hs.mem_pendingIds hr).mp hold)
  · exact absurd ((hs.mem_pendingIds hr).mpr hpending) hnew
  · have hbound := chancesOf_bound (pendingIds s) s.outbox
    rw [List.filter_congr fun r hr => decide_eq_decide.mpr (hs.mem_pendingIds hr)] at hbound
    set n := (s.outbox.filter fun r => r.status = .pending).length
    have hcredit : (chancesOf (pendingIds s) s.outbox : ℤ) * gap ≤ (50 * ((12 * n + 49) / 50) : ℕ) * gap := by
      gcongr
      omega
    have hchances : 2 * (chances r : ℤ) * gap ≤ 24 * gap := by
      gcongr
      exact_mod_cast Nat.mul_le_mul_left 2 (chances_le r)
    have hbackoffs := backoffs_le r.attempts
    have hmax : max r.nextAttemptAt last ≤ ready := max_le (hready r hr hpending) hlast
    push_cast at hcredit
    simp only [drainTime]
    push_cast
    linarith

/-- Whatever the publishers did before, and whatever is added meanwhile: when one of them keeps polling,
every pending event is delivered, or has failed twelve times, after the time the outbox takes to drain. -/
theorem outbox_drained {ms₀ : List Move} {ready : Time} (hreached : run ms₀ start = some s)
    (hidle : s.workers 0 = .idle) (hgap : 0 ≤ gap)
    (hsince : ∀ r ∈ s.outbox, r.status = .pending → r.createdAt ≤ since)
    (hready : ∀ r ∈ s.outbox, r.status = .pending → r.nextAttemptAt ≤ ready) (hlast : last ≤ ready)
    (hpaced : Paced gap since last ms) (hrun : run ms s = some s')
    (hlate : ready + drainTime gap (s.outbox.filter fun r => r.status = .pending).length < lastRead last ms) :
    ∀ r ∈ s.outbox, r.status = .pending → ∃ r' ∈ s'.outbox, r'.id = r.id ∧ r'.event = r.event ∧
      (r'.status = .delivered ∨ (r'.status = .deadLetter ∧ maxAttempts ≤ s'.failures.count r.id)) := by
  intro r hr hpending
  have horderly := orderly_run orderly_start hreached
  have hwatched := (watched_idle horderly hidle hgap hsince hready hlast).run hgap hpaced hrun
  obtain ⟨r', hr', hid, hevent⟩ := keeps_run hrun r hr
  have hold : r'.id ∈ pendingIds s := hid ▸ (horderly.mem_pendingIds hr).mpr hpending
  refine ⟨r', hr', hid, hevent, ?_⟩
  have hwhole : run (ms₀ ++ ms) start = some s' := by rw [run_append, hreached]; exact hrun
  cases hstatus : r'.status with
  | pending => exact absurd hstatus (hwatched.settled hgap hlate hr' hold)
  | delivered => exact .inl rfl
  | deadLetter => exact .inr ⟨rfl, hid ▸ (counted_run counted_start hwhole).dead r' hr' hstatus⟩

instance decidablePaced (gap since : Time) : ∀ last ms, Decidable (Paced gap since last ms)
  | _, [] => isTrue trivial
  | last, .enqueue _ _ :: ms =>
    haveI := decidablePaced gap since last ms
    inferInstanceAs (Decidable (_ ∧ _))
  | _, .read _ t :: ms =>
    haveI := decidablePaced gap since t ms
    inferInstanceAs (Decidable (_ ∧ _ ∧ _ ∧ _))
  | last, .publish _ _ :: ms =>
    haveI := decidablePaced gap since last ms
    inferInstanceAs (Decidable (_ ∧ _))
  | last, .record _ _ :: ms =>
    haveI := decidablePaced gap since last ms
    inferInstanceAs (Decidable (_ ∧ _ ∧ _ ∧ _))
  | _, .stop _ :: _ => isFalse id

/-- One event, and a consumer that never answers. -/
def failingMoves : List Move :=
  (List.range 12).flatMap (fun k => [.read 0 (k * (5000 * second)), .publish 0 (.error "timeout"),
    .record 0 (k * (5000 * second))]) ++ (List.range 20).map fun k => .read 0 ((12 + k) * (5000 * second))

theorem outbox_drained_failing : ∃ s s', run [.enqueue oneEvent 0] start = some s ∧ run failingMoves s = some s' ∧
    ∀ r ∈ s.outbox, r.status = .pending → ∃ r' ∈ s'.outbox, r'.id = r.id ∧ r'.event = r.event ∧
      (r'.status = .delivered ∨ (r'.status = .deadLetter ∧ maxAttempts ≤ s'.failures.count r.id)) := by
  have hruns : ((run [.enqueue oneEvent 0] start).bind (run failingMoves)).isSome = true := by decide +kernel
  obtain ⟨s', hs'⟩ := Option.isSome_iff_exists.mp hruns
  obtain ⟨s, hs, hrun⟩ := Option.bind_eq_some_iff.mp hs'
  have houtbox : s = ⟨[enqueued oneEvent 0], start.workers, []⟩ := by
    simpa [run, step, start] using hs.symm
  have hpaced : Paced (5000 * second) 0 0 failingMoves := by decide +kernel
  refine ⟨s, s', hs, hrun, outbox_drained hs ?_ (by decide) ?_ ?_ le_rfl hpaced hrun ?_⟩ <;> subst houtbox
  · rfl
  · simp [enqueued]
  · simp [enqueued]
  · decide +kernel

end ForgeCustomer.OutboxProgress
