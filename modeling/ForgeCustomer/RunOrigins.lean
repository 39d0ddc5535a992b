import Mathlib.Data.List.Infix

/-!
# Where a fact of a run comes from

Runs of a step function, a list of moves each. A fact of the last state that did not hold at the start sets in
with a move of the run; what every step keeps, is kept from any moment of a run on.
-/
namespace ForgeCustomer.RunOrigins

variable {σ μ : Type} (step : σ → μ → σ)

def run (ms : List μ) (s : σ) : σ := ms.foldl step s

@[simp] lemma run_nil (s : σ) : run step [] s = s := rfl

lemma run_append (ms ms' : List μ) (s : σ) : run step (ms ++ ms') s = run step ms' (run step ms s) :=
  List.foldl_append

lemma run_concat (ms : List μ) (m : μ) (s : σ) : run step (ms ++ [m]) s = step (run step ms s) m := by
  rw [run_append]
  rfl

/-- `P` does not hold after `before` and holds after the next move `m`. -/
structure SetsIn (s : σ) (P : σ → Prop) (before : List μ) (m : μ) : Prop where
  absent : ¬P (run step before s)
  present : P (step (run step before s) m)

variable {step} {s : σ}

theorem exists_setsIn {P : σ → Prop} {ms : List μ} (hstart : ¬P s) (hend : P (run step ms s)) :
    ∃ before m, before ++ [m] <+: ms ∧ SetsIn step s P before m := by
  induction ms using List.reverseRecOn with
  | nil => exact absurd hend hstart
  | append_singleton ms m ih =>
    by_cases hlast : P (run step ms s)
    · obtain ⟨before, m', hbefore, hsets⟩ := ih hlast
      exact ⟨before, m', hbefore.trans (List.prefix_append _ _), hsets⟩
    · rw [run_concat] at hend
      exact ⟨ms, m, List.prefix_rfl, hlast, hend⟩

/-- An invariant holds at every moment of a run. -/
theorem run_invariant {I : σ → Prop} (hstep : ∀ s m, I s → I (step s m)) (hs : I s) (ms : List μ) :
    I (run step ms s) := by
  induction ms generalizing s with
  | nil => exact hs
  | cons m ms ih => exact ih (hstep s m hs)

/-- What relates each state to the next one, relates a moment of a run to all later ones. -/
theorem run_related {I : σ → Prop} {R : σ → σ → Prop} (hrefl : ∀ s, R s s) (htrans : ∀ {s s' s''}, R s s' → R s' s'' → R s s'')
    (hinv : ∀ s m, I s → I (step s m)) (hstep : ∀ s m, I s → R s (step s m)) (hs : I s) (ms : List μ) :
    R s (run step ms s) := by
  induction ms generalizing s with
  | nil => exact hrefl s
  | cons m ms ih => exact htrans (hstep s m hs) (ih (hinv s m hs))

lemma related_of_prefix {R : σ → σ → Prop} {before ms : List μ} (h : ∀ rest, R (run step before s) (run step rest (run step before s)))
    (hbefore : before <+: ms) : R (run step before s) (run step ms s) := by
  obtain ⟨rest, rfl⟩ := hbefore
  rw [run_append]
  exact h rest

end ForgeCustomer.RunOrigins
