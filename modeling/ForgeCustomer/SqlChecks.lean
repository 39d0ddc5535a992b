import ForgeCustomer.SqlStatements

/-!
# Check constraints

A program whose new rows pass the checks of their tables is never refused because of one.
-/
namespace ForgeCustomer.SqlChecks
open SqlTables SqlPrograms SqlStatements

set_option linter.unusedSectionVars false

variable {τ : Type} [DecidableEq τ] {Row : τ → Type} {κ ε α β : Type} [DecidableEq κ] [Schema Row κ] [FromSql ε]

/-- Every row passes the checks of its table. -/
def ChecksHold (d : Db Row) : Prop := ∀ t, ∀ e ∈ d t, Schema.check t e.val = true

/-- No error of the program is a violated check, and its changes keep all checks. -/
structure KeepsChecks (p : Prog Row κ ε α) : Prop where
  errors : p.Errors fun e => e ≠ FromSql.sql .checkViolation
  maintains : p.Maintains ChecksHold

lemma ChecksHold.put {d : Db Row} (h : ChecksHold d) {t : τ} {rows : List (Entry (Row t))}
    (hrows : ∀ e ∈ rows, Schema.check t e.val = true) : ChecksHold (d.put t rows) := by
  intro u e he
  by_cases hu : u = t
  · subst hu
    rw [Db.put_self] at he
    exact hrows e he
  · rw [Db.put_of_ne _ hu] at he
    exact h u e he

lemma ChecksHold.insert {d : Db Row} (h : ChecksHold d) {t : τ} {v : Row t} (hv : Schema.check t v = true) (n : ℕ) :
    ChecksHold ((Change.insert t v).apply n d) := by
  refine h.put fun e he => ?_
  rcases List.mem_append.mp he with he | he
  · exact h t e he
  · obtain rfl := List.mem_singleton.mp he
    exact hv

lemma tryInsertUnless_error {t : τ} {v : Row t} (hv : Schema.check t v = true) {n : ℕ} {d : Db Row} {e : SqlError}
    (h : tryInsertUnless t v n d = .error e) : e = .foreignKeyViolation := by
  unfold tryInsertUnless at h
  rw [hv] at h
  simp only [Bool.not_true, Bool.false_eq_true, if_false] at h
  split_ifs at h
  cases h
  rfl

namespace KeepsChecks

lemma pure (a : α) : KeepsChecks (pure a : Prog Row κ ε α) := ⟨.pure a, .pure _ a⟩

lemma fail {e : ε} (h : e ≠ FromSql.sql .checkViolation) : KeepsChecks (.fail e : Prog Row κ ε α) := ⟨h, .fail _ e⟩

lemma bind {p : Prog Row κ ε α} {k : α → Prog Row κ ε β} (hp : KeepsChecks p) (hk : ∀ a, KeepsChecks (k a)) :
    KeepsChecks (p >>= k) :=
  ⟨hp.errors.bind fun a => (hk a).errors, hp.maintains.bind fun a => (hk a).maintains⟩

lemma select (f : Db Row → α) : KeepsChecks (select f : Prog Row κ ε α) := ⟨fun _ => trivial, maintains_select f⟩

/-- A transaction on rows that pass their checks. -/
theorem execute {p : Prog Row κ ε α} (hp : KeepsChecks p) {s : Store Row} (hk : s.Keyed) (hs : ChecksHold s.db) :
    (p.execute s).1 ≠ .error (FromSql.sql .checkViolation) ∧ ChecksHold (p.execute s).2.db := by
  refine ⟨fun h => ?_, hp.maintains.execute hk hs⟩
  rcases hr : p.run s with ⟨r, s'⟩
  cases r with
  | ok a =>
    rw [Prog.execute_of_ok hr] at h
    cases h
  | error e =>
    have herror := hp.errors.run hr
    rw [Prog.execute_of_error hr] at h
    exact herror (Except.error.inj h)

section Statements
variable (hsql : Function.Injective (FromSql.sql : SqlError → ε)) {t : τ} {v : Row t}
include hsql

/-- A statement that inserts a row which passes its checks, or nothing. -/
lemma statement {locks : Env Row κ → List (Lock τ κ)} {attempt : Env Row κ → Except SqlError (Change Row × α)}
    (herror : ∀ env, attempt env ≠ .error .checkViolation) (hchange : ∀ env c a, attempt env = .ok (c, a) →
      c = .nothing ∨ ∃ t v, Schema.check t v = true ∧ c = .insert t v) :
    KeepsChecks (statement locks attempt : Prog Row κ ε α) := by
  constructor
  · refine errors_attempt fun env e he h => herror env ?_
    rw [he, hsql h]
  · refine maintains_statement fun env c a hat _ hd => ?_
    rcases hchange env c a hat with rfl | ⟨t, v, hv, rfl⟩
    · exact hd
    · exact hd.insert hv env.fresh

lemma selectOne (f : Db Row → Option α) : KeepsChecks (selectOne f : Prog Row κ ε α) := by
  refine statement hsql (fun env h => ?_) fun env c a h => ?_
  · split at h <;> cases h
  · split at h <;> cases h
    exact .inl rfl

lemma insertRow (hv : Schema.check t v = true) : KeepsChecks (insertRow t v : Prog Row κ ε _) := by
  have hrefusal : ∀ d : Db Row, d.refusal t v ≠ some .checkViolation := by
    intro d h
    unfold Db.refusal at h
    rw [hv] at h
    simp only [Bool.not_true, Bool.false_eq_true, if_false] at h
    split_ifs at h <;> cases h
  refine statement hsql (fun env h => ?_) fun env c a h => ?_
  · split at h
    · rename_i e he
      cases h
      exact hrefusal env.db he
    · cases h
  · split at h <;> cases h
    exact .inr ⟨t, v, hv, rfl⟩

lemma insertUnless (hv : Schema.check t v = true) : KeepsChecks (insertUnless t v : Prog Row κ ε _) := by
  refine statement hsql (fun env h => ?_) fun env c a h => ?_
  · cases tryInsertUnless_error hv h
  · rcases tryInsertUnless_ok h with ⟨-, rfl, -⟩ | ⟨-, rfl, -⟩
    · exact .inl rfl
    · exact .inr ⟨t, v, hv, rfl⟩

lemma insertOrFind (hv : Schema.check t v = true) (find : Db Row → Option (Entry (Row t))) :
    KeepsChecks (insertOrFind t v find : Prog Row κ ε _) := by
  refine statement hsql (fun env h => ?_) fun env c a h => ?_
  · split at h
    · rename_i e he
      cases h
      cases tryInsertUnless_error hv he
    · cases h
    · split at h <;> cases h
  · split at h
    · cases h
    · rename_i c' e he
      cases h
      rcases tryInsertUnless_ok he with ⟨-, rfl, -⟩ | ⟨-, rfl, -⟩
      · exact .inl rfl
      · exact .inr ⟨t, v, hv, rfl⟩
    · split at h <;> cases h
      exact .inl rfl

end Statements

end KeepsChecks

end ForgeCustomer.SqlChecks
