import ForgeCustomer.SqlTables

/-!
# Database transactions as programs of statements

A transaction is a tree of statements. Each statement names the row locks it takes, the
change it makes and the rest of the program, all as functions of what it sees. The same tree
is read twice: `run` executes it alone, and `SqlSessions` interleaves many.
-/
namespace ForgeCustomer.SqlPrograms
open SqlTables
set_option linter.unusedSectionVars false

variable {τ : Type} [DecidableEq τ]

/-- What one statement sees: the visible rows, a key never handed out before, and which
locks other transactions hold. -/
structure Env (Row : τ → Type) (κ : Type) where
  db : Db Row
  fresh : ℕ
  busy : Lock τ κ → Bool

inductive Prog (Row : τ → Type) (κ ε α : Type) where
  | done (a : α)
  | fail (e : ε)
  | stmt (locks : Env Row κ → List (Lock τ κ)) (change : Env Row κ → Change Row)
      (next : Env Row κ → Prog Row κ ε α)

/-- A database together with the supply of generated keys. -/
@[ext] structure Store (Row : τ → Type) where
  db : Db Row
  seq : ℕ

variable {Row : τ → Type} {κ ε α β γ δ : Type}

def Store.env (s : Store Row) : Env Row κ := ⟨s.db, s.seq, fun _ => false⟩

/-- The store after a statement that makes the change `c`. -/
def Store.after (s : Store Row) (c : Change Row) : Store Row := ⟨c.apply s.seq s.db, s.seq + 1⟩

/-- The stores that the empty one can grow into. -/
def Store.Keyed (s : Store Row) : Prop := SqlTables.Keyed s.seq s.db

namespace Prog

def bind : Prog Row κ ε α → (α → Prog Row κ ε β) → Prog Row κ ε β
  | done a, k => k a
  | fail e, _ => fail e
  | stmt l c n, k => stmt l c fun env => (n env).bind k

instance : Monad (Prog Row κ ε) where
  pure := done
  bind := bind

@[simp] lemma done_bind (a : α) (k : α → Prog Row κ ε β) :
    (done a : Prog Row κ ε α) >>= k = k a := rfl

@[simp] lemma fail_bind (e : ε) (k : α → Prog Row κ ε β) :
    (fail e : Prog Row κ ε α) >>= k = fail e := rfl

@[simp] lemma stmt_bind (l : Env Row κ → List (Lock τ κ)) (c : Env Row κ → Change Row)
    (n : Env Row κ → Prog Row κ ε α) (k : α → Prog Row κ ε β) :
    stmt l c n >>= k = stmt l c fun env => n env >>= k := rfl

lemma bind_done (p : Prog Row κ ε α) : p >>= done = p := by
  induction p with
  | done | fail => rfl
  | stmt l c n ih => exact congrArg (stmt l c) (funext ih)

lemma bind_assoc (p : Prog Row κ ε α) (f : α → Prog Row κ ε β) (g : β → Prog Row κ ε γ) :
    p >>= f >>= g = p >>= fun a => f a >>= g := by
  induction p with
  | done | fail => rfl
  | stmt l c n ih => exact congrArg (stmt l c) (funext ih)

instance : LawfulMonad (Prog Row κ ε) :=
  LawfulMonad.mk' _ bind_done (fun _ _ => rfl) bind_assoc

/-- Statement after statement, keeping the changes made so far even when the program fails. -/
def run : Prog Row κ ε α → Store Row → Except ε α × Store Row
  | done a, s => (.ok a, s)
  | fail e, s => (.error e, s)
  | stmt _ c n, s => (n s.env).run (s.after (c s.env))

/-- A whole transaction: a failure rolls the changes back, but used keys stay used. -/
def execute (p : Prog Row κ ε α) (s : Store Row) : Except ε α × Store Row :=
  match p.run s with
  | (.ok a, s') => (.ok a, s')
  | (.error e, s') => (.error e, ⟨s.db, s'.seq⟩)

@[simp] lemma run_done (a : α) (s : Store Row) : (done a : Prog Row κ ε α).run s = (.ok a, s) := rfl
@[simp] lemma run_pure (a : α) (s : Store Row) : (pure a : Prog Row κ ε α).run s = (.ok a, s) := rfl
@[simp] lemma run_fail (e : ε) (s : Store Row) : (fail e : Prog Row κ ε α).run s = (.error e, s) := rfl

theorem run_bind (p : Prog Row κ ε α) (k : α → Prog Row κ ε β) (s : Store Row) :
    (p >>= k).run s = match p.run s with
      | (.ok a, s') => (k a).run s'
      | (.error e, s') => (.error e, s') := by
  induction p generalizing s with
  | done | fail => rfl
  | stmt l c n ih => exact ih _ _

lemma run_bind_ok {p : Prog Row κ ε α} {k : α → Prog Row κ ε β} {s s' : Store Row} {a : α}
    (h : p.run s = (.ok a, s')) : (p >>= k).run s = (k a).run s' := by
  rw [run_bind, h]

lemma run_bind_error {p : Prog Row κ ε α} {k : α → Prog Row κ ε β} {s s' : Store Row} {e : ε}
    (h : p.run s = (.error e, s')) : (p >>= k).run s = (.error e, s') := by
  rw [run_bind, h]

lemma execute_of_ok {p : Prog Row κ ε α} {s s' : Store Row} {a : α} (h : p.run s = (.ok a, s')) :
    p.execute s = (.ok a, s') := by
  rw [execute, h]

lemma execute_of_error {p : Prog Row κ ε α} {s s' : Store Row} {e : ε}
    (h : p.run s = (.error e, s')) : p.execute s = (.error e, ⟨s.db, s'.seq⟩) := by
  rw [execute, h]

/-- A transaction that answers an error changes no table. -/
theorem execute_error_db {p : Prog Row κ ε α} {s s' : Store Row} {e : ε}
    (h : p.execute s = (.error e, s')) : s'.db = s.db := by
  unfold execute at h
  split at h
  · cases h
  · cases h
    rfl

/-- A transaction that answers at all. -/
lemma exists_execute_ok {p : Prog Row κ ε α} {s : Store Row} (h : (p.execute s).1.toBool = true) :
    ∃ a, p.execute s = (.ok a, (p.execute s).2) := by
  rcases hexec : p.execute s with ⟨r, s'⟩
  rw [hexec] at h
  cases r with
  | ok a => exact ⟨a, rfl⟩
  | error e => cases h

/-- A successful transaction is its run. -/
lemma run_of_execute_ok {p : Prog Row κ ε α} {s s' : Store Row} {a : α}
    (h : p.execute s = (.ok a, s')) : p.run s = (.ok a, s') := by
  unfold execute at h
  split at h
  · cases h
    assumption
  · cases h

/-- Generated keys stay unique, whatever the program does. -/
theorem run_keyed {p : Prog Row κ ε α} {s : Store Row} (h : s.Keyed) : (p.run s).2.Keyed := by
  induction p generalizing s with
  | done | fail => exact h
  | stmt l c n ih => exact ih _ (SqlTables.Keyed.apply h _)

theorem run_seq_le (p : Prog Row κ ε α) (s : Store Row) : s.seq ≤ (p.run s).2.seq := by
  induction p generalizing s with
  | done | fail => exact le_rfl
  | stmt l c n ih =>
    have h := ih s.env (s.after (c s.env))
    exact le_trans (Nat.le_succ s.seq) h

theorem execute_keyed {p : Prog Row κ ε α} {s : Store Row} (h : s.Keyed) :
    (p.execute s).2.Keyed := by
  rcases hr : p.run s with ⟨r, s'⟩
  cases r with
  | ok a =>
    rw [execute_of_ok hr]
    exact hr ▸ run_keyed (p := p) h
  | error e =>
    rw [execute_of_error hr]
    have hle := run_seq_le p s
    rw [hr] at hle
    exact SqlTables.Keyed.mono h hle

/-- The program answers when started in `s`, and its answer and final store satisfy `Q`. -/
def Runs (p : Prog Row κ ε α) (s : Store Row) (Q : α → Store Row → Prop) : Prop :=
  ∃ a s', p.run s = (.ok a, s') ∧ Q a s'

lemma Runs.pure {a : α} {s : Store Row} {Q : α → Store Row → Prop} (h : Q a s) :
    (pure a : Prog Row κ ε α).Runs s Q := ⟨a, s, rfl, h⟩

theorem Runs.bind {p : Prog Row κ ε α} {k : α → Prog Row κ ε β} {s : Store Row}
    {Q : α → Store Row → Prop} {R : β → Store Row → Prop} (hp : p.Runs s Q)
    (hk : ∀ a s', Q a s' → (k a).Runs s' R) : (p >>= k).Runs s R := by
  obtain ⟨a, s', h, hq⟩ := hp
  obtain ⟨b, s'', h', hr⟩ := hk a s' hq
  exact ⟨b, s'', (run_bind_ok h).trans h', hr⟩

lemma Runs.mono {p : Prog Row κ ε α} {s : Store Row} {Q R : α → Store Row → Prop}
    (hp : p.Runs s Q) (h : ∀ a s', Q a s' → R a s') : p.Runs s R := by
  obtain ⟨a, s', hr, hq⟩ := hp
  exact ⟨a, s', hr, h a s' hq⟩

lemma Runs.execute {p : Prog Row κ ε α} {s : Store Row} {Q : α → Store Row → Prop}
    (h : p.Runs s Q) : ∃ a s', p.execute s = (.ok a, s') ∧ Q a s' := by
  obtain ⟨a, s', hr, hq⟩ := h
  exact ⟨a, s', execute_of_ok hr, hq⟩

lemma Runs.step {p : Prog Row κ ε α} {k : α → Prog Row κ ε β} {s s' : Store Row} {a : α}
    {R : β → Store Row → Prop} (h : p.run s = (.ok a, s')) (hk : (k a).Runs s' R) :
    (p >>= k).Runs s R := by
  obtain ⟨b, s'', h', hr⟩ := hk
  exact ⟨b, s'', (run_bind_ok h).trans h', hr⟩

/-- If the program answers when started in `s`, its answer and final store satisfy `Q`. -/
def Ensures (p : Prog Row κ ε α) (s : Store Row) (Q : α → Store Row → Prop) : Prop :=
  ∀ a s', p.run s = (.ok a, s') → Q a s'

lemma Ensures.pure {a : α} {s : Store Row} {Q : α → Store Row → Prop} (h : Q a s) :
    (pure a : Prog Row κ ε α).Ensures s Q := by
  intro b s' hr
  cases hr
  exact h

lemma Ensures.fail {e : ε} {s : Store Row} {Q : α → Store Row → Prop} :
    (fail e : Prog Row κ ε α).Ensures s Q := by
  intro b s' hr
  cases hr

theorem Ensures.bind {p : Prog Row κ ε α} {k : α → Prog Row κ ε β} {s : Store Row}
    {Q : α → Store Row → Prop} {R : β → Store Row → Prop} (hp : p.Ensures s Q)
    (hk : ∀ a s', Q a s' → (k a).Ensures s' R) : (p >>= k).Ensures s R := by
  intro b s'' h
  rw [run_bind] at h
  split at h
  · rename_i a s' hr
    exact hk a s' (hp a s' hr) b s'' h
  · cases h

lemma Ensures.mono {p : Prog Row κ ε α} {s : Store Row} {Q R : α → Store Row → Prop}
    (hp : p.Ensures s Q) (h : ∀ a s', Q a s' → R a s') : p.Ensures s R :=
  fun a s' hr => h a s' (hp a s' hr)

lemma Ensures.and {p : Prog Row κ ε α} {s : Store Row} {Q R : α → Store Row → Prop}
    (hq : p.Ensures s Q) (hr : p.Ensures s R) : p.Ensures s fun a s' => Q a s' ∧ R a s' :=
  fun a s' h => ⟨hq a s' h, hr a s' h⟩

lemma Runs.and_ensures {p : Prog Row κ ε α} {s : Store Row} {Q R : α → Store Row → Prop}
    (hq : p.Runs s Q) (hr : p.Ensures s R) : p.Runs s fun a s' => Q a s' ∧ R a s' := by
  obtain ⟨a, s', h, hq⟩ := hq
  exact ⟨a, s', h, hq, hr a s' h⟩

lemma Runs.ensures {p : Prog Row κ ε α} {s : Store Row} {Q : α → Store Row → Prop} (h : p.Runs s Q) :
    p.Ensures s Q := by
  obtain ⟨a, s', hr, hq⟩ := h
  intro b s'' hr'
  rw [hr] at hr'
  cases hr'
  exact hq

lemma Ensures.step {p : Prog Row κ ε α} {k : α → Prog Row κ ε β} {s s' : Store Row} {a : α}
    {R : β → Store Row → Prop} (hp : p.run s = (.ok a, s')) (hk : (k a).Ensures s' R) :
    (p >>= k).Ensures s R := by
  intro b s'' h
  rw [run_bind, hp] at h
  exact hk b s'' h

/-- After the whole transaction either its promise holds or nothing has changed. -/
lemma Ensures.execute {p : Prog Row κ ε α} {s : Store Row} {Q : α → Store Row → Prop}
    (hp : p.Ensures s Q) {r : Except ε α} {s' : Store Row} (h : p.execute s = (r, s')) :
    (∃ a, r = .ok a ∧ Q a s') ∨ ((∃ e, r = .error e) ∧ s'.db = s.db) := by
  cases r with
  | ok a => exact .inl ⟨a, rfl, hp a s' (run_of_execute_ok h)⟩
  | error e => exact .inr ⟨⟨e, rfl⟩, execute_error_db h⟩

/-- The program answers an error when started in `s`. -/
def Fails (p : Prog Row κ ε α) (s : Store Row) : Prop := ∃ e s', p.run s = (.error e, s')

lemma Fails.fail (e : ε) (s : Store Row) : (fail e : Prog Row κ ε α).Fails s := ⟨e, s, rfl⟩

lemma Fails.bind {p : Prog Row κ ε α} {k : α → Prog Row κ ε β} {s : Store Row} (h : p.Fails s) :
    (p >>= k).Fails s := by
  obtain ⟨e, s', h⟩ := h
  exact ⟨e, s', run_bind_error h⟩

lemma Fails.step {p : Prog Row κ ε α} {k : α → Prog Row κ ε β} {s s' : Store Row} {a : α}
    (h : p.run s = (.ok a, s')) (hk : (k a).Fails s') : (p >>= k).Fails s := by
  obtain ⟨e, s'', h'⟩ := hk
  exact ⟨e, s'', (run_bind_ok h).trans h'⟩

theorem Runs.bind_fails {p : Prog Row κ ε α} {k : α → Prog Row κ ε β} {s : Store Row}
    {Q : α → Store Row → Prop} (hp : p.Runs s Q) (hk : ∀ a s', Q a s' → (k a).Fails s') :
    (p >>= k).Fails s := by
  obtain ⟨a, s', h, hq⟩ := hp
  exact Fails.step h (hk a s' hq)

lemma Fails.execute {p : Prog Row κ ε α} {s : Store Row} (h : p.Fails s) :
    ∃ e s', p.execute s = (.error e, s') ∧ s'.db = s.db := by
  obtain ⟨e, s', h⟩ := h
  exact ⟨e, _, execute_of_error h, rfl⟩

/-- Every error that the program answers satisfies `E`, whatever its statements have seen. -/
def Errors (E : ε → Prop) : Prog Row κ ε α → Prop
  | done _ => True
  | fail e => E e
  | stmt _ _ n => ∀ env, (n env).Errors E

lemma Errors.pure {E : ε → Prop} (a : α) : (pure a : Prog Row κ ε α).Errors E := trivial

theorem Errors.bind {E : ε → Prop} {p : Prog Row κ ε α} {k : α → Prog Row κ ε β} (hp : p.Errors E)
    (hk : ∀ a, (k a).Errors E) : (p >>= k).Errors E := by
  induction p with
  | done a => exact hk a
  | fail e => exact hp
  | stmt l c n ih => exact fun env => ih env (hp env)

theorem Errors.run {E : ε → Prop} {p : Prog Row κ ε α} (hp : p.Errors E) {s s' : Store Row} {e : ε}
    (h : p.run s = (.error e, s')) : E e := by
  induction p generalizing s with
  | done a => cases h
  | fail e' =>
    cases h
    exact hp
  | stmt l c n ih => exact ih _ (hp _) h

/-- `Q` holds of the answer of a run in `s`, be it a result or an error. -/
def Answers (p : Prog Row κ ε α) (s : Store Row) (Q : Except ε α → Prop) : Prop :=
  ∀ r s', p.run s = (r, s') → Q r

lemma Answers.fail {e : ε} {s : Store Row} {Q : Except ε α → Prop} (h : Q (.error e)) :
    (fail e : Prog Row κ ε α).Answers s Q := by
  intro r s' hr
  cases hr
  exact h

lemma Answers.step {p : Prog Row κ ε α} {k : α → Prog Row κ ε β} {s s' : Store Row} {a : α}
    {Q : Except ε β → Prop} (h : p.run s = (.ok a, s')) (hk : (k a).Answers s' Q) : (p >>= k).Answers s Q := by
  intro r s'' hr
  exact hk r s'' ((run_bind_ok h).symm.trans hr)

lemma Answers.execute {p : Prog Row κ ε α} {s s' : Store Row} {Q : Except ε α → Prop} (h : p.Answers s Q)
    {r : Except ε α} (hr : p.execute s = (r, s')) : Q r := by
  rcases hrun : p.run s with ⟨r', s''⟩
  cases r' with
  | ok a =>
    rw [execute_of_ok hrun] at hr
    cases hr
    exact h _ _ hrun
  | error e =>
    rw [execute_of_error hrun] at hr
    cases hr
    exact h _ _ hrun

/-- The results from what the program ensures, the errors from what it can fail with. -/
lemma Ensures.answers {p : Prog Row κ ε α} {s : Store Row} {Q : α → Store Row → Prop} {E : ε → Prop}
    {R : Except ε α → Prop} (hq : p.Ensures s Q) (he : p.Errors E) (hok : ∀ a s', Q a s' → R (.ok a))
    (herror : ∀ e, E e → R (.error e)) : p.Answers s R := by
  intro r s' hr
  cases r with
  | ok a => exact hok a s' (hq a s' hr)
  | error e => exact herror e (he.run hr)

/-- Every statement of the program, whatever the statements before it have seen. -/
def Each (P : Env Row κ → List (Lock τ κ) → Change Row → Prop) : Prog Row κ ε α → Prop
  | done _ => True
  | fail _ => True
  | stmt l c n => ∀ env, P env (l env) (c env) ∧ (n env).Each P

theorem Each.bind {P : Env Row κ → List (Lock τ κ) → Change Row → Prop} {p : Prog Row κ ε α}
    {k : α → Prog Row κ ε β} (hp : p.Each P) (hk : ∀ a, (k a).Each P) : (p >>= k).Each P := by
  induction p with
  | done a => exact hk a
  | fail => trivial
  | stmt l c n ih => exact fun env => ⟨(hp env).1, ih env (hp env).2⟩

theorem Each.mono {P Q : Env Row κ → List (Lock τ κ) → Change Row → Prop} {p : Prog Row κ ε α}
    (h : ∀ env l c, P env l c → Q env l c) (hp : p.Each P) : p.Each Q := by
  induction p with
  | done | fail => trivial
  | stmt l c n ih => exact fun env => ⟨h _ _ _ (hp env).1, ih env (hp env).2⟩

/-- The program writes to no table outside `S`. -/
def Touches (S : List τ) (p : Prog Row κ ε α) : Prop := p.Each fun _ _ c => c.On S

/-- No statement of the program changes what `f` reads. -/
def Keeps (f : Db Row → β) (p : Prog Row κ ε α) : Prop :=
  p.Each fun _ _ c => ∀ n d, f (c.apply n d) = f d

/-- Every statement keeps `P` true, whenever generated keys are unique. -/
def Maintains (P : Db Row → Prop) (p : Prog Row κ ε α) : Prop :=
  p.Each fun env _ c => Keyed env.fresh env.db → P env.db → P (c.apply env.fresh env.db)

theorem Maintains.run {P : Db Row → Prop} {p : Prog Row κ ε α} (hp : p.Maintains P) {s : Store Row}
    (hk : s.Keyed) (hs : P s.db) : P (p.run s).2.db := by
  induction p generalizing s with
  | done | fail => exact hs
  | stmt l c n ih => exact ih _ (hp _).2 (SqlTables.Keyed.apply hk _) ((hp _).1 hk hs)

theorem Maintains.execute {P : Db Row → Prop} {p : Prog Row κ ε α} (hp : p.Maintains P) {s : Store Row}
    (hk : s.Keyed) (hs : P s.db) : P (p.execute s).2.db := by
  rcases h : p.run s with ⟨r, s'⟩
  cases r with
  | ok a =>
    have := hp.run hk hs
    rw [h] at this
    rwa [execute_of_ok h]
  | error e => rwa [execute_of_error h]

lemma Maintains.pure (P : Db Row → Prop) (a : α) : (pure a : Prog Row κ ε α).Maintains P := trivial

lemma Maintains.fail (P : Db Row → Prop) (e : ε) : (fail e : Prog Row κ ε α).Maintains P := trivial

lemma Maintains.bind {P : Db Row → Prop} {p : Prog Row κ ε α} {k : α → Prog Row κ ε β}
    (hp : p.Maintains P) (hk : ∀ a, (k a).Maintains P) : (p >>= k).Maintains P := Each.bind hp hk

lemma Touches.pure (S : List τ) (a : α) : (pure a : Prog Row κ ε α).Touches S := trivial

lemma Touches.fail (S : List τ) (e : ε) : (fail e : Prog Row κ ε α).Touches S := trivial

lemma Touches.bind {S : List τ} {p : Prog Row κ ε α} {k : α → Prog Row κ ε β}
    (hp : p.Touches S) (hk : ∀ a, (k a).Touches S) : (p >>= k).Touches S := Each.bind hp hk

lemma Touches.mono {S T : List τ} {p : Prog Row κ ε α} (hp : p.Touches S)
    (h : ∀ t ∈ S, t ∈ T) : p.Touches T := Each.mono (fun _ _ _ hc => hc.mono h) hp

lemma Keeps.pure (f : Db Row → β) (a : α) : (pure a : Prog Row κ ε α).Keeps f := trivial
lemma Keeps.fail (f : Db Row → β) (e : ε) : (fail e : Prog Row κ ε α).Keeps f := trivial

lemma Keeps.bind {f : Db Row → γ} {p : Prog Row κ ε α} {k : α → Prog Row κ ε β}
    (hp : p.Keeps f) (hk : ∀ a, (k a).Keeps f) : (p >>= k).Keeps f := Each.bind hp hk

/-- What depends on none of the touched tables is kept. -/
theorem Touches.keeps {S : List τ} {f : Db Row → β} {p : Prog Row κ ε α} (hp : p.Touches S)
    (hf : ∀ d d', (∀ t, t ∉ S → d' t = d t) → f d' = f d) : p.Keeps f :=
  Each.mono (fun _ _ _ hc n d => hf _ _ fun _ ht => hc.apply_eq n d ht) hp

theorem Keeps.run {f : Db Row → β} {p : Prog Row κ ε α} (hp : p.Keeps f) (s : Store Row) :
    f (p.run s).2.db = f s.db := by
  induction p generalizing s with
  | done | fail => rfl
  | stmt l c n ih => exact (ih _ (hp _).2 _).trans ((hp _).1 _ _)

lemma Keeps.run_eq {f : Db Row → β} {p : Prog Row κ ε α} (hp : p.Keeps f) {s s' : Store Row}
    {r : Except ε α} (h : p.run s = (r, s')) : f s'.db = f s.db := by
  have := hp.run s
  rwa [h] at this

theorem Keeps.execute {f : Db Row → β} {p : Prog Row κ ε α} (hp : p.Keeps f) (s : Store Row) :
    f (p.execute s).2.db = f s.db := by
  rcases h : p.run s with ⟨r, s'⟩
  cases r with
  | ok a => rw [execute_of_ok h]; exact hp.run_eq h
  | error e => rw [execute_of_error h]

lemma Touches.keeps_table {S : List τ} {p : Prog Row κ ε α} (hp : p.Touches S) {t : τ}
    (ht : t ∉ S) : p.Keeps fun d => d t := hp.keeps fun _ _ hd => hd t ht

lemma Touches.run_eq {S : List τ} {p : Prog Row κ ε α} (hp : p.Touches S) {s s' : Store Row}
    {r : Except ε α} (h : p.run s = (r, s')) {t : τ} (ht : t ∉ S) : s'.db t = s.db t :=
  (Touches.keeps_table hp ht).run_eq h

lemma Touches.execute {S : List τ} {p : Prog Row κ ε α} (hp : p.Touches S) (s : Store Row)
    {t : τ} (ht : t ∉ S) : (p.execute s).2.db t = s.db t :=
  (Touches.keeps_table hp ht).execute s

/-- A run that answers, together with what it leaves alone. -/
lemma Runs.touches {S : List τ} {p : Prog Row κ ε α} {s : Store Row} {Q : α → Store Row → Prop}
    (h : p.Runs s Q) (hp : p.Touches S) :
    p.Runs s fun a s' => Q a s' ∧ ∀ t, t ∉ S → s'.db t = s.db t := by
  obtain ⟨a, s', hr, hq⟩ := h
  exact ⟨a, s', hr, hq, fun t ht => hp.run_eq hr ht⟩

end Prog

section Checked
variable [DecidableEq κ] [Schema Row κ] {S : List τ}

/-- Every statement writes to the tables `S` only, and nothing that breaks a foreign key. -/
def Checked (S : List τ) (p : Prog Row κ ε α) : Prop :=
  p.Each fun env _ c => c.On S ∧ (Keyed env.fresh env.db → c.Admitted env.db)

lemma Checked.touches {p : Prog Row κ ε α} (h : Checked S p) : p.Touches S :=
  Prog.Each.mono (fun _ _ _ hc => hc.1) h

/-- Programs of checked statements keep the foreign keys of all rows intact. -/
theorem Checked.intact {p : Prog Row κ ε α} (h : Checked S p) : p.Maintains Db.Intact :=
  Prog.Each.mono (fun env _ _ hc hk hd => Db.Intact.apply hd (hc.2 hk) env.fresh) h

lemma Checked.pure (a : α) : Checked S (pure a : Prog Row κ ε α) := trivial

lemma Checked.fail (e : ε) : Checked S (.fail e : Prog Row κ ε α) := trivial

lemma Checked.bind {p : Prog Row κ ε α} {k : α → Prog Row κ ε β} (hp : Checked S p)
    (hk : ∀ a, Checked S (k a)) : Checked S (p >>= k) := Prog.Each.bind hp hk

lemma Checked.mono {T : List τ} {p : Prog Row κ ε α} (hp : Checked S p) (h : ∀ t ∈ S, t ∈ T) :
    Checked T p := Prog.Each.mono (fun _ _ _ hc => ⟨hc.1.mono h, hc.2⟩) hp

/-- What only depends on tables that the program does not write to is maintained. -/
lemma Checked.maintains_tables {T : List τ} {p : Prog Row κ ε α} (hp : Checked S p) (hT : ∀ t ∈ T, t ∉ S)
    {P : Db Row → Prop} (hP : ∀ d d', (∀ t ∈ T, d' t = d t) → P d → P d') : p.Maintains P :=
  Prog.Each.mono (fun _ _ _ hc _ h => hP _ _ (fun t ht => hc.1.apply_eq _ _ (hT t ht)) h) hp

lemma Checked.maintains {p : Prog Row κ ε α} (hp : Checked S p) {t : τ} (ht : t ∉ S)
    {P : Db Row → Prop} (hP : ∀ d d', d' t = d t → P d → P d') : p.Maintains P :=
  hp.maintains_tables (T := [t]) (by simpa using ht) fun d d' h => hP d d' (h t (by simp))

/-- A store as the database keeps it: generated keys are unique and foreign keys intact. -/
structure Stored (s : Store Row) : Prop where
  keyed : s.Keyed
  intact : s.db.Intact

lemma stored_empty : Stored (⟨Db.empty Row, 0⟩ : Store Row) :=
  ⟨Keyed.empty, fun t e he => by simp [Db.empty] at he⟩

/-- Statements that change nothing only use up keys. -/
lemma Stored.advance {s : Store Row} (h : Stored s) {n : ℕ} (hn : s.seq ≤ n) :
    Stored (⟨s.db, n⟩ : Store Row) := ⟨h.keyed.mono hn, h.intact⟩

lemma Stored.execute {p : Prog Row κ ε α} {s : Store Row} (h : Stored s) (hp : Checked S p) :
    Stored (p.execute s).2 :=
  ⟨Prog.execute_keyed h.keyed, hp.intact.execute h.keyed h.intact⟩

/-- What a checked program leaves behind. -/
lemma Checked.ensures {p : Prog Row κ ε α} (hp : Checked S p) {s : Store Row} (h : Stored s) :
    p.Ensures s fun _ s' => Stored s' ∧ ∀ t, t ∉ S → s'.db t = s.db t := by
  intro a s' hr
  have hk := Prog.run_keyed (p := p) h.keyed
  have hi := hp.intact.run h.keyed h.intact
  rw [hr] at hk hi
  exact ⟨⟨hk, hi⟩, fun t ht => hp.touches.run_eq hr ht⟩

/-- What it leaves alone needs no assumption on the store. -/
lemma Checked.ensures_frame {p : Prog Row κ ε α} (hp : Checked S p) {s : Store Row} :
    p.Ensures s fun _ s' => ∀ t, t ∉ S → s'.db t = s.db t :=
  fun _ _ hr _ ht => hp.touches.run_eq hr ht

lemma Checked.ensures_bind {p : Prog Row κ ε α} {k : α → Prog Row κ ε β} {s : Store Row}
    {R : β → Store Row → Prop} (hp : Checked S p) (hs : Stored s)
    (hk : ∀ a s', Stored s' → (∀ t, t ∉ S → s'.db t = s.db t) → (k a).Ensures s' R) :
    (p >>= k).Ensures s R :=
  (hp.ensures hs).bind fun a s' h => hk a s' h.1 h.2

/-- Run a checked program first and go on from what it left behind. -/
theorem Checked.runs_bind {p : Prog Row κ ε α} {k : α → Prog Row κ ε β} {s : Store Row}
    {Q : α → Store Row → Prop} {R : β → Store Row → Prop} (hp : Checked S p) (hs : Stored s)
    (hq : p.Runs s Q) (hk : ∀ a s', Q a s' → Stored s' → (∀ t, t ∉ S → s'.db t = s.db t) →
      (k a).Runs s' R) : (p >>= k).Runs s R :=
  (hq.and_ensures (hp.ensures hs)).bind fun a s' h => hk a s' h.1 h.2.1 h.2.2

end Checked
end ForgeCustomer.SqlPrograms
