import ForgeCustomer.SqlStatements

/-!
# Interleaved transactions

Postgres READ COMMITTED at the granularity of statements: a statement sees the committed rows
and its own transaction's writes, and waits while a row or unique key it needs is locked by
another transaction. Writes become visible to others when their transaction commits.

A statement that has waited is evaluated on the rows committed by then. Postgres does so only for the
rows that the statement had found when it was issued, and finds no new ones; where that makes a
difference, the results about interleavings count a statement from the point at which it is issued.
-/
namespace ForgeCustomer.SqlSessions
open SqlTables SqlPrograms
set_option linter.unusedSectionVars false

variable {τ κ ε α : Type} [DecidableEq τ] [DecidableEq κ] {Row : τ → Type} [Schema Row κ]

/-- The pending writes of a transaction, carried out on the committed rows. -/
def replay (w : List (ℕ × Change Row)) (d : Db Row) : Db Row :=
  w.foldl (fun d x => x.2.apply x.1 d) d

lemma replay_append (w : List (ℕ × Change Row)) (n : ℕ) (c : Change Row) (d : Db Row) :
    replay (w ++ [(n, c)]) d = c.apply n (replay w d) := by
  simp [replay]

lemma mem_replay {w : List (ℕ × Change Row)} {d : Db Row} {t : τ} {e : Entry (Row t)}
    (h : e ∈ replay w d t) : (∃ e₀ ∈ d t, e₀.id = e.id) ∨ e.id ∈ w.map (·.1) := by
  induction w using List.reverseRecOn generalizing e with
  | nil => exact .inl ⟨e, h, rfl⟩
  | append_singleton w x ih =>
    rw [replay_append] at h
    rcases Change.mem_apply h with ⟨e₀, he₀, hid⟩ | hid
    · rcases ih he₀ with ⟨e₁, he₁, h₁⟩ | h₁
      · exact .inl ⟨e₁, he₁, h₁.trans hid⟩
      · exact .inr (by rw [← hid, List.map_append]; exact List.mem_append_left _ h₁)
    · exact .inr (by rw [hid, List.map_append]; exact List.mem_append_right _ (by simp))

lemma replay_keyed {w : List (ℕ × Change Row)} {N : ℕ} {d : Db Row} (hd : Keyed N d)
    (hw : (w.map (·.1)).Nodup) (hlt : ∀ n ∈ w.map (·.1), n < N)
    (hfresh : ∀ n ∈ w.map (·.1), ∀ t, ∀ e ∈ d t, e.id ≠ n) : Keyed N (replay w d) := by
  induction w using List.reverseRecOn with
  | nil => exact hd
  | append_singleton w x ih =>
    rw [List.map_append, List.map_singleton] at hw hlt hfresh
    rw [replay_append]
    have hnot : x.1 ∉ w.map (·.1) := fun h =>
      (List.nodup_append.mp hw).2.2 x.1 h x.1 (by simp) rfl
    refine (ih (List.nodup_append.mp hw).1 (fun n hn => hlt n (by simp [hn]))
      fun n hn => hfresh n (by simp [hn])).apply_of_fresh (hlt x.1 (by simp)) ?_ x.2
    intro t e he hid
    rcases mem_replay he with ⟨e₀, he₀, h₀⟩ | h₀
    · exact hfresh x.1 (by simp) t e₀ he₀ (h₀.trans hid)
    · exact hnot (hid ▸ h₀)

lemma replay_table {S : List τ} {w : List (ℕ × Change Row)} (h : ∀ x ∈ w, x.2.On S) {t : τ} (ht : t ∉ S) (d : Db Row) :
    replay w d t = d t := by
  induction w using List.reverseRecOn with
  | nil => rfl
  | append_singleton w x ih =>
    rw [replay_append, (h x (by simp)).apply_eq _ _ ht, ih fun y hy => h y (by simp [hy])]

/-- A row whose lock is not among those of the writes is as before. -/
lemma replay_unlocked {w : List (ℕ × Change Row)} {t : τ} {i : ℕ}
    (h : ∀ x ∈ w, (Lock.row t i : Lock τ κ) ∉ x.2.locks x.1) (d : Db Row) :
    (replay w d t).filter (fun e => e.id == i) = (d t).filter fun e => e.id == i := by
  induction w using List.reverseRecOn with
  | nil => rfl
  | append_singleton w x ih =>
    rw [replay_append, Change.apply_unlocked (h x (by simp)), ih fun y hy => h y (by simp [hy])]

inductive Session (Row : τ → Type) (κ ε α : Type) where
  | running (prog : Prog Row κ ε α) (writes : List (ℕ × Change Row)) (held : List (Lock τ κ))
  | finished (answer : Except ε α)
  | aborted

/-- An answer, with the committed rows just before and just after it was given. -/
structure Commit (Row : τ → Type) (ε α : Type) where
  session : ℕ
  answer : Except ε α
  before : Db Row
  after : Db Row

structure Sys (Row : τ → Type) (κ ε α : Type) where
  store : Store Row
  sessions : List (Session Row κ ε α)
  log : List (Commit Row ε α)

/-- One session goes on, or is given up by the server (a crash, a deadlock victim). -/
inductive Move where
  | advance (i : ℕ)
  | abort (i : ℕ)

namespace Sys

def start (store : Store Row) (progs : List (Prog Row κ ε α)) : Sys Row κ ε α :=
  ⟨store, progs.map fun p => .running p [] [], []⟩

def held (y : Sys Row κ ε α) (i : ℕ) : List (Lock τ κ) :=
  match y.sessions[i]? with
  | some (.running _ _ h) => h
  | _ => []

def busy (y : Sys Row κ ε α) (i : ℕ) (k : Lock τ κ) : Bool :=
  (List.range y.sessions.length).any fun j => j != i && (y.held j).contains k

def env (y : Sys Row κ ε α) (i : ℕ) (w : List (ℕ × Change Row)) : Env Row κ :=
  ⟨replay w y.store.db, y.store.seq, y.busy i⟩

/-- Session `i` is about to run `p`, with the writes `w` pending and the locks `h` held. -/
abbrev Active (y : Sys Row κ ε α) (i : ℕ) (p : Prog Row κ ε α) (w : List (ℕ × Change Row))
    (h : List (Lock τ κ)) : Prop :=
  y.sessions[i]? = some (.running p w h)

/-- The locks a statement takes: those it asks for and those of the rows it writes. -/
def needs (l : Env Row κ → List (Lock τ κ)) (c : Env Row κ → Change Row) (env : Env Row κ) :
    List (Lock τ κ) :=
  l env ++ (c env).locks env.fresh

def step (y : Sys Row κ ε α) : Move → Option (Sys Row κ ε α)
  | .advance i =>
    match y.sessions[i]? with
    | some (.running (.done a) w _) =>
      let db := replay w y.store.db
      some ⟨⟨db, y.store.seq⟩, y.sessions.set i (.finished (.ok a)),
        y.log ++ [⟨i, .ok a, y.store.db, db⟩]⟩
    | some (.running (.fail e) _ _) =>
      some ⟨y.store, y.sessions.set i (.finished (.error e)),
        y.log ++ [⟨i, .error e, y.store.db, y.store.db⟩]⟩
    | some (.running (.stmt l c n) w h) =>
      let env := y.env i w
      if (needs l c env).any env.busy then none
      else some ⟨⟨y.store.db, y.store.seq + 1⟩,
        y.sessions.set i (.running (n env) (w ++ [(env.fresh, c env)]) (h ++ needs l c env)), y.log⟩
    | _ => none
  | .abort i =>
    match y.sessions[i]? with
    | some (.running _ _ _) => some ⟨y.store, y.sessions.set i .aborted, y.log⟩
    | _ => none

/-- The move satisfies the condition `C`, if it carries out a statement. -/
def Meets (C : ℕ → Env Row κ → Change Row → List (Lock τ κ) → Prop) (y : Sys Row κ ε α) (m : Move) : Prop :=
  ∀ i l c n w h, m = .advance i → y.Active i (.stmt l c n) w h →
    C i (y.env i w) (c (y.env i w)) (needs l c (y.env i w))

/-- The states of the runs whose statements all satisfy `C`. -/
inductive Reach (C : ℕ → Env Row κ → Change Row → List (Lock τ κ) → Prop) (y₀ : Sys Row κ ε α) :
    Sys Row κ ε α → Prop where
  | start : Reach C y₀ y₀
  | step {y y' : Sys Row κ ε α} {m : Move} :
      Reach C y₀ y → y.Meets C m → y.step m = some y' → Reach C y₀ y'

/-- The states of all runs. -/
abbrev Reachable (y₀ y : Sys Row κ ε α) : Prop := Reach (fun _ _ _ _ => True) y₀ y

/-- Carry out a list of moves. -/
def run : List Move → Sys Row κ ε α → Option (Sys Row κ ε α)
  | [], y => some y
  | m :: ms, y => (y.step m).bind (run ms)

theorem reachable_of_run {ms : List Move} {y₀ y y' : Sys Row κ ε α} (hr : Reachable y₀ y)
    (h : run ms y = some y') : Reachable y₀ y' := by
  induction ms generalizing y with
  | nil => cases h; exact hr
  | cons m ms ih =>
    obtain ⟨z, hz, h⟩ := Option.bind_eq_some_iff.mp h
    exact ih (hr.step (fun _ _ _ _ _ _ _ _ => trivial) hz) h

lemma run_append (ms ms' : List Move) (y : Sys Row κ ε α) : run (ms ++ ms') y = (run ms y).bind (run ms') := by
  induction ms generalizing y with
  | nil => rfl
  | cons m ms ih =>
    rw [List.cons_append, run, run, Option.bind_assoc]
    exact congrArg _ (funext ih)

/-- The run along the moves leads through `y`. -/
def Through (ms : List Move) (y₀ y : Sys Row κ ε α) : Prop :=
  ∃ ms₁ ms₂, ms = ms₁ ++ ms₂ ∧ run ms₁ y₀ = some y

lemma Through.reachable {ms : List Move} {y₀ y : Sys Row κ ε α} (h : Through ms y₀ y) : Reachable y₀ y := by
  obtain ⟨ms₁, ms₂, -, hrun⟩ := h
  exact reachable_of_run .start hrun

/-- What session `i` sees at some point of the run along the moves. -/
def Sees (ms : List Move) (y₀ : Sys Row κ ε α) (i : ℕ) (env : Env Row κ) : Prop :=
  ∃ y p w h, Through ms y₀ y ∧ y.Active i p w h ∧ env = y.env i w

/-- Every statement of a run sees what its session sees at that point. -/
theorem reach_sees {ms : List Move} {y₀ y : Sys Row κ ε α} (h : run ms y₀ = some y) :
    Reach (fun i env _ _ => Sees ms y₀ i env) y₀ y := by
  have hprefix : ∀ rest done y₁, ms = done ++ rest → run done y₀ = some y₁ →
      Reach (fun i env _ _ => Sees ms y₀ i env) y₀ y₁ → run rest y₁ = some y →
      Reach (fun i env _ _ => Sees ms y₀ i env) y₀ y := by
    intro rest
    induction rest with
    | nil =>
      intro done y₁ _ _ hreach hrest
      cases hrest
      exact hreach
    | cons m rest ih =>
      intro done y₁ hms hdone hreach hrest
      obtain ⟨y₂, hm, hrest⟩ := Option.bind_eq_some_iff.mp hrest
      refine ih (done ++ [m]) y₂ (by simp [hms]) ?_ (hreach.step ?_ hm) hrest
      · rw [run_append, hdone, Option.bind_some, run, hm]
        rfl
      · rintro i l c n w h - hi
        exact ⟨y₁, _, w, h, ⟨done, m :: rest, hms, hdone⟩, hi, rfl⟩
  exact hprefix ms [] y₀ rfl rfl .start h

/-- What a move can be: the commit of a finished program, the end of a failed one, one more statement
whose locks are free, or a session that is given up. -/
theorem step_cases {y y' : Sys Row κ ε α} {m : Move} (hm : y.step m = some y') :
    (∃ i a w h, m = .advance i ∧ y.Active i (.done a) w h ∧
      y' = ⟨⟨replay w y.store.db, y.store.seq⟩, y.sessions.set i (.finished (.ok a)),
        y.log ++ [⟨i, .ok a, y.store.db, replay w y.store.db⟩]⟩) ∨
    (∃ i e w h, m = .advance i ∧ y.Active i (.fail e) w h ∧
      y' = ⟨y.store, y.sessions.set i (.finished (.error e)),
        y.log ++ [⟨i, .error e, y.store.db, y.store.db⟩]⟩) ∨
    (∃ i l c n w h, m = .advance i ∧ y.Active i (.stmt l c n) w h ∧
      (needs l c (y.env i w)).any (y.env i w).busy = false ∧
      y' = ⟨⟨y.store.db, y.store.seq + 1⟩, y.sessions.set i (.running (n (y.env i w))
        (w ++ [(y.store.seq, c (y.env i w))]) (h ++ needs l c (y.env i w))), y.log⟩) ∨
    ∃ i p w h, m = .abort i ∧ y.Active i p w h ∧ y' = ⟨y.store, y.sessions.set i .aborted, y.log⟩ := by
  cases m with
  | advance i =>
    unfold Sys.step at hm
    dsimp only at hm
    split at hm
    · rename_i a w h hi
      cases hm
      exact .inl ⟨i, a, w, h, rfl, hi, rfl⟩
    · rename_i e w h hi
      cases hm
      exact .inr (.inl ⟨i, e, w, h, rfl, hi, rfl⟩)
    · rename_i l c n w h hi
      split at hm
      · cases hm
      · rename_i hfree
        cases hm
        exact .inr (.inr (.inl ⟨i, l, c, n, w, h, rfl, hi, by simpa using hfree, rfl⟩))
    · cases hm
  | abort i =>
    unfold Sys.step at hm
    dsimp only at hm
    split at hm
    · rename_i p w h hi
      cases hm
      exact .inr (.inr (.inr ⟨i, p, w, h, rfl, hi, rfl⟩))
    · cases hm

lemma reachable_length {store : Store Row} {progs : List (Prog Row κ ε α)} {y : Sys Row κ ε α}
    (hy : Reachable (start store progs) y) : y.sessions.length = progs.length := by
  induction hy with
  | start => rw [start, List.length_map]
  | step _ _ hm ih =>
    rcases step_cases hm with ⟨j, a, w, h, -, -, rfl⟩ | ⟨j, e, w, h, -, -, rfl⟩ |
      ⟨j, l, c, n, w, h, -, -, -, rfl⟩ | ⟨j, p, w, h, -, -, rfl⟩ <;>
    rwa [List.length_set]

/-- What is true of the statements of a program is true of those that are left, and of the writes that are pending. -/
theorem active_each {P : Change Row → Prop} {store : Store Row} {progs : List (Prog Row κ ε α)} {y : Sys Row κ ε α} {i : ℕ}
    {q p : Prog Row κ ε α} {w : List (ℕ × Change Row)} {h : List (Lock τ κ)} (hq : progs[i]? = some q)
    (hP : q.Each fun _ _ c => P c) (hy : Reachable (start store progs) y) (hi : y.Active i p w h) :
    p.Each (fun _ _ c => P c) ∧ ∀ x ∈ w, P x.2 := by
  induction hy generalizing p w h with
  | start =>
    rw [Active, start, List.getElem?_map, hq, Option.map_some] at hi
    cases hi
    exact ⟨hP, fun x hx => absurd hx (by simp)⟩
  | @step y y' m _ _ hm ih =>
    have kept : ∀ {j : ℕ} {s : Session Row κ ε α} {store' log'}, y' = ⟨store', y.sessions.set j s, log'⟩ →
        (∀ p w h, s ≠ .running p w h) → p.Each (fun _ _ c => P c) ∧ ∀ x ∈ w, P x.2 := by
      rintro j s store' log' rfl hs
      rw [Active, List.getElem?_set] at hi
      split_ifs at hi
      · exact absurd (Option.some.inj hi) (hs p w h)
      · exact ih hi
    rcases step_cases hm with ⟨j, a, w', h', -, -, hy'⟩ | ⟨j, e, w', h', -, -, hy'⟩ |
      ⟨j, l, c, n, w', h', -, hj, -, hy'⟩ | ⟨j, p', w', h', -, -, hy'⟩
    · exact kept hy' (by simp)
    · exact kept hy' (by simp)
    · subst hy'
      rw [Active, List.getElem?_set] at hi
      split_ifs at hi with hij
      · subst hij
        obtain ⟨heach, hwritten⟩ := ih hj
        cases hi
        refine ⟨(heach _).2, fun x hx => ?_⟩
        rcases List.mem_append.mp hx with hx | hx
        · exact hwritten x hx
        · obtain rfl := List.mem_singleton.mp hx
          exact (heach _).1
      · exact ih hi
    · exact kept hy' (by simp)

/-- A session writes only to the tables that its program touches. -/
theorem active_touches {S : List τ} {store : Store Row} {progs : List (Prog Row κ ε α)} {y : Sys Row κ ε α} {i : ℕ}
    {q p : Prog Row κ ε α} {w : List (ℕ × Change Row)} {h : List (Lock τ κ)} (hq : progs[i]? = some q)
    (hS : q.Touches S) (hy : Reachable (start store progs) y) (hi : y.Active i p w h) :
    p.Touches S ∧ ∀ x ∈ w, x.2.On S := active_each hq hS hy hi

/-- The tables that no program touches stay as they are. -/
theorem reachable_table {S : List τ} {store : Store Row} {progs : List (Prog Row κ ε α)} {y : Sys Row κ ε α}
    (hS : ∀ q ∈ progs, q.Touches S) (hy : Reachable (start store progs) y) {t : τ} (ht : t ∉ S) :
    y.store.db t = store.db t := by
  induction hy with
  | start => rfl
  | @step y y' m hreach _ hm ih =>
    rcases step_cases hm with ⟨j, a, w, h, -, hj, rfl⟩ | ⟨j, e, w, h, -, -, rfl⟩ |
      ⟨j, l, c, n, w, h, -, -, -, rfl⟩ | ⟨j, p, w, h, -, -, rfl⟩
    · have hwrites : ∀ x ∈ w, x.2.On S := by
        have hlt : j < progs.length := by
          have := (List.getElem?_eq_some_iff.mp hj).1
          rwa [reachable_length hreach] at this
        exact (active_touches (List.getElem?_eq_getElem hlt) (hS _ (List.getElem_mem hlt)) hreach hj).2
      exact (replay_table hwrites ht _).trans ih
    · exact ih
    · exact ih
    · exact ih

/-- The states of the runs whose moves all satisfy `D`. -/
inductive ReachWhen (D : Sys Row κ ε α → Move → Prop) (y₀ : Sys Row κ ε α) : Sys Row κ ε α → Prop where
  | start : ReachWhen D y₀ y₀
  | step {y y' : Sys Row κ ε α} {m : Move} :
      ReachWhen D y₀ y → D y m → y.step m = some y' → ReachWhen D y₀ y'

section ReachWhen
variable {D D' : Sys Row κ ε α → Move → Prop} {y₀ y₁ y : Sys Row κ ε α}

lemma ReachWhen.reachable (h : ReachWhen D y₀ y) : Reachable y₀ y := by
  induction h with
  | start => exact .start
  | step _ _ hm ih => exact ih.step (fun _ _ _ _ _ _ _ _ => trivial) hm

lemma ReachWhen.mono (h : ReachWhen D y₀ y) (hD : ∀ y m, D y m → D' y m) : ReachWhen D' y₀ y := by
  induction h with
  | start => exact .start
  | step _ hd hm ih => exact ih.step (hD _ _ hd) hm

lemma ReachWhen.trans (h₁ : ReachWhen D y₀ y₁) (h : ReachWhen D y₁ y) : ReachWhen D y₀ y := by
  induction h with
  | start => exact h₁
  | step _ hd hm ih => exact ih.step hd hm

theorem reachWhen_of_run {ms : List Move} (hD : ∀ m ∈ ms, ∀ y, D y m) (hr : ReachWhen D y₀ y₁)
    (h : run ms y₁ = some y) : ReachWhen D y₀ y := by
  induction ms generalizing y₁ with
  | nil => cases h; exact hr
  | cons m ms ih =>
    obtain ⟨z, hz, h⟩ := Option.bind_eq_some_iff.mp h
    exact ih (fun m' hm' => hD m' (by simp [hm'])) (hr.step (hD m (by simp) _) hz) h

/-- Carry out a list of moves that all pass a check. -/
def runChecked (check : Sys Row κ ε α → Move → Bool) : List Move → Sys Row κ ε α → Option (Sys Row κ ε α)
  | [], y => some y
  | m :: ms, y => if check y m then (y.step m).bind (runChecked check ms) else none

theorem reachWhen_of_runChecked {check : Sys Row κ ε α → Move → Bool} {ms : List Move}
    (hD : ∀ y m, check y m = true → D y m) (hr : ReachWhen D y₀ y₁) (h : runChecked check ms y₁ = some y) :
    ReachWhen D y₀ y := by
  induction ms generalizing y₁ with
  | nil => cases h; exact hr
  | cons m ms ih =>
    rw [runChecked] at h
    split at h
    · rename_i hcheck
      obtain ⟨z, hz, h⟩ := Option.bind_eq_some_iff.mp h
      exact ih (hr.step (hD _ _ hcheck) hz) h
    · cases h

end ReachWhen
end Sys

end ForgeCustomer.SqlSessions
