import ForgeCustomer.SqlDiscipline

/-!
# Transactions that wait for each other

Which rows a transaction asks for next is an obligation at each of its statements, given the locks it already holds.
Transactions that each wait for a row held by the next are deadlocked.
A statement that has waited is evaluated on the rows committed by then, as `SqlSessions` has it; which locks it
waits for is asked anew in every state.
-/
namespace ForgeCustomer.SqlWaiting
open SqlTables SqlPrograms SqlStatements SqlSessions SqlDiscipline Discipline Relation
set_option linter.unusedSectionVars false

variable {τ κ ε α : Type} [DecidableEq τ] [DecidableEq κ] {Row : τ → Type} [Schema Row κ]

/-- The locks that the next statement of session `i` needs. -/
def asks (y : Sys Row κ ε α) (i : ℕ) : List (Lock τ κ) :=
  match y.sessions[i]? with
  | some (.running (.stmt l c _) w _) => Sys.needs l c (y.env i w)
  | _ => []

/-- Session `i` waits for a stored row of the tables `S` that session `j` has locked. -/
def Waits (S : List τ) (y : Sys Row κ ε α) (i j : ℕ) : Prop :=
  i ≠ j ∧ ∃ t ∈ S, ∃ e ∈ y.store.db t, Lock.row t e.id ∈ asks y i ∧ Lock.row t e.id ∈ y.held j

instance (S : List τ) (y : Sys Row κ ε α) (i j : ℕ) : Decidable (Waits S y i j) :=
  inferInstanceAs (Decidable (i ≠ j ∧ ∃ t ∈ S, ∃ e ∈ y.store.db t, _))

/-- Session `i` is on a cycle of sessions that each wait for the next. -/
def Deadlocked (S : List τ) (y : Sys Row κ ε α) (i : ℕ) : Prop := TransGen (Waits S y) i i

variable {S : List τ} {y y' : Sys Row κ ε α} {i j : ℕ}

lemma Deadlocked.awaited (h : Deadlocked S y i) : ∃ j, Waits S y j i ∧ Deadlocked S y j := by
  obtain ⟨j, hij, hji⟩ := TransGen.tail'_iff.mp h
  exact ⟨j, hji, TransGen.head' hji hij⟩

lemma asks_active {k : Lock τ κ} (h : k ∈ asks y i) : ∃ l c n w held, y.Active i (.stmt l c n) w held ∧
    k ∈ Sys.needs l c (y.env i w) := by
  unfold asks at h
  split at h
  · exact ⟨_, _, _, _, _, ‹_›, h⟩
  · cases h

lemma held_eq {p : Prog Row κ ε α} {w : List (ℕ × Change Row)} {held : List (Lock τ κ)} (h : y.Active i p w held) :
    y.held i = held := by
  unfold Sys.held
  rw [h]

lemma held_active {k : Lock τ κ} (h : k ∈ y.held i) : ∃ p w, y.Active i p w (y.held i) := by
  cases hi : y.sessions[i]? with
  | none => simp [Sys.held, hi] at h
  | some session =>
    cases session with
    | running p w held => exact ⟨p, w, by simp [Sys.Active, Sys.held, hi]⟩
    | finished answer => simp [Sys.held, hi] at h
    | aborted => simp [Sys.held, hi] at h

lemma busy_of_held (hne : i ≠ j) {k : Lock τ κ} (hj : k ∈ y.held j) : y.busy i k = true := by
  obtain ⟨p, w, hactive⟩ := held_active hj
  have hlt : j < y.sessions.length := (List.getElem?_eq_some_iff.mp hactive).1
  refine List.any_eq_true.mpr ⟨j, List.mem_range.mpr hlt, ?_⟩
  simp [hne.symm, hj]

/-- Nobody else holds what a session holds. -/
lemma not_held_twice {G : Discipline Row κ} {C : ℕ → Env Row κ → Change Row → List (Lock τ κ) → Prop}
    {Post : ℕ → Except ε α → Db Row → Db Row → Prop} (hsound : Sound G C Post y) (hne : i ≠ j) {k : Lock τ κ}
    (hi : k ∈ y.held i) : k ∉ y.held j := by
  intro hj
  obtain ⟨p, w, hactive⟩ := held_active hi
  obtain ⟨p', w', hactive'⟩ := held_active hj
  exact hsound.locks i j p w _ p' w' _ hne hactive hactive' k hi hj

/-- If a session on a cycle always waits at a later place than the session that waits for it, there is no cycle. -/
theorem not_deadlocked_of_increasing (place : ℕ → ℕ → ℕ → Prop)
    (hplace : ∀ i j, Deadlocked S y i → Waits S y i j → ∃ n, place i j n)
    (hlt : ∀ i j k n m, Deadlocked S y i → Deadlocked S y j → Waits S y i j → Waits S y j k → place i j n →
      place j k m → n < m) : ¬Deadlocked S y i := by
  intro hi
  obtain ⟨b, hib, hbi⟩ := TransGen.head'_iff.mp hi
  have hb : Deadlocked S y b := TransGen.tail' hbi hib
  obtain ⟨n, hn⟩ := hplace i b hi hib
  -- along the rest of the cycle every place is later than the first one
  have hpath : ∀ j, ReflTransGen (Waits S y) b j → ReflTransGen (Waits S y) j i → ∀ k m, Waits S y j k →
      place j k m → n < m := by
    intro j hbj
    induction hbj with
    | refl => exact fun _ k m hk hm => hlt i b k n m hi hb hib hk hn hm
    | @tail j j' hbj hjj' ih =>
      intro hj'i k m hk hm
      have hj : Deadlocked S y j := (TransGen.head' hjj' hj'i).trans_left (.head hib hbj)
      have hj' : Deadlocked S y j' := TransGen.tail' (hj'i.trans (.head hib hbj)) hjj'
      obtain ⟨m', hm'⟩ := hplace j j' hj hjj'
      have hlow := ih (.head hjj' hj'i) j' m' hjj' hm'
      have hhigh := hlt j j' k m' m hj hj' hjj' hk hm' hm
      omega
  have := hpath i hbi .refl b n hib hn
  omega

variable (G : Discipline Row κ)

/-- `Safe`, and every statement asks for locks as `P` says: given those held, the environment and the committed rows. -/
def Ordered (P : List (Lock τ κ) → Env Row κ → Db Row → List (Lock τ κ) → Prop)
    (Q : Except ε α → List (Lock τ κ) → (Db Row → Db Row) → Db Row → Prop) :
    Prog Row κ ε α → List (Lock τ κ) → (Db Row → Db Row) → Db Row → Prop
  | .done a, L, v, d => Q (.ok a) L v d
  | .fail e, L, v, d => Q (.error e) L v d
  | .stmt l c n, L, v, d => ∀ d', G.Inv d' → G.Rely L d d' → ∀ env : Env Row κ, env.db = v d' →
      Keyed env.fresh (v d') → P L env d' (Sys.needs l c env) ∧
      Ordered P Q (n env) (L ++ Sys.needs l c env) (fun x => (c env).apply env.fresh (v x)) d'

variable {G} {P : List (Lock τ κ) → Env Row κ → Db Row → List (Lock τ κ) → Prop} {L : List (Lock τ κ)}
  {v : Db Row → Db Row} {d : Db Row} {p : Prog Row κ ε α}

lemma Ordered.safe {Q : Except ε α → List (Lock τ κ) → (Db Row → Db Row) → Db Row → Prop} (h : Ordered G P Q p L v d) :
    G.Safe (fun _ _ _ => True) Q p L v d := by
  induction p generalizing L v d with
  | done | fail => exact h
  | stmt l c n ih => exact fun d' hd' hr env he hk _ => ih env (h d' hd' hr env he hk).2

lemma Ordered.rely {Post : Except ε α → Db Row → Db Row → Prop} {d' : Db Row}
    (h : Ordered G P (G.Commits Post) p L v d) (hr : G.Rely L d d') : Ordered G P (G.Commits Post) p L v d' := by
  cases p with
  | done | fail => exact Commits.rely h hr
  | stmt l c n => exact fun d'' hd'' hr' env he hk => h d'' hd'' (hr.trans hr') env he hk

lemma Ordered.mono {Q Q' : Except ε α → List (Lock τ κ) → (Db Row → Db Row) → Db Row → Prop}
    (h : ∀ r L v d, Q r L v d → Q' r L v d) (hp : Ordered G P Q p L v d) : Ordered G P Q' p L v d := by
  induction p generalizing L v d with
  | done | fail => exact h _ _ _ _ hp
  | stmt l c n ih =>
    intro d' hd' hr env he hk
    exact ⟨(hp d' hd' hr env he hk).1, ih env (hp d' hd' hr env he hk).2⟩

/-- The part of a program before a bind only has to lead to an ordered rest. -/
theorem ordered_bind {β : Type} {Q : Except ε β → List (Lock τ κ) → (Db Row → Db Row) → Db Row → Prop}
    {k : α → Prog Row κ ε β} : Ordered G P Q (p >>= k) L v d ↔ Ordered G P (fun r L v d =>
      match r with
      | .ok a => Ordered G P Q (k a) L v d
      | .error e => Q (.error e) L v d) p L v d := by
  induction p generalizing L v d with
  | done | fail => exact Iff.rfl
  | stmt l c n ih =>
    refine forall_congr' fun d' => forall_congr' fun _ => forall_congr' fun _ => ?_
    exact forall_congr' fun env => forall_congr' fun _ => forall_congr' fun _ => and_congr_right fun _ => ih env

lemma ordered_translate {ε' α' : Type} {f : ε → ε'} {g : α → α'}
    {Q : Except ε' α' → List (Lock τ κ) → (Db Row → Db Row) → Db Row → Prop}
    (h : Ordered G P (fun r => Q (translateAnswer f g r)) p L v d) : Ordered G P Q (translate f g p) L v d := by
  induction p generalizing L v d with
  | done | fail => exact h
  | stmt l c n ih =>
    intro d' hd' hr env he hk
    exact ⟨(h d' hd' hr env he hk).1, ih env (h d' hd' hr env he hk).2⟩

lemma ordered_statement [FromSql ε] {Q : Except ε α → List (Lock τ κ) → (Db Row → Db Row) → Db Row → Prop}
    {locks : Env Row κ → List (Lock τ κ)} {attempt : Env Row κ → Except SqlError (Change Row × α)}
    (h : ∀ d', G.Inv d' → G.Rely L d d' → ∀ env : Env Row κ, env.db = v d' → Keyed env.fresh (v d') →
      (∀ c a, attempt env = .ok (c, a) → P L env d' (locks env ++ c.locks env.fresh) ∧
        Q (.ok a) (L ++ (locks env ++ c.locks env.fresh)) (fun x => c.apply env.fresh (v x)) d') ∧
      (∀ e, attempt env = .error e → P L env d' (locks env) ∧
        Q (.error (FromSql.sql e)) (L ++ locks env) v d')) :
    Ordered G P Q (statement locks attempt) L v d := by
  intro d' hd' hr env he hk
  obtain ⟨hok, herr⟩ := h d' hd' hr env he hk
  rcases hat : attempt env with e | ⟨c, a⟩
  · simpa [hat, attempted, Ordered, Sys.needs, Change.locks, Change.apply] using herr e hat
  · simpa [hat, attempted, Ordered, Sys.needs] using hok c a hat

lemma ordered_selectForUpdate {t : τ} {pick : Db Row → Option (Entry (Row t))}
    {Q : Except ε (Option (Entry (Row t))) → List (Lock τ κ) → (Db Row → Db Row) → Db Row → Prop}
    (h : ∀ d', G.Inv d' → G.Rely L d d' → ∀ env : Env Row κ, env.db = v d' →
      P L env d' ((pick (v d')).map fun e => Lock.row t e.id).toList ∧
      Q (.ok (pick (v d'))) (L ++ ((pick (v d')).map fun e => Lock.row t e.id).toList) v d') :
    Ordered G P Q (selectForUpdate t pick) L v d := by
  intro d' hd' hr env he _
  have := h d' hd' hr env he
  rw [← he] at this
  simpa [Ordered, Sys.needs, Change.locks, Change.apply] using this

lemma ordered_selectOneForUpdate [FromSql ε] {t : τ} {pick : Db Row → Option (Entry (Row t))}
    {Q : Except ε (Entry (Row t)) → List (Lock τ κ) → (Db Row → Db Row) → Db Row → Prop}
    (h : ∀ d', G.Inv d' → G.Rely L d d' → ∀ env : Env Row κ, env.db = v d' → ∃ e, pick (v d') = some e ∧
      P L env d' [Lock.row t e.id] ∧ Q (.ok e) (L ++ [Lock.row t e.id]) v d') :
    Ordered G P Q (selectOneForUpdate t pick) L v d := by
  refine ordered_statement fun d' hd' hr env henv _ => ?_
  obtain ⟨e, hpick, hP, hQ⟩ := h d' hd' hr env henv
  rw [← henv] at hpick
  constructor
  · intro c row hat
    simp only [hpick] at hat ⊢
    cases hat
    simpa [Change.locks, Change.apply] using And.intro hP hQ
  · intro err hat
    simp only [hpick] at hat
    cases hat

/-- No statement locks rows that it only reads. -/
def Lockless (p : Prog Row κ ε α) : Prop := p.Each fun _ l _ => l = []

lemma Lockless.pure (a : α) : Lockless (pure a : Prog Row κ ε α) := trivial

lemma Lockless.bind {β : Type} {k : α → Prog Row κ ε β} (hp : Lockless p) (hk : ∀ a, Lockless (k a)) :
    Lockless (p >>= k) := Prog.Each.bind hp hk

lemma lockless_select (f : Db Row → α) : Lockless (select f : Prog Row κ ε α) := fun _ => ⟨rfl, trivial⟩

lemma lockless_statement [FromSql ε] (attempt : Env Row κ → Except SqlError (Change Row × α)) :
    Lockless (statement (fun _ => []) attempt : Prog Row κ ε α) := statement_each fun _ => rfl

lemma on_locks {c : Change Row} (hc : c.On S) {t : τ} (ht : t ∉ S) (n m : ℕ) :
    (Lock.row t m : Lock τ κ) ∉ c.locks n := by
  intro hmem
  cases c with
  | nothing => cases hmem
  | insert u v =>
    rcases List.mem_cons.mp hmem with heq | hmem
    · cases heq
      exact ht hc
    · obtain ⟨k, -, hk⟩ := List.mem_map.mp hmem
      cases hk
  | update u q ids f =>
    obtain ⟨k, -, hk⟩ := List.mem_map.mp hmem
    cases hk
    exact ht hc
  | delete u q ids =>
    obtain ⟨k, -, hk⟩ := List.mem_map.mp hmem
    cases hk
    exact ht hc

/-- A program on other tables adds no lock of a watched row. -/
lemma ordered_others {Q : Except ε α → List (Lock τ κ) → (Db Row → Db Row) → Db Row → Prop} (hl : Lockless p)
    (ht : p.Touches S) (hP : ∀ L env d K, (∀ t, t ∉ S → ∀ n, (Lock.row t n : Lock τ κ) ∉ K) → P L env d K)
    (h : ∀ r L' v' d', (∀ k ∈ L, k ∈ L') → (∀ t, t ∉ S → ∀ n, Lock.row t n ∈ L' → Lock.row t n ∈ L) →
      G.Rely L d d' → (∀ x, ∀ t, t ∉ S → v' x t = v x t) → Q r L' v' d') : Ordered G P Q p L v d := by
  induction p generalizing L v d with
  | done | fail => exact h _ L v d (fun _ hk => hk) (fun _ _ _ hk => hk) (Rely.refl G L d) fun _ _ _ => rfl
  | stmt l c n ih =>
    intro d' _ hr env _ _
    have hneeds : ∀ t, t ∉ S → ∀ n, (Lock.row t n : Lock τ κ) ∉ Sys.needs l c env := by
      intro t htS m hmem
      rw [Sys.needs, (hl env).1, List.nil_append] at hmem
      exact on_locks (ht env).1 htS _ _ hmem
    refine ⟨hP _ _ _ _ hneeds, ih env (hl env).2 (ht env).2 fun r L' v' d'' hL hL' hr' hv => ?_⟩
    have hmono : ∀ k ∈ L, k ∈ L ++ Sys.needs l c env := fun k hk => List.mem_append_left _ hk
    refine h r L' v' d'' (fun k hk => hL k (hmono k hk)) (fun t htS m hm => ?_) (hr.trans (hr'.mono hmono))
      fun x t htS => (hv x t htS).trans ((ht env).1.apply_eq _ _ htS)
    rcases List.mem_append.mp (hL' t htS m hm) with hold | hnew
    · exact hold
    · exact absurd hnew (hneeds t htS m)

section Runs
variable {P : ℕ → List (Lock τ κ) → Env Row κ → Db Row → List (Lock τ κ) → Prop}
  {Post : ℕ → Except ε α → Db Row → Db Row → Prop} {store : Store Row} {progs : List (Prog Row κ ε α)}

/-- Every session goes on as its program is ordered to. -/
def Going (G : Discipline Row κ) (P : ℕ → List (Lock τ κ) → Env Row κ → Db Row → List (Lock τ κ) → Prop)
    (Post : ℕ → Except ε α → Db Row → Db Row → Prop) (y : Sys Row κ ε α) : Prop :=
  ∀ i p w held, y.Active i p w held → Ordered G (P i) (G.Commits (Post i)) p held (replay w) y.store.db

lemma Going.step (hsound : Sound G (fun _ _ _ _ => True) Post y) (hgo : Going G P Post y) {m : Move}
    (hm : y.step m = some y') : Going G P Post y' := by
  intro j p' w' held' hj
  rcases Sys.step_cases hm with ⟨i, a, w, held, rfl, hi, rfl⟩ | ⟨i, e, w, held, rfl, hi, rfl⟩ |
    ⟨i, l, c, n, w, held, rfl, hi, -, rfl⟩ | ⟨i, p, w, held, rfl, hi, rfl⟩
  · rcases getElem?_set_running hj with ⟨-, hf⟩ | ⟨hne, hj⟩
    · cases hf
    · exact (hgo j p' w' held' hj).rely (hsound.rely_commit hi hne hj)
  · rcases getElem?_set_running hj with ⟨-, hf⟩ | ⟨-, hj⟩
    · cases hf
    · exact hgo j p' w' held' hj
  · rcases getElem?_set_running hj with ⟨rfl, hf⟩ | ⟨-, hj⟩
    · cases hf
      have hnext := hgo j _ w held hi y.store.db hsound.inv (Rely.refl G held _) (y.env j w) rfl (hsound.view_keyed hi)
      have hview : replay (w ++ [(y.store.seq, c (y.env j w))]) =
          fun x => (c (y.env j w)).apply y.store.seq (replay w x) := funext fun x => replay_append w _ _ x
      rw [hview]
      exact hnext.2
    · exact hgo j p' w' held' hj
  · rcases getElem?_set_running hj with ⟨-, hf⟩ | ⟨-, hj⟩
    · cases hf
    · exact hgo j p' w' held' hj

variable (hinv : G.Inv store.db) (hkeyed : store.Keyed)
  (hordered : ∀ i p, progs[i]? = some p → ∀ d, G.Inv d → Ordered G (P i) (G.Commits (Post i)) p [] id d)
include hinv hkeyed hordered

lemma sound_of_ordered (hy : Sys.Reachable (Sys.start store progs) y) : Sound G (fun _ _ _ _ => True) Post y :=
  reach_sound hinv hkeyed (fun i p hp d hd => (hordered i p hp d hd).safe) hy

theorem going_of_reach (hy : Sys.Reachable (Sys.start store progs) y) : Going G P Post y := by
  induction hy with
  | start =>
    intro i p w held hi
    rw [Sys.Active, Sys.start, List.getElem?_map, Option.map_eq_some_iff] at hi
    obtain ⟨q, hq, he⟩ := hi
    cases he
    exact hordered i p hq _ hinv
  | step hr _ hm ih => exact ih.step (sound_of_ordered hinv hkeyed hordered hr) hm

/-- The next statement of a session meets its obligation. -/
theorem asked_of_reach (hy : Sys.Reachable (Sys.start store progs) y) {l : Env Row κ → List (Lock τ κ)}
    {c : Env Row κ → Change Row} {n : Env Row κ → Prog Row κ ε α} {w : List (ℕ × Change Row)} {held : List (Lock τ κ)}
    (hi : y.Active i (.stmt l c n) w held) : P i held (y.env i w) y.store.db (Sys.needs l c (y.env i w)) := by
  have hsound := sound_of_ordered hinv hkeyed hordered hy
  exact (going_of_reach hinv hkeyed hordered hy i _ w held hi y.store.db hsound.inv (Rely.refl G held _) (y.env i w)
    rfl (hsound.view_keyed hi)).1

end Runs
end ForgeCustomer.SqlWaiting
