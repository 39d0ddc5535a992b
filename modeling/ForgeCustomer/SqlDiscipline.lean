import ForgeCustomer.SqlSessions

/-!
# Reasoning about interleaved transactions

Rely and guarantee for transactions that lock what they change: `Safe` follows one program
through everything the other transactions may commit in between, and `reach_sound` puts the
programs of all sessions together.
-/
namespace ForgeCustomer.SqlDiscipline
open SqlTables SqlPrograms SqlSessions
set_option linter.unusedSectionVars false

variable {τ κ ε α : Type} [DecidableEq τ] [DecidableEq κ] {Row : τ → Type} [Schema Row κ]

/-- A way to cut the database into parts, each with a consistency condition, such that whoever
changes a part holds locks that guard it; an invariant of all the rows; and what no commit ever
undoes. -/
structure Discipline (Row : τ → Type) (κ : Type) where
  global : Db Row → Prop
  evolves : Db Row → Db Row → Prop
  evolves_refl : ∀ d, evolves d d
  evolves_trans : ∀ d d' d'', evolves d d' → evolves d' d'' → evolves d d''
  Key : Type
  Part : Key → Type
  part : ∀ K, Db Row → Part K
  ok : ∀ K, Part K → Prop
  guards : ∀ K, Part K → List (Lock τ κ) → Prop
  guards_mono : ∀ K x L L', guards K x L → (∀ k ∈ L, k ∈ L') → guards K x L'
  exclusive : ∀ K x L L', ok K x → guards K x L → guards K x L' → ∃ k ∈ L, k ∈ L'

namespace Discipline

omit [DecidableEq τ] [DecidableEq κ] in
/-- Without keys no list of locks guards a part. -/
lemma noKeys_mono (_ : Empty) (_ : Unit) (L L' : List (Lock τ κ)) (_ : True) (_ : ∀ k ∈ L, k ∈ L') : True := trivial

omit [DecidableEq τ] [DecidableEq κ] in
lemma noKeys_exclusive (K : Empty) (_ : Unit) (L L' : List (Lock τ κ)) (_ _ _ : True) : ∃ k ∈ L, k ∈ L' := K.elim

variable (G : Discipline Row κ)

def Inv (d : Db Row) : Prop := G.global d ∧ ∀ K, G.ok K (G.part K d)

/-- What the holder of `L` can rely on while others commit: the parts that `L` guards and the
rows that `L` locks stay as they are. -/
def Rely (L : List (Lock τ κ)) (d d' : Db Row) : Prop :=
  G.evolves d d' ∧ (∀ K, G.guards K (G.part K d) L → G.part K d' = G.part K d) ∧
  ∀ t i, Lock.row t i ∈ L →
    (d' t).filter (fun e => e.id == i) = (d t).filter fun e => e.id == i

lemma Rely.refl (L : List (Lock τ κ)) (d : Db Row) : G.Rely L d d :=
  ⟨G.evolves_refl d, fun _ _ => rfl, fun _ _ _ => rfl⟩

variable {G}

lemma Rely.trans {L : List (Lock τ κ)} {d d' d'' : Db Row} (h : G.Rely L d d')
    (h' : G.Rely L d' d'') : G.Rely L d d'' := by
  refine ⟨G.evolves_trans _ _ _ h.1 h'.1, fun K hK => ?_,
    fun t i hi => (h'.2.2 t i hi).trans (h.2.2 t i hi)⟩
  have h1 := h.2.1 K hK
  exact (h'.2.1 K (by rwa [h1])).trans h1

lemma Rely.mono {L L' : List (Lock τ κ)} {d d' : Db Row} (h : G.Rely L' d d')
    (hL : ∀ k ∈ L, k ∈ L') : G.Rely L d d' :=
  ⟨h.1, fun K hK => h.2.1 K (G.guards_mono K _ _ _ hK hL), fun t i hi => h.2.2 t i (hL _ hi)⟩

variable (G)

/-- From the committed rows `d`, with the locks `L` held and the pending writes `v`, the rest
of the program satisfies `C` or ends in `Q`, whatever the others do. -/
def Safe (C : Env Row κ → Change Row → List (Lock τ κ) → Prop)
    (Q : Except ε α → List (Lock τ κ) → (Db Row → Db Row) → Db Row → Prop) :
    Prog Row κ ε α → List (Lock τ κ) → (Db Row → Db Row) → Db Row → Prop
  | .done a, L, v, d => Q (.ok a) L v d
  | .fail e, L, v, d => Q (.error e) L v d
  | .stmt l c n, L, v, d => ∀ d', G.Inv d' → G.Rely L d d' → ∀ env : Env Row κ, env.db = v d' →
      Keyed env.fresh (v d') → C env (c env) (Sys.needs l c env) →
      Safe C Q (n env) (L ++ Sys.needs l c env) (fun x => (c env).apply env.fresh (v x)) d'

/-- The pending writes `v` may be committed under the locks `L`. -/
structure Allowed (L : List (Lock τ κ)) (v : Db Row → Db Row) (d : Db Row) : Prop where
  global : G.global (v d)
  evolves : G.evolves d (v d)
  ok : ∀ K, G.ok K (G.part K (v d))
  guarded : ∀ K, G.part K (v d) = G.part K d ∨ G.guards K (G.part K d) L

/-- A session may commit: the parts stay consistent, only guarded parts change, and the
answer satisfies `Post`. A session that fails changes nothing. -/
def Commits (Post : Except ε α → Db Row → Db Row → Prop) (r : Except ε α) (L : List (Lock τ κ))
    (v : Db Row → Db Row) (d : Db Row) : Prop :=
  ∀ d', G.Inv d' → G.Rely L d d' → (∃ n, Keyed n (v d')) →
    match r with
    | .ok a => G.Allowed L v d' ∧ Post (.ok a) d' (v d')
    | .error e => Post (.error e) d' d'

variable {G}

theorem Safe.mono {C : Env Row κ → Change Row → List (Lock τ κ) → Prop}
    {Q Q' : Except ε α → List (Lock τ κ) → (Db Row → Db Row) → Db Row → Prop}
    (h : ∀ r L v d, Q r L v d → Q' r L v d) {p : Prog Row κ ε α} {L : List (Lock τ κ)}
    {v : Db Row → Db Row} {d : Db Row} (hp : G.Safe C Q p L v d) : G.Safe C Q' p L v d := by
  induction p generalizing L v d with
  | done | fail => exact h _ _ _ _ hp
  | stmt l c n ih =>
    intro d' hd' hr env he hk hC
    exact ih env (hp d' hd' hr env he hk hC)

/-- The part of a program before a bind only has to lead to a safe rest. -/
theorem safe_bind {β : Type} {C : Env Row κ → Change Row → List (Lock τ κ) → Prop}
    {Q : Except ε β → List (Lock τ κ) → (Db Row → Db Row) → Db Row → Prop} {p : Prog Row κ ε α}
    {k : α → Prog Row κ ε β} {L : List (Lock τ κ)} {v : Db Row → Db Row} {d : Db Row} :
    G.Safe C Q (p >>= k) L v d ↔ G.Safe C (fun r L v d =>
      match r with
      | .ok a => G.Safe C Q (k a) L v d
      | .error e => Q (.error e) L v d) p L v d := by
  induction p generalizing L v d with
  | done | fail => exact Iff.rfl
  | stmt l c n ih =>
    refine forall_congr' fun d' => forall_congr' fun _ => forall_congr' fun _ => ?_
    exact forall_congr' fun env => forall_congr' fun _ => forall_congr' fun _ =>
      forall_congr' fun _ => ih env

lemma Commits.rely {Post : Except ε α → Db Row → Db Row → Prop} {r : Except ε α}
    {L : List (Lock τ κ)} {v : Db Row → Db Row} {d d' : Db Row} (h : G.Commits Post r L v d)
    (hr : G.Rely L d d') : G.Commits Post r L v d' :=
  fun d'' hd'' hr' hk => h d'' hd'' (hr.trans hr') hk

lemma Safe.rely {C : Env Row κ → Change Row → List (Lock τ κ) → Prop}
    {Post : Except ε α → Db Row → Db Row → Prop} {p : Prog Row κ ε α} {L : List (Lock τ κ)}
    {v : Db Row → Db Row} {d d' : Db Row} (h : G.Safe C (G.Commits Post) p L v d)
    (hr : G.Rely L d d') : G.Safe C (G.Commits Post) p L v d' := by
  cases p with
  | done | fail => exact Commits.rely h hr
  | stmt l c n => exact fun d'' hd'' hr' env he hk hC => h d'' hd'' (hr.trans hr') env he hk hC

/-- A safe program that runs alone ends in `Q`. -/
theorem Safe.run {C : Env Row κ → Change Row → List (Lock τ κ) → Prop}
    {Q : Except ε α → List (Lock τ κ) → (Db Row → Db Row) → Db Row → Prop} {p : Prog Row κ ε α}
    {L : List (Lock τ κ)} {v : Db Row → Db Row} {d : Db Row} (hp : G.Safe C Q p L v d)
    (hC : ∀ env c l, C env c l) (hd : G.Inv d) {s : Store Row} (hs : s.db = v d) (hk : s.Keyed) :
    ∃ L' v', (p.run s).2.db = v' d ∧ Q (p.run s).1 L' v' d := by
  induction p generalizing L v s with
  | done | fail => exact ⟨L, v, hs, hp⟩
  | stmt l c n ih =>
    have hview : Keyed s.seq (v d) := by
      rw [← hs]
      exact hk
    have hn := hp d hd (Rely.refl G L d) s.env hs hview (hC _ _ _)
    refine ih s.env hn ?_ (SqlTables.Keyed.apply hk _)
    simp only [Store.after, ← hs]
    rfl

/-- A safe transaction that runs alone keeps the invariant and its promise. -/
theorem Safe.execute {C : Env Row κ → Change Row → List (Lock τ κ) → Prop}
    {Post : Except ε α → Db Row → Db Row → Prop} {p : Prog Row κ ε α} {s : Store Row}
    (hp : G.Safe C (G.Commits Post) p [] id s.db) (hC : ∀ env c l, C env c l) (hd : G.Inv s.db)
    (hk : s.Keyed) :
    G.Inv (p.execute s).2.db ∧ Post (p.execute s).1 s.db (p.execute s).2.db := by
  obtain ⟨L, v, hdb, hq⟩ := hp.run hC hd rfl hk
  have hkeyed : Keyed (p.run s).2.seq (v s.db) := by
    rw [← hdb]
    exact Prog.run_keyed hk
  have hfin := hq s.db hd (Rely.refl G L s.db) ⟨_, hkeyed⟩
  rcases hr : p.run s with ⟨a | e, s'⟩
  · rw [hr] at hdb hfin
    rw [Prog.execute_of_error hr]
    exact ⟨hd, hfin⟩
  · rw [hr] at hdb hfin
    rw [Prog.execute_of_ok hr]
    dsimp only at hdb hfin ⊢
    rw [hdb]
    exact ⟨⟨hfin.1.global, hfin.1.ok⟩, hfin.2⟩

section Statements
open SqlStatements
variable {C : Env Row κ → Change Row → List (Lock τ κ) → Prop}
  {Q : Except ε α → List (Lock τ κ) → (Db Row → Db Row) → Db Row → Prop}
  {L : List (Lock τ κ)} {v : Db Row → Db Row} {d : Db Row}

lemma safe_select {f : Db Row → α}
    (h : ∀ d', G.Inv d' → G.Rely L d d' → ∀ env : Env Row κ, env.db = v d' → C env .nothing [] →
      Q (.ok (f (v d'))) L v d') : G.Safe C Q (select f) L v d := by
  intro d' hd' hr env he _ hC
  have := h d' hd' hr env he hC
  rw [← he] at this
  simpa [Safe, Sys.needs, Change.locks, Change.apply] using this

lemma safe_statement [FromSql ε] {locks : Env Row κ → List (Lock τ κ)}
    {attempt : Env Row κ → Except SqlError (Change Row × α)}
    (h : ∀ d', G.Inv d' → G.Rely L d d' → ∀ env : Env Row κ, env.db = v d' →
      Keyed env.fresh (v d') →
      (∀ c a, attempt env = .ok (c, a) → C env c (locks env ++ c.locks env.fresh) →
        Q (.ok a) (L ++ (locks env ++ c.locks env.fresh)) (fun x => c.apply env.fresh (v x)) d') ∧
      (∀ e, attempt env = .error e → C env .nothing (locks env) →
        Q (.error (FromSql.sql e)) (L ++ locks env) v d')) :
    G.Safe C Q (statement locks attempt) L v d := by
  intro d' hd' hr env he hk hC
  obtain ⟨hok, herr⟩ := h d' hd' hr env he hk
  rcases hat : attempt env with e | ⟨c, a⟩
  · simp only [hat, attempted, Sys.needs, Change.locks, List.append_nil] at hC
    simpa [hat, attempted, Safe, Sys.needs, Change.locks, Change.apply] using herr e hat hC
  · simp only [hat, attempted, Sys.needs] at hC
    simpa [hat, attempted, Safe, Sys.needs] using hok c a hat hC

lemma safe_selectForUpdate {t : τ} {pick : Db Row → Option (Entry (Row t))}
    {Q : Except ε (Option (Entry (Row t))) → List (Lock τ κ) → (Db Row → Db Row) → Db Row → Prop}
    (h : ∀ d', G.Inv d' → G.Rely L d d' → ∀ env : Env Row κ, env.db = v d' → Keyed env.fresh (v d') →
      C env .nothing ((pick (v d')).map fun e => Lock.row t e.id).toList →
      Q (.ok (pick (v d'))) (L ++ ((pick (v d')).map fun e => Lock.row t e.id).toList) v d') :
    G.Safe C Q (selectForUpdate t pick) L v d := by
  intro d' hd' hr env he hk hC
  simp only [Sys.needs, Change.locks, List.append_nil] at hC
  have := h d' hd' hr env he hk (by rwa [← he])
  rw [← he] at this
  simpa [Safe, Sys.needs, Change.locks, Change.apply] using this

/-- A program that touches only the tables `S` leaves the pending rows of all others as they are. -/
lemma safe_touches {S : List τ} {p : Prog Row κ ε α} (hp : p.Touches S)
    (h : ∀ r L' v' d', (∀ k ∈ L, k ∈ L') → G.Rely L d d' → (∀ x, ∀ t, t ∉ S → v' x t = v x t) →
      Q r L' v' d') : G.Safe C Q p L v d := by
  induction p generalizing L v d with
  | done | fail => exact h _ L v d (fun _ hk => hk) (Rely.refl G L d) fun _ _ _ => rfl
  | stmt l c n ih =>
    intro d' _ hr env _ _ _
    refine ih env (hp env).2 fun r L' v' d'' hL hr' hv => ?_
    have hmono : ∀ k ∈ L, k ∈ L ++ Sys.needs l c env := fun k hk => List.mem_append_left _ hk
    refine h r L' v' d'' (fun k hk => hL k (hmono k hk)) (hr.trans (hr'.mono hmono)) fun x t ht => ?_
    exact (hv x t ht).trans ((hp env).1.apply_eq _ _ ht)

/-- A program all of whose changes satisfy `R` makes changes of the kind that `R` composes to. -/
lemma safe_each {R : Change Row → Prop} {T : (Db Row → Db Row) → Prop} {p : Prog Row κ ε α}
    (hp : p.Each fun _ _ c => R c) (hT : ∀ c n v, R c → T v → T fun x => c.apply n (v x)) (hv : T v)
    (h : ∀ r L' v' d', T v' → Q r L' v' d') : G.Safe C Q p L v d := by
  induction p generalizing L v d with
  | done | fail => exact h _ L v d hv
  | stmt l c n ih =>
    intro d' _ _ env _ _ _
    exact ih env (hp env).2 (hT _ _ _ (hp env).1 hv)

end Statements

/-- The same statements with another answer. -/
def translate {ε' α' : Type} (f : ε → ε') (g : α → α') : Prog Row κ ε α → Prog Row κ ε' α'
  | .done a => .done (g a)
  | .fail e => .fail (f e)
  | .stmt l c n => .stmt l c fun env => translate f g (n env)

def translateAnswer {ε' α' : Type} (f : ε → ε') (g : α → α') : Except ε α → Except ε' α'
  | .ok a => .ok (g a)
  | .error e => .error (f e)

lemma each_translate {ε' α' : Type} (f : ε → ε') (g : α → α') {P : Env Row κ → List (Lock τ κ) → Change Row → Prop}
    {p : Prog Row κ ε α} (h : p.Each P) : (translate f g p).Each P := by
  induction p with
  | done | fail => trivial
  | stmt l c n ih => exact fun env => ⟨(h env).1, ih env (h env).2⟩

lemma safe_translate {ε' α' : Type} {f : ε → ε'} {g : α → α'}
    {C : Env Row κ → Change Row → List (Lock τ κ) → Prop}
    {Q : Except ε' α' → List (Lock τ κ) → (Db Row → Db Row) → Db Row → Prop} {p : Prog Row κ ε α}
    {L : List (Lock τ κ)} {v : Db Row → Db Row} {d : Db Row}
    (h : G.Safe C (fun r => Q (translateAnswer f g r)) p L v d) : G.Safe C Q (translate f g p) L v d := by
  induction p generalizing L v d with
  | done | fail => exact h
  | stmt l c n ih => exact fun d' hd' hr env he hk hC => ih env (h d' hd' hr env he hk hC)

end Discipline

open Discipline

section Sound
variable (G : Discipline Row κ) (C : ℕ → Env Row κ → Change Row → List (Lock τ κ) → Prop)
  (Post : ℕ → Except ε α → Db Row → Db Row → Prop)

/-- The invariant of the interleaved system. -/
structure Sound (y : Sys Row κ ε α) : Prop where
  inv : G.Inv y.store.db
  keyed : y.store.Keyed
  covers : ∀ i p w h, y.Active i p w h → ∀ x ∈ w, ∀ k ∈ x.2.locks x.1, k ∈ h
  nodup : ∀ i p w h, y.Active i p w h → (w.map (·.1)).Nodup
  below : ∀ i p w h, y.Active i p w h → ∀ n ∈ w.map (·.1), n < y.store.seq
  fresh : ∀ i p w h, y.Active i p w h →
    ∀ n ∈ w.map (·.1), ∀ t, ∀ e ∈ y.store.db t, e.id ≠ n
  safe : ∀ i p w h, y.Active i p w h →
    G.Safe (C i) (G.Commits (Post i)) p h (replay w) y.store.db
  locks : ∀ i j p w h p' w' h', i ≠ j → y.Active i p w h →
    y.Active j p' w' h' → ∀ k ∈ h, k ∉ h'
  numbers : ∀ i j p w h p' w' h', i ≠ j → y.Active i p w h →
    y.Active j p' w' h' → ∀ n ∈ w.map (·.1), n ∉ w'.map (·.1)
  log : ∀ c ∈ y.log, G.Inv c.before ∧ G.evolves c.before c.after ∧
    Post c.session c.answer c.before c.after

variable {G C Post}

lemma getElem?_set_running {ss : List (Session Row κ ε α)} {i j : ℕ} {s s' : Session Row κ ε α}
    (h : (ss.set i s)[j]? = some s') : (j = i ∧ s' = s) ∨ (j ≠ i ∧ ss[j]? = some s') := by
  rw [List.getElem?_set] at h
  split_ifs at h with hij hlt
  · exact .inl ⟨hij.symm, (Option.some.inj h).symm⟩
  · exact .inr ⟨fun e => hij e.symm, h⟩

/-- Giving a session up touches nothing. -/
lemma Sound.retire {y : Sys Row κ ε α} (hy : Sound G C Post y) {i : ℕ} {s : Session Row κ ε α}
    (hs : ∀ p w h, s ≠ .running p w h) (log : List (Commit Row ε α))
    (hlog : ∀ c ∈ log, G.Inv c.before ∧ G.evolves c.before c.after ∧
      Post c.session c.answer c.before c.after) :
    Sound G C Post ⟨y.store, y.sessions.set i s, log⟩ := by
  have old : ∀ j p w h, (y.sessions.set i s)[j]? = some (.running p w h) →
      y.Active j p w h := by
    intro j p w h hj
    rcases getElem?_set_running hj with ⟨-, h'⟩ | ⟨-, h'⟩
    · exact absurd h'.symm (hs p w h)
    · exact h'
  exact
    { inv := hy.inv
      keyed := hy.keyed
      covers := fun j p w h hj => hy.covers j p w h (old j p w h hj)
      nodup := fun j p w h hj => hy.nodup j p w h (old j p w h hj)
      below := fun j p w h hj => hy.below j p w h (old j p w h hj)
      fresh := fun j p w h hj => hy.fresh j p w h (old j p w h hj)
      safe := fun j p w h hj => hy.safe j p w h (old j p w h hj)
      locks := fun j k p w h p' w' h' hne hj hk =>
        hy.locks j k p w h p' w' h' hne (old j p w h hj) (old k p' w' h' hk)
      numbers := fun j k p w h p' w' h' hne hj hk =>
        hy.numbers j k p w h p' w' h' hne (old j p w h hj) (old k p' w' h' hk)
      log := hlog }

lemma Sound.view_keyed {y : Sys Row κ ε α} (hy : Sound G C Post y) {i : ℕ} {p : Prog Row κ ε α}
    {w : List (ℕ × Change Row)} {h : List (Lock τ κ)}
    (hi : y.Active i p w h) : Keyed y.store.seq (replay w y.store.db) :=
  replay_keyed hy.keyed (hy.nodup i p w h hi) (hy.below i p w h hi) (hy.fresh i p w h hi)

/-- What a commit is to another session. -/
lemma Sound.rely_commit {y : Sys Row κ ε α} (hy : Sound G C Post y) {i j : ℕ} {a : α} {p' : Prog Row κ ε α}
    {w w' : List (ℕ × Change Row)} {h h' : List (Lock τ κ)} (hi : y.Active i (.done a) w h) (hne : j ≠ i)
    (hj : y.Active j p' w' h') : G.Rely h' y.store.db (replay w y.store.db) := by
  obtain ⟨hallowed, -⟩ := hy.safe i _ w h hi y.store.db hy.inv (Rely.refl G h y.store.db) ⟨_, hy.view_keyed hi⟩
  refine ⟨hallowed.evolves, fun K hK => ?_, fun t n hn => ?_⟩
  · rcases hallowed.guarded K with hsame | hguard
    · exact hsame
    · obtain ⟨k, hk, hk'⟩ := G.exclusive K _ _ _ (hy.inv.2 K) hguard hK
      exact absurd hk' (hy.locks i j _ w h p' w' h' hne.symm hi hj k hk)
  · refine replay_unlocked (κ := κ) (fun x hx hmem => ?_) y.store.db
    exact hy.locks i j _ w h p' w' h' hne.symm hi hj _ (hy.covers i _ w h hi x hx _ hmem) hn

/-- A commit is invisible to whoever relies on locks of another session. -/
lemma Sound.commit {y : Sys Row κ ε α} (hy : Sound G C Post y) {i : ℕ} {a : α}
    {w : List (ℕ × Change Row)} {h : List (Lock τ κ)}
    (hi : y.Active i (.done a) w h) :
    Sound G C Post ⟨⟨replay w y.store.db, y.store.seq⟩, y.sessions.set i (.finished (.ok a)),
      y.log ++ [⟨i, .ok a, y.store.db, replay w y.store.db⟩]⟩ := by
  have hcommit := hy.safe i _ w h hi
  obtain ⟨hallowed, hpost⟩ := hcommit y.store.db hy.inv (Rely.refl G h y.store.db)
    ⟨_, hy.view_keyed hi⟩
  have hret := hy.retire (s := .finished (.ok a)) (i := i) (by simp)
    (y.log ++ [⟨i, .ok a, y.store.db, replay w y.store.db⟩]) (by
      intro c hc
      rcases List.mem_append.mp hc with hc | hc
      · exact hy.log c hc
      · rw [List.mem_singleton] at hc
        rw [hc]
        exact ⟨hy.inv, hallowed.evolves, hpost⟩)
  have other : ∀ j p' w' h', (y.sessions.set i (.finished (.ok a)))[j]? = some (.running p' w' h') →
      j ≠ i ∧ y.Active j p' w' h' := by
    intro j p' w' h' hj
    rcases getElem?_set_running hj with ⟨-, hf⟩ | hj
    · cases hf
    · exact hj
  refine
    { inv := ⟨hallowed.global, hallowed.ok⟩
      keyed := hy.view_keyed hi
      covers := hret.covers
      nodup := hret.nodup
      below := hret.below
      fresh := ?_
      safe := ?_
      locks := hret.locks
      numbers := hret.numbers
      log := hret.log }
  · intro j p' w' h' hj n hn t e he hid
    obtain ⟨hne, hj⟩ := other j p' w' h' hj
    rcases mem_replay he with ⟨e₀, he₀, h₀⟩ | h₀
    · exact hy.fresh j p' w' h' hj n hn t e₀ he₀ (h₀.trans hid)
    · exact hy.numbers j i p' w' h' _ w h hne hj hi n hn (hid ▸ h₀)
  · intro j p' w' h' hj
    obtain ⟨hne, hj⟩ := other j p' w' h' hj
    exact Safe.rely (hy.safe j p' w' h' hj) (hy.rely_commit hi hne hj)

/-- One more statement of a session. -/
lemma Sound.statement {y : Sys Row κ ε α} (hy : Sound G C Post y) {i : ℕ}
    {l : Env Row κ → List (Lock τ κ)} {c : Env Row κ → Change Row}
    {n : Env Row κ → Prog Row κ ε α} {w : List (ℕ × Change Row)} {h : List (Lock τ κ)}
    (hi : y.Active i (.stmt l c n) w h)
    (hfree : (Sys.needs l c (y.env i w)).any (y.env i w).busy = false)
    (hC : C i (y.env i w) (c (y.env i w)) (Sys.needs l c (y.env i w))) :
    Sound G C Post ⟨⟨y.store.db, y.store.seq + 1⟩,
      y.sessions.set i (.running (n (y.env i w)) (w ++ [(y.store.seq, c (y.env i w))])
        (h ++ Sys.needs l c (y.env i w))), y.log⟩ := by
  have split : ∀ j p' w' h', (y.sessions.set i (.running (n (y.env i w))
      (w ++ [(y.store.seq, c (y.env i w))]) (h ++ Sys.needs l c (y.env i w))))[j]? =
        some (.running p' w' h') →
      (j = i ∧ p' = n (y.env i w) ∧ w' = w ++ [(y.store.seq, c (y.env i w))] ∧
        h' = h ++ Sys.needs l c (y.env i w)) ∨
      (j ≠ i ∧ y.Active j p' w' h') := by
    intro j p' w' h' hj
    rcases getElem?_set_running hj with ⟨rfl, hf⟩ | hj
    · cases hf
      exact .inl ⟨rfl, rfl, rfl, rfl⟩
    · exact .inr hj
  have unheld : ∀ j p' w' h', j ≠ i → y.Active j p' w' h' →
      ∀ k ∈ Sys.needs l c (y.env i w), k ∉ h' := by
    intro j p' w' h' hne hj k hk hk'
    have hbusy := List.any_eq_false.mp hfree k hk
    refine hbusy (List.any_eq_true.mpr ⟨j, ?_, ?_⟩)
    · exact List.mem_range.mpr (List.getElem?_eq_some_iff.mp hj).1
    · simp [Sys.held, hj, hne, hk']
  refine
    { inv := hy.inv
      keyed := ⟨fun t e he => Nat.lt_succ_of_lt (hy.keyed.below t e he), hy.keyed.nodup⟩
      covers := ?_
      nodup := ?_
      below := ?_
      fresh := ?_
      safe := ?_
      locks := ?_
      numbers := ?_
      log := hy.log }
  · intro j p' w' h' hj x hx k hk
    rcases split j p' w' h' hj with ⟨rfl, rfl, rfl, rfl⟩ | ⟨-, hj⟩
    · rcases List.mem_append.mp hx with hx | hx
      · exact List.mem_append_left _ (hy.covers j _ w h hi x hx k hk)
      · rw [List.mem_singleton] at hx
        rw [hx] at hk
        exact List.mem_append_right _ (List.mem_append_right _ hk)
    · exact hy.covers j p' w' h' hj x hx k hk
  · intro j p' w' h' hj
    rcases split j p' w' h' hj with ⟨rfl, rfl, rfl, rfl⟩ | ⟨-, hj⟩
    · rw [List.map_append, List.map_singleton]
      refine List.nodup_append.mpr ⟨hy.nodup j _ w h hi, by simp, fun a ha b hb => ?_⟩
      rw [List.mem_singleton] at hb
      rw [hb]
      exact Nat.ne_of_lt (hy.below j _ w h hi a ha)
    · exact hy.nodup j p' w' h' hj
  · intro j p' w' h' hj m hm
    rcases split j p' w' h' hj with ⟨rfl, rfl, rfl, rfl⟩ | ⟨-, hj⟩
    · rw [List.map_append, List.mem_append] at hm
      rcases hm with hm | hm
      · exact Nat.lt_succ_of_lt (hy.below j _ w h hi m hm)
      · simp only [List.map_cons, List.map_nil, List.mem_singleton] at hm
        exact hm ▸ Nat.lt_succ_self _
    · exact Nat.lt_succ_of_lt (hy.below j p' w' h' hj m hm)
  · intro j p' w' h' hj m hm t e he
    rcases split j p' w' h' hj with ⟨rfl, rfl, rfl, rfl⟩ | ⟨-, hj⟩
    · rw [List.map_append, List.mem_append] at hm
      rcases hm with hm | hm
      · exact hy.fresh j _ w h hi m hm t e he
      · simp only [List.map_cons, List.map_nil, List.mem_singleton] at hm
        exact hm ▸ Nat.ne_of_lt (hy.keyed.below t e he)
    · exact hy.fresh j p' w' h' hj m hm t e he
  · intro j p' w' h' hj
    rcases split j p' w' h' hj with ⟨rfl, rfl, rfl, rfl⟩ | ⟨-, hj⟩
    · have hs := hy.safe j _ w h hi y.store.db hy.inv (Rely.refl G h y.store.db) (y.env j w) rfl
        (hy.view_keyed hi) hC
      have hview : (fun x => (c (y.env j w)).apply (y.env j w).fresh (replay w x)) =
          replay (w ++ [(y.store.seq, c (y.env j w))]) :=
        funext fun x => (replay_append w _ _ x).symm
      rwa [hview] at hs
    · exact hy.safe j p' w' h' hj
  · intro j k p' w' h' p'' w'' h'' hne hj hk lock hlock hlock'
    rcases split j p' w' h' hj with ⟨rfl, rfl, rfl, rfl⟩ | ⟨hji, hj₀⟩
    · rcases split k p'' w'' h'' hk with ⟨rfl, -⟩ | ⟨hki, hk₀⟩
      · exact hne rfl
      · rcases List.mem_append.mp hlock with hl | hl
        · exact hy.locks j k _ w h p'' w'' h'' hne hi hk₀ lock hl hlock'
        · exact unheld k p'' w'' h'' hki hk₀ lock hl hlock'
    · rcases split k p'' w'' h'' hk with ⟨rfl, rfl, rfl, rfl⟩ | ⟨hki, hk₀⟩
      · rcases List.mem_append.mp hlock' with hl | hl
        · exact hy.locks j k p' w' h' _ w h hne hj₀ hi lock hlock hl
        · exact unheld j p' w' h' hji hj₀ lock hl hlock
      · exact hy.locks j k p' w' h' p'' w'' h'' hne hj₀ hk₀ lock hlock hlock'
  · intro j k p' w' h' p'' w'' h'' hne hj hk m hm hm'
    rcases split j p' w' h' hj with ⟨rfl, rfl, rfl, rfl⟩ | ⟨hji, hj₀⟩
    · rcases split k p'' w'' h'' hk with ⟨rfl, -⟩ | ⟨hki, hk₀⟩
      · exact hne rfl
      · rw [List.map_append, List.mem_append] at hm
        rcases hm with hm | hm
        · exact hy.numbers j k _ w h p'' w'' h'' hne hi hk₀ m hm hm'
        · simp only [List.map_cons, List.map_nil, List.mem_singleton] at hm
          exact absurd (hy.below k p'' w'' h'' hk₀ m hm') (by omega)
    · rcases split k p'' w'' h'' hk with ⟨rfl, rfl, rfl, rfl⟩ | ⟨hki, hk₀⟩
      · rw [List.map_append, List.mem_append] at hm'
        rcases hm' with hm' | hm'
        · exact hy.numbers j k p' w' h' _ w h hne hj₀ hi m hm hm'
        · simp only [List.map_cons, List.map_nil, List.mem_singleton] at hm'
          exact absurd (hy.below j p' w' h' hj₀ m hm) (by omega)
      · exact hy.numbers j k p' w' h' p'' w'' h'' hne hj₀ hk₀ m hm hm'

theorem Sound.step {y y' : Sys Row κ ε α} (hy : Sound G C Post y) {m : Move}
    (hC : y.Meets C m) (hm : y.step m = some y') : Sound G C Post y' := by
  cases m with
  | advance i =>
    unfold Sys.step at hm
    dsimp only at hm
    split at hm
    · rename_i a w h hi
      cases hm
      exact hy.commit hi
    · rename_i e w h hi
      cases hm
      have hpost := hy.safe i _ w h hi y.store.db hy.inv (Rely.refl G h y.store.db)
        ⟨_, hy.view_keyed hi⟩
      refine hy.retire (by simp) _ fun c hc => ?_
      rcases List.mem_append.mp hc with hc | hc
      · exact hy.log c hc
      · rw [List.mem_singleton] at hc
        rw [hc]
        exact ⟨hy.inv, G.evolves_refl _, hpost⟩
    · rename_i l c n w h hi
      split at hm
      · cases hm
      · rename_i hfree
        cases hm
        exact hy.statement hi (by simpa using hfree) (hC i l c n w h rfl hi)
    · cases hm
  | abort i =>
    unfold Sys.step at hm
    dsimp only at hm
    split at hm
    · cases hm
      exact hy.retire (by simp) _ hy.log
    · cases hm

/-- If every session's program is safe on its own, the interleaved system stays sound. -/
theorem reach_sound {store : Store Row} {progs : List (Prog Row κ ε α)} {y : Sys Row κ ε α}
    (hinv : G.Inv store.db) (hkeyed : store.Keyed)
    (hsafe : ∀ i p, progs[i]? = some p → ∀ d, G.Inv d →
      G.Safe (C i) (G.Commits (Post i)) p [] id d)
    (hy : Sys.Reach C (Sys.start store progs) y) : Sound G C Post y := by
  induction hy with
  | start =>
    have old : ∀ i p w h, (Sys.start store progs).Active i p w h →
        progs[i]? = some p ∧ w = [] ∧ h = [] := by
      intro i p w h hi
      rw [Sys.Active, Sys.start, List.getElem?_map, Option.map_eq_some_iff] at hi
      obtain ⟨q, hq, he⟩ := hi
      cases he
      exact ⟨hq, rfl, rfl⟩
    refine
      { inv := hinv
        keyed := hkeyed
        covers := fun i p w h hi => ?_
        nodup := fun i p w h hi => ?_
        below := fun i p w h hi => ?_
        fresh := fun i p w h hi => ?_
        safe := fun i p w h hi => ?_
        locks := fun i j p w h p' w' h' _ hi _ => ?_
        numbers := fun i j p w h p' w' h' _ hi _ => ?_
        log := fun c hc => by simp [Sys.start] at hc }
    all_goals obtain ⟨hp, rfl, rfl⟩ := old i p w h hi
    · simp
    · simp
    · simp
    · simp
    · exact hsafe i p hp _ hinv
    · simp
    · simp
  | step _ hC hm ih => exact ih.step hC hm

/-- A move leaves the committed rows alone or logs how it changed them. -/
lemma step_log {y y' : Sys Row κ ε α} {m : Move} (h : y.step m = some y') :
    (y'.log = y.log ∧ y'.store.db = y.store.db) ∨
      ∃ c, y'.log = y.log ++ [c] ∧ c.before = y.store.db ∧ c.after = y'.store.db := by
  cases m with
  | advance i =>
    unfold Sys.step at h
    dsimp only at h
    split at h
    · cases h
      exact .inr ⟨_, rfl, rfl, rfl⟩
    · cases h
      exact .inr ⟨_, rfl, rfl, rfl⟩
    · split at h <;> cases h
      exact .inl ⟨rfl, rfl⟩
    · cases h
  | abort i =>
    unfold Sys.step at h
    dsimp only at h
    split at h <;> cases h
    exact .inl ⟨rfl, rfl⟩

/-- Induction over the answers given so far. -/
theorem reach_commits {store : Store Row} {progs : List (Prog Row κ ε α)} {y : Sys Row κ ε α}
    (P : List (Commit Row ε α) → Db Row → Prop) (hinv : G.Inv store.db) (hkeyed : store.Keyed)
    (hsafe : ∀ i p, progs[i]? = some p → ∀ d, G.Inv d →
      G.Safe (C i) (G.Commits (Post i)) p [] id d)
    (h0 : P [] store.db)
    (hstep : ∀ log c, P log c.before → G.Inv c.before → G.evolves c.before c.after →
      Post c.session c.answer c.before c.after → P (log ++ [c]) c.after)
    (hy : Sys.Reach C (Sys.start store progs) y) : P y.log y.store.db := by
  induction hy with
  | start => exact h0
  | @step y y' m hr hC hm ih =>
    rcases step_log hm with ⟨hlog, hdb⟩ | ⟨c, hlog, hbefore, hafter⟩
    · rwa [hlog, hdb]
    · have hsound : Sound G C Post y' := reach_sound hinv hkeyed hsafe (hr.step hC hm)
      obtain ⟨h1, h2, h3⟩ := hsound.log c (by simp [hlog])
      rw [hlog, ← hafter]
      exact hstep y.log c (hbefore ▸ ih) h1 h2 h3

end Sound
end ForgeCustomer.SqlDiscipline
