import ForgeCustomer.SqlDiscipline

/-!
# Interleaved transactions under assumptions

What a transaction has only read is not locked. It can still rely on it in those runs in which no commit
breaks what it assumes, and which assumption that is may depend on how far it has come.
-/
namespace ForgeCustomer.SqlAssumptions
open SqlTables SqlPrograms SqlSessions SqlDiscipline Discipline
set_option linter.unusedSectionVars false

variable {τ κ ε α : Type} [DecidableEq τ] [DecidableEq κ] {Row : τ → Type} [Schema Row κ]

/-- What a transaction with the pending writes `w` assumes of the commits of others. -/
structure Assumption (G : Discipline Row κ) where
  holds : List (ℕ × Change Row) → Db Row → Db Row → Prop
  refl : ∀ w d, holds w d d
  trans : ∀ w d d' d'', G.evolves d d' → G.evolves d' d'' → holds w d d' → holds w d' d'' → holds w d d''

/-- Any commit will do. -/
def Assumption.none (G : Discipline Row κ) : Assumption G := ⟨fun _ _ _ => True, fun _ _ => trivial, fun _ _ _ _ _ _ _ _ => trivial⟩

section Programs
variable {G : Discipline Row κ} (A : Assumption G)

/-- What the holder of `L` with the pending writes `w` can rely on. -/
def RelyOn (L : List (Lock τ κ)) (w : List (ℕ × Change Row)) (d d' : Db Row) : Prop :=
  G.Rely L d d' ∧ A.holds w d d'

/-- `Safe` for a program that may rely on the assumption. -/
def SafeOn (Q : Except ε α → List (Lock τ κ) → List (ℕ × Change Row) → Db Row → Prop) :
    Prog Row κ ε α → List (Lock τ κ) → List (ℕ × Change Row) → Db Row → Prop
  | .done a, L, w, d => Q (.ok a) L w d
  | .fail e, L, w, d => Q (.error e) L w d
  | .stmt l c n, L, w, d => ∀ d', G.Inv d' → RelyOn A L w d d' → ∀ env : Env Row κ, env.db = replay w d' →
      Keyed env.fresh (replay w d') →
      SafeOn Q (n env) (L ++ Sys.needs l c env) (w ++ [(env.fresh, c env)]) d'

/-- `Commits` for a program that may rely on the assumption. -/
def CommitsOn (Post : Except ε α → Db Row → Db Row → Prop) (r : Except ε α) (L : List (Lock τ κ))
    (w : List (ℕ × Change Row)) (d : Db Row) : Prop :=
  ∀ d', G.Inv d' → RelyOn A L w d d' → (∃ n, Keyed n (replay w d')) →
    match r with
    | .ok a => G.Allowed L (replay w) d' ∧ Post (.ok a) d' (replay w d')
    | .error e => Post (.error e) d' d'

variable {A} {L : List (Lock τ κ)} {w : List (ℕ × Change Row)} {d : Db Row}

lemma RelyOn.refl (L : List (Lock τ κ)) (w : List (ℕ × Change Row)) (d : Db Row) : RelyOn A L w d d :=
  ⟨Rely.refl G L d, A.refl w d⟩

lemma RelyOn.trans {d' d'' : Db Row} (h : RelyOn A L w d d') (h' : RelyOn A L w d' d'') : RelyOn A L w d d'' :=
  ⟨h.1.trans h'.1, A.trans w d d' d'' h.1.1 h'.1.1 h.2 h'.2⟩

lemma CommitsOn.rely {Post : Except ε α → Db Row → Db Row → Prop} {r : Except ε α} {d' : Db Row}
    (h : CommitsOn A Post r L w d) (hr : RelyOn A L w d d') : CommitsOn A Post r L w d' :=
  fun d'' hd'' hr' hk => h d'' hd'' (hr.trans hr') hk

lemma SafeOn.rely {Post : Except ε α → Db Row → Db Row → Prop} {p : Prog Row κ ε α} {d' : Db Row}
    (h : SafeOn A (CommitsOn A Post) p L w d) (hr : RelyOn A L w d d') : SafeOn A (CommitsOn A Post) p L w d' := by
  cases p with
  | done | fail => exact CommitsOn.rely h hr
  | stmt l c n => exact fun d'' hd'' hr' env he hk => h d'' hd'' (hr.trans hr') env he hk

theorem SafeOn.mono {Q Q' : Except ε α → List (Lock τ κ) → List (ℕ × Change Row) → Db Row → Prop}
    (h : ∀ r L w d, Q r L w d → Q' r L w d) {p : Prog Row κ ε α} (hp : SafeOn A Q p L w d) : SafeOn A Q' p L w d := by
  induction p generalizing L w d with
  | done | fail => exact h _ _ _ _ hp
  | stmt l c n ih => exact fun d' hd' hr env he hk => ih env (hp d' hd' hr env he hk)

/-- The part of a program before a bind only has to lead to a safe rest. -/
theorem safeOn_bind {β : Type} {Q : Except ε β → List (Lock τ κ) → List (ℕ × Change Row) → Db Row → Prop}
    {p : Prog Row κ ε α} {k : α → Prog Row κ ε β} :
    SafeOn A Q (p >>= k) L w d ↔ SafeOn A (fun r L w d =>
      match r with
      | .ok a => SafeOn A Q (k a) L w d
      | .error e => Q (.error e) L w d) p L w d := by
  induction p generalizing L w d with
  | done | fail => exact Iff.rfl
  | stmt l c n ih =>
    refine forall_congr' fun d' => forall_congr' fun _ => forall_congr' fun _ => ?_
    exact forall_congr' fun env => forall_congr' fun _ => forall_congr' fun _ => ih env

section Statements
open SqlStatements
variable {Q : Except ε α → List (Lock τ κ) → List (ℕ × Change Row) → Db Row → Prop}

lemma safeOn_select {f : Db Row → α}
    (h : ∀ d' n, G.Inv d' → RelyOn A L w d d' → Q (.ok (f (replay w d'))) L (w ++ [(n, .nothing)]) d') :
    SafeOn A Q (select f) L w d := by
  intro d' hd' hr env he _
  have := h d' env.fresh hd' hr
  rw [← he] at this
  simpa [SafeOn, Sys.needs, Change.locks] using this

lemma safeOn_statement [FromSql ε] {locks : Env Row κ → List (Lock τ κ)}
    {attempt : Env Row κ → Except SqlError (Change Row × α)}
    (h : ∀ d', G.Inv d' → RelyOn A L w d d' → ∀ env : Env Row κ, env.db = replay w d' →
      Keyed env.fresh (replay w d') →
      (∀ c a, attempt env = .ok (c, a) →
        Q (.ok a) (L ++ (locks env ++ c.locks env.fresh)) (w ++ [(env.fresh, c)]) d') ∧
      (∀ e L' w', attempt env = .error e → Q (.error (FromSql.sql e)) L' w' d')) :
    SafeOn A Q (statement locks attempt) L w d := by
  intro d' hd' hr env he hk
  obtain ⟨hok, herr⟩ := h d' hd' hr env he hk
  rcases hat : attempt env with e | ⟨c, a⟩
  · simpa [hat, attempted, SafeOn, Sys.needs] using herr e _ _ hat
  · simpa [hat, attempted, SafeOn, Sys.needs] using hok c a hat

end Statements

/-- Whatever statements may come that touch only the tables `S`: the pending rows of all others stay, no
lock is given back, and the assumption can only have grown. -/
lemma safeOn_touches {S : List τ} {Q : Except ε α → List (Lock τ κ) → List (ℕ × Change Row) → Db Row → Prop}
    {p : Prog Row κ ε α} (hp : p.Touches S)
    {F : List (Lock τ κ) → List (ℕ × Change Row) → Db Row → Prop} (hF : F L w d)
    (hrely : ∀ L w d d', F L w d → G.Inv d' → RelyOn A L w d d' → F L w d')
    (hstep : ∀ L L' w n c d, F L w d → c.On S → (∀ k ∈ L, k ∈ L') → F L' (w ++ [(n, c)]) d)
    (h : ∀ r L' w' d', F L' w' d' → Q r L' w' d') : SafeOn A Q p L w d := by
  induction p generalizing L w d with
  | done | fail => exact h _ L w d hF
  | stmt l c n ih =>
    intro d' hd' hr env _ _
    refine ih env (hp env).2 ?_
    exact hstep _ _ _ _ _ _ (hrely _ _ _ _ hF hd' hr) (hp env).1 fun k hk => List.mem_append_left _ hk

end Programs

/-- Nothing is relied on but locks of rows. -/
def bare (Row : τ → Type) (κ : Type) : Discipline Row κ where
  global _ := True
  evolves _ _ := True
  evolves_refl _ := trivial
  evolves_trans _ _ _ _ _ := trivial
  Key := Empty
  Part _ := Unit
  part _ _ := ()
  ok _ _ := True
  guards _ _ _ := True
  guards_mono := Discipline.noKeys_mono
  exclusive := Discipline.noKeys_exclusive

lemma safe_bare {C : Env Row κ → Change Row → List (Lock τ κ) → Prop} (p : Prog Row κ ε α) (L : List (Lock τ κ))
    (v : Db Row → Db Row) (d : Db Row) :
    (bare Row κ).Safe C ((bare Row κ).Commits fun _ _ _ => True) p L v d := by
  induction p generalizing L v d with
  | done => exact fun d' _ _ _ => ⟨⟨trivial, trivial, fun K => K.elim, fun K => K.elim⟩, trivial⟩
  | fail => exact fun _ _ _ _ => trivial
  | stmt l c n ih => exact fun d' _ _ env _ _ _ => ih env _ _ _

section Sound
variable {G : Discipline Row κ} (A : ℕ → Assumption G) (Post : ℕ → Except ε α → Db Row → Db Row → Prop)

/-- The invariant of the interleaved system. -/
structure SoundOn (y : Sys Row κ ε α) : Prop where
  base : Sound (bare Row κ) (fun _ _ _ _ => True) (fun _ _ _ _ => True) y
  inv : G.Inv y.store.db
  safe : ∀ i p w h, y.Active i p w h → SafeOn (A i) (CommitsOn (A i) (Post i)) p h w y.store.db

variable {A Post} {y y' : Sys Row κ ε α}

/-- What a commit promises. -/
lemma SoundOn.commits (hy : SoundOn A Post y) {i : ℕ} {a : α} {w : List (ℕ × Change Row)} {h : List (Lock τ κ)}
    (hi : y.Active i (.done a) w h) :
    G.Allowed h (replay w) y.store.db ∧ Post i (.ok a) y.store.db (replay w y.store.db) :=
  hy.safe i _ w h hi y.store.db hy.inv (RelyOn.refl _ _ _) ⟨_, hy.base.view_keyed hi⟩

lemma SoundOn.retire (hy : SoundOn A Post y) {i : ℕ} {s : Session Row κ ε α} (hs : ∀ p w h, s ≠ .running p w h)
    {log : List (Commit Row ε α)} (hbase : Sound (bare Row κ) (fun _ _ _ _ => True) (fun _ _ _ _ => True)
      ⟨y.store, y.sessions.set i s, log⟩) : SoundOn A Post ⟨y.store, y.sessions.set i s, log⟩ := by
  refine ⟨hbase, hy.inv, fun j p w h hj => ?_⟩
  rcases getElem?_set_running hj with ⟨-, h'⟩ | ⟨-, h'⟩
  · exact absurd h'.symm (hs p w h)
  · exact hy.safe j p w h h'

lemma SoundOn.commit (hy : SoundOn A Post y) {i : ℕ} {a : α} {w : List (ℕ × Change Row)} {h : List (Lock τ κ)}
    (hi : y.Active i (.done a) w h)
    (hassumed : ∀ j p' w' h', j ≠ i → y.Active j p' w' h' → (A j).holds w' y.store.db (replay w y.store.db))
    {log : List (Commit Row ε α)} (hbase : Sound (bare Row κ) (fun _ _ _ _ => True) (fun _ _ _ _ => True)
      ⟨⟨replay w y.store.db, y.store.seq⟩, y.sessions.set i (.finished (.ok a)), log⟩) :
    SoundOn A Post ⟨⟨replay w y.store.db, y.store.seq⟩, y.sessions.set i (.finished (.ok a)), log⟩ := by
  obtain ⟨hallowed, -⟩ := hy.commits hi
  refine ⟨hbase, ⟨hallowed.global, hallowed.ok⟩, fun j p' w' h' hj => ?_⟩
  rcases getElem?_set_running hj with ⟨-, hf⟩ | ⟨hne, hj⟩
  · cases hf
  refine SafeOn.rely (hy.safe j p' w' h' hj) ⟨⟨hallowed.evolves, fun K hK => ?_, fun t n hn => ?_⟩,
    hassumed j p' w' h' hne hj⟩
  · rcases hallowed.guarded K with hsame | hguard
    · exact hsame
    · obtain ⟨k, hk, hk'⟩ := G.exclusive K _ _ _ (hy.inv.2 K) hguard hK
      exact absurd hk' (hy.base.locks i j _ w h p' w' h' hne.symm hi hj k hk)
  · refine replay_unlocked (κ := κ) (fun x hx hmem => ?_) y.store.db
    exact hy.base.locks i j _ w h p' w' h' hne.symm hi hj _ (hy.base.covers i _ w h hi x hx _ hmem) hn

lemma SoundOn.statement (hy : SoundOn A Post y) {i : ℕ} {l : Env Row κ → List (Lock τ κ)} {c : Env Row κ → Change Row}
    {n : Env Row κ → Prog Row κ ε α} {w : List (ℕ × Change Row)} {h : List (Lock τ κ)}
    (hi : y.Active i (.stmt l c n) w h)
    (hbase : Sound (bare Row κ) (fun _ _ _ _ => True) (fun _ _ _ _ => True) ⟨⟨y.store.db, y.store.seq + 1⟩,
      y.sessions.set i (.running (n (y.env i w)) (w ++ [(y.store.seq, c (y.env i w))])
        (h ++ Sys.needs l c (y.env i w))), y.log⟩) :
    SoundOn A Post ⟨⟨y.store.db, y.store.seq + 1⟩, y.sessions.set i (.running (n (y.env i w))
      (w ++ [(y.store.seq, c (y.env i w))]) (h ++ Sys.needs l c (y.env i w))), y.log⟩ := by
  refine ⟨hbase, hy.inv, fun j p' w' h' hj => ?_⟩
  rcases getElem?_set_running hj with ⟨rfl, hf⟩ | ⟨-, hj⟩
  · cases hf
    exact hy.safe j _ w h hi y.store.db hy.inv (RelyOn.refl _ _ _) (y.env j w) rfl (hy.base.view_keyed hi)
  · exact hy.safe j p' w' h' hj

theorem SoundOn.step (hy : SoundOn A Post y) {m : Move} (hm : y.step m = some y')
    (hassumed : ∀ i a w h, m = .advance i → y.Active i (.done a) w h →
      Post i (.ok a) y.store.db (replay w y.store.db) → ∀ j p' w' h', j ≠ i → y.Active j p' w' h' →
        (A j).holds w' y.store.db (replay w y.store.db)) : SoundOn A Post y' := by
  have hbase : Sound (bare Row κ) (fun _ _ _ _ => True) (fun _ _ _ _ => True) y' :=
    hy.base.step (fun _ _ _ _ _ _ _ _ => trivial) hm
  rcases Sys.step_cases hm with ⟨i, a, w, h, rfl, hi, rfl⟩ | ⟨i, e, w, h, rfl, hi, rfl⟩ |
    ⟨i, l, c, n, w, h, rfl, hi, -, rfl⟩ | ⟨i, p, w, h, rfl, hi, rfl⟩
  · exact hy.commit hi (hassumed i a w h rfl hi (hy.commits hi).2) hbase
  · exact hy.retire (by simp) hbase
  · exact hy.statement hi hbase
  · exact hy.retire (by simp) hbase

theorem soundOn_start {store : Store Row} {progs : List (Prog Row κ ε α)} (hinv : G.Inv store.db) (hk : store.Keyed)
    (hsafe : ∀ i p, progs[i]? = some p → SafeOn (A i) (CommitsOn (A i) (Post i)) p [] [] store.db) :
    SoundOn A Post (Sys.start store progs) := by
  refine ⟨reach_sound ⟨trivial, fun K => K.elim⟩ hk (fun _ p _ d _ => safe_bare p _ _ d) .start, hinv,
    fun i p w h hi => ?_⟩
  rw [Sys.Active, Sys.start, List.getElem?_map, Option.map_eq_some_iff] at hi
  obtain ⟨q, hq, he⟩ := hi
  cases he
  exact hsafe i p hq

end Sound
end ForgeCustomer.SqlAssumptions
