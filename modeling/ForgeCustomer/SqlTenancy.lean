import ForgeCustomer.SqlColumns

/-!
# Rows that belong to somebody

A row belongs to the tenant that its fixed columns name, or to the tenant of a row of another table that they
point at. A transaction that writes rows of one tenant only leaves the rows of all others alone, whatever is
committed between its statements.
-/
namespace ForgeCustomer.SqlTenancy
open SqlTables SqlPrograms SqlStatements SqlSessions SqlDiscipline Discipline SqlColumns Columns
set_option linter.unusedSectionVars false

variable {τ κ ε α β Ω : Type} [DecidableEq τ] [DecidableEq κ] {Row : τ → Type} [Schema Row κ]
  {C : Columns Row}

/-- Whom a row belongs to, read off its fixed columns. -/
structure Tenancy (C : Columns Row) (Ω : Type) where
  direct : ∀ t, Entry (Row t) → Option Ω
  via : ∀ t, Row t → Option (τ × ℕ)
  direct_fixed : ∀ t i r r', C.fixed t r = C.fixed t r' → direct t ⟨i, r⟩ = direct t ⟨i, r'⟩
  via_fixed : ∀ t r r', C.fixed t r = C.fixed t r' → via t r = via t r'

namespace Tenancy
variable (T : Tenancy C Ω)

/-- The tenant that the row with this key names. -/
def named (d : Db Row) (x : τ × ℕ) : Option Ω := ((d x.1).find? fun e => e.id == x.2).bind (T.direct x.1)

def owner (d : Db Row) (t : τ) (e : Entry (Row t)) : Option Ω :=
  match T.via t e.val with
  | some x => T.named d x
  | none => T.direct t e

/-- The rows of the tenants `S`. -/
def rowsOf (S : Ω → Bool) (d : Db Row) (t : τ) : List (Entry (Row t)) := (d t).filter fun e => (T.owner d t e).any S

/-- The rows of the tenants `S` are the same, and in the same order. -/
def Spared (S : Ω → Bool) (d d' : Db Row) : Prop := ∀ t, T.rowsOf S d' t = T.rowsOf S d t

/-- Neither the row nor the row it points at names anybody but `A`. -/
def Mine (A : Ω) (d : Db Row) (t : τ) (e : Entry (Row t)) : Prop :=
  (∀ ω, T.direct t e = some ω → ω = A) ∧ ∀ x ω, T.via t e.val = some x → T.named d x = some ω → ω = A

/-- The change inserts rows of `A` and rewrites rows of `A` only. -/
def Within (A : Ω) (n : ℕ) (d : Db Row) : Change Row → Prop
  | .nothing => True
  | .insert t v => T.Mine A d t ⟨n, v⟩
  | .update t p ids f => ∀ e ∈ d t, p e = true → e.id ∈ ids → f e.val = e.val ∨ T.Mine A d t e
  | .delete _ _ _ => False

variable {T} {A ω : Ω} {S : Ω → Bool} {d d' d'' : Db Row} {t : τ}

lemma Spared.refl (S : Ω → Bool) (d : Db Row) : T.Spared S d d := fun _ => rfl

lemma Spared.trans (h : T.Spared S d d') (h' : T.Spared S d' d'') : T.Spared S d d'' :=
  fun t => (h' t).trans (h t)

lemma Mine.owner {e : Entry (Row t)} (h : T.Mine A d t e) (ho : T.owner d t e = some ω) : ω = A := by
  unfold Tenancy.owner at ho
  cases hvia : T.via t e.val with
  | none =>
    rw [hvia] at ho
    exact h.1 ω ho
  | some x =>
    rw [hvia] at ho
    exact h.2 x ω hvia ho

lemma Mine.not_owner {e : Entry (Row t)} (h : T.Mine A d t e) (hS : S A = false) : (T.owner d t e).any S = false := by
  rw [Option.any_eq_false]
  intro ω ho
  simp [h.owner ho, hS]

lemma direct_updateEntry {p : Entry (Row t) → Bool} {f : Row t → Row t}
    (hf : ∀ r, C.fixed t (f r) = C.fixed t r) (e : Entry (Row t)) :
    T.direct t (updateEntry p f e) = T.direct t e := by
  have hentry := T.direct_fixed t e.id _ _ (fixed_updateEntry (C := C) (p := p) hf e)
  rwa [show (⟨e.id, (updateEntry p f e).val⟩ : Entry (Row t)) = updateEntry p f e from
    Entry.ext (updateEntry_id p f e).symm rfl] at hentry

/-- Inserting a row of `A` gives nobody else a row. -/
lemma named_insert {u : τ} {v : Row u} {n : ℕ} (h : ∀ ω, T.direct u ⟨n, v⟩ = some ω → ω = A) (hne : ω ≠ A)
    (x : τ × ℕ) : T.named (d.put u (d u ++ [⟨n, v⟩])) x = some ω ↔ T.named d x = some ω := by
  obtain ⟨t, i⟩ := x
  by_cases hu : t = u
  · subst hu
    simp only [named, Db.put_self, List.find?_append]
    cases hfind : (d t).find? fun e => e.id == i with
    | some e => rfl
    | none =>
      rw [Option.none_or, List.find?_singleton]
      split
      · simpa using fun hnew => hne (h ω hnew)
      · rfl
  · simp only [named]
    rw [Db.put_of_ne d hu]

lemma named_update {u : τ} {p : Entry (Row u) → Bool} {f : Row u → Row u}
    (hf : ∀ r, C.fixed u (f r) = C.fixed u r) (x : τ × ℕ) :
    T.named (d.put u (updateRows p f (d u))) x = T.named d x := by
  obtain ⟨t, i⟩ := x
  by_cases hu : t = u
  · subst hu
    simp only [named, Db.put_self]
    rw [find_updateRows fun _ _ _ => rfl]
    cases (d t).find? fun e => e.id == i with
    | none => rfl
    | some e => exact direct_updateEntry hf e
  · simp only [named]
    rw [Db.put_of_ne d hu]

lemma owner_congr {e : Entry (Row t)} (h : ∀ x ω, S ω = true → (T.named d' x = some ω ↔ T.named d x = some ω)) :
    (T.owner d' t e).any S = (T.owner d t e).any S := by
  rw [Bool.eq_iff_iff, Option.any_eq_true, Option.any_eq_true]
  unfold Tenancy.owner
  cases T.via t e.val with
  | none => rfl
  | some x => exact exists_congr fun ω => and_congr_left fun hS => h x ω hS

/-- An update that changes nothing about the rows that `q` selects. -/
lemma filter_updateRows_spared {α : Type} {p q : Entry α → Bool} {f : α → α} {rows : List (Entry α)}
    (h : ∀ e ∈ rows, p e = true → f e.val = e.val ∨ (q e = false ∧ q ⟨e.id, f e.val⟩ = false)) :
    (updateRows p f rows).filter q = rows.filter q := by
  induction rows with
  | nil => rfl
  | cons e rows ih =>
    have ih := ih fun x hx => h x (by simp [hx])
    simp only [updateRows, List.map_cons, List.filter_cons] at ih ⊢
    by_cases hp : p e = true
    · rcases h e (by simp) hp with hsame | ⟨h1, h2⟩
      · simp [hp, hsame, ih]
      · simp [hp, h1, h2, ih]
    · simp [hp, ih]

/-- What is within the rows of `A` spares all others. -/
theorem Within.spared {c : Change Row} {n : ℕ} (hw : T.Within A n d c) (hc : C.Stable c) (hS : S A = false) :
    T.Spared S d (c.apply n d) := by
  intro t
  cases c with
  | nothing => rfl
  | insert u v =>
    have howner : ∀ e : Entry (Row t), (T.owner (d.put u (d u ++ [⟨n, v⟩])) t e).any S = (T.owner d t e).any S :=
      fun e => owner_congr fun x ω hω => named_insert hw.1 (by rintro rfl; simp [hS] at hω) x
    rw [Change.apply, rowsOf, rowsOf]
    simp only [howner]
    by_cases hu : t = u
    · subst hu
      rw [Db.put_self]
      exact filter_append_other (hw.not_owner hS) _
    · rw [Db.put_of_ne d hu]
  | update u p ids f =>
    have howner : ∀ e : Entry (Row t),
        (T.owner (d.put u (updateRows (fun e => p e && ids.contains e.id) f (d u))) t e).any S =
          (T.owner d t e).any S := fun e => owner_congr fun x _ _ => by rw [named_update hc.fixed x]
    rw [Change.apply, rowsOf, rowsOf]
    simp only [howner]
    by_cases hu : t = u
    · subst hu
      rw [Db.put_self]
      refine filter_updateRows_spared fun e he hp => ?_
      simp only [Bool.and_eq_true, List.contains_iff_mem] at hp
      rcases hw e he hp.1 hp.2 with hsame | hmine
      · exact .inl hsame
      · refine .inr ⟨hmine.not_owner hS, ?_⟩
        have hupdated : T.owner d t ⟨e.id, f e.val⟩ = T.owner d t e := by
          unfold Tenancy.owner
          rw [T.via_fixed t (f e.val) e.val (hc.fixed _), T.direct_fixed t e.id (f e.val) e.val (hc.fixed _)]
        rw [hupdated]
        exact hmine.not_owner hS
    · rw [Db.put_of_ne d hu]
  | delete u p ids => exact hw.elim

/-- The change deletes nothing. -/
def Grows : Change Row → Prop
  | .delete _ _ _ => False
  | _ => True

lemma Grows.keyed {c : Change Row} (hc : Grows c) {n N : ℕ} (h : Keyed N (c.apply n d)) : Keyed N d := by
  cases c with
  | nothing => exact h
  | insert u v =>
    refine ⟨fun t e he => ?_, fun t => ?_⟩
    · have hmem := h.below t e
      by_cases hu : t = u
      · subst hu
        rw [Change.apply, Db.put_self] at hmem
        exact hmem (List.mem_append_left _ he)
      · rw [Change.apply, Db.put_of_ne d hu] at hmem
        exact hmem he
    · have hnodup := h.nodup t
      by_cases hu : t = u
      · subst hu
        rw [Change.apply, Db.put_self, List.map_append] at hnodup
        exact hnodup.of_append_left
      · rwa [Change.apply, Db.put_of_ne d hu] at hnodup
  | update u p ids f =>
    have hids : ∀ t, ((Change.update u p ids f).apply n d t).map (·.id) = (d t).map (·.id) := fun t => by
      by_cases hu : t = u
      · subst hu
        rw [Change.apply, Db.put_self, updateRows_ids]
      · rw [Change.apply, Db.put_of_ne d hu]
    refine ⟨fun t e he => ?_, fun t => hids t ▸ h.nodup t⟩
    have hmem : e.id ∈ ((Change.update u p ids f).apply n d t).map (·.id) := by
      rw [hids]
      exact List.mem_map_of_mem he
    obtain ⟨e', he', hid⟩ := List.mem_map.mp hmem
    exact hid ▸ h.below t e' he'
  | delete u p ids => exact hc.elim

variable (T)

/-- The row with this key names `A` itself. -/
def Owns (A : Ω) (t : τ) (i : ℕ) (d : Db Row) : Prop :=
  ∃ e ∈ d t, e.id = i ∧ T.via t e.val = none ∧ T.direct t e = some A

variable {T} {i : ℕ}

lemma Owns.lasting (h : T.Owns A t i d) (ht : C.erasable t = false) (hd : C.Lasting d d') : T.Owns A t i d' := by
  obtain ⟨e, he, hid, hvia, hdirect⟩ := h
  obtain ⟨e', he', hid', hfix⟩ := hd t ht e he
  refine ⟨e', he', hid'.trans hid, (T.via_fixed t _ _ hfix).trans hvia, ?_⟩
  have hsame := T.direct_fixed t e.id _ _ hfix
  rw [← hid'] at hsame
  exact hsame.trans (by rw [hid']; exact hdirect)

/-- With unique keys the row is nobody else's. -/
lemma Owns.mine {N : ℕ} (h : T.Owns A t i d) (hk : Keyed N d) {e : Entry (Row t)} (he : e ∈ d t) (hid : e.id = i) :
    T.Mine A d t e := by
  obtain ⟨e', he', hid', hvia, hdirect⟩ := h
  obtain rfl := hk.unique he he' (hid.trans hid'.symm)
  refine ⟨fun ω hω => Option.some.inj (hω.symm.trans hdirect), fun x ω hx => ?_⟩
  rw [hvia] at hx
  cases hx

lemma Owns.named {N : ℕ} (h : T.Owns A t i d) (hk : Keyed N d) : T.named d (t, i) = some A := by
  obtain ⟨e, he, hid, -, hdirect⟩ := h
  have hfind : (d t).find? (fun x => x.id == i) = some e :=
    hk.find_of_mem he (by simp [hid]) fun x hx => by rw [hid]; simpa using hx
  simp [Tenancy.named, hfind, hdirect]

variable (T)

/-- A new row of `A`, whatever key it gets and whatever has happened since `x`. -/
def NewRow (A : Ω) (t : τ) (w : Row t) (x : Db Row) : Prop :=
  ∀ x' N n, C.Lasting x x' → Keyed N x' → T.Mine A x' t ⟨n, w⟩

/-- Every row that `p` selects is one of `A`, whatever has happened since `x`. -/
def Hits (A : Ω) (t : τ) (p : Entry (Row t) → Bool) (x : Db Row) : Prop :=
  ∀ x' N, C.Lasting x x' → Keyed N x' → ∀ e ∈ x' t, p e = true → T.Mine A x' t e

variable {T}

lemma mine_direct {e : Entry (Row t)} (hvia : T.via t e.val = none) (h : ∀ ω, T.direct t e = some ω → ω = A) :
    T.Mine A d t e := by
  refine ⟨h, fun x ω hx => ?_⟩
  rw [hvia] at hx
  cases hx

lemma Owns.mine_via {N : ℕ} {u : τ} {e : Entry (Row u)} (h : T.Owns A t i d) (hk : Keyed N d)
    (hvia : T.via u e.val = some (t, i)) (hdirect : T.direct u e = none) : T.Mine A d u e := by
  refine ⟨fun ω hω => ?_, fun x ω hx hω => ?_⟩
  · rw [hdirect] at hω
    cases hω
  · rw [hvia] at hx
    cases hx
    rw [h.named hk] at hω
    exact (Option.some.inj hω).symm

lemma newRow_direct {w : Row t} (hvia : T.via t w = none) (h : ∀ n ω, T.direct t ⟨n, w⟩ = some ω → ω = A) :
    T.NewRow A t w d := fun _ _ n _ _ => mine_direct hvia (h n)

lemma Owns.newRow {u : τ} {w : Row u} (h : T.Owns A t i d) (ht : C.erasable t = false)
    (hvia : T.via u w = some (t, i)) (hdirect : ∀ n, T.direct u ⟨n, w⟩ = none) : T.NewRow A u w d :=
  fun _ _ n hx hk => (h.lasting ht hx).mine_via hk hvia (hdirect n)

lemma hits_direct {p : Entry (Row t) → Bool}
    (h : ∀ e, p e = true → T.via t e.val = none ∧ ∀ ω, T.direct t e = some ω → ω = A) : T.Hits A t p d :=
  fun _ _ _ _ e _ hp => mine_direct (h e hp).1 (h e hp).2

lemma Owns.hits (h : T.Owns A t i d) (ht : C.erasable t = false) : T.Hits A t (fun e => e.id == i) d :=
  fun _ _ hx hk _ he hp => (h.lasting ht hx).mine hk he (by simpa using hp)

lemma Owns.hits_via {u : τ} {p : Entry (Row u) → Bool} (h : T.Owns A t i d) (ht : C.erasable t = false)
    (hp : ∀ e, p e = true → T.via u e.val = some (t, i) ∧ T.direct u e = none) : T.Hits A u p d :=
  fun _ _ hx hk e _ he => (h.lasting ht hx).mine_via hk (hp e he).1 (hp e he).2

variable (T)

/-- Pending writes that spare everybody but `A`, whatever is committed before them. -/
structure Tracked (A : Ω) (v : Db Row → Db Row) (d : Db Row) : Prop where
  tame : C.Tame v
  spared : ∀ d' N, C.Lasting d d' → Keyed N (v d') → ∀ S : Ω → Bool, S A = false → T.Spared S d' (v d')

/-- After the pending writes `v` the program writes rows of `A` only, and what it answers satisfies `K`. -/
def Confines (A : Ω) (K : α → Db Row → Prop) (p : Prog Row κ ε α) (v : Db Row → Db Row)
    (d : Db Row) : Prop :=
  ∀ L, C.lasting.Safe (fun _ _ _ => True) (fun r _ v' d' => ∀ a, r = .ok a →
    T.Tracked A v' d' ∧ C.Lasting (v d) (v' d') ∧ K a (v' d')) p L v d

variable {T} {v : Db Row → Db Row} {K : α → Db Row → Prop} {p : Prog Row κ ε α}

lemma tracked_id (A : Ω) (d : Db Row) : T.Tracked A id d := ⟨tame_id, fun d' _ _ _ S _ => Spared.refl S d'⟩

lemma Tracked.rely (h : T.Tracked A v d) (hd : C.Lasting d d') : T.Tracked A v d' :=
  ⟨h.tame, fun d'' N hd' => h.spared d'' N (hd.trans hd')⟩

/-- One more change, within the rows of `A` in every state that it can be committed in. -/
lemma Tracked.step (h : T.Tracked A v d) {c : Change Row} {n : ℕ} (hc : C.Stable c) (hg : Grows c)
    (hw : ∀ x N, C.Lasting (v d) x → Keyed N x → T.Within A n x c) : T.Tracked A (fun x => c.apply n (v x)) d := by
  refine ⟨h.tame.step hc n, fun d' N hd hk S hS => ?_⟩
  have hview := hg.keyed hk
  exact (h.spared d' N hd hview S hS).trans ((hw _ N (h.tame.mono hd) hview).spared hc hS)

lemma Confines.mono {K' : α → Db Row → Prop} (h : T.Confines A K p v d) (hK : ∀ a x, K a x → K' a x) :
    T.Confines A K' p v d := fun L => Safe.mono (fun r L' v' d' hr a ha => by
  obtain ⟨ht, hl, hk⟩ := hr a ha
  exact ⟨ht, hl, hK a _ hk⟩) (h L)

lemma Confines.pure {a : α} (ht : T.Tracked A v d) (h : K a (v d)) :
    T.Confines A K (Pure.pure a : Prog Row κ ε α) v d := by
  intro L b hb
  cases hb
  exact ⟨ht, Lasting.refl C _, h⟩

lemma Confines.fail (e : ε) : T.Confines A K (.fail e : Prog Row κ ε α) v d := by
  intro L b hb
  cases hb

/-- The rest of the program may rely on what the part before it answers and on the rows that last. -/
theorem Confines.bind {k : α → Prog Row κ ε β} {K' : β → Db Row → Prop} (hp : T.Confines A K p v d)
    (hk : ∀ a v' d', T.Tracked A v' d' → C.Lasting (v d) (v' d') → K a (v' d') → T.Confines A K' (k a) v' d') :
    T.Confines A K' (p >>= k) v d := by
  intro L
  refine safe_bind.mpr (Safe.mono (fun r L' v' d' hr => ?_) (hp L))
  cases r with
  | error e =>
    intro b hb
    cases hb
  | ok a =>
    obtain ⟨ht, hl, hK⟩ := hr a rfl
    refine Safe.mono (fun r' L'' v'' d'' hr' b hb => ?_) (hk a v' d' ht hl hK L')
    obtain ⟨ht', hl', hK'⟩ := hr' b hb
    exact ⟨ht', hl.trans hl', hK'⟩

/-- What a program answers at its end does not matter. -/
lemma Confines.last (h : T.Confines A K p v d) {b : α → β} :
    T.Confines A (fun _ _ => True) (p >>= fun a => Pure.pure (b a)) v d :=
  h.bind fun _ _ _ ht _ _ => .pure ht trivial

lemma Confines.translate {ε' α' : Type} {f : ε → ε'} {g : α → α'} {K' : α' → Db Row → Prop}
    (h : T.Confines A K p v d) (hK : ∀ a x, K a x → K' (g a) x) :
    T.Confines A K' (Discipline.translate f g p) v d := by
  intro L
  refine safe_translate (Safe.mono (fun r L' v' d' hr b hb => ?_) (h L))
  cases r with
  | error e => cases hb
  | ok a =>
    cases hb
    obtain ⟨ht, hl, hk⟩ := hr a rfl
    exact ⟨ht, hl, hK a _ hk⟩

lemma confines_select {f : Db Row → α} (ht : T.Tracked A v d) :
    T.Confines A (fun a x => a = f x) (select f : Prog Row κ ε α) v d := by
  intro L
  refine safe_select fun d' _ hr _ _ _ a ha => ?_
  cases ha
  exact ⟨ht.rely hr.1, ht.tame.mono hr.1, rfl⟩

lemma confines_selectForUpdate {pick : Db Row → Option (Entry (Row t))} (ht : T.Tracked A v d) :
    T.Confines A (fun a x => a = pick x) (selectForUpdate t pick : Prog Row κ ε _) v d := by
  intro L
  refine safe_selectForUpdate fun d' _ hr _ _ _ _ a ha => ?_
  cases ha
  exact ⟨ht.rely hr.1, ht.tame.mono hr.1, rfl⟩

variable [FromSql ε]

/-- A statement that succeeds makes a change within the rows of `A`. -/
theorem confines_statement {locks : Env Row κ → List (Lock τ κ)}
    {attempt : Env Row κ → Except SqlError (Change Row × α)} (ht : T.Tracked A v d)
    (h : ∀ env : Env Row κ, C.Lasting (v d) env.db → Keyed env.fresh env.db → ∀ c a, attempt env = .ok (c, a) →
      C.Stable c ∧ Grows c ∧ (∀ x N, C.Lasting env.db x → Keyed N x → T.Within A env.fresh x c) ∧
        K a (c.apply env.fresh env.db)) :
    T.Confines A K (statement locks attempt : Prog Row κ ε α) v d := by
  intro L
  refine safe_statement fun d' _ hr env henv hk => ⟨fun c a hat _ => ?_, fun e _ _ a ha => by cases ha⟩
  rw [← henv] at hk
  obtain ⟨hc, hg, hw, hK⟩ := h env (henv ▸ ht.tame.mono hr.1) hk c a hat
  intro b hb
  cases hb
  rw [henv] at hw hK
  exact ⟨(ht.rely hr.1).step hc hg hw, (ht.tame.mono hr.1).trans (hc.lasting _ _), hK⟩

lemma confines_selectOne {f : Db Row → Option α} (ht : T.Tracked A v d) :
    T.Confines A (fun a x => f x = some a) (selectOne f : Prog Row κ ε α) v d :=
  confines_statement ht fun env _ _ c a hat => by
    split at hat <;> cases hat
    rename_i hf
    exact ⟨trivial, trivial, fun _ _ _ _ => trivial, hf⟩

lemma confines_selectOneForUpdate {pick : Db Row → Option (Entry (Row t))} (ht : T.Tracked A v d) :
    T.Confines A (fun e x => pick x = some e) (selectOneForUpdate t pick : Prog Row κ ε _) v d :=
  confines_statement ht fun env _ _ c a hat => by
    split at hat <;> cases hat
    rename_i hpick
    exact ⟨trivial, trivial, fun _ _ _ _ => trivial, hpick⟩

lemma mem_insert {n : ℕ} {w : Row t} : (⟨n, w⟩ : Entry (Row t)) ∈ (Change.insert t w).apply n d t := by
  rw [Change.apply, Db.put_self]
  simp

lemma confines_insertRow {w : Row t} (ht : T.Tracked A v d) (hw : T.NewRow A t w (v d)) :
    T.Confines A (fun e x => e.val = w ∧ e ∈ x t) (insertRow t w : Prog Row κ ε _) v d :=
  confines_statement ht fun env hlast _ c a hat => by
    obtain ⟨-, rfl, rfl⟩ := tryInsert_ok hat
    exact ⟨trivial, trivial, fun x N hx hk => hw x N _ (hlast.trans hx) hk, rfl, mem_insert⟩

lemma confines_insertKeyed {w : ℕ → Row t} (ht : T.Tracked A v d) (hw : ∀ n, T.NewRow A t (w n) (v d)) :
    T.Confines A (fun e x => e.val = w e.id ∧ e ∈ x t) (insertKeyed t w : Prog Row κ ε _) v d :=
  confines_statement ht fun env hlast _ c a hat => by
    obtain ⟨-, rfl, rfl⟩ := tryInsert_ok hat
    exact ⟨trivial, trivial, fun x N hx hk => hw _ x N _ (hlast.trans hx) hk, rfl, mem_insert⟩

lemma confines_insertUnless {w : Row t} (ht : T.Tracked A v d) (hw : T.NewRow A t w (v d)) :
    T.Confines A (fun a x => ∀ e, a = some e → e.val = w ∧ e ∈ x t) (insertUnless t w : Prog Row κ ε _) v d :=
  confines_statement ht fun env hlast _ c a hat => by
    rcases tryInsertUnless_ok hat with ⟨-, rfl, rfl⟩ | ⟨-, rfl, rfl⟩
    · exact ⟨trivial, trivial, fun _ _ _ _ => trivial, fun e he => by cases he⟩
    · refine ⟨trivial, trivial, fun x N hx hk => hw x N _ (hlast.trans hx) hk, fun e he => ?_⟩
      cases he
      exact ⟨rfl, mem_insert⟩

lemma confines_insertOrFind {w : Row t} {find : Db Row → Option (Entry (Row t))} (ht : T.Tracked A v d)
    (hw : T.NewRow A t w (v d)) : T.Confines A (fun e x => (e.val = w ∧ e ∈ x t) ∨ find x = some e)
      (insertOrFind t w find : Prog Row κ ε _) v d :=
  confines_statement ht fun env hlast _ c a hat => by
    split at hat
    · cases hat
    · rename_i hins
      cases hat
      rcases tryInsertUnless_ok hins with ⟨-, -, hnone⟩ | ⟨-, rfl, hsome⟩
      · cases hnone
      · cases hsome
        exact ⟨trivial, trivial, fun x N hx hk => hw x N _ (hlast.trans hx) hk, .inl ⟨rfl, mem_insert⟩⟩
    · split at hat <;> cases hat
      rename_i hfind
      exact ⟨trivial, trivial, fun _ _ _ _ => trivial, .inr hfind⟩

lemma confines_update {q : Entry (Row t) → Bool} {f : Row t → Row t} (ht : T.Tracked A v d)
    (hq : T.Hits A t q (v d)) (hf : C.Updates t f) :
    T.Confines A (fun _ _ => True) (update t q f : Prog Row κ ε _) v d :=
  confines_statement ht fun env hlast _ c a hat => by
    obtain ⟨rfl, -⟩ := tryUpdate_ok hat
    exact ⟨hf, trivial, fun x N hx hk e he hp _ => .inr (hq x N (hlast.trans hx) hk e he hp), trivial⟩

lemma confines_updateOne {q : Entry (Row t) → Bool} {f : Row t → Row t} (ht : T.Tracked A v d)
    (hq : T.Hits A t q (v d)) (hf : C.Updates t f) :
    T.Confines A (fun _ _ => True) (updateOne t q f : Prog Row κ ε _) v d := by
  refine (confines_update ht hq hf).bind fun rows v' d' ht' _ _ => ?_
  unfold one
  split
  · exact .pure ht' trivial
  · exact .fail _

/-- An upsert that leaves the row it conflicts with as it is. -/
lemma confines_upsert_same {w : Row t} (ht : T.Tracked A v d) (hw : T.NewRow A t w (v d))
    (hmutable : C.appendOnly t = false) :
    T.Confines A (fun _ _ => True) (upsert t w id : Prog Row κ ε _) v d :=
  confines_statement ht fun env hlast _ c a hat => by
    unfold tryUpsert at hat
    split at hat
    · cases hat
    split at hat
    · split at hat <;> cases hat
      exact ⟨⟨hmutable, fun _ => rfl⟩, trivial, fun x N hx hk e he hp _ => .inl rfl, trivial⟩
    · split at hat <;> cases hat
      exact ⟨trivial, trivial, fun x N hx hk => hw x N _ (hlast.trans hx) hk, trivial⟩

/-- An upsert whose unique keys only rows of `A` can hold. -/
lemma confines_upsert {w : Row t} {f : Row t → Row t} (ht : T.Tracked A v d) (hw : T.NewRow A t w (v d))
    (hheld : ∀ e : Entry (Row t), ((Schema.keys t e.val).any fun k => (Schema.keys (κ := κ) t w).contains k) = true →
      T.via t e.val = none ∧ T.direct t e = some A)
    (ht' : C.erasable t = false) (hf : C.Updates t f) :
    T.Confines A (fun _ _ => True) (upsert t w f : Prog Row κ ε _) v d :=
  confines_statement ht fun env hlast _ c a hat => by
    unfold tryUpsert at hat
    split at hat
    · cases hat
    split at hat
    · rename_i e hholder
      split at hat <;> cases hat
      have hkeys := List.find?_some hholder
      obtain ⟨hvia, hdirect⟩ := hheld e hkeys
      have howns : T.Owns A t e.id env.db := ⟨e, mem_of_holder hholder, rfl, hvia, hdirect⟩
      refine ⟨hf, trivial, fun x N hx hk e' he' hp _ => .inr ?_, trivial⟩
      exact (howns.lasting ht' hx).mine hk he' (by simpa using hp)
    · split at hat <;> cases hat
      exact ⟨trivial, trivial, fun x N hx hk => hw x N _ (hlast.trans hx) hk, trivial⟩

variable (T)

/-- What the commit of a transaction that acts for `A` does. -/
structure Written (A : Ω) (d d' : Db Row) : Prop where
  lasting : C.Lasting d d'
  spared : ∀ S : Ω → Bool, S A = false → T.Spared S d d'

variable {T}

omit [FromSql ε] in
/-- A program that writes rows of one tenant only, known by the time it ends, commits nothing else. -/
lemma commits_tracked {Post : Except ε α → Db Row → Db Row → Prop} {Q : Ω → Db Row → Prop} {r : Except ε α}
    {L : List (Lock τ κ)} (hQ : ∀ A d d', C.Lasting d d' → Q A d → Q A d')
    (h : ∀ a, r = .ok a → ∃ A, T.Tracked A v d ∧ Q A (v d))
    (hok : ∀ a A d' N, T.Written A d' (v d') → Keyed N (v d') → Q A (v d') → Post (.ok a) d' (v d'))
    (herror : ∀ e d', Post (.error e) d' d') : C.lasting.Commits Post r L v d := by
  intro d' _ hr hkeyed
  cases r with
  | error e => exact herror e d'
  | ok a =>
    obtain ⟨N, hk⟩ := hkeyed
    obtain ⟨A, ht, hq⟩ := h a rfl
    have hwritten : T.Written A d' (v d') :=
      ⟨ht.tame.lasting d', fun S hS => ht.spared d' N hr.1 hk S hS⟩
    exact ⟨ht.tame.allowed L ⟨N, hk⟩, hok a A d' N hwritten hk (hQ A _ _ (ht.tame.mono hr.1) hq)⟩

end Tenancy
end ForgeCustomer.SqlTenancy
