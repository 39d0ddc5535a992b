import ForgeCustomer.SqlDiscipline

/-!
# Columns that never change

Rows outlast every transaction whose updates leave certain columns alone and whose deletions keep to
certain tables, however the statements of the transactions are interleaved. In append-only tables there is
neither an update nor a deletion.
-/
namespace ForgeCustomer.SqlColumns
open SqlTables SqlPrograms SqlStatements SqlSessions SqlDiscipline Discipline
set_option linter.unusedSectionVars false

variable {τ κ ε α β : Type} [DecidableEq τ] [DecidableEq κ] {Row : τ → Type} [Schema Row κ]

/-- What of a row no update sets, the other columns blanked out, the tables that rows are deleted from, and those that
take new rows only. -/
structure Columns (Row : τ → Type) where
  fixed : ∀ t, Row t → Row t
  erasable : τ → Bool
  appendOnly : τ → Bool

namespace Columns
variable (C : Columns Row)

/-- The rows of `d` are still there in `d'`, with their fixed columns. -/
def Lasting (d d' : Db Row) : Prop :=
  ∀ t, C.erasable t = false → ∀ e ∈ d t, ∃ e' ∈ d' t, e'.id = e.id ∧ C.fixed t e'.val = C.fixed t e.val

lemma Lasting.refl (d : Db Row) : C.Lasting d d := fun _ _ e he => ⟨e, he, rfl, rfl⟩

variable {C}

lemma Lasting.trans {d d' d'' : Db Row} (h : C.Lasting d d') (h' : C.Lasting d' d'') : C.Lasting d d'' := by
  intro t ht e he
  obtain ⟨e₁, he₁, hid₁, hfix₁⟩ := h t ht e he
  obtain ⟨e₂, he₂, hid₂, hfix₂⟩ := h' t ht e₁ he₁
  exact ⟨e₂, he₂, hid₂.trans hid₁, hfix₂.trans hfix₁⟩

variable (C)

/-- An update of the table that sets no fixed column. -/
structure Updates (t : τ) (f : Row t → Row t) : Prop where
  mutable : C.appendOnly t = false
  fixed : ∀ r, C.fixed t (f r) = C.fixed t r

/-- Rows may be deleted from the table. -/
structure Deletes (t : τ) : Prop where
  mutable : C.appendOnly t = false
  erasable : C.erasable t = true

/-- The change sets no fixed column and deletes from erasable tables only. -/
def Stable : Change Row → Prop
  | .nothing => True
  | .insert _ _ => True
  | .update t _ _ f => C.Updates t f
  | .delete t _ _ => C.Deletes t

/-- The change is no update and no deletion of an append-only table. -/
def Appends : Change Row → Prop
  | .nothing => True
  | .insert _ _ => True
  | .update t _ _ _ => C.appendOnly t = false
  | .delete t _ _ => C.appendOnly t = false

variable {C}

lemma fixed_updateEntry {t : τ} {p : Entry (Row t) → Bool} {f : Row t → Row t}
    (hf : ∀ r, C.fixed t (f r) = C.fixed t r) (e : Entry (Row t)) :
    C.fixed t (updateEntry p f e).val = C.fixed t e.val := by
  unfold updateEntry
  split
  · exact hf e.val
  · rfl

/-- A stable change does to a row that has lasted what it would have done before. -/
lemma Stable.lasting_mono {c : Change Row} (hc : C.Stable c) (n : ℕ) {d d' : Db Row} (h : C.Lasting d d') :
    C.Lasting (c.apply n d) (c.apply n d') := by
  intro t ht e he
  cases c with
  | nothing => exact h t ht e he
  | insert u v =>
    by_cases hu : t = u
    · subst hu
      rw [Change.apply, Db.put_self] at he ⊢
      rcases List.mem_append.mp he with he | he
      · obtain ⟨e', he', hsame⟩ := h t ht e he
        exact ⟨e', List.mem_append_left _ he', hsame⟩
      · exact ⟨e, List.mem_append_right _ he, rfl, rfl⟩
    · rw [Change.apply, Db.put_of_ne _ hu] at he ⊢
      exact h t ht e he
  | update u p ids f =>
    by_cases hu : t = u
    · subst hu
      rw [Change.apply, Db.put_self] at he ⊢
      obtain ⟨e₀, he₀, rfl⟩ := List.mem_map.mp he
      obtain ⟨e', he', hid, hfix⟩ := h t ht e₀ he₀
      change ∃ e' : Entry (Row t), e' ∈ _ ∧ e'.id = (updateEntry (fun e => p e && ids.contains e.id) f e₀).id ∧
        C.fixed t e'.val = C.fixed t (updateEntry (fun e => p e && ids.contains e.id) f e₀).val
      rw [updateEntry_id, fixed_updateEntry hc.fixed]
      exact ⟨updateEntry (fun e => p e && ids.contains e.id) f e', List.mem_map_of_mem he',
        (updateEntry_id _ _ e').trans hid, (fixed_updateEntry hc.fixed e').trans hfix⟩
    · rw [Change.apply, Db.put_of_ne _ hu] at he ⊢
      exact h t ht e he
  | delete u p ids =>
    have hu : t ≠ u := by
      rintro rfl
      exact Bool.false_ne_true (ht.symm.trans hc.erasable)
    rw [Change.apply, Db.put_of_ne _ hu] at he ⊢
    exact h t ht e he

lemma Stable.lasting {c : Change Row} (hc : C.Stable c) (n : ℕ) (d : Db Row) : C.Lasting d (c.apply n d) := by
  intro t ht e he
  cases c with
  | nothing => exact ⟨e, he, rfl, rfl⟩
  | insert u v =>
    refine ⟨e, ?_, rfl, rfl⟩
    by_cases hu : t = u
    · subst hu
      rw [Change.apply, Db.put_self]
      exact List.mem_append_left _ he
    · rwa [Change.apply, Db.put_of_ne _ hu]
  | update u p ids f =>
    by_cases hu : t = u
    · subst hu
      rw [Change.apply, Db.put_self]
      exact ⟨updateEntry (fun e => p e && ids.contains e.id) f e, List.mem_map_of_mem he, updateEntry_id _ _ e,
        fixed_updateEntry hc.fixed e⟩
    · rw [Change.apply, Db.put_of_ne _ hu]
      exact ⟨e, he, rfl, rfl⟩
  | delete u p ids =>
    have hu : t ≠ u := by
      rintro rfl
      exact Bool.false_ne_true (ht.symm.trans hc.erasable)
    rw [Change.apply, Db.put_of_ne _ hu]
    exact ⟨e, he, rfl, rfl⟩

variable (C)

/-- Every statement of the program is stable. -/
def Respects (p : Prog Row κ ε α) : Prop := p.Each fun _ _ c => C.Stable c

variable {C}

section Statements
variable {t : τ}

lemma Respects.pure (a : α) : C.Respects (Pure.pure a : Prog Row κ ε α) := trivial

lemma Respects.fail (e : ε) : C.Respects (.fail e : Prog Row κ ε α) := trivial

lemma Respects.bind {p : Prog Row κ ε α} {k : α → Prog Row κ ε β} (hp : C.Respects p)
    (hk : ∀ a, C.Respects (k a)) : C.Respects (p >>= k) := Prog.Each.bind hp hk

lemma respects_select (f : Db Row → α) : C.Respects (select f : Prog Row κ ε α) := fun _ => ⟨trivial, trivial⟩

lemma respects_newKey : C.Respects (newKey : Prog Row κ ε ℕ) := fun _ => ⟨trivial, trivial⟩

lemma respects_selectForUpdate (pick : Db Row → Option (Entry (Row t))) :
    C.Respects (selectForUpdate t pick : Prog Row κ ε _) := fun _ => ⟨trivial, trivial⟩

lemma Respects.translate {ε' α' : Type} (f : ε → ε') (g : α → α') {p : Prog Row κ ε α} (hp : C.Respects p) :
    C.Respects (Discipline.translate f g p) := by
  induction p with
  | done | fail => trivial
  | stmt l c n ih => exact fun env => ⟨(hp env).1, ih env (hp env).2⟩

variable [FromSql ε]

lemma respects_statement {locks : Env Row κ → List (Lock τ κ)}
    {attempt : Env Row κ → Except SqlError (Change Row × α)} (h : ∀ env c a, attempt env = .ok (c, a) → C.Stable c) :
    C.Respects (statement locks attempt : Prog Row κ ε α) :=
  statement_each fun env => by
    cases hat : attempt env with
    | ok x => exact h env x.1 x.2 hat
    | error e => trivial

lemma respects_selectOne (f : Db Row → Option α) : C.Respects (selectOne f : Prog Row κ ε α) :=
  respects_statement fun env c a hat => by
    split at hat <;> cases hat
    trivial

lemma respects_selectOneForUpdate (pick : Db Row → Option (Entry (Row t))) :
    C.Respects (selectOneForUpdate t pick : Prog Row κ ε _) :=
  respects_statement fun env c a hat => by
    split at hat <;> cases hat
    trivial

lemma respects_one (rows : List α) : C.Respects (one rows : Prog Row κ ε α) := by
  cases rows <;> trivial

lemma respects_insertRow (v : Row t) : C.Respects (insertRow t v : Prog Row κ ε _) :=
  respects_statement fun env c a hat => by
    obtain ⟨-, rfl, -⟩ := tryInsert_ok hat
    trivial

lemma respects_insertKeyed (v : ℕ → Row t) : C.Respects (insertKeyed t v : Prog Row κ ε _) :=
  respects_statement fun env c a hat => by
    obtain ⟨-, rfl, -⟩ := tryInsert_ok hat
    trivial

lemma respects_insertUnless (v : Row t) : C.Respects (insertUnless t v : Prog Row κ ε _) :=
  respects_statement fun env c a hat => by
    rcases tryInsertUnless_ok hat with ⟨-, rfl, -⟩ | ⟨-, rfl, -⟩ <;> trivial

lemma respects_insertOrFind (v : Row t) (find : Db Row → Option (Entry (Row t))) :
    C.Respects (insertOrFind t v find : Prog Row κ ε _) :=
  respects_statement fun env c a hat => by
    split at hat
    · cases hat
    · rename_i hins
      cases hat
      rcases tryInsertUnless_ok hins with ⟨-, rfl, -⟩ | ⟨-, rfl, -⟩ <;> trivial
    · split at hat <;> cases hat
      trivial

lemma respects_upsert (v : Row t) {f : Row t → Row t} (hf : C.Updates t f) :
    C.Respects (upsert t v f : Prog Row κ ε _) :=
  respects_statement fun env c a hat => by
    unfold tryUpsert at hat
    split at hat
    · cases hat
    split at hat
    · split at hat <;> cases hat
      exact hf
    · split at hat <;> cases hat
      trivial

lemma respects_updateFrom (p : Db Row → Entry (Row t) → Bool) {f : Row t → Row t}
    (hf : C.Updates t f) : C.Respects (updateFrom t p f : Prog Row κ ε _) :=
  respects_statement fun env c a hat => by
    obtain ⟨rfl, -⟩ := tryUpdate_ok hat
    exact hf

lemma respects_update (p : Entry (Row t) → Bool) {f : Row t → Row t}
    (hf : C.Updates t f) : C.Respects (update t p f : Prog Row κ ε _) :=
  respects_updateFrom (fun _ => p) hf

lemma respects_updateOne (p : Entry (Row t) → Bool) {f : Row t → Row t}
    (hf : C.Updates t f) : C.Respects (updateOne t p f : Prog Row κ ε _) :=
  (respects_update p hf).bind respects_one

lemma respects_updatePicked (pick : Env Row κ → List (Entry (Row t))) {f : Row t → Row t}
    (hf : C.Updates t f) : C.Respects (updatePicked t pick f : Prog Row κ ε _) :=
  respects_statement fun env c a hat => by
    cases hat
    exact hf

lemma respects_delete (p : Entry (Row t) → Bool) (ht : C.Deletes t) :
    C.Respects (delete t p : Prog Row κ ε _) :=
  respects_statement fun env c a hat => by
    cases hat
    exact ht

end Statements

section Interleavings

variable (C)

/-- Transactions may do anything that rows outlast. -/
def lasting : Discipline Row κ where
  global d := ∃ n, Keyed n d
  evolves := C.Lasting
  evolves_refl := Lasting.refl C
  evolves_trans _ _ _ := Lasting.trans
  Key := Empty
  Part _ := Unit
  part _ _ := ()
  ok _ _ := True
  guards _ _ _ := True
  guards_mono := Discipline.noKeys_mono
  exclusive := Discipline.noKeys_exclusive

/-- Pending writes that carry over to rows that have lasted. -/
structure Tame (v : Db Row → Db Row) : Prop where
  mono : ∀ {d d'}, C.Lasting d d' → C.Lasting (v d) (v d')
  lasting : ∀ d, C.Lasting d (v d)

variable {C}

lemma tame_id : C.Tame (id : Db Row → Db Row) := ⟨fun h => h, fun d => Lasting.refl C d⟩

lemma Tame.step {v : Db Row → Db Row} (hv : C.Tame v) {c : Change Row} (hc : C.Stable c) (n : ℕ) :
    C.Tame fun x => c.apply n (v x) :=
  ⟨fun h => hc.lasting_mono n (hv.mono h), fun d => (hv.lasting d).trans (hc.lasting n (v d))⟩

lemma safe_respects {D : Env Row κ → Change Row → List (Lock τ κ) → Prop}
    {Q : Except ε α → List (Lock τ κ) → (Db Row → Db Row) → Db Row → Prop} {p : Prog Row κ ε α}
    {L : List (Lock τ κ)} {v : Db Row → Db Row} {d : Db Row} (hp : C.Respects p) (hv : C.Tame v)
    (h : ∀ r L' v' d', C.Tame v' → Q r L' v' d') : C.lasting.Safe D Q p L v d :=
  safe_each hp (fun _ n _ hc hv => hv.step hc n) hv h

lemma Tame.allowed {v : Db Row → Db Row} (hv : C.Tame v) (L : List (Lock τ κ)) {d : Db Row}
    (hk : ∃ n, Keyed n (v d)) : C.lasting.Allowed L v d := ⟨hk, hv.lasting d, fun K => K.elim, fun K => K.elim⟩

section Sessions
variable {store : Store Row} {progs : List (Prog Row κ ε α)} {y y' : Sys Row κ ε α}

lemma reachable_sound (hk : store.Keyed) (hprogs : ∀ p ∈ progs, C.Respects p)
    (hy : Sys.Reachable (Sys.start store progs) y) :
    Sound C.lasting (fun _ _ _ _ => True) (fun _ _ _ _ => True) y := by
  refine reach_sound ⟨⟨_, hk⟩, fun K => K.elim⟩ hk (fun i p hp d _ => ?_) hy
  refine safe_respects (hprogs p (List.mem_of_getElem? hp)) tame_id fun r L v d hv => ?_
  intro d' _ _ hkeyed
  cases r with
  | ok a => exact ⟨hv.allowed L hkeyed, trivial⟩
  | error e => trivial

lemma step_lasting (hk : store.Keyed) (hprogs : ∀ p ∈ progs, C.Respects p)
    (hy : Sys.Reachable (Sys.start store progs) y) {m : Move} (h : y.step m = some y') :
    C.Lasting y.store.db y'.store.db := by
  rcases step_log h with ⟨-, hdb⟩ | ⟨c, hc, hbefore, hafter⟩
  · rw [hdb]
    exact Lasting.refl C _
  · have hsound := reachable_sound hk hprogs (hy.step (fun _ _ _ _ _ _ _ _ => trivial) h)
    have hcommit : C.Lasting c.before c.after := (hsound.log c (by simp [hc])).2.1
    rwa [hbefore, hafter] at hcommit

end Sessions

end Interleavings
end Columns
end ForgeCustomer.SqlColumns
