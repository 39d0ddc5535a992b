import ForgeCustomer.SqlPrograms

/-!
# The statements the programs are made of

Each form of statement comes with what it does when the program runs alone (`run_`) and with
the tables it touches.
-/
namespace ForgeCustomer.SqlStatements
open SqlTables SqlPrograms
set_option linter.unusedSectionVars false

/-- Errors that a failed statement turns into. -/
class FromSql (ε : Type) where
  sql : SqlError → ε

instance : FromSql SqlError := ⟨id⟩

variable {τ : Type} [DecidableEq τ] {Row : τ → Type} {κ ε α β : Type} [DecidableEq κ] [FromSql ε]

/-- The change of a statement that may be refused. -/
def attempted (r : Except SqlError (Change Row × α)) : Change Row :=
  match r with
  | .ok x => x.1
  | .error _ => .nothing

/-- A statement that makes a change and answers, or is refused and changes nothing. -/
def statement (locks : Env Row κ → List (Lock τ κ))
    (attempt : Env Row κ → Except SqlError (Change Row × α)) : Prog Row κ ε α :=
  .stmt locks (fun env => attempted (attempt env)) fun env =>
    match attempt env with
    | .ok x => .done x.2
    | .error e => .fail (FromSql.sql e)

lemma run_statement_ok {locks : Env Row κ → List (Lock τ κ)}
    {attempt : Env Row κ → Except SqlError (Change Row × α)} {s : Store Row} {c : Change Row} {a : α}
    (h : attempt s.env = .ok (c, a)) :
    (statement locks attempt : Prog Row κ ε α).run s = (.ok a, s.after c) := by
  simp [statement, Prog.run, attempted, h]

lemma run_statement_error {locks : Env Row κ → List (Lock τ κ)}
    {attempt : Env Row κ → Except SqlError (Change Row × α)} {s : Store Row} {e : SqlError}
    (h : attempt s.env = .error e) :
    (statement locks attempt : Prog Row κ ε α).run s = (.error (FromSql.sql e), s.after .nothing) := by
  simp [statement, Prog.run, attempted, h]

lemma statement_each {P : Env Row κ → List (Lock τ κ) → Change Row → Prop}
    {locks : Env Row κ → List (Lock τ κ)}
    {attempt : Env Row κ → Except SqlError (Change Row × α)}
    (h : ∀ env, P env (locks env) (attempted (attempt env))) :
    (statement locks attempt : Prog Row κ ε α).Each P := by
  intro env
  refine ⟨h env, ?_⟩
  dsimp only
  split <;> trivial

lemma errors_attempt {E : ε → Prop} {locks : Env Row κ → List (Lock τ κ)}
    {attempt : Env Row κ → Except SqlError (Change Row × α)} (h : ∀ env e, attempt env = .error e → E (FromSql.sql e)) :
    (statement locks attempt : Prog Row κ ε α).Errors E := by
  intro env
  dsimp only
  cases hat : attempt env with
  | ok x => trivial
  | error e => exact h env e hat

lemma errors_statement {E : ε → Prop} (h : ∀ e, E (FromSql.sql e)) {locks : Env Row κ → List (Lock τ κ)}
    {attempt : Env Row κ → Except SqlError (Change Row × α)} :
    (statement locks attempt : Prog Row κ ε α).Errors E := errors_attempt fun _ e _ => h e

/-- `order by … limit 1`: the first row that no other comes before. -/
def firstBy (before : α → α → Bool) : List α → Option α
  | [] => none
  | a :: rows =>
    match firstBy before rows with
    | none => some a
    | some b => if before b a then some b else some a

lemma mem_of_firstBy {before : α → α → Bool} {rows : List α} {a : α} (h : firstBy before rows = some a) :
    a ∈ rows := by
  induction rows with
  | nil => cases h
  | cons b rows ih =>
    unfold firstBy at h
    split at h
    · cases h
      simp
    · split at h
      · cases h
        exact List.mem_cons_of_mem _ (ih ‹_›)
      · cases h
        simp

lemma firstBy_eq_none {before : α → α → Bool} {rows : List α} (h : firstBy before rows = none) : rows = [] := by
  cases rows with
  | nil => rfl
  | cons a rows =>
    unfold firstBy at h
    split at h
    · cases h
    · split at h <;> cases h

/-- In a strict weak order nothing comes before the first row. -/
theorem not_before_firstBy {before : α → α → Bool} (hasymm : ∀ a b, before a b = true → before b a = false)
    (htrans : ∀ a b c, before c b = false → before b a = false → before c a = false) {rows : List α} {a : α}
    (h : firstBy before rows = some a) : ∀ b ∈ rows, before b a = false := by
  have hirrefl : ∀ a, before a a = false := fun a => by
    cases haa : before a a with
    | false => rfl
    | true => exact haa.symm.trans (hasymm a a haa)
  induction rows generalizing a with
  | nil => cases h
  | cons b rows ih =>
    unfold firstBy at h
    intro c hc
    split at h
    · rename_i hnone
      cases h
      obtain rfl := firstBy_eq_none hnone
      obtain rfl : c = b := by simpa using hc
      exact hirrefl c
    · rename_i b' hb'
      split at h
      · rename_i hbefore
        cases h
        rcases List.mem_cons.mp hc with rfl | hc
        · exact hasymm _ _ hbefore
        · exact ih hb' c hc
      · rename_i hbefore
        cases h
        rcases List.mem_cons.mp hc with rfl | hc
        · exact hirrefl c
        · exact htrans _ _ _ (ih hb' c hc) (by simpa using hbefore)

lemma firstBy_map {before : β → β → Bool} (f : α → β) (rows : List α) :
    firstBy before (rows.map f) = (firstBy (fun a b => before (f a) (f b)) rows).map f := by
  induction rows with
  | nil => rfl
  | cons a rows ih =>
    simp only [List.map_cons, firstBy, ih]
    cases firstBy (fun a b => before (f a) (f b)) rows with
    | none => rfl
    | some b =>
      simp only [Option.map_some]
      split <;> rfl

lemma firstBy_congr {before before' : α → α → Bool} {rows : List α}
    (h : ∀ a ∈ rows, ∀ b ∈ rows, before a b = before' a b) : firstBy before rows = firstBy before' rows := by
  induction rows with
  | nil => rfl
  | cons a rows ih =>
    have hrest := ih fun x hx y hy => h x (List.mem_cons_of_mem _ hx) y (List.mem_cons_of_mem _ hy)
    simp only [firstBy, hrest]
    cases hfirst : firstBy before' rows with
    | none => rfl
    | some b =>
      have hb : b ∈ a :: rows := List.mem_cons_of_mem _ (mem_of_firstBy hfirst)
      simp only [h b hb a (by simp)]

/-- A query without locks. -/
def select (f : Db Row → α) : Prog Row κ ε α :=
  .stmt (fun _ => []) (fun _ => .nothing) fun env => .done (f env.db)

/-- A generated key that no row has (`Uuid::new_v4`). -/
def newKey : Prog Row κ ε ℕ := .stmt (fun _ => []) (fun _ => .nothing) fun env => .done env.fresh

/-- `fetch_one`: the query must find something. -/
def selectOne (f : Db Row → Option α) : Prog Row κ ε α :=
  statement (fun _ => []) fun env =>
    match f env.db with
    | some a => .ok (.nothing, a)
    | none => .error .rowNotFound

/-- `select … for update` of at most one row. -/
def selectForUpdate (t : τ) (pick : Db Row → Option (Entry (Row t))) :
    Prog Row κ ε (Option (Entry (Row t))) :=
  .stmt (fun env => ((pick env.db).map fun e => Lock.row t e.id).toList) (fun _ => .nothing)
    fun env => .done (pick env.db)

def selectOneForUpdate (t : τ) (pick : Db Row → Option (Entry (Row t))) :
    Prog Row κ ε (Entry (Row t)) :=
  statement (fun env => ((pick env.db).map fun e => Lock.row t e.id).toList) fun env =>
    match pick env.db with
    | some e => .ok (.nothing, e)
    | none => .error .rowNotFound

@[simp] lemma after_nothing (s : Store Row) : s.after .nothing = ⟨s.db, s.seq + 1⟩ := rfl

@[simp] lemma run_select (f : Db Row → α) (s : Store Row) :
    (select f : Prog Row κ ε α).run s = (.ok (f s.db), ⟨s.db, s.seq + 1⟩) := rfl

@[simp] lemma run_selectForUpdate (t : τ) (pick : Db Row → Option (Entry (Row t))) (s : Store Row) :
    (selectForUpdate t pick : Prog Row κ ε _).run s = (.ok (pick s.db), ⟨s.db, s.seq + 1⟩) := rfl

@[simp] lemma run_newKey (s : Store Row) :
    (newKey : Prog Row κ ε ℕ).run s = (.ok s.seq, ⟨s.db, s.seq + 1⟩) := rfl

lemma run_selectOne {f : Db Row → Option α} {s : Store Row} {a : α} (h : f s.db = some a) :
    (selectOne f : Prog Row κ ε α).run s = (.ok a, ⟨s.db, s.seq + 1⟩) := by
  simp [selectOne, statement, Prog.run, attempted, Store.env, h]

lemma run_selectOneForUpdate {t : τ} {pick : Db Row → Option (Entry (Row t))} {s : Store Row}
    {e : Entry (Row t)} (h : pick s.db = some e) :
    (selectOneForUpdate t pick : Prog Row κ ε _).run s = (.ok e, ⟨s.db, s.seq + 1⟩) := by
  simp [selectOneForUpdate, statement, Prog.run, attempted, Store.env, h]

/-- The rows an update hits, unless one of them may not take its new value. -/
def tryUpdate (t : τ) [Schema Row κ] (p : Db Row → Entry (Row t) → Bool) (f : Row t → Row t)
    (d : Db Row) : Except SqlError (Change Row × List (Entry (Row t))) :=
  let hit := (d t).filter (p d)
  match hit.findSome? fun e => d.updateRefusal t e.val (f e.val) with
  | some e => .error e
  | none => .ok (.update t (p d) (hit.map (·.id)) f, hit.map fun e => ⟨e.id, f e.val⟩)

/-- `update … set … from … where …`, returning the rows as updated. -/
def updateFrom (t : τ) [Schema Row κ] (p : Db Row → Entry (Row t) → Bool) (f : Row t → Row t) :
    Prog Row κ ε (List (Entry (Row t))) :=
  statement (fun _ => []) fun env => tryUpdate t p f env.db

/-- An update whose condition reads the updated table only. -/
def update (t : τ) [Schema Row κ] (p : Entry (Row t) → Bool) (f : Row t → Row t) :
    Prog Row κ ε (List (Entry (Row t))) :=
  updateFrom t (fun _ => p) f

/-- `fetch_one` on what a statement returned. -/
def one (rows : List α) : Prog Row κ ε α :=
  match rows with
  | a :: _ => pure a
  | [] => .fail (FromSql.sql .rowNotFound)

/-- An update that must hit a row, answering the first one. -/
def updateOne (t : τ) [Schema Row κ] (p : Entry (Row t) → Bool) (f : Row t → Row t) :
    Prog Row κ ε (Entry (Row t)) := do
  let rows ← update t p f
  one rows

/-- An update of rows chosen with regard to the locks that others hold (`skip locked`). -/
def updatePicked (t : τ) (pick : Env Row κ → List (Entry (Row t))) (f : Row t → Row t) :
    Prog Row κ ε (List (Entry (Row t))) :=
  statement (fun _ => []) fun env =>
    .ok (.update t (fun _ => true) ((pick env).map (·.id)) f,
      (pick env).map fun e => ⟨e.id, f e.val⟩)

/-- `delete`, answering the number of rows. -/
def delete (t : τ) (p : Entry (Row t) → Bool) : Prog Row κ ε ℕ :=
  statement (fun _ => []) fun env =>
    .ok (.delete t p (((env.db t).filter p).map (·.id)), ((env.db t).filter p).length)

lemma filter_hit {t : τ} {p : Entry (Row t) → Bool} {rows : List (Entry (Row t))}
    {e : Entry (Row t)} (he : e ∈ rows) :
    (p e && ((rows.filter p).map (·.id)).contains e.id) = p e := by
  by_cases hp : p e = true
  · have h : e.id ∈ (rows.filter p).map (·.id) :=
      List.mem_map_of_mem (List.mem_filter.mpr ⟨he, hp⟩)
    rw [hp, List.contains_iff_mem.mpr h, Bool.and_self]
  · rw [Bool.not_eq_true _ |>.mp hp, Bool.false_and]

theorem run_updateFrom {t : τ} [Schema Row κ] {p : Db Row → Entry (Row t) → Bool}
    {f : Row t → Row t} {s : Store Row}
    (h : ∀ e ∈ s.db t, p s.db e = true → s.db.updateRefusal t e.val (f e.val) = none) :
    (updateFrom t p f : Prog Row κ ε _).run s =
      (.ok (((s.db t).filter (p s.db)).map fun e => ⟨e.id, f e.val⟩),
        ⟨s.db.put t (updateRows (p s.db) f (s.db t)), s.seq + 1⟩) := by
  have hnone : ((s.db t).filter (p s.db)).findSome?
      (fun e => s.db.updateRefusal t e.val (f e.val)) = none := by
    rw [List.findSome?_eq_none_iff]
    intro e he
    exact h e (List.mem_filter.mp he).1 (List.mem_filter.mp he).2
  have htry : tryUpdate t p f s.db = .ok (.update t (p s.db) (((s.db t).filter (p s.db)).map (·.id)) f,
      ((s.db t).filter (p s.db)).map fun e => ⟨e.id, f e.val⟩) := by
    rw [tryUpdate, hnone]
  rw [updateFrom, run_statement_ok htry]
  simp only [Store.after, Change.apply]
  rw [updateRows_congr (fun e he => filter_hit he) fun _ _ _ => rfl]

lemma run_update {t : τ} [Schema Row κ] {p : Entry (Row t) → Bool} {f : Row t → Row t}
    {s : Store Row}
    (h : ∀ e ∈ s.db t, p e = true → s.db.updateRefusal t e.val (f e.val) = none) :
    (update t p f : Prog Row κ ε _).run s =
      (.ok (((s.db t).filter p).map fun e => ⟨e.id, f e.val⟩),
        ⟨s.db.put t (updateRows p f (s.db t)), s.seq + 1⟩) :=
  run_updateFrom h

lemma run_delete {t : τ} {p : Entry (Row t) → Bool} {s : Store Row} :
    (delete t p : Prog Row κ ε _).run s =
      (.ok ((s.db t).filter p).length, ⟨s.db.put t ((s.db t).filter fun e => !p e), s.seq + 1⟩) := by
  have h : ∀ e ∈ s.db t, (!(p e && (((s.db t).filter p).map (·.id)).contains e.id)) = !p e :=
    fun e he => by rw [filter_hit he]
  rw [delete, run_statement_ok rfl]
  simp only [Store.after, Change.apply, Store.env]
  rw [List.filter_congr h]

/-- `insert … returning …`. -/
def insertRow (t : τ) [Schema Row κ] (v : Row t) : Prog Row κ ε (Entry (Row t)) :=
  statement (fun _ => []) fun env =>
    match env.db.refusal t v with
    | some e => .error e
    | none => .ok (.insert t v, ⟨env.fresh, v⟩)

/-- An insert whose row mentions its own key, which the program has generated. -/
def insertKeyed (t : τ) [Schema Row κ] (v : ℕ → Row t) : Prog Row κ ε (Entry (Row t)) :=
  statement (fun _ => []) fun env =>
    match env.db.refusal t (v env.fresh) with
    | some e => .error e
    | none => .ok (.insert t (v env.fresh), ⟨env.fresh, v env.fresh⟩)

/-- What `on conflict do nothing` makes of a new row. -/
def tryInsertUnless (t : τ) [Schema Row κ] (v : Row t) (n : ℕ) (d : Db Row) :
    Except SqlError (Change Row × Option (Entry (Row t))) :=
  if !Schema.check t v then .error .checkViolation
  else if d.taken t v then .ok (.nothing, none)
  else if !d.refsOk t v then .error .foreignKeyViolation
  else .ok (.insert t v, some ⟨n, v⟩)

section Succeeded
variable [Schema Row κ]

lemma tryUpdate_ok {t : τ} {p : Db Row → Entry (Row t) → Bool} {f : Row t → Row t} {d : Db Row} {c : Change Row}
    {rows : List (Entry (Row t))} (h : tryUpdate (κ := κ) t p f d = .ok (c, rows)) :
    c = .update t (p d) (((d t).filter (p d)).map (·.id)) f ∧
      rows = ((d t).filter (p d)).map fun e => ⟨e.id, f e.val⟩ := by
  unfold tryUpdate at h
  dsimp only at h
  split at h
  · cases h
  · cases h
    exact ⟨rfl, rfl⟩

lemma tryInsert_ok {t : τ} {v : Row t} {n : ℕ} {d : Db Row} {c : Change Row} {e : Entry (Row t)}
    (h : (match d.refusal (κ := κ) t v with
      | some e => Except.error e
      | none => .ok (Change.insert t v, (⟨n, v⟩ : Entry (Row t)))) = .ok (c, e)) :
    d.refusal (κ := κ) t v = none ∧ c = .insert t v ∧ e = ⟨n, v⟩ := by
  split at h
  · cases h
  · rename_i hnone
    cases h
    exact ⟨hnone, rfl, rfl⟩

lemma tryInsertUnless_ok {t : τ} {v : Row t} {n : ℕ} {d : Db Row} {c : Change Row} {a : Option (Entry (Row t))}
    (h : tryInsertUnless (κ := κ) t v n d = .ok (c, a)) : (d.taken (κ := κ) t v = true ∧ c = .nothing ∧ a = none) ∨
      (d.taken (κ := κ) t v = false ∧ c = .insert t v ∧ a = some ⟨n, v⟩) := by
  unfold tryInsertUnless at h
  split at h
  · cases h
  split at h
  · rename_i htaken
    cases h
    exact .inl ⟨htaken, rfl, rfl⟩
  · rename_i htaken
    split at h
    · cases h
    · cases h
      exact .inr ⟨by simpa using htaken, rfl, rfl⟩

end Succeeded

/-- `insert … on conflict do nothing returning …`. -/
def insertUnless (t : τ) [Schema Row κ] (v : Row t) : Prog Row κ ε (Option (Entry (Row t))) :=
  statement (fun _ => []) fun env => tryInsertUnless t v env.fresh env.db

/-- `with inserted as (insert … on conflict do nothing …) select … union all select …`. -/
def insertOrFind (t : τ) [Schema Row κ] (v : Row t) (find : Db Row → Option (Entry (Row t))) :
    Prog Row κ ε (Entry (Row t)) :=
  statement (fun _ => []) fun env =>
    match tryInsertUnless t v env.fresh env.db with
    | .error e => .error e
    | .ok (c, some e) => .ok (c, e)
    | .ok (_, none) =>
      match find env.db with
      | some e => .ok (.nothing, e)
      | none => .error .rowNotFound

/-- The stored row that holds one of the unique keys of `v`. -/
def holder (t : τ) [Schema Row κ] (v : Row t) (d : Db Row) : Option (Entry (Row t)) :=
  (d t).find? fun e => (Schema.keys t e.val).any fun k => (Schema.keys t v).contains k

/-- What `on conflict do update` makes of a new row. -/
def tryUpsert (t : τ) [Schema Row κ] (v : Row t) (f : Row t → Row t) (n : ℕ) (d : Db Row) :
    Except SqlError (Change Row × Entry (Row t)) :=
  if !Schema.check t v then .error .checkViolation
  else match holder t v d with
    | some e =>
      match d.updateRefusal t e.val (f e.val) with
      | some err => .error err
      | none => .ok (.update t (fun x => x.id == e.id) [e.id] f, ⟨e.id, f e.val⟩)
    | none =>
      if !d.refsOk t v then .error .foreignKeyViolation
      else .ok (.insert t v, ⟨n, v⟩)

/-- `insert … on conflict do update set … returning …`. -/
def upsert (t : τ) [Schema Row κ] (v : Row t) (f : Row t → Row t) : Prog Row κ ε (Entry (Row t)) :=
  statement (fun _ => []) fun env => tryUpsert t v f env.fresh env.db

lemma refusal_none {t : τ} [Schema Row κ] {v : Row t} {d : Db Row} (hc : Schema.check t v = true)
    (hk : d.taken t v = false) (hr : d.refsOk t v = true) : d.refusal t v = none := by
  simp [Db.refusal, hc, hk, hr]

lemma run_insertRow {t : τ} [Schema Row κ] {v : Row t} {s : Store Row}
    (hc : Schema.check t v = true) (hk : s.db.taken t v = false) (hr : s.db.refsOk t v = true) :
    (insertRow t v : Prog Row κ ε _).run s =
      (.ok ⟨s.seq, v⟩, ⟨s.db.put t (s.db t ++ [⟨s.seq, v⟩]), s.seq + 1⟩) := by
  rw [insertRow, run_statement_ok (c := .insert t v) (a := ⟨s.seq, v⟩)]
  · rfl
  · simp only [Store.env, refusal_none hc hk hr]

lemma run_insertUnless_some {t : τ} [Schema Row κ] {v : Row t} {s : Store Row}
    (hc : Schema.check t v = true) (hk : s.db.taken t v = false) (hr : s.db.refsOk t v = true) :
    (insertUnless t v : Prog Row κ ε _).run s =
      (.ok (some ⟨s.seq, v⟩), ⟨s.db.put t (s.db t ++ [⟨s.seq, v⟩]), s.seq + 1⟩) := by
  rw [insertUnless, run_statement_ok (c := .insert t v) (a := some ⟨s.seq, v⟩)]
  · rfl
  · simp [Store.env, tryInsertUnless, hc, hk, hr]

lemma run_insertUnless_none {t : τ} [Schema Row κ] {v : Row t} {s : Store Row}
    (hc : Schema.check t v = true) (hk : s.db.taken t v = true) :
    (insertUnless t v : Prog Row κ ε _).run s = (.ok none, ⟨s.db, s.seq + 1⟩) := by
  rw [insertUnless, run_statement_ok (c := .nothing) (a := none)]
  · rfl
  · simp [Store.env, tryInsertUnless, hc, hk]

lemma run_upsert_new {t : τ} [Schema Row κ] {v : Row t} {f : Row t → Row t} {s : Store Row}
    (hc : Schema.check t v = true) (hk : holder t v s.db = none) (hr : s.db.refsOk t v = true) :
    (upsert t v f : Prog Row κ ε _).run s =
      (.ok ⟨s.seq, v⟩, ⟨s.db.put t (s.db t ++ [⟨s.seq, v⟩]), s.seq + 1⟩) := by
  rw [upsert, run_statement_ok (c := .insert t v) (a := ⟨s.seq, v⟩)]
  · rfl
  · simp [Store.env, tryUpsert, hc, hk, hr]

lemma run_upsert_held {t : τ} [Schema Row κ] {v : Row t} {f : Row t → Row t} {s : Store Row}
    {e : Entry (Row t)} (hc : Schema.check t v = true) (hk : holder t v s.db = some e)
    (hr : s.db.updateRefusal t e.val (f e.val) = none) :
    (upsert t v f : Prog Row κ ε _).run s =
      (.ok ⟨e.id, f e.val⟩,
        ⟨s.db.put t (updateRows (fun x => x.id == e.id) f (s.db t)), s.seq + 1⟩) := by
  rw [upsert, run_statement_ok (c := .update t (fun x => x.id == e.id) [e.id] f)
    (a := ⟨e.id, f e.val⟩)]
  · simp only [Store.after, Change.apply]
    rw [updateRows_congr (q := fun x => x.id == e.id) (fun x _ => by simp) fun _ _ _ => rfl]
  · simp [Store.env, tryUpsert, hc, hk, hr]

section Checked
variable {S : List τ} [Schema Row κ]

lemma checked_statement {locks : Env Row κ → List (Lock τ κ)}
    {attempt : Env Row κ → Except SqlError (Change Row × α)}
    (h : ∀ env c a, attempt env = .ok (c, a) →
      c.On S ∧ (Keyed env.fresh env.db → c.Admitted env.db)) :
    Checked S (statement locks attempt : Prog Row κ ε α) := by
  intro env
  dsimp only
  cases hat : attempt env with
  | ok x => exact ⟨h env x.1 x.2 hat, trivial⟩
  | error e => exact ⟨⟨trivial, fun _ => trivial⟩, trivial⟩

lemma checked_select (f : Db Row → α) : Checked S (select f : Prog Row κ ε α) :=
  fun _ => ⟨⟨trivial, fun _ => trivial⟩, trivial⟩

lemma checked_newKey : Checked S (newKey : Prog Row κ ε ℕ) :=
  fun _ => ⟨⟨trivial, fun _ => trivial⟩, trivial⟩

lemma checked_selectForUpdate (t : τ) (pick : Db Row → Option (Entry (Row t))) :
    Checked S (selectForUpdate t pick : Prog Row κ ε _) :=
  fun _ => ⟨⟨trivial, fun _ => trivial⟩, trivial⟩

lemma checked_selectOne (f : Db Row → Option α) : Checked S (selectOne f : Prog Row κ ε α) :=
  checked_statement fun env c a h => by
    split at h <;> cases h
    exact ⟨trivial, fun _ => trivial⟩

lemma checked_selectOneForUpdate (t : τ) (pick : Db Row → Option (Entry (Row t))) :
    Checked S (selectOneForUpdate t pick : Prog Row κ ε _) :=
  checked_statement fun env c a h => by
    split at h <;> cases h
    exact ⟨trivial, fun _ => trivial⟩

lemma checked_one (rows : List α) : Checked S (one rows : Prog Row κ ε α) := by
  cases rows <;> trivial

lemma refsOk_of_refusal {t : τ} {v : Row t} {d : Db Row} (h : d.refusal t v = none) :
    d.refsOk t v = true := by
  unfold Db.refusal at h
  split_ifs at h with h1 h2 h3
  simpa using h3

lemma refs_of_updateRefusal {t : τ} {old new : Row t} {d : Db Row}
    (h : d.updateRefusal t old new = none) :
    ∀ r ∈ Schema.refs t new, r ∈ Schema.refs t old ∨ d.resolves r = true := by
  unfold Db.updateRefusal at h
  split_ifs at h with h1 h2
  intro r hr
  simp only [Bool.not_eq_true, Bool.not_eq_false', List.all_eq_true, Bool.or_eq_true] at h2
  exact (h2 r hr).imp List.contains_iff_mem.mp id

variable {t : τ}

lemma checked_insertRow (h : t ∈ S) (v : Row t) : Checked S (insertRow t v : Prog Row κ ε _) :=
  checked_statement fun env c a hat => by
    split at hat <;> cases hat
    exact ⟨h, fun _ => refsOk_of_refusal ‹_›⟩

/-- What an insert that gives way to a stored row may do. -/
lemma checked_insertKeyed (h : t ∈ S) (v : ℕ → Row t) : Checked S (insertKeyed t v : Prog Row κ ε _) := by
  refine checked_statement fun env c a hat => ?_
  split at hat <;> cases hat
  rename_i hnone
  exact ⟨h, fun _ => refsOk_of_refusal hnone⟩

lemma tryInsertUnless_checked (h : t ∈ S) {v : Row t} {n : ℕ} {d : Db Row} {c : Change Row}
    {a : Option (Entry (Row t))} (hat : tryInsertUnless t v n d = .ok (c, a)) :
    c.On S ∧ c.Admitted d := by
  unfold tryInsertUnless at hat
  split_ifs at hat with h1 h2 h3 <;> cases hat
  · exact ⟨trivial, trivial⟩
  · exact ⟨h, by simpa [Change.Admitted] using h3⟩

lemma checked_insertUnless (h : t ∈ S) (v : Row t) :
    Checked S (insertUnless t v : Prog Row κ ε _) :=
  checked_statement fun _ _ _ hat =>
    ⟨(tryInsertUnless_checked h hat).1, fun _ => (tryInsertUnless_checked h hat).2⟩

lemma checked_insertOrFind (h : t ∈ S) (v : Row t) (find : Db Row → Option (Entry (Row t))) :
    Checked S (insertOrFind t v find : Prog Row κ ε _) :=
  checked_statement fun env c a hat => by
    split at hat
    · cases hat
    · rename_i hok
      cases hat
      exact ⟨(tryInsertUnless_checked h hok).1, fun _ => (tryInsertUnless_checked h hok).2⟩
    · split at hat <;> cases hat
      exact ⟨trivial, fun _ => trivial⟩

lemma checked_updateFrom (h : t ∈ S) (hk : Unkeyed Row t) (p : Db Row → Entry (Row t) → Bool)
    (f : Row t → Row t) : Checked S (updateFrom t p f : Prog Row κ ε _) :=
  checked_statement fun env c a hat => by
    unfold tryUpdate at hat
    dsimp only at hat
    split at hat
    · cases hat
    · rename_i hnone
      cases hat
      refine ⟨h, fun _ => ⟨hk, fun e he hp _ => ?_⟩⟩
      exact refs_of_updateRefusal (List.findSome?_eq_none_iff.mp hnone e (List.mem_filter.mpr ⟨he, hp⟩))

lemma checked_update (h : t ∈ S) (hk : Unkeyed Row t) (p : Entry (Row t) → Bool) (f : Row t → Row t) :
    Checked S (update t p f : Prog Row κ ε _) := checked_updateFrom h hk _ f

lemma checked_updateOne (h : t ∈ S) (hk : Unkeyed Row t) (p : Entry (Row t) → Bool)
    (f : Row t → Row t) : Checked S (updateOne t p f : Prog Row κ ε _) :=
  (checked_update h hk p f).bind checked_one

lemma checked_updatePicked (h : t ∈ S) (hk : Unkeyed Row t) (pick : Env Row κ → List (Entry (Row t)))
    (f : Row t → Row t) (hf : ∀ r, ∀ x ∈ Schema.refs t (f r), x ∈ Schema.refs t r) :
    Checked S (updatePicked t pick f : Prog Row κ ε _) :=
  checked_statement fun env c a hat => by
    cases hat
    exact ⟨h, fun _ => ⟨hk, fun e _ _ _ r hr => .inl (hf e.val r hr)⟩⟩

lemma checked_delete (h : t ∈ S) (hu : Unreferenced Row t) (p : Entry (Row t) → Bool) :
    Checked S (delete t p : Prog Row κ ε _) :=
  checked_statement fun env c a hat => by
    cases hat
    exact ⟨h, fun _ => hu⟩

lemma checked_upsert (h : t ∈ S) (hk : Unkeyed Row t) (v : Row t) (f : Row t → Row t) :
    Checked S (upsert t v f : Prog Row κ ε _) :=
  checked_statement fun env c a hat => by
    unfold tryUpsert at hat
    split at hat
    · cases hat
    · split at hat
      · rename_i e hheld
        split at hat <;> cases hat
        rename_i hnone
        refine ⟨h, fun hkeyed => ⟨hk, fun x hx hp _ => ?_⟩⟩
        have hmem : e ∈ env.db t := List.mem_of_find?_eq_some hheld
        have hid : x.id = e.id := by simpa using hp
        rw [hkeyed.unique hx hmem hid]
        exact refs_of_updateRefusal hnone
      · split_ifs at hat with hr
        cases hat
        exact ⟨h, fun _ => by simpa [Change.Admitted] using hr⟩

end Checked

section Runs
variable {t : τ} [Schema Row κ] {s : Store Row}

lemma taken_of_keyless {v : Row t} {d : Db Row} (h : Schema.keys t v = []) : d.taken t v = false := by
  simp [Db.taken, h]

lemma runs_insertRow {v : Row t} (hc : Schema.check t v = true) (hk : Schema.keys t v = [])
    (hr : s.db.refsOk t v = true) :
    (insertRow t v : Prog Row κ ε _).Runs s fun e s' =>
      e = ⟨s.seq, v⟩ ∧ s'.db = s.db.put t (s.db t ++ [⟨s.seq, v⟩]) :=
  ⟨_, _, run_insertRow hc (taken_of_keyless hk) hr, rfl, rfl⟩

lemma runs_insertKeyed {v : ℕ → Row t} (hc : Schema.check t (v s.seq) = true)
    (hk : Schema.keys t (v s.seq) = []) (hr : s.db.refsOk t (v s.seq) = true) :
    (insertKeyed t v : Prog Row κ ε _).Runs s fun e s' =>
      e = ⟨s.seq, v s.seq⟩ ∧ s'.db = s.db.put t (s.db t ++ [⟨s.seq, v s.seq⟩]) := by
  have hrefusal : s.db.refusal t (v s.seq) = none := refusal_none hc (taken_of_keyless hk) hr
  refine ⟨_, _, run_statement_ok (c := .insert t (v s.seq)) (a := ⟨s.seq, v s.seq⟩) ?_, rfl, rfl⟩
  simp [Store.env, hrefusal]

lemma runs_insertUnless {v : Row t} (hc : Schema.check t v = true) (hr : s.db.refsOk t v = true) :
    (insertUnless t v : Prog Row κ ε _).Runs s fun _ _ => True := by
  by_cases hk : s.db.taken t v = true
  · exact ⟨_, _, run_insertUnless_none hc hk, trivial⟩
  · exact ⟨_, _, run_insertUnless_some hc ((Bool.not_eq_true _).mp hk) hr, trivial⟩

lemma mem_of_holder {v : Row t} {d : Db Row} {e : Entry (Row t)} (h : holder t v d = some e) :
    e ∈ d t := List.mem_of_find?_eq_some h

/-- An upsert answers a row of the table. -/
lemma runs_upsert {v : Row t} {f : Row t → Row t} (hc : Schema.check t v = true)
    (hheld : ∀ e, holder t v s.db = some e → s.db.updateRefusal t e.val (f e.val) = none)
    (hnew : holder t v s.db = none → s.db.refsOk t v = true) :
    (upsert t v f : Prog Row κ ε _).Runs s fun e s' => e ∈ s'.db t := by
  cases hh : holder t v s.db with
  | none =>
    refine ⟨_, _, run_upsert_new hc hh (hnew hh), ?_⟩
    simp
  | some e =>
    refine ⟨_, _, run_upsert_held hc hh (hheld e hh), ?_⟩
    dsimp only
    rw [Db.put_self]
    exact mem_updateRows.mpr ⟨e, mem_of_holder hh, by simp⟩

lemma fails_insertRow {v : Row t} (hr : s.db.refusal t v ≠ none) :
    (insertRow t v : Prog Row κ ε _).Fails s := by
  obtain ⟨e, he⟩ := Option.ne_none_iff_exists'.mp hr
  refine ⟨_, _, run_statement_error (e := e) ?_⟩
  simp only [Store.env, he]

lemma fails_upsert {v : Row t} {f : Row t → Row t} (hh : holder t v s.db = none)
    (hr : s.db.refsOk t v = false) : (upsert t v f : Prog Row κ ε _).Fails s := by
  by_cases hc : Schema.check t v = true
  · refine ⟨_, _, run_statement_error (e := .foreignKeyViolation) ?_⟩
    simp [Store.env, tryUpsert, hc, hh, hr]
  · refine ⟨_, _, run_statement_error (e := .checkViolation) ?_⟩
    simp [tryUpsert, hc]

lemma runs_updateOne {f : Row t → Row t} {e : Entry (Row t)} (hk : s.Keyed) (he : e ∈ s.db t)
    (hr : s.db.updateRefusal t e.val (f e.val) = none) :
    (updateOne t (fun x => x.id == e.id) f : Prog Row κ ε _).Runs s fun r s' =>
      r = ⟨e.id, f e.val⟩ ∧ s'.db = s.db.put t (updateRows (fun x => x.id == e.id) f (s.db t)) := by
  have hall : ∀ x ∈ s.db t, (x.id == e.id) = true → s.db.updateRefusal t x.val (f x.val) = none := by
    intro x hx hid
    rw [Keyed.unique hk hx he (by simpa using hid)]
    exact hr
  refine Prog.Runs.step (run_update hall) ?_
  rw [Keyed.filter_id hk he]
  exact .pure ⟨rfl, rfl⟩

lemma fails_updateOne {f : Row t → Row t} {e : Entry (Row t)} (hk : s.Keyed) (he : e ∈ s.db t)
    (hr : s.db.updateRefusal t e.val (f e.val) ≠ none) :
    (updateOne t (fun x => x.id == e.id) f : Prog Row κ ε _).Fails s := by
  obtain ⟨err, herr⟩ := Option.ne_none_iff_exists'.mp hr
  refine Prog.Fails.bind ⟨_, _, run_statement_error (e := err) ?_⟩
  simp only [Store.env, tryUpdate]
  rw [Keyed.filter_id hk he]
  simp [herr]

end Runs

section Ensures
variable {t : τ} [Schema Row κ] {s : Store Row}

lemma ensures_statement {locks : Env Row κ → List (Lock τ κ)}
    {attempt : Env Row κ → Except SqlError (Change Row × α)} {Q : α → Store Row → Prop}
    (h : ∀ c a, attempt s.env = .ok (c, a) → Q a (s.after c)) :
    (statement locks attempt : Prog Row κ ε α).Ensures s Q := by
  intro a s' hr
  cases hat : attempt s.env with
  | ok x =>
    rw [run_statement_ok (c := x.1) (a := x.2) hat] at hr
    cases hr
    exact h x.1 x.2 hat
  | error e =>
    rw [run_statement_error hat] at hr
    cases hr

lemma ensures_select {f : Db Row → α} :
    (select f : Prog Row κ ε α).Ensures s fun a s' => a = f s.db ∧ s' = ⟨s.db, s.seq + 1⟩ := by
  intro a s' hr
  rw [run_select] at hr
  cases hr
  exact ⟨rfl, rfl⟩

lemma ensures_selectForUpdate {pick : Db Row → Option (Entry (Row t))} :
    (selectForUpdate t pick : Prog Row κ ε _).Ensures s fun a s' =>
      a = pick s.db ∧ s' = ⟨s.db, s.seq + 1⟩ := by
  intro a s' hr
  rw [run_selectForUpdate] at hr
  cases hr
  exact ⟨rfl, rfl⟩

lemma ensures_selectOneForUpdate {pick : Db Row → Option (Entry (Row t))} :
    (selectOneForUpdate t pick : Prog Row κ ε _).Ensures s fun e s' =>
      pick s.db = some e ∧ s' = ⟨s.db, s.seq + 1⟩ := by
  refine ensures_statement fun c e hat => ?_
  split at hat <;> cases hat
  exact ⟨by assumption, rfl⟩

lemma ensures_delete {p : Entry (Row t) → Bool} : (delete t p : Prog Row κ ε _).Ensures s fun n s' =>
    n = ((s.db t).filter p).length ∧ s'.db = s.db.put t ((s.db t).filter fun e => !p e) := by
  intro n s' hr
  rw [run_delete] at hr
  cases hr
  exact ⟨rfl, rfl⟩

lemma ensures_insertRow {v : Row t} : (insertRow t v : Prog Row κ ε _).Ensures s fun e s' =>
    e = ⟨s.seq, v⟩ ∧ s'.db = s.db.put t (s.db t ++ [⟨s.seq, v⟩]) := by
  refine ensures_statement fun c a hat => ?_
  split at hat <;> cases hat
  exact ⟨rfl, rfl⟩

lemma ensures_insertKeyed {v : ℕ → Row t} : (insertKeyed t v : Prog Row κ ε _).Ensures s fun e s' =>
    e = ⟨s.seq, v s.seq⟩ ∧ s'.db = s.db.put t (s.db t ++ [⟨s.seq, v s.seq⟩]) := by
  refine ensures_statement fun c a hat => ?_
  split at hat <;> cases hat
  exact ⟨rfl, rfl⟩

/-- An insert that answers nothing has changed nothing. -/
lemma ensures_insertUnless_cases {v : Row t} : (insertUnless t v : Prog Row κ ε _).Ensures s fun a s' =>
    (a = none ∧ s'.db = s.db) ∨ (a = some ⟨s.seq, v⟩ ∧ Schema.check t v = true ∧ s.db.taken t v = false ∧
      s'.db = s.db.put t (s.db t ++ [⟨s.seq, v⟩])) := by
  refine ensures_statement fun c a hat => ?_
  unfold tryInsertUnless at hat
  split_ifs at hat with hcheck htaken hrefs <;> cases hat
  · exact .inl ⟨rfl, rfl⟩
  · exact .inr ⟨rfl, (Bool.not_eq_false _).mp (mt (Bool.not_eq_true' _).mpr hcheck), (Bool.not_eq_true _).mp htaken, rfl⟩

lemma ensures_insertUnless {v : Row t} : (insertUnless t v : Prog Row κ ε _).Ensures s fun _ s' =>
    s'.db = s.db ∨ s'.db = s.db.put t (s.db t ++ [⟨s.seq, v⟩]) :=
  ensures_insertUnless_cases.mono fun _ _ h => h.imp And.right fun h => h.2.2.2

/-- The held row is updated, or the new one is inserted. -/
lemma ensures_upsert_cases {v : Row t} {f : Row t → Row t} :
    (upsert t v f : Prog Row κ ε _).Ensures s fun e s' =>
      (∃ e₀, holder t v s.db = some e₀ ∧ e = ⟨e₀.id, f e₀.val⟩ ∧
        s'.db = s.db.put t (updateRows (fun x => x.id == e₀.id) f (s.db t))) ∨
      holder t v s.db = none ∧ e = ⟨s.seq, v⟩ ∧ s'.db = s.db.put t (s.db t ++ [⟨s.seq, v⟩]) := by
  refine ensures_statement fun c e hat => ?_
  unfold tryUpsert at hat
  split at hat
  · cases hat
  split at hat
  · rename_i e₀ hholder
    split at hat <;> cases hat
    refine .inl ⟨e₀, hholder, rfl, ?_⟩
    simp only [Store.after, Change.apply]
    exact congrArg _ (updateRows_congr (fun e _ => by simp) fun _ _ _ => rfl)
  · rename_i hholder
    split at hat <;> cases hat
    exact .inr ⟨hholder, rfl, rfl⟩

lemma ensures_upsert {v : Row t} {f : Row t → Row t} : (upsert t v f : Prog Row κ ε _).Ensures s fun e s' =>
    (∃ e₀, holder t v s.db = some e₀ ∧ e = ⟨e₀.id, f e₀.val⟩ ∧
      s'.db = s.db.put t (updateRows (fun x => x.id == e₀.id) f (s.db t))) ∨
    e = ⟨s.seq, v⟩ ∧ s'.db = s.db.put t (s.db t ++ [⟨s.seq, v⟩]) :=
  ensures_upsert_cases.mono fun _ _ h => h.imp_right And.right

lemma ensures_updateFrom {p : Db Row → Entry (Row t) → Bool} {f : Row t → Row t} :
    (updateFrom t p f : Prog Row κ ε _).Ensures s fun rows s' =>
      rows = ((s.db t).filter (p s.db)).map (fun e => ⟨e.id, f e.val⟩) ∧
        s'.db = s.db.put t (updateRows (p s.db) f (s.db t)) := by
  refine ensures_statement fun c a hat => ?_
  unfold tryUpdate at hat
  dsimp only at hat
  split at hat <;> cases hat
  refine ⟨rfl, ?_⟩
  simp only [Store.after, Change.apply]
  exact congrArg _ (updateRows_congr (fun e he => filter_hit he) fun _ _ _ => rfl)

lemma ensures_update {p : Entry (Row t) → Bool} {f : Row t → Row t} :
    (update t p f : Prog Row κ ε _).Ensures s fun rows s' =>
      rows = ((s.db t).filter p).map (fun e => ⟨e.id, f e.val⟩) ∧
        s'.db = s.db.put t (updateRows p f (s.db t)) :=
  ensures_updateFrom

lemma ensures_one {rows : List α} : (one rows : Prog Row κ ε α).Ensures s fun a s' =>
    a ∈ rows ∧ s' = s := by
  cases rows with
  | nil => exact .fail
  | cons a rows => exact .pure ⟨by simp, rfl⟩

lemma ensures_updateOne {p : Entry (Row t) → Bool} {f : Row t → Row t} :
    (updateOne t p f : Prog Row κ ε _).Ensures s fun e s' =>
      (∃ e₀ ∈ s.db t, p e₀ = true ∧ e = ⟨e₀.id, f e₀.val⟩) ∧
        s'.db = s.db.put t (updateRows p f (s.db t)) := by
  refine ensures_update.bind fun rows s' h => ensures_one.mono fun e s'' he => ?_
  obtain ⟨rfl, hdb⟩ := h
  obtain ⟨he, rfl⟩ := he
  obtain ⟨e₀, he₀, rfl⟩ := List.mem_map.mp he
  obtain ⟨hmem, hp⟩ := List.mem_filter.mp he₀
  exact ⟨⟨e₀, hmem, hp, rfl⟩, hdb⟩

end Ensures

section Maintains
variable {t : τ} [Schema Row κ] {P : Db Row → Prop}

lemma maintains_statement {locks : Env Row κ → List (Lock τ κ)}
    {attempt : Env Row κ → Except SqlError (Change Row × α)}
    (h : ∀ env c a, attempt env = .ok (c, a) → Keyed env.fresh env.db → P env.db →
      P (c.apply env.fresh env.db)) :
    (statement locks attempt : Prog Row κ ε α).Maintains P := by
  intro env
  dsimp only
  cases hat : attempt env with
  | ok x => exact ⟨h env x.1 x.2 hat, trivial⟩
  | error e => exact ⟨fun _ hp => hp, trivial⟩

lemma maintains_select (f : Db Row → α) : (select f : Prog Row κ ε α).Maintains P :=
  fun _ => ⟨fun _ hp => hp, trivial⟩

lemma maintains_selectForUpdate (pick : Db Row → Option (Entry (Row t))) :
    (selectForUpdate t pick : Prog Row κ ε _).Maintains P := fun _ => ⟨fun _ hp => hp, trivial⟩

lemma maintains_selectOne (f : Db Row → Option α) : (selectOne f : Prog Row κ ε α).Maintains P :=
  maintains_statement fun env c a hat _ hp => by
    split at hat <;> cases hat
    exact hp

lemma maintains_selectOneForUpdate (pick : Db Row → Option (Entry (Row t))) :
    (selectOneForUpdate t pick : Prog Row κ ε _).Maintains P :=
  maintains_statement fun env c a hat _ hp => by
    split at hat <;> cases hat
    exact hp

lemma maintains_one (rows : List α) : (one rows : Prog Row κ ε α).Maintains P := by
  cases rows <;> trivial

lemma maintains_insertRow {v : Row t} (h : ∀ n d, Keyed n d → d.refsOk t v = true → P d →
    P (d.put t (d t ++ [⟨n, v⟩]))) : (insertRow t v : Prog Row κ ε _).Maintains P :=
  maintains_statement fun env c a hat hk hp => by
    split at hat <;> cases hat
    exact h _ _ hk (refsOk_of_refusal ‹_›) hp

lemma maintains_insertUnless {v : Row t} (h : ∀ n d, Keyed n d → d.refsOk t v = true → P d →
    P (d.put t (d t ++ [⟨n, v⟩]))) : (insertUnless t v : Prog Row κ ε _).Maintains P :=
  maintains_statement fun env c a hat hk hp => by
    unfold tryInsertUnless at hat
    split_ifs at hat with h1 h2 h3 <;> cases hat
    · exact hp
    · exact h _ _ hk (by simpa using h3) hp

lemma maintains_updateFrom {p : Db Row → Entry (Row t) → Bool} {f : Row t → Row t}
    (h : ∀ n d, Keyed n d → P d → P (d.put t (updateRows (p d) f (d t)))) :
    (updateFrom t p f : Prog Row κ ε _).Maintains P :=
  maintains_statement fun env c a hat hk hp => by
    unfold tryUpdate at hat
    dsimp only at hat
    split at hat <;> cases hat
    have hrows : updateRows (fun e => p env.db e &&
        (((env.db t).filter (p env.db)).map (·.id)).contains e.id) f (env.db t) =
          updateRows (p env.db) f (env.db t) :=
      updateRows_congr (fun e he => filter_hit he) fun _ _ _ => rfl
    rw [Change.apply, hrows]
    exact h _ _ hk hp

lemma maintains_update {p : Entry (Row t) → Bool} {f : Row t → Row t}
    (h : ∀ n d, Keyed n d → P d → P (d.put t (updateRows p f (d t)))) :
    (update t p f : Prog Row κ ε _).Maintains P := maintains_updateFrom h

lemma maintains_updateOne {p : Entry (Row t) → Bool} {f : Row t → Row t}
    (h : ∀ n d, Keyed n d → P d → P (d.put t (updateRows p f (d t)))) :
    (updateOne t p f : Prog Row κ ε _).Maintains P :=
  (maintains_update h).bind maintains_one

end Maintains

/-- The row with the key `i` is stored and satisfies `q`. -/
def RowIs (t : τ) (i : ℕ) (q : Row t → Prop) (d : Db Row) : Prop := ∃ e ∈ d t, e.id = i ∧ q e.val

section RowIs
variable {t : τ} [Schema Row κ] {i : ℕ} {q : Row t → Prop} {d : Db Row}

lemma RowIs.congr {d' : Db Row} (h : RowIs t i q d) (hd : d' t = d t) : RowIs t i q d' := by
  obtain ⟨e, he, hid, hq⟩ := h
  exact ⟨e, by rwa [hd], hid, hq⟩

lemma RowIs.mono {p : Row t → Prop} (h : RowIs t i p d) (hpq : ∀ r, p r → q r) : RowIs t i q d := by
  obtain ⟨e, he, hid, hp⟩ := h
  exact ⟨e, he, hid, hpq _ hp⟩

lemma RowIs.has (h : RowIs t i q d) : d.has t i = true := by
  obtain ⟨e, he, hid, -⟩ := h
  exact Db.has_iff.mpr ⟨e, he, hid⟩

/-- With unique keys there is one such row only. -/
lemma RowIs.of_mem {n : ℕ} (h : RowIs t i q d) (hk : Keyed n d) {e : Entry (Row t)} (he : e ∈ d t)
    (hid : e.id = i) : q e.val := by
  obtain ⟨e', he', hid', hq⟩ := h
  rwa [hk.unique he he' (hid.trans hid'.symm)]

lemma rowIs_iff {n : ℕ} (hk : Keyed n d) {e : Entry (Row t)} (he : e ∈ d t) (hid : e.id = i) :
    RowIs t i q d ↔ q e.val :=
  ⟨fun h => h.of_mem hk he hid, fun h => ⟨e, he, hid, h⟩⟩

lemma RowIs.insert {n : ℕ} {v : Row t} (h : RowIs t i q d) : RowIs t i q (d.put t (d t ++ [⟨n, v⟩])) := by
  obtain ⟨e, he, hid, hq⟩ := h
  exact ⟨e, by rw [Db.put_self]; exact List.mem_append_left _ he, hid, hq⟩

/-- An update that keeps `q` of the row. -/
lemma RowIs.update {p : Entry (Row t) → Bool} {f : Row t → Row t} (h : RowIs t i q d)
    (hf : ∀ e : Entry (Row t), e.id = i → p e = true → q e.val → q (f e.val)) :
    RowIs t i q (d.put t (updateRows p f (d t))) := by
  obtain ⟨e, he, hid, hq⟩ := h
  refine ⟨updateEntry p f e, ?_, ?_, ?_⟩
  · rw [Db.put_self]
    exact List.mem_map_of_mem he
  · unfold updateEntry
    split <;> exact hid
  · unfold updateEntry
    split
    · exact hf e hid ‹_› hq
    · exact hq

/-- After an update of exactly this row. -/
lemma RowIs.set {p : Row t → Prop} {f : Row t → Row t} (h : RowIs t i p d) (hf : ∀ r, p r → q (f r)) :
    RowIs t i q (d.put t (updateRows (fun e => e.id == i) f (d t))) := by
  obtain ⟨e, he, hid, hp⟩ := h
  refine ⟨⟨e.id, f e.val⟩, ?_, hid, hf _ hp⟩
  rw [Db.put_self]
  exact mem_updateRows.mpr ⟨e, he, by simp [hid]⟩

lemma maintains_rowIs_of_checked {S : List τ} {p : Prog Row κ ε α} (hp : Checked S p) (ht : t ∉ S) :
    p.Maintains (RowIs t i q) := hp.maintains ht fun _ _ h hq => hq.congr h

lemma maintains_insertRow_rowIs (v : Row t) : (insertRow t v : Prog Row κ ε _).Maintains (RowIs t i q) :=
  maintains_insertRow fun _ _ _ _ h => h.insert

lemma maintains_insertUnless_rowIs (v : Row t) :
    (insertUnless t v : Prog Row κ ε _).Maintains (RowIs t i q) :=
  maintains_insertUnless fun _ _ _ _ h => h.insert

lemma maintains_update_rowIs {p : Entry (Row t) → Bool} {f : Row t → Row t}
    (hf : ∀ e : Entry (Row t), e.id = i → p e = true → q e.val → q (f e.val)) :
    (update t p f : Prog Row κ ε _).Maintains (RowIs t i q) :=
  maintains_update fun _ _ _ h => h.update hf

lemma maintains_updateOne_rowIs {p : Entry (Row t) → Bool} {f : Row t → Row t}
    (hf : ∀ e : Entry (Row t), e.id = i → p e = true → q e.val → q (f e.val)) :
    (updateOne t p f : Prog Row κ ε _).Maintains (RowIs t i q) :=
  maintains_updateOne fun _ _ _ h => h.update hf

end RowIs

end ForgeCustomer.SqlStatements
