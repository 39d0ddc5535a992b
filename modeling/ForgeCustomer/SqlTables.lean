import Mathlib

/-!
# Tables with generated keys

A database maps each table name to its stored rows. Rows only change through a `Change`, so
that a stored row keeps its generated key for life and new keys come from the supply.
-/
namespace ForgeCustomer.SqlTables
set_option linter.unusedSectionVars false

/-- A stored row with its generated primary key. -/
@[ext] structure Entry (α : Type) where
  id : ℕ
  val : α
deriving DecidableEq

/-- The contents of every table. -/
abbrev Db {τ : Type} (Row : τ → Type) := ∀ t, List (Entry (Row t))

/-- Constraint violations and `fetch_one` on no row. -/
inductive SqlError where
  | rowNotFound
  | uniqueViolation
  | foreignKeyViolation
  | checkViolation
deriving DecidableEq

variable {τ κ : Type} [DecidableEq τ] {Row : τ → Type}

/-- What a foreign key points at: a generated key or a unique key of another table. -/
inductive Ref (τ κ : Type) where
  | id (t : τ) (id : ℕ)
  | key (t : τ) (k : κ)
deriving DecidableEq

/-- The constraints of the tables: column checks, foreign keys and unique keys. -/
class Schema (Row : τ → Type) (κ : outParam Type) where
  check : ∀ t, Row t → Bool
  refs : ∀ t, Row t → List (Ref τ κ)
  keys : ∀ t, Row t → List κ

/-- What one statement does to the tables. Deletions and updates name the rows they were
aimed at, so that they mean the same when the rest of the database has moved on. -/
inductive Change (Row : τ → Type) where
  | nothing
  | insert (t : τ) (val : Row t)
  | update (t : τ) (p : Entry (Row t) → Bool) (ids : List ℕ) (f : Row t → Row t)
  | delete (t : τ) (p : Entry (Row t) → Bool) (ids : List ℕ)

/-- The row locks and unique-key locks a transaction can hold. -/
inductive Lock (τ κ : Type) where
  | row (t : τ) (id : ℕ)
  | key (k : κ)
deriving DecidableEq

namespace Db

/-- No rows at all. -/
def empty (Row : τ → Type) : Db Row := fun _ => []

/-- Replace one table. -/
def put (d : Db Row) (t : τ) (rows : List (Entry (Row t))) : Db Row := Function.update d t rows

@[simp] lemma put_self (d : Db Row) (t : τ) (rows : List (Entry (Row t))) :
    d.put t rows t = rows := by
  rw [put, Function.update_self]

@[simp] lemma put_of_ne (d : Db Row) {t u : τ} (h : u ≠ t) (rows : List (Entry (Row t))) :
    d.put t rows u = d u := by
  rw [put, Function.update_of_ne h]

@[simp] lemma put_put (d : Db Row) (t : τ) (rows rows' : List (Entry (Row t))) :
    (d.put t rows).put t rows' = d.put t rows' := by
  rw [put, put, Function.update_idem, put]

@[simp] lemma put_same (d : Db Row) (t : τ) : d.put t (d t) = d := by
  rw [put, Function.update_eq_self]

/-- The row with this generated key. -/
def lookup (d : Db Row) (t : τ) (id : ℕ) : Option (Row t) :=
  ((d t).find? fun e => e.id == id).map (·.val)

def has (d : Db Row) (t : τ) (id : ℕ) : Bool := (d t).any fun e => e.id == id

lemma has_iff {d : Db Row} {t : τ} {id : ℕ} : d.has t id = true ↔ ∃ e ∈ d t, e.id = id := by
  simp [has]

lemma lookup_of_has {d : Db Row} {t : τ} {id : ℕ} (h : d.has t id = true) :
    ∃ e ∈ d t, d.lookup t id = some e.val := by
  obtain ⟨e, he, hid⟩ := has_iff.mp h
  have hsome : ((d t).find? fun e => e.id == id).isSome = true :=
    List.find?_isSome.mpr ⟨e, he, by simpa using hid⟩
  obtain ⟨e', he'⟩ := Option.isSome_iff_exists.mp hsome
  exact ⟨e', List.mem_of_find?_eq_some he', by rw [lookup, he']; rfl⟩

end Db

/-- Apply `f` to the rows satisfying `p`. -/
def updateRows {α : Type} (p : Entry α → Bool) (f : α → α) (rows : List (Entry α)) :
    List (Entry α) :=
  rows.map fun e => if p e then ⟨e.id, f e.val⟩ else e

lemma updateRows_ids {α : Type} (p : Entry α → Bool) (f : α → α) (rows : List (Entry α)) :
    (updateRows p f rows).map (·.id) = rows.map (·.id) := by
  simp only [updateRows, List.map_map]
  refine List.map_congr_left fun e _ => ?_
  dsimp only [Function.comp]
  split_ifs <;> rfl

lemma updateRows_congr {α : Type} {p q : Entry α → Bool} {f g : α → α} {rows : List (Entry α)}
    (hp : ∀ e ∈ rows, p e = q e) (hf : ∀ e ∈ rows, p e = true → f e.val = g e.val) :
    updateRows p f rows = updateRows q g rows := by
  refine List.map_congr_left fun e he => ?_
  rw [← hp e he]
  split_ifs with h
  · rw [hf e he h]
  · rfl

lemma mem_updateRows {α : Type} {p : Entry α → Bool} {f : α → α} {rows : List (Entry α)}
    {e : Entry α} : e ∈ updateRows p f rows ↔
      ∃ e₀ ∈ rows, (if p e₀ then ⟨e₀.id, f e₀.val⟩ else e₀) = e := by
  simp [updateRows]

/-- Rewriting rows that `p` does not select leaves the others where they were. -/
lemma filter_updateRows {α : Type} {p q : Entry α → Bool} {f : α → α} {rows : List (Entry α)}
    (h : ∀ e ∈ rows, p e = true → q e = false ∧ q ⟨e.id, f e.val⟩ = false) :
    (updateRows p f rows).filter q = rows.filter q := by
  induction rows with
  | nil => rfl
  | cons e rows ih =>
    have ih := ih fun x hx => h x (by simp [hx])
    simp only [updateRows, List.map_cons, List.filter_cons] at ih ⊢
    by_cases hp : p e = true
    · obtain ⟨h1, h2⟩ := h e (by simp) hp
      simp [hp, h1, h2, ih]
    · simp [hp, ih]

/-- An update after which `q` no longer selects the rewritten rows takes them out of the selection. -/
lemma filter_updateRows_drop {α : Type} {p q : Entry α → Bool} {f : α → α} {rows : List (Entry α)}
    (h : ∀ e ∈ rows, p e = true → q ⟨e.id, f e.val⟩ = false) :
    (updateRows p f rows).filter q = rows.filter fun e => q e && !p e := by
  induction rows with
  | nil => rfl
  | cons e rows ih =>
    have ih := ih fun x hx => h x (by simp [hx])
    simp only [updateRows, List.map_cons, List.filter_cons] at ih ⊢
    by_cases hp : p e = true
    · have hdrop := h e (by simp) hp
      simp [hp, hdrop, ih]
    · simp [hp, ih]

/-- What an update makes of one row. -/
def updateEntry {α : Type} (p : Entry α → Bool) (f : α → α) (e : Entry α) : Entry α :=
  if p e then ⟨e.id, f e.val⟩ else e

/-- An update that keeps what `q` looks at rewrites the rows that `q` selects in place. -/
lemma filter_updateRows_kept {α : Type} {p q : Entry α → Bool} {f : α → α} {rows : List (Entry α)}
    (h : ∀ e ∈ rows, p e = true → q ⟨e.id, f e.val⟩ = q e) :
    (updateRows p f rows).filter q = (rows.filter q).map (updateEntry p f) := by
  induction rows with
  | nil => rfl
  | cons e rows ih =>
    have ih := ih fun x hx => h x (by simp [hx])
    have hq : q (updateEntry p f e) = q e := by
      unfold updateEntry
      split_ifs with hp
      · exact h e (by simp) hp
      · rfl
    have hcons : updateRows p f (e :: rows) = updateEntry p f e :: updateRows p f rows := rfl
    rw [hcons, List.filter_cons, List.filter_cons, hq, ih]
    split_ifs with hqe
    · rfl
    · rfl

lemma updateEntry_id {α : Type} (p : Entry α → Bool) (f : α → α) (e : Entry α) : (updateEntry p f e).id = e.id := by
  unfold updateEntry
  split_ifs <;> rfl

lemma filter_append_other {α : Type} {q : Entry α → Bool} {e : Entry α} (h : q e = false)
    (rows : List (Entry α)) : (rows ++ [e]).filter q = rows.filter q := by
  rw [List.filter_append, List.filter_cons, h]
  simp

/-- An update that keeps what `q` looks at also keeps which row `q` finds. -/
lemma find_updateRows {α : Type} {p q : Entry α → Bool} {f : α → α} {rows : List (Entry α)}
    (h : ∀ e ∈ rows, p e = true → q ⟨e.id, f e.val⟩ = q e) :
    (updateRows p f rows).find? q = (rows.find? q).map (updateEntry p f) := by
  induction rows with
  | nil => rfl
  | cons e rows ih =>
    have ih := ih fun x hx => h x (by simp [hx])
    have hq : q (updateEntry p f e) = q e := by
      unfold updateEntry
      split_ifs with hp
      · exact h e (by simp) hp
      · rfl
    have hcons : updateRows p f (e :: rows) = updateEntry p f e :: updateRows p f rows := rfl
    rw [hcons, List.find?_cons, List.find?_cons, hq]
    cases q e with
    | true => rfl
    | false => exact ih

namespace Change

/-- Carry the change out; a new row gets the key `n`. -/
def apply (n : ℕ) : Change Row → Db Row → Db Row
  | nothing, d => d
  | insert t v, d => d.put t (d t ++ [⟨n, v⟩])
  | update t p ids f, d => d.put t (updateRows (fun e => p e && ids.contains e.id) f (d t))
  | delete t p ids, d => d.put t ((d t).filter fun e => !(p e && ids.contains e.id))

/-- The table a change is about is one of `S`. -/
def On (S : List τ) : Change Row → Prop
  | nothing => True
  | insert t _ => t ∈ S
  | update t _ _ _ => t ∈ S
  | delete t _ _ => t ∈ S

theorem On.apply_eq {S : List τ} {c : Change Row} (h : c.On S) (n : ℕ) (d : Db Row) {t : τ}
    (ht : t ∉ S) : c.apply n d t = d t := by
  cases c with
  | nothing => rfl
  | insert u v => exact Db.put_of_ne d (by rintro rfl; exact ht h) _
  | update u p ids f => exact Db.put_of_ne d (by rintro rfl; exact ht h) _
  | delete u p ids => exact Db.put_of_ne d (by rintro rfl; exact ht h) _

lemma On.mono {S T : List τ} {c : Change Row} (h : c.On S) (hST : ∀ t ∈ S, t ∈ T) : c.On T := by
  cases c with
  | nothing => trivial
  | insert t _ => exact hST t h
  | update t _ _ _ => exact hST t h
  | delete t _ _ => exact hST t h

/-- The rows and unique keys a change writes to. -/
def locks [Schema Row κ] (n : ℕ) : Change Row → List (Lock τ κ)
  | nothing => []
  | insert t v => .row t n :: (Schema.keys t v).map .key
  | update t _ ids _ => ids.map (.row t)
  | delete t _ ids => ids.map (.row t)

lemma mem_apply {c : Change Row} {n : ℕ} {d : Db Row} {t : τ} {e : Entry (Row t)}
    (h : e ∈ c.apply n d t) : (∃ e₀ ∈ d t, e₀.id = e.id) ∨ e.id = n := by
  cases c with
  | nothing => exact .inl ⟨e, h, rfl⟩
  | insert u v =>
    by_cases hu : t = u
    · subst hu
      rw [apply, Db.put_self] at h
      rcases List.mem_append.mp h with h | h
      · exact .inl ⟨e, h, rfl⟩
      · rw [List.mem_singleton] at h
        exact .inr (by rw [h])
    · rw [apply, Db.put_of_ne d hu] at h
      exact .inl ⟨e, h, rfl⟩
  | update u p ids f =>
    by_cases hu : t = u
    · subst hu
      rw [apply, Db.put_self] at h
      have hid := List.mem_map_of_mem (f := fun x : Entry (Row t) => x.id) h
      rw [updateRows_ids] at hid
      obtain ⟨e₀, he₀, h₀⟩ := List.mem_map.mp hid
      exact .inl ⟨e₀, he₀, h₀⟩
    · rw [apply, Db.put_of_ne d hu] at h
      exact .inl ⟨e, h, rfl⟩
  | delete u p ids =>
    by_cases hu : t = u
    · subst hu
      rw [apply, Db.put_self] at h
      exact .inl ⟨e, (List.mem_filter.mp h).1, rfl⟩
    · rw [apply, Db.put_of_ne d hu] at h
      exact .inl ⟨e, h, rfl⟩

/-- A row whose lock the change does not need is as before. -/
theorem apply_unlocked [Schema Row κ] {c : Change Row} {n : ℕ} {t : τ} {i : ℕ}
    (h : (Lock.row t i : Lock τ κ) ∉ c.locks n) (d : Db Row) :
    (c.apply n d t).filter (fun e => e.id == i) = (d t).filter fun e => e.id == i := by
  cases c with
  | nothing => rfl
  | insert u v =>
    by_cases hu : t = u
    · subst hu
      have hn : ¬ n = i := fun hn => h (by simp [locks, hn])
      simp [apply, hn]
    · rw [apply, Db.put_of_ne d hu]
  | update u p ids f =>
    by_cases hu : t = u
    · subst hu
      have hi : i ∉ ids := fun hi => h (by simp [locks, hi])
      rw [apply, Db.put_self]
      refine filter_updateRows fun e _ hp => ?_
      have hm : e.id ∈ ids := by simp at hp; exact hp.2
      have hne : (e.id == i) = false := by
        rw [beq_eq_false_iff_ne]
        rintro rfl
        exact hi hm
      exact ⟨hne, hne⟩
    · rw [apply, Db.put_of_ne d hu]
  | delete u p ids =>
    by_cases hu : t = u
    · subst hu
      have hi : i ∉ ids := fun hi => h (by simp [locks, hi])
      rw [apply, Db.put_self, List.filter_filter]
      refine List.filter_congr fun e _ => ?_
      by_cases he : e.id = i
      · have : ids.contains e.id = false := by simpa [he] using hi
        rw [this, Bool.and_false, Bool.not_false, Bool.and_true]
      · rw [beq_eq_false_iff_ne.mpr he]
        rfl
    · rw [apply, Db.put_of_ne d hu]

end Change

/-- Every key ever handed out lies below the supply, and no table holds a key twice. -/
structure Keyed (n : ℕ) (d : Db Row) : Prop where
  below : ∀ t, ∀ e ∈ d t, e.id < n
  nodup : ∀ t, ((d t).map (·.id)).Nodup

lemma Keyed.empty : Keyed 0 (Db.empty Row) := ⟨by simp [Db.empty], by simp [Db.empty]⟩

lemma Keyed.mono {n m : ℕ} {d : Db Row} (h : Keyed n d) (hnm : n ≤ m) : Keyed m d :=
  ⟨fun t e he => lt_of_lt_of_le (h.below t e he) hnm, h.nodup⟩

theorem Keyed.apply_of_fresh {N n : ℕ} {d : Db Row} (h : Keyed N d) (hn : n < N)
    (hfresh : ∀ t, ∀ e ∈ d t, e.id ≠ n) (c : Change Row) : Keyed N (c.apply n d) := by
  refine ⟨fun t e he => ?_, fun t => ?_⟩
  · rcases Change.mem_apply he with ⟨e₀, he₀, hid⟩ | hid
    · exact hid ▸ h.below t e₀ he₀
    · exact hid ▸ hn
  · cases c with
    | nothing => exact h.nodup t
    | insert u v =>
      by_cases hu : t = u
      · subst hu
        rw [Change.apply, Db.put_self, List.map_append]
        refine List.nodup_append.mpr ⟨h.nodup t, by simp, fun a ha b hb => ?_⟩
        obtain ⟨e, he, rfl⟩ := List.mem_map.mp ha
        simp only [List.map_cons, List.map_nil, List.mem_singleton] at hb
        exact hb ▸ hfresh t e he
      · rw [Change.apply, Db.put_of_ne d hu]
        exact h.nodup t
    | update u p ids f =>
      by_cases hu : t = u
      · subst hu
        rw [Change.apply, Db.put_self, updateRows_ids]
        exact h.nodup t
      · rw [Change.apply, Db.put_of_ne d hu]
        exact h.nodup t
    | delete u p ids =>
      by_cases hu : t = u
      · subst hu
        rw [Change.apply, Db.put_self]
        exact (h.nodup t).sublist (List.filter_sublist.map _)
      · rw [Change.apply, Db.put_of_ne d hu]
        exact h.nodup t

theorem Keyed.apply {n : ℕ} {d : Db Row} (h : Keyed n d) (c : Change Row) :
    Keyed (n + 1) (c.apply n d) :=
  (h.mono (Nat.le_succ n)).apply_of_fresh (Nat.lt_succ_self n)
    (fun t e he => Nat.ne_of_lt (h.below t e he)) c

lemma Keyed.unique {n : ℕ} {d : Db Row} (h : Keyed n d) {t : τ} {e e' : Entry (Row t)}
    (he : e ∈ d t) (he' : e' ∈ d t) (hid : e.id = e'.id) : e = e' :=
  List.inj_on_of_nodup_map (h.nodup t) he he' hid

/-- A search that only one generated key can satisfy finds its row. -/
lemma Keyed.find_of_mem {n : ℕ} {d : Db Row} (h : Keyed n d) {t : τ} {p : Entry (Row t) → Bool}
    {e : Entry (Row t)} (he : e ∈ d t) (hp : p e = true) (hid : ∀ x, p x = true → x.id = e.id) :
    (d t).find? p = some e := by
  cases hfind : (d t).find? p with
  | none => exact absurd hp (List.find?_eq_none.mp hfind e he)
  | some x => rw [h.unique (List.mem_of_find?_eq_some hfind) he (hid x (List.find?_some hfind))]

lemma Keyed.lookup_of_mem {n : ℕ} {d : Db Row} (h : Keyed n d) {t : τ} {e : Entry (Row t)} (he : e ∈ d t) :
    d.lookup t e.id = some e.val := by
  rw [Db.lookup, h.find_of_mem he (by simp) fun x hx => by simpa using hx]
  rfl

lemma Keyed.filter_id {n : ℕ} {d : Db Row} (h : Keyed n d) {t : τ} {e : Entry (Row t)}
    (he : e ∈ d t) : (d t).filter (fun x => x.id == e.id) = [e] := by
  have hnodup := h.nodup t
  have huniq : ∀ x ∈ d t, x.id = e.id → x = e := fun x hx hid => h.unique hx he hid
  obtain ⟨as, bs, heq⟩ := List.append_of_mem he
  rw [heq, List.map_append, List.map_cons] at hnodup
  obtain ⟨-, hbs, hab⟩ := List.nodup_append.mp hnodup
  have has : as.filter (fun x => x.id == e.id) = [] := by
    refine List.filter_eq_nil_iff.mpr fun x hx hid => ?_
    exact hab x.id (List.mem_map_of_mem hx) e.id (by simp) (by simpa using hid)
  have hbs' : bs.filter (fun x => x.id == e.id) = [] := by
    refine List.filter_eq_nil_iff.mpr fun x hx hid => (List.nodup_cons.mp hbs).1 ?_
    have hid : x.id = e.id := by simpa using hid
    exact hid ▸ List.mem_map_of_mem hx
  rw [heq, List.filter_append, List.filter_cons, has, hbs']
  simp

variable [Schema Row κ] [DecidableEq κ]

/-- Some stored row holds the unique key `k`. -/
def Db.hasKey (d : Db Row) (t : τ) (k : κ) : Bool :=
  (d t).any fun e => (Schema.keys t e.val).contains k

/-- Some stored row already holds one of the unique keys of `v`. -/
def Db.taken (d : Db Row) (t : τ) (v : Row t) : Bool :=
  (d t).any fun e => (Schema.keys t e.val).any fun k => (Schema.keys t v).contains k

def Db.resolves (d : Db Row) : Ref τ κ → Bool
  | .id t n => d.has t n
  | .key t k => d.hasKey t k

/-- Every foreign key of `v` names a stored row. -/
def Db.refsOk (d : Db Row) (t : τ) (v : Row t) : Bool := (Schema.refs t v).all d.resolves

/-- Why a new row is refused. -/
def Db.refusal (d : Db Row) (t : τ) (v : Row t) : Option SqlError :=
  if !Schema.check t v then some .checkViolation
  else if d.taken t v then some .uniqueViolation
  else if !d.refsOk t v then some .foreignKeyViolation
  else none

/-- Why an update is refused: a row may only break a constraint that it already broke. Unique
keys do not occur here, since no update of the programs below gives a row a new one. -/
def Db.updateRefusal (d : Db Row) (t : τ) (old new : Row t) : Option SqlError :=
  if Schema.check t old && !Schema.check t new then some .checkViolation
  else if !((Schema.refs t new).all fun r => (Schema.refs t old).contains r || d.resolves r) then
    some .foreignKeyViolation
  else none

lemma Db.updateRefusal_of_same {d : Db Row} {t : τ} {old new : Row t}
    (hc : Schema.check t new = Schema.check t old) (hr : Schema.refs t new = Schema.refs t old) :
    d.updateRefusal t old new = none := by
  have h : ((Schema.refs t old).all fun r => (Schema.refs t old).contains r || d.resolves r) = true :=
    List.all_eq_true.mpr fun r hr => by simp [hr]
  rw [updateRefusal, hc, hr, h]
  simp

/-- A row that would be accepted as a new one is accepted as an update. -/
lemma Db.updateRefusal_none {d : Db Row} {t : τ} {old new : Row t} (hc : Schema.check t new = true)
    (hr : d.refsOk t new = true) : d.updateRefusal t old new = none := by
  have h : ((Schema.refs t new).all fun r => (Schema.refs t old).contains r || d.resolves r) = true :=
    List.all_eq_true.mpr fun r hmem => by simp [List.all_eq_true.mp hr r hmem]
  rw [updateRefusal, hc, h]
  simp

lemma Db.has_congr {d d' : Db Row} {t : τ} (h : d' t = d t) (id : ℕ) : d'.has t id = d.has t id := by
  rw [has, has, h]

/-- Every foreign key of every stored row names a stored row. -/
def Db.Intact (d : Db Row) : Prop := ∀ t, ∀ e ∈ d t, d.refsOk t e.val = true

/-- No foreign key points at a unique key of the table. -/
def Unkeyed (Row : τ → Type) [Schema Row κ] (t : τ) : Prop :=
  ∀ u (v : Row u) (k : κ), Ref.key t k ∉ Schema.refs u v

/-- No foreign key points at the table. -/
def Unreferenced (Row : τ → Type) [Schema Row κ] (t : τ) : Prop :=
  Unkeyed Row t ∧ ∀ u (v : Row u) (i : ℕ), Ref.id t i ∉ Schema.refs u v

/-- What a database with foreign keys lets a statement do. -/
def Change.Admitted (d : Db Row) : Change Row → Prop
  | nothing => True
  | insert t v => d.refsOk t v = true
  | update t p ids f => Unkeyed Row t ∧ ∀ e ∈ d t, p e = true → e.id ∈ ids →
      ∀ r ∈ Schema.refs t (f e.val), r ∈ Schema.refs t e.val ∨ d.resolves r = true
  | delete t _ _ => Unreferenced Row t

lemma Db.resolves_append {d : Db Row} {t : τ} {rows : List (Entry (Row t))} {r : Ref τ κ}
    (h : d.resolves r = true) : (d.put t (d t ++ rows)).resolves r = true := by
  cases r with
  | id u i =>
    by_cases hu : u = t
    · subst hu
      simp only [resolves, has, put_self, List.any_append, Bool.or_eq_true] at h ⊢
      exact .inl h
    · simpa [resolves, has, put_of_ne d hu] using h
  | key u k =>
    by_cases hu : u = t
    · subst hu
      simp only [resolves, hasKey, put_self, List.any_append, Bool.or_eq_true] at h ⊢
      exact .inl h
    · simpa [resolves, hasKey, put_of_ne d hu] using h

lemma Db.resolves_update {d : Db Row} {t : τ} {p : Entry (Row t) → Bool} {f : Row t → Row t}
    {r : Ref τ κ} (hr : ∀ k, r ≠ .key t k) (h : d.resolves r = true) :
    (d.put t (updateRows p f (d t))).resolves r = true := by
  cases r with
  | id u i =>
    by_cases hu : u = t
    · subst hu
      obtain ⟨e, he, hid⟩ := has_iff.mp h
      refine has_iff.mpr ?_
      have hmem : i ∈ (updateRows p f (d u)).map (·.id) := by
        rw [updateRows_ids]
        exact hid ▸ List.mem_map_of_mem he
      obtain ⟨e', he', hid'⟩ := List.mem_map.mp hmem
      exact ⟨e', by rwa [put_self], hid'⟩
    · simpa [resolves, has, put_of_ne d hu] using h
  | key u k =>
    have hu : u ≠ t := by
      rintro rfl
      exact hr k rfl
    simpa [resolves, hasKey, put_of_ne d hu] using h

lemma Db.resolves_other {d : Db Row} {t : τ} {rows : List (Entry (Row t))} {r : Ref τ κ}
    (hr : (∀ k, r ≠ .key t k) ∧ ∀ i, r ≠ .id t i) : (d.put t rows).resolves r = d.resolves r := by
  cases r with
  | id u i =>
    have hu : u ≠ t := by
      rintro rfl
      exact hr.2 i rfl
    simp [resolves, has, put_of_ne d hu]
  | key u k =>
    have hu : u ≠ t := by
      rintro rfl
      exact hr.1 k rfl
    simp [resolves, hasKey, put_of_ne d hu]

/-- Admitted changes keep the foreign keys of all rows intact. -/
theorem Db.Intact.apply {d : Db Row} {c : Change Row} (hd : d.Intact) (hc : c.Admitted d) (n : ℕ) :
    (c.apply n d).Intact := by
  have all : ∀ {t : τ} {v : Row t}, d.refsOk t v = true ↔ ∀ r ∈ Schema.refs t v, d.resolves r = true :=
    List.all_eq_true
  cases c with
  | nothing => exact hd
  | insert t v =>
    intro u e he
    refine List.all_eq_true.mpr fun r hr => Db.resolves_append ?_
    by_cases hu : u = t
    · subst hu
      rw [Change.apply, put_self] at he
      rcases List.mem_append.mp he with he | he
      · exact all.mp (hd u e he) r hr
      · rw [List.mem_singleton.mp he] at hr
        exact all.mp hc r hr
    · rw [Change.apply, put_of_ne d hu] at he
      exact all.mp (hd u e he) r hr
  | update t p ids f =>
    obtain ⟨hkey, hnew⟩ := hc
    intro u e he
    refine List.all_eq_true.mpr fun r hr => Db.resolves_update ?_ ?_
    · rintro k rfl
      exact hkey _ _ _ hr
    · by_cases hu : u = t
      · subst hu
        rw [Change.apply, put_self] at he
        obtain ⟨e₀, he₀, rfl⟩ := mem_updateRows.mp he
        by_cases hp : (p e₀ && ids.contains e₀.id) = true
        · rw [if_pos hp] at hr
          obtain ⟨hp, hid⟩ := (Bool.and_eq_true _ _).mp hp
          rcases hnew e₀ he₀ hp (List.contains_iff_mem.mp hid) r hr with hold | hres
          · exact all.mp (hd u e₀ he₀) r hold
          · exact hres
        · rw [if_neg hp] at hr
          exact all.mp (hd u e₀ he₀) r hr
      · rw [Change.apply, put_of_ne d hu] at he
        exact all.mp (hd u e he) r hr
  | delete t p ids =>
    intro u e he
    refine List.all_eq_true.mpr fun r hr => ?_
    have hother : (∀ k, r ≠ .key t k) ∧ ∀ i, r ≠ .id t i := by
      refine ⟨?_, ?_⟩
      · rintro k rfl
        exact hc.1 _ _ _ hr
      · rintro i rfl
        exact hc.2 _ _ _ hr
    rw [Change.apply, Db.resolves_other hother]
    by_cases hu : u = t
    · subst hu
      rw [Change.apply, put_self] at he
      exact all.mp (hd u e (List.mem_filter.mp he).1) r hr
    · rw [Change.apply, put_of_ne d hu] at he
      exact all.mp (hd u e he) r hr

end ForgeCustomer.SqlTables
