import Mathlib

/-!
# Maps with sorted keys

An ordered map as the list of its entries in the order of their keys. A key is inserted in its place or
replaces its entry.
-/
namespace ForgeCustomer.SortedMap

variable {κ α : Type} [LinearOrder κ]

/-- The keys increase strictly. -/
abbrev Sorted (entries : List (κ × α)) : Prop := entries.Pairwise fun a b => a.1 < b.1

def insertEntry (k : κ) (v : α) : List (κ × α) → List (κ × α)
  | [] => [(k, v)]
  | e :: rest =>
    if k < e.1 then (k, v) :: e :: rest
    else if e.1 < k then e :: insertEntry k v rest
    else (k, v) :: rest

lemma mem_insertEntry {k : κ} {v : α} {entries : List (κ × α)} {e : κ × α} (h : e ∈ insertEntry k v entries) :
    e = (k, v) ∨ e ∈ entries := by
  induction entries with
  | nil => exact .inl (List.mem_singleton.mp h)
  | cons e' rest ih =>
    unfold insertEntry at h
    split at h
    · exact List.mem_cons.mp h
    split at h
    · rcases List.mem_cons.mp h with rfl | h
      · exact .inr (by simp)
      · exact (ih h).imp id (List.mem_cons_of_mem _)
    · exact (List.mem_cons.mp h).imp id (List.mem_cons_of_mem _)

lemma sorted_insertEntry {k : κ} {v : α} {entries : List (κ × α)} (h : Sorted entries) :
    Sorted (insertEntry k v entries) := by
  induction entries with
  | nil => simp [insertEntry]
  | cons e rest ih =>
    obtain ⟨hlt, hrest⟩ := List.pairwise_cons.mp h
    unfold insertEntry
    split
    · rename_i hk
      refine List.pairwise_cons.mpr ⟨fun x hx => ?_, h⟩
      rcases List.mem_cons.mp hx with rfl | hx
      · exact hk
      · exact hk.trans (hlt x hx)
    split
    · rename_i hk
      refine List.pairwise_cons.mpr ⟨fun x hx => ?_, ih hrest⟩
      rcases mem_insertEntry hx with rfl | hx
      · exact hk
      · exact hlt x hx
    · rename_i hk hk'
      have heq : k = e.1 := le_antisymm (not_lt.mp hk') (not_lt.mp hk)
      exact List.pairwise_cons.mpr ⟨fun x hx => by rw [heq]; exact hlt x hx, hrest⟩

/-- A key above all others goes to the end. -/
lemma insertEntry_of_lt {k : κ} {v : α} {entries : List (κ × α)} (h : ∀ e ∈ entries, e.1 < k) :
    insertEntry k v entries = entries ++ [(k, v)] := by
  induction entries with
  | nil => rfl
  | cons e rest ih =>
    have he := h e (by simp)
    rw [insertEntry, if_neg he.not_gt, if_pos he, ih fun x hx => h x (by simp [hx]), List.cons_append]

/-- What is stored under a key. -/
def lookup (k : κ) (entries : List (κ × α)) : Option α := (entries.find? fun e => e.1 == k).map (·.2)

lemma lookup_insertEntry (k k' : κ) (v : α) {entries : List (κ × α)} (h : Sorted entries) :
    lookup k' (insertEntry k v entries) = if k = k' then some v else lookup k' entries := by
  induction entries with
  | nil =>
    by_cases hk : k = k'
    · simp [insertEntry, lookup, hk]
    · simp [insertEntry, lookup, hk]
  | cons e rest ih =>
    obtain ⟨hlt, hrest⟩ := List.pairwise_cons.mp h
    have ih := ih hrest
    simp only [lookup] at ih ⊢
    unfold insertEntry
    split
    · by_cases hk : k = k'
      · simp [hk]
      · simp [List.find?_cons, hk]
    split
    · rename_i hk
      by_cases he : e.1 = k'
      · have hne : ¬k = k' := fun hkk => hk.ne (he.trans hkk.symm)
        simp [he, hne]
      · have hb : (e.1 == k') = false := by simpa using he
        rw [List.find?_cons, hb]
        dsimp only
        rw [ih, List.find?_cons, hb]
    · rename_i hk hk'
      have heq : k = e.1 := le_antisymm (not_lt.mp hk') (not_lt.mp hk)
      by_cases hkk : k = k'
      · simp [hkk]
      · have he : ¬e.1 = k' := fun he => hkk (heq.trans he)
        simp [hkk, he]

end SortedMap

/-- A map whose entries are in order. -/
@[ext] structure SortedMap (κ α : Type) [LinearOrder κ] where
  entries : List (κ × α)
  sorted : SortedMap.Sorted entries

namespace SortedMap
variable {κ α : Type} [LinearOrder κ]

instance [DecidableEq α] : DecidableEq (SortedMap κ α) := fun m m' =>
  decidable_of_iff (m.entries = m'.entries) SortedMap.ext_iff.symm

def empty : SortedMap κ α := ⟨[], .nil⟩

def insert (m : SortedMap κ α) (k : κ) (v : α) : SortedMap κ α :=
  ⟨insertEntry k v m.entries, sorted_insertEntry m.sorted⟩

def get? (m : SortedMap κ α) (k : κ) : Option α := lookup k m.entries

def keys (m : SortedMap κ α) : List κ := m.entries.map (·.1)

lemma mem_keys_iff {m : SortedMap κ α} {k : κ} : k ∈ m.keys ↔ (m.get? k).isSome = true := by
  rw [keys, get?, lookup, Option.isSome_map, List.find?_isSome]
  simp

@[simp] lemma get?_empty (k : κ) : (empty : SortedMap κ α).get? k = none := rfl

@[simp] lemma get?_insert (m : SortedMap κ α) (k k' : κ) (v : α) :
    (m.insert k v).get? k' = if k = k' then some v else m.get? k' := lookup_insertEntry k k' v m.sorted

/-- Entry after entry; the last one of a key stays. -/
def extend (m : SortedMap κ α) (entries : List (κ × α)) : SortedMap κ α :=
  entries.foldl (fun m e => m.insert e.1 e.2) m

def ofList (entries : List (κ × α)) : SortedMap κ α := empty.extend entries

lemma extend_append (m : SortedMap κ α) (entries entries' : List (κ × α)) :
    m.extend (entries ++ entries') = (m.extend entries).extend entries' := List.foldl_append

lemma mem_extend {m : SortedMap κ α} {entries : List (κ × α)} {e : κ × α} (h : e ∈ (m.extend entries).entries) :
    e ∈ m.entries ∨ e ∈ entries := by
  induction entries using List.reverseRecOn with
  | nil => exact .inl h
  | append_singleton entries e' ih =>
    rw [extend_append] at h
    rcases mem_insertEntry h with rfl | h
    · exact .inr (by simp)
    · exact (ih h).imp id (List.mem_append_left _)

/-- The value of the last entry with a key. -/
def last (k : κ) (entries : List (κ × α)) : Option α := lookup k entries.reverse

lemma lookup_append (k : κ) (entries entries' : List (κ × α)) :
    lookup k (entries ++ entries') = (lookup k entries).or (lookup k entries') := by
  unfold lookup
  rw [List.find?_append]
  cases entries.find? fun e => e.1 == k with
  | none => rfl
  | some e => rfl

lemma last_append (k : κ) (entries entries' : List (κ × α)) :
    last k (entries ++ entries') = (last k entries').or (last k entries) := by
  rw [last, List.reverse_append, lookup_append]
  rfl

lemma last_eq_none {k : κ} {entries : List (κ × α)} (h : ∀ e ∈ entries, e.1 ≠ k) : last k entries = none := by
  have hfind : entries.reverse.find? (fun e => e.1 == k) = none :=
    List.find?_eq_none.mpr fun e he => by simpa using h e (List.mem_reverse.mp he)
  rw [last, lookup, hfind]
  rfl

/-- The only value that the entries have for a key is the last one. -/
lemma last_of_only {k : κ} {v : α} {entries : List (κ × α)} (hmem : (k, v) ∈ entries)
    (honly : ∀ v', (k, v') ∈ entries → v' = v) : last k entries = some v := by
  have hsome : (entries.reverse.find? fun e => e.1 == k).isSome = true :=
    List.find?_isSome.mpr ⟨(k, v), List.mem_reverse.mpr hmem, by simp⟩
  obtain ⟨e, he⟩ := Option.isSome_iff_exists.mp hsome
  have hkey : e.1 = k := by simpa using List.find?_some he
  have hin : (k, e.2) ∈ entries := by
    rw [← hkey]
    exact List.mem_reverse.mp (List.mem_of_find?_eq_some he)
  rw [last, lookup, he, Option.map_some, honly e.2 hin]

/-- Extending overwrites what the entries name and keeps the rest. -/
theorem get?_extend (m : SortedMap κ α) (entries : List (κ × α)) (k : κ) :
    (m.extend entries).get? k = (last k entries).or (m.get? k) := by
  induction entries using List.reverseRecOn with
  | nil => rfl
  | append_singleton entries e ih =>
    have hlast : last k [e] = if e.1 = k then some e.2 else none := by
      unfold last lookup
      by_cases he : e.1 = k <;> simp [he]
    rw [extend_append, last_append, hlast]
    change ((m.extend entries).insert e.1 e.2).get? k = _
    rw [get?_insert, ih]
    split
    · rfl
    · rfl

/-- Rewrite every value, looking at its key. -/
def mapValues {β : Type} (f : κ → α → β) (m : SortedMap κ α) : SortedMap κ β :=
  ⟨m.entries.map fun e => (e.1, f e.1 e.2), List.pairwise_map.mpr m.sorted⟩

lemma get?_mapValues {β : Type} (f : κ → α → β) (m : SortedMap κ α) (k : κ) :
    (m.mapValues f).get? k = (m.get? k).map (f k) := by
  unfold get? mapValues lookup
  rw [List.find?_map, Option.map_map]
  change ((m.entries.find? fun e => e.1 == k).map fun e => f e.1 e.2) = _
  cases hfind : m.entries.find? fun e => e.1 == k with
  | none => rfl
  | some e =>
    have hk : e.1 = k := by simpa using List.find?_some hfind
    simp [hk]

/-- Sorted entries are taken over as they are. -/
lemma ofList_entries {entries : List (κ × α)} (h : Sorted entries) : (ofList entries).entries = entries := by
  induction entries using List.reverseRecOn with
  | nil => rfl
  | append_singleton entries e ih =>
    obtain ⟨hinit, -, hlast⟩ := List.pairwise_append.mp h
    have ih := ih hinit
    rw [ofList, extend_append]
    change insertEntry e.1 e.2 (ofList entries).entries = _
    rw [ih, insertEntry_of_lt fun x hx => hlast x hx e (by simp)]

lemma ofList_self (m : SortedMap κ α) : ofList m.entries = m := SortedMap.ext (ofList_entries m.sorted)

lemma get?_ofList (entries : List (κ × α)) (k : κ) : (ofList entries).get? k = last k entries := by
  rw [ofList, get?_extend, get?_empty, Option.or_none]

@[simp] lemma last_entries (m : SortedMap κ α) (k : κ) : last k m.entries = m.get? k := by
  rw [← get?_ofList, ofList_self]

lemma nodup_keys (m : SortedMap κ α) : (m.entries.map (·.1)).Nodup :=
  List.pairwise_map.mpr (m.sorted.imp ne_of_lt)

lemma mem_entries_iff {m : SortedMap κ α} {e : κ × α} : e ∈ m.entries ↔ m.get? e.1 = some e.2 := by
  constructor
  · intro h
    rw [← last_entries]
    refine last_of_only h fun v hv => ?_
    exact congrArg Prod.snd (List.inj_on_of_nodup_map m.nodup_keys hv h rfl)
  · intro h
    obtain ⟨e', he, hval⟩ := Option.map_eq_some_iff.mp h
    have hkey : e'.1 = e.1 := by simpa using List.find?_some he
    rw [← Prod.ext hkey hval]
    exact List.mem_of_find?_eq_some he

/-- Maps that agree on every key are equal. -/
theorem ext_get? {m m' : SortedMap κ α} (h : ∀ k, m.get? k = m'.get? k) : m = m' := by
  have hirrefl : Std.Irrefl fun a b : κ × α => a.1 < b.1 := ⟨fun a => lt_irrefl a.1⟩
  have hasymm : Std.Asymm fun a b : κ × α => a.1 < b.1 := ⟨fun _ _ hab => lt_asymm hab⟩
  refine SortedMap.ext (m.sorted.eq_of_mem_iff m'.sorted fun e => ?_)
  rw [mem_entries_iff, mem_entries_iff, h]

end SortedMap
end ForgeCustomer
