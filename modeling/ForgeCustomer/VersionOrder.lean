import ForgeCustomer.AdminRequests

/-!
# The order of versions

`version_greater` and `version_at_least` of `domain::updates`, compared with the lexicographic order of sequences
of numbers, and with what `clean_release_version` lets through.
-/
namespace ForgeCustomer.VersionOrder
open CommerceRepository CommercialPolicy UpdateChecks AdminRequests

/-- A list of numbers, followed by zeros without end. -/
def padded (parts : List ℕ) : Lex (ℕ → ℕ) := toLex fun i => parts.getD i 0

/-- Two sequences that agree from `n` on are compared by looking at the first `n` numbers. -/
lemma firstDifference_eq {f g : ℕ → ℕ} {n : ℕ} (h : ∀ i, n ≤ i → f i = g i) :
    (((List.range n).map fun i => compare (f i) (g i)).find? (· != .eq)).getD .eq = compare (toLex f) (toLex g) := by
  rw [List.find?_map]
  cases hfind : (List.range n).find? ((· != .eq) ∘ fun i => compare (f i) (g i)) with
  | none =>
    rw [List.find?_range_eq_none] at hfind
    have hsame : f = g := by
      funext i
      rcases lt_or_ge i n with hi | hi
      · simpa using hfind i hi
      · exact h i hi
    simp [hsame]
  | some i =>
    obtain ⟨hdiffers, -, hbefore⟩ := List.find?_range_eq_some.mp hfind
    have hbefore : ∀ j < i, f j = g j := fun j hj => by simpa using hbefore j hj
    have hne : f i ≠ g i := by simpa using hdiffers
    rcases lt_or_gt_of_ne hne with hlt | hgt
    · have hlex : toLex f < toLex g := ⟨i, hbefore, hlt⟩
      simp [compare_lt_iff_lt.mpr hlt, compare_lt_iff_lt.mpr hlex]
    · have hlex : toLex g < toLex f := ⟨i, fun j hj => (hbefore j hj).symm, hgt⟩
      simp [compare_gt_iff_gt.mpr hgt, compare_gt_iff_gt.mpr hlex]

/-- Numbers are compared one after the other, and missing ones count as zero. -/
theorem compareParts_eq (left right : List ℕ) : compareParts left right = compare (padded left) (padded right) := by
  refine firstDifference_eq fun i hi => ?_
  have hleft : left.length ≤ i := by omega
  have hright : right.length ≤ i := by omega
  rw [List.getD_eq_default _ _ hleft, List.getD_eq_default _ _ hright]

section Comparisons
variable {a b : String} {left right : List ℕ}

lemma versionGreater_iff (ha : versionParts a = some left) (hb : versionParts b = some right) :
    versionGreater a b = true ↔ padded right < padded left := by
  rw [versionGreater, ha, hb]
  simp only [beq_iff_eq, compareParts_eq]
  exact compare_gt_iff_gt

lemma versionAtLeast_eq (ha : versionParts a = some left) (hb : versionParts b = some right) :
    versionAtLeast a b = !versionGreater b a := by
  rw [Bool.eq_iff_iff, Bool.not_eq_true', ← Bool.not_eq_true, versionGreater_iff hb ha, versionAtLeast, ha, hb]
  simp only [bne_iff_ne, ne_eq, compareParts_eq]
  exact not_congr compare_lt_iff_lt

/-- A side that cannot be parsed fails every gate. -/
lemma unparsed (h : versionParts a = none ∨ versionParts b = none) :
    versionGreater a b = false ∧ versionAtLeast a b = false := by
  unfold versionGreater versionAtLeast
  rcases h with h | h
  · simp [h]
  · cases versionParts a <;> simp [h]

end Comparisons

/-- The versions that can be parsed. -/
abbrev Version := { v : String // (versionParts v).isSome = true }

/-- The sequence of a version. -/
def Version.sequence (v : Version) : Lex (ℕ → ℕ) := padded ((versionParts v.val).get v.property)

lemma Version.greater_iff (a b : Version) : versionGreater a.val b.val = true ↔ b.sequence < a.sequence :=
  versionGreater_iff (Option.some_get a.property).symm (Option.some_get b.property).symm

/-- Versions with the same sequence are equivalent, so this is not a linear order. -/
lemma Version.strictWeakOrder : IsStrictWeakOrder Version fun a b => versionGreater a.val b.val = true where
  irrefl a := by
    rw [Version.greater_iff]
    exact lt_irrefl _
  trans a b c := by
    simp only [Version.greater_iff]
    exact fun hab hbc => hbc.trans hab
  incomp_trans a b c := by
    simp only [Version.greater_iff]
    intro hab hbc
    have hac : c.sequence = a.sequence := by
      have hba : b.sequence = a.sequence := le_antisymm (not_lt.mp hab.2) (not_lt.mp hab.1)
      have hcb : c.sequence = b.sequence := le_antisymm (not_lt.mp hbc.2) (not_lt.mp hbc.1)
      exact hcb.trans hba
    rw [hac]
    exact ⟨lt_irrefl _, lt_irrefl _⟩

/-- All that is parsed of a version: what comes before a pre-release or build suffix. -/
def versionCore (value : String) : String := trim (String.ofList (value.toList.takeWhile fun c => c != '-' && c != '+'))

lemma mapM_isSome {α β : Type} (f : α → Option β) (l : List α) :
    (l.mapM f).isSome = l.all fun a => (f a).isSome := by
  induction l with
  | nil => rfl
  | cons a l ih =>
    rw [List.mapM_cons, List.all_cons, ← ih]
    cases f a <;> cases l.mapM f <;> rfl

lemma versionParts_isSome {value : String} : (versionParts value).isSome = true ↔ versionCore value ≠ "" ∧
    ∀ part ∈ (versionCore value).toList.splitOn '.', (parseU64 part).isSome = true := by
  unfold versionParts
  dsimp only
  rw [← versionCore]
  split_ifs with h
  · simp [h]
  · simp [h, mapM_isSome, List.all_eq_true]

lemma versionParts_congr {value value' : String} (h : versionCore value = versionCore value') :
    versionParts value = versionParts value' := by
  unfold versionParts
  dsimp only
  rw [← versionCore, ← versionCore, h]

/-- Numbers beyond `u64` are not read. -/
lemma parseU64_beyond {part : List Char} (hdigits : part.all Char.isDigit = true)
    (h : 2 ^ 64 ≤ Nat.ofDigitChars 10 part 0) : parseU64 part = none := by
  have hplus : ∀ rest, part ≠ '+' :: rest := by
    rintro rest rfl
    simp at hdigits
  unfold parseU64
  split
  · exact absurd rfl (hplus _)
  · dsimp only
    split_ifs
    · simpa [Option.filter] using h
    · rfl

lemma versionParts_beyond {value : String} {part : List Char} (hpart : part ∈ (versionCore value).toList.splitOn '.')
    (hdigits : part.all Char.isDigit = true) (h : 2 ^ 64 ≤ Nat.ofDigitChars 10 part 0) : versionParts value = none := by
  have hnone : parseU64 part = none := parseU64_beyond hdigits h
  rw [← Option.not_isSome_iff_eq_none, versionParts_isSome]
  rintro ⟨-, hread⟩
  have hsome := hread part hpart
  rw [hnone] at hsome
  cases hsome

/-- White space around a text does not change what it is trimmed to. -/
lemma trim_around {before after : List Char} (cs : List Char) (hbefore : ∀ c ∈ before, isWhitespace c = true)
    (hafter : ∀ c ∈ after, isWhitespace c = true) :
    trim (String.ofList (before ++ cs ++ after)) = trim (String.ofList cs) := by
  have hnone : ∀ l : List Char, (∀ c ∈ l, isWhitespace c = true) → l.dropWhile isWhitespace = [] :=
    fun l hl => List.dropWhile_eq_nil_iff.mpr hl
  have hreverse : ∀ c ∈ after.reverse, isWhitespace c = true := fun c hc => hafter c (List.mem_reverse.mp hc)
  simp only [trim, String.toList_ofList, List.append_assoc]
  rw [List.dropWhile_append, if_pos (by simp [hnone before hbefore]), List.dropWhile_append]
  split
  · rename_i hempty
    rw [hnone after hafter, List.isEmpty_iff.mp hempty]
  · rw [List.reverse_append, List.dropWhile_append, if_pos (by simp [hnone _ hreverse])]

lemma exists_around (s : String) : ∃ before after, s.toList = before ++ (trim s).toList ++ after ∧
    (∀ c ∈ before, isWhitespace c = true) ∧ ∀ c ∈ after, isWhitespace c = true := by
  refine ⟨s.toList.takeWhile isWhitespace, (s.toList.dropWhile isWhitespace).rtakeWhile isWhitespace, ?_, ?_, ?_⟩
  · rw [trim_eq, String.toList_ofList, List.append_assoc, List.rdropWhile_append_rtakeWhile,
      List.takeWhile_append_dropWhile]
  · exact fun c hc => List.mem_takeWhile_imp hc
  · exact fun c hc => List.mem_rtakeWhile_imp hc

/-- The parser trims for itself. -/
lemma versionParts_trim (value : String) : versionParts (trim value) = versionParts value := by
  refine versionParts_congr ?_
  obtain ⟨before, after, hvalue, hbefore, hafter⟩ := exists_around value
  have hin : ∀ c, isWhitespace c = true → (c != '-' && c != '+') = true := by
    intro c hc
    have hminus : c ≠ '-' := by
      rintro rfl
      exact absurd hc (by decide)
    have hplus : c ≠ '+' := by
      rintro rfl
      exact absurd hc (by decide)
    simp [hminus, hplus]
  unfold versionCore
  rw [hvalue, List.append_assoc, List.takeWhile_append_of_pos fun c hc => hin c (hbefore c hc), List.takeWhile_append,
    List.takeWhile_eq_self_iff.mpr fun c hc => hin c (hafter c hc)]
  split
  · rename_i hlength
    have hall : (trim value).toList.takeWhile (fun c => c != '-' && c != '+') = (trim value).toList :=
      (List.takeWhile_prefix _).eq_of_length hlength
    rw [← List.append_assoc, trim_around _ hbefore hafter, hall]
  · have hnothing : ∀ c ∈ ([] : List Char), isWhitespace c = true := by simp
    have hfront := trim_around ((trim value).toList.takeWhile fun c => c != '-' && c != '+') hbefore hnothing
    rw [List.append_nil] at hfront
    exact hfront.symm

/-- The characters that the validator lets through are not white space. -/
lemma isWhitespace_of_allowed {c : Char} (h : (c.isAlphanum || ['.', '-', '_', '+'].contains c) = true) :
    isWhitespace c = false := by
  simp only [Char.isAlphanum, Char.isAlpha, Char.isUpper, Char.isLower, Char.isDigit, Bool.or_eq_true, Bool.and_eq_true,
    decide_eq_true_eq, List.contains_cons, List.contains_nil, Bool.or_false, beq_iff_eq, ge_iff_le,
    UInt32.le_iff_toNat_le] at h
  have hcode : c.val.toNat = c.toNat := rfl
  have hupper : 'A'.val.toNat = 65 ∧ 'Z'.val.toNat = 90 := by decide
  have hlower : 'a'.val.toNat = 97 ∧ 'z'.val.toNat = 122 := by decide
  have hdigit : '0'.val.toNat = 48 ∧ '9'.val.toNat = 57 := by decide
  rcases h with ((⟨hlow, hhigh⟩ | ⟨hlow, hhigh⟩) | ⟨hlow, hhigh⟩) | rfl | rfl | rfl | rfl
  all_goals first
    | decide
    | rw [hcode] at hlow hhigh
      simp only [isWhitespace, Bool.or_eq_false_iff, Bool.and_eq_false_iff, decide_eq_false_iff_not, beq_eq_false_iff_ne]
      omega

lemma trim_of_none {cs : List Char} (h : ∀ c ∈ cs, isWhitespace c = false) :
    trim (String.ofList cs) = String.ofList cs := by
  have hkept : ∀ l : List Char, (∀ c ∈ l, isWhitespace c = false) → l.dropWhile isWhitespace = l := by
    intro l hl
    cases l with
    | nil => rfl
    | cons c l => rw [List.dropWhile_cons_of_neg (by simp [hl c])]
  rw [trim, String.toList_ofList, hkept cs h, hkept _ fun c hc => h c (List.mem_reverse.mp hc), List.reverse_reverse]

/-- What the validator accepts has numbers that can be read. -/
lemma cleanReleaseVersion_parts {value version : String} (h : cleanReleaseVersion value = .ok version) :
    version = trim value ∧ (versionParts version).isSome = true := by
  unfold cleanReleaseVersion at h
  dsimp only at h
  split_ifs at h with hlength hnums hparse hchars
  obtain rfl := Except.ok.inj h
  refine ⟨rfl, versionParts_isSome.mpr ?_⟩
  have hcore : versionCore (trim value) = String.ofList ((trim value).toList.takeWhile fun c => c != '-' && c != '+') :=
    trim_of_none fun c hc => isWhitespace_of_allowed
      (List.all_eq_true.mp hchars c ((List.takeWhile_sublist _).subset hc))
  rw [hcore, String.toList_ofList]
  constructor
  · intro hempty
    have hnil : (trim value).toList.takeWhile (fun c => c != '-' && c != '+') = [] := by
      simpa using congrArg String.toList hempty
    rw [hnil] at hnums
    exact hnums (.inl (by decide))
  · intro part hpart
    by_contra hnone
    refine hparse (List.any_eq_true.mpr ⟨part, hpart, ?_⟩)
    simpa using hnone

/-- Two accepted versions are decided: the comparators are each other's opposite. -/
def Decided (a b : String) : Prop := versionAtLeast a b = !versionGreater b a ∧ versionAtLeast b a = !versionGreater a b

/-- What the two comparators are, for every text. -/
structure ConsistentGates : Prop where
  accepted : ∀ raw raw' a b, cleanReleaseVersion raw = .ok a → cleanReleaseVersion raw' = .ok b →
    Decided a b ∧ Decided raw raw'
  strictWeakOrder : IsStrictWeakOrder Version fun a b => versionGreater a.val b.val = true
  lexicographic : ∀ a b : Version, versionGreater a.val b.val = true ↔ b.sequence < a.sequence
  opposite : ∀ a b : Version, versionAtLeast a.val b.val = !versionGreater b.val a.val
  closed : ∀ a b, versionParts a = none ∨ versionParts b = none → versionGreater a b = false ∧ versionAtLeast a b = false
  beyond : ∀ value, ∀ part ∈ (versionCore value).toList.splitOn '.', part.all Char.isDigit = true →
    2 ^ 64 ≤ Nat.ofDigitChars 10 part 0 → versionParts value = none

lemma decided_of_parsed {a b : String} (ha : (versionParts a).isSome = true) (hb : (versionParts b).isSome = true) :
    Decided a b := by
  obtain ⟨left, hleft⟩ := Option.isSome_iff_exists.mp ha
  obtain ⟨right, hright⟩ := Option.isSome_iff_exists.mp hb
  exact ⟨versionAtLeast_eq hleft hright, versionAtLeast_eq hright hleft⟩

theorem version_gates_consistent : ConsistentGates where
  accepted raw raw' a b ha hb := by
    obtain ⟨rfl, hleft⟩ := cleanReleaseVersion_parts ha
    obtain ⟨rfl, hright⟩ := cleanReleaseVersion_parts hb
    exact ⟨decided_of_parsed hleft hright,
      decided_of_parsed (versionParts_trim raw ▸ hleft) (versionParts_trim raw' ▸ hright)⟩
  strictWeakOrder := Version.strictWeakOrder
  lexicographic := Version.greater_iff
  opposite a b := (decided_of_parsed a.property b.property).1
  closed _ _ := unparsed
  beyond _ _ hpart := versionParts_beyond hpart

end ForgeCustomer.VersionOrder
