import ForgeCustomer.CommercialPolicy

/-!
# Profiles of new accounts

`domain::customer`: what a client says about itself is trimmed and cut to a length in bytes. A cut inside a
character panics.
-/
namespace ForgeCustomer.ProvisionProfiles
open CommercialPolicy

def byteLen (cs : List Char) : ℕ := (cs.map Char.utf8Size).sum

/-- `&v[..n]`, which panics inside a character and beyond the end. -/
def sliceTo : ℕ → List Char → Option (List Char)
  | 0, _ => some []
  | _ + 1, [] => none
  | n + 1, c :: cs => if c.utf8Size ≤ n + 1 then (sliceTo (n + 1 - c.utf8Size) cs).map (c :: ·) else none

/-- `str::is_char_boundary`. -/
def IsCharBoundary (n : ℕ) (cs : List Char) : Prop := ∃ p, p <+: cs ∧ byteLen p = n

@[simp] lemma byteLen_nil : byteLen [] = 0 := rfl

@[simp] lemma byteLen_cons (c : Char) (cs : List Char) : byteLen (c :: cs) = c.utf8Size + byteLen cs := rfl

lemma utf8ByteSize_ofList (cs : List Char) : (String.ofList cs).utf8ByteSize = byteLen cs := by
  induction cs with
  | nil => rfl
  | cons c cs ih =>
    have hcons : String.ofList (c :: cs) = String.singleton c ++ String.ofList cs :=
      String.ext (by simp)
    rw [hcons, String.utf8ByteSize_append, ih, byteLen_cons, String.utf8ByteSize_singleton]

lemma utf8ByteSize_eq (s : String) : s.utf8ByteSize = byteLen s.toList := by
  rw [← utf8ByteSize_ofList, String.ofList_toList]

/-- A slice is the prefix of that many bytes. -/
lemma sliceTo_eq_some {n : ℕ} {cs p : List Char} : sliceTo n cs = some p ↔ p <+: cs ∧ byteLen p = n := by
  induction cs generalizing n p with
  | nil =>
    cases n with
    | zero =>
      simp only [sliceTo, Option.some.injEq, List.prefix_nil]
      constructor
      · rintro rfl
        simp
      · exact fun h => h.1.symm
    | succ n =>
      simp only [sliceTo, List.prefix_nil, reduceCtorEq, false_iff, not_and]
      rintro rfl
      simp
  | cons c cs ih =>
    have hpos := c.utf8Size_pos
    cases n with
    | zero =>
      have hempty : ∀ p, p <+: c :: cs ∧ byteLen p = 0 → p = [] := by
        rintro p ⟨-, hlen⟩
        cases p with
        | nil => rfl
        | cons d p =>
          have := d.utf8Size_pos
          rw [byteLen_cons] at hlen
          omega
      constructor
      · intro h
        obtain rfl := Option.some.inj h
        simp
      · intro h
        rw [hempty p h]
        rfl
    | succ n =>
      unfold sliceTo
      split_ifs with hfits
      · simp only [Option.map_eq_some_iff, ih]
        constructor
        · rintro ⟨q, ⟨hstart, hlen⟩, rfl⟩
          refine ⟨List.cons_prefix_cons.mpr ⟨rfl, hstart⟩, ?_⟩
          rw [byteLen_cons]
          omega
        · rintro ⟨hstart, hlen⟩
          cases p with
          | nil => simp at hlen
          | cons d q =>
            obtain ⟨rfl, hq⟩ := List.cons_prefix_cons.mp hstart
            rw [byteLen_cons] at hlen
            exact ⟨q, ⟨hq, by omega⟩, rfl⟩
      · simp only [false_iff, not_and]
        intro hstart hlen
        cases p with
        | nil => simp at hlen
        | cons d q =>
          obtain ⟨rfl, -⟩ := List.cons_prefix_cons.mp hstart
          rw [byteLen_cons] at hlen
          omega

structure ProvisionProfileInput where
  displayName : Option String
  countryCode : Option String
  timezone : Option String

structure ValidatedProvisionProfile where
  displayName : Option String
  countryCode : Option String
  timezone : Option String
deriving DecidableEq

structure ProvisionProfileValidationError where
  field : String
  message : String
deriving DecidableEq

/-- The trimmed text, unless it is empty. -/
def present (value : Option String) : Option String := (value.map trim).filter (· ≠ "")

/-- At most `maxLen` bytes; `none` is a panic. -/
def trimmedOptional (value : Option String) (maxLen : ℕ) : Option (Option String) :=
  match present value with
  | none => some none
  | some v =>
    if maxLen < v.utf8ByteSize then (sliceTo maxLen v.toList).map fun p => some (String.ofList p)
    else some (some v)

/-- `to_ascii_uppercase`. -/
def asciiUppercase (s : String) : String := String.ofList (s.toList.map Char.toUpper)

def validateCountryCode (value : Option String) : Except ProvisionProfileValidationError (Option String) :=
  match present value with
  | none => .ok none
  | some raw =>
    let code := asciiUppercase raw
    if code.utf8ByteSize = 2 ∧ code.toList.all Char.isUpper = true then .ok (some code)
    else .error ⟨"country_code", "country_code must be a two-letter ISO country code"⟩

/-- `none` is a panic. -/
def validateProvisionProfile (input : ProvisionProfileInput) :
    Option (Except ProvisionProfileValidationError ValidatedProvisionProfile) := do
  let displayName ← trimmedOptional input.displayName 120
  match validateCountryCode input.countryCode with
  | .error e => pure (.error e)
  | .ok countryCode =>
    let timezone ← trimmedOptional input.timezone 80
    pure (.ok ⟨displayName, countryCode, timezone⟩)

/-- A text that was kept up to `maxLen` bytes. -/
def CutFrom (maxLen : ℕ) (value : Option String) (text : String) : Prop :=
  ∃ raw, value = some raw ∧ text.toList <+: (trim raw).toList ∧ text.utf8ByteSize ≤ maxLen

/-- `^[A-Z]{2}$`. -/
def IsCountryCode (code : String) : Prop := ∃ a b : Char, code.toList = [a, b] ∧ a.isUpper = true ∧ b.isUpper = true

structure Sanitized (input : ProvisionProfileInput) (profile : ValidatedProvisionProfile) : Prop where
  displayName : ∀ name, profile.displayName = some name → CutFrom 120 input.displayName name
  countryCode : ∀ code, profile.countryCode = some code → IsCountryCode code
  timezone : ∀ zone, profile.timezone = some zone → CutFrom 80 input.timezone zone

/-- A result is returned, and an accepted profile is sanitized. -/
def Sanitizes (input : ProvisionProfileInput) : Prop :=
  ∃ result, validateProvisionProfile input = some result ∧ ∀ profile, result = .ok profile → Sanitized input profile

/-- The trimmed text is short, or a character ends at the limit. -/
def Cuttable (maxLen : ℕ) (value : Option String) : Prop :=
  ∀ raw, value = some raw → (trim raw).utf8ByteSize ≤ maxLen ∨ IsCharBoundary maxLen (trim raw).toList

variable {input : ProvisionProfileInput} {value : Option String} {maxLen : ℕ}

lemma present_eq_some {v : String} : present value = some v ↔ ∃ raw, value = some raw ∧ trim raw = v ∧ v ≠ "" := by
  simp only [present, Option.filter_eq_some_iff, Option.map_eq_some_iff, decide_eq_true_eq]
  constructor
  · rintro ⟨⟨raw, hraw, rfl⟩, hne⟩
    exact ⟨raw, hraw, rfl, hne⟩
  · rintro ⟨raw, hraw, rfl, hne⟩
    exact ⟨⟨raw, hraw, rfl⟩, hne⟩

lemma present_eq_none (h : present value = none) : ∀ raw, value = some raw → trim raw = "" := by
  intro raw hraw
  by_contra hne
  rw [present_eq_some.mpr ⟨raw, hraw, rfl, hne⟩] at h
  cases h

/-- The cut succeeds on the texts that can be cut. -/
lemma trimmedOptional_isSome : (trimmedOptional value maxLen).isSome = true ↔ Cuttable maxLen value := by
  unfold trimmedOptional Cuttable
  cases hpresent : present value with
  | none =>
    simp only [Option.isSome_some, true_iff]
    intro raw hraw
    left
    rw [present_eq_none hpresent raw hraw]
    simp
  | some v =>
    obtain ⟨raw, hraw, htrim, -⟩ := present_eq_some.mp hpresent
    have hcuttable : (∀ raw, value = some raw → (trim raw).utf8ByteSize ≤ maxLen ∨ IsCharBoundary maxLen (trim raw).toList) ↔
        v.utf8ByteSize ≤ maxLen ∨ IsCharBoundary maxLen v.toList := by
      rw [hraw]
      simp [htrim]
    rw [hcuttable]
    dsimp only
    split_ifs with hlong
    · rw [Option.isSome_map, Option.isSome_iff_exists]
      simp only [sliceTo_eq_some]
      exact ⟨.inr, fun h => h.resolve_left hlong.not_ge⟩
    · simp [not_lt.mp hlong]

/-- What is kept is a prefix within the limit. -/
lemma trimmedOptional_cut {text : String} (h : trimmedOptional value maxLen = some (some text)) :
    CutFrom maxLen value text := by
  unfold trimmedOptional at h
  cases hpresent : present value with
  | none =>
    rw [hpresent] at h
    cases h
  | some v =>
    obtain ⟨raw, hraw, rfl, -⟩ := present_eq_some.mp hpresent
    rw [hpresent] at h
    dsimp only at h
    split_ifs at h with hlong
    · obtain ⟨p, hp, htext⟩ := Option.map_eq_some_iff.mp h
      obtain ⟨hstart, hlen⟩ := sliceTo_eq_some.mp hp
      obtain rfl := Option.some.inj htext
      refine ⟨raw, hraw, by simpa using hstart, ?_⟩
      rw [utf8ByteSize_ofList, hlen]
    · obtain rfl := Option.some.inj (Option.some.inj h)
      exact ⟨raw, hraw, List.prefix_refl _, not_lt.mp hlong⟩

lemma utf8Size_of_isUpper {c : Char} (h : c.isUpper = true) : c.utf8Size = 1 := by
  have hle : c.val ≤ 90 := by
    simp only [Char.isUpper, decide_eq_true_eq] at h
    exact h.2
  unfold Char.utf8Size
  rw [if_pos]
  exact UInt32.le_trans hle (by decide)

/-- Characters of one byte each. -/
lemma byteLen_of_ascii {cs : List Char} (h : ∀ c ∈ cs, c.utf8Size = 1) : byteLen cs = cs.length := by
  induction cs with
  | nil => rfl
  | cons c cs ih =>
    have htail := ih fun d hd => h d (by simp [hd])
    rw [byteLen_cons, h c (by simp), htail, List.length_cons]
    omega

lemma validateCountryCode_ok {code : String} (h : validateCountryCode value = .ok (some code)) : IsCountryCode code := by
  unfold validateCountryCode at h
  split at h
  · cases h
  dsimp only at h
  split_ifs at h with hcode
  obtain ⟨hlen, hall⟩ := hcode
  obtain rfl := Option.some.inj (Except.ok.inj h)
  have hupper := List.all_eq_true.mp hall
  rw [utf8ByteSize_eq, byteLen_of_ascii fun c hc => utf8Size_of_isUpper (hupper c hc)] at hlen
  obtain ⟨a, b, hab⟩ := List.length_eq_two.mp hlen
  rw [hab] at hupper
  exact ⟨a, b, hab, hupper a (by simp), hupper b (by simp)⟩

/-- An accepted profile is sanitized. -/
lemma validateProvisionProfile_ok {profile : ValidatedProvisionProfile}
    (h : validateProvisionProfile input = some (.ok profile)) : Sanitized input profile := by
  unfold validateProvisionProfile at h
  obtain ⟨displayName, hname, h⟩ := Option.bind_eq_some_iff.mp h
  split at h
  · cases h
  rename_i countryCode hcountry
  obtain ⟨timezone, hzone, h⟩ := Option.bind_eq_some_iff.mp h
  cases h
  exact
    { displayName := fun name hsome => trimmedOptional_cut (by rw [hname, ← hsome])
      countryCode := fun code hsome => validateCountryCode_ok (by rw [hcountry, ← hsome])
      timezone := fun zone hsome => trimmedOptional_cut (by rw [hzone, ← hsome]) }

/-- Validation answers exactly if no limit falls inside a character: that of the name, and that of the time
zone where the country code is accepted. -/
theorem provision_profile_sanitized_iff : Sanitizes input ↔
    Cuttable 120 input.displayName ∧
      ((∃ code, validateCountryCode input.countryCode = .ok code) → Cuttable 80 input.timezone) := by
  have hanswers : Sanitizes input ↔ (validateProvisionProfile input).isSome = true := by
    rw [Option.isSome_iff_exists]
    constructor
    · rintro ⟨result, hresult, -⟩
      exact ⟨result, hresult⟩
    · rintro ⟨result, hresult⟩
      refine ⟨result, hresult, ?_⟩
      rintro profile rfl
      exact validateProvisionProfile_ok hresult
  rw [hanswers, ← trimmedOptional_isSome, ← trimmedOptional_isSome]
  unfold validateProvisionProfile
  cases trimmedOptional input.displayName 120 with
  | none => simp
  | some displayName =>
    cases validateCountryCode input.countryCode with
    | error e => simp
    | ok code => cases trimmedOptional input.timezone 80 <;> simp

/-- 119 letters and one more of two bytes. -/
def longName : ProvisionProfileInput :=
  ⟨some (String.ofList (List.replicate 119 'a' ++ ['é'])), none, none⟩

/-- The slice panics. -/
theorem longName_panics : validateProvisionProfile longName = none ∧ ¬Sanitizes longName := by
  have hpanic : validateProvisionProfile longName = none := by decide +kernel
  refine ⟨hpanic, ?_⟩
  rintro ⟨result, hresult, -⟩
  rw [hpanic] at hresult
  cases hresult

end ForgeCustomer.ProvisionProfiles
