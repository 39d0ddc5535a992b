import ForgeCustomer.CommercialPolicy
import ForgeCustomer.UsageRepository

/-!
# The periods of usage

`domain::usage::period_key_for` names the period in which a meter counts at a given date,
`domain::admin::clean_period_key` reads the period that an operator corrects.
-/
namespace ForgeCustomer.UsagePeriods
open SqlTables SqlPrograms SqlStatements DatabaseTables AuditWriters UsageRepository CommercialPolicy TableName

def isLeapYear (year : ℤ) : Bool := year % 4 == 0 && (year % 100 != 0 || year % 400 == 0)

def daysInMonth (year : ℤ) (month : ℕ) : ℕ :=
  if month = 2 then if isLeapYear year then 29 else 28
  else if [4, 6, 9, 11].contains month then 30 else 31

/-- The day of an instant, in UTC. -/
structure UtcDate where
  year : ℤ
  month : ℕ
  day : ℕ
  month_valid : 1 ≤ month ∧ month ≤ 12
  day_valid : 1 ≤ day ∧ day ≤ daysInMonth year month

lemma one_le_daysInMonth (year : ℤ) (month : ℕ) : 1 ≤ daysInMonth year month := by
  unfold daysInMonth
  split_ifs <;> omega

/-- The first day of a month. -/
def firstOf (year : ℤ) (month : ℕ) (h : 1 ≤ month ∧ month ≤ 12) : UtcDate :=
  ⟨year, month, 1, h, le_refl 1, one_le_daysInMonth year month⟩

def twoDigits (n : ℕ) : List Char := [Nat.digitChar (n / 10), Nat.digitChar (n % 10)]

/-- `%Y`: four digits, with a sign outside of `0..=9999`. -/
def yearText (year : ℤ) : List Char :=
  if 0 ≤ year ∧ year ≤ 9999 then twoDigits (year.toNat / 100) ++ twoDigits (year.toNat % 100)
  else
    let digits := Nat.toDigits 10 year.natAbs
    (if year < 0 then '-' else '+') :: (List.replicate (4 - digits.length) '0' ++ digits)

/-- `%Y-%m`. -/
def monthText (date : UtcDate) : List Char := yearText date.year ++ '-' :: twoDigits date.month

/-- `%Y-%m-%d`. -/
def dayText (date : UtcDate) : List Char := monthText date ++ '-' :: twoDigits date.day

/-- The period a meter accrues into at a date. -/
def periodKeyFor (cadence : ResetCadence) (date : UtcDate) : String :=
  match cadence with
  | .monthly => String.ofList (monthText date)
  | .daily => String.ofList (dayText date)
  | .never => "all"

lemma isDigit_digitChar {n : ℕ} (h : n < 10) : (Nat.digitChar n).isDigit = true := by
  rw [Nat.isDigit_digitChar, decide_eq_true h]

lemma hyphen_notMem_of_isDigit {cs : List Char} (h : ∀ c ∈ cs, c.isDigit = true) : '-' ∉ cs := by
  intro hmem
  have hdigit := h _ hmem
  revert hdigit
  decide

lemma isDigit_of_mem_twoDigits {n : ℕ} (h : n < 100) : ∀ c ∈ twoDigits n, c.isDigit = true := by
  intro c hc
  rcases List.mem_pair.mp hc with rfl | rfl
  · exact isDigit_digitChar (by omega)
  · exact isDigit_digitChar (by omega)

lemma yearText_ne_nil (year : ℤ) : yearText year ≠ [] := by
  unfold yearText
  split_ifs <;> simp [twoDigits]

/-- A hyphen in a year is its sign. -/
lemma hyphen_notMem_tail_yearText (year : ℤ) : '-' ∉ (yearText year).tail := by
  apply hyphen_notMem_of_isDigit
  intro c hc
  unfold yearText at hc
  split_ifs at hc with h
  · have hmem := List.mem_of_mem_tail hc
    rcases List.mem_append.mp hmem with hmem | hmem
    · exact isDigit_of_mem_twoDigits (by omega) c hmem
    · exact isDigit_of_mem_twoDigits (by omega) c hmem
  all_goals
    simp only [List.tail_cons] at hc
    rcases List.mem_append.mp hc with hc | hc
    · rw [List.eq_of_mem_replicate hc]
      decide
    · exact Nat.isDigit_of_mem_toDigits (by omega) (by omega) hc

/-- No day is written like a month. -/
lemma dayText_ne_monthText (day date : UtcDate) : dayText day ≠ monthText date := by
  intro h
  have hsplit : (yearText day.year ++ '-' :: twoDigits day.month) ++ '-' :: twoDigits day.day =
      yearText date.year ++ '-' :: twoDigits date.month := h
  obtain ⟨hyear, -⟩ := List.append_inj' hsplit (by simp [twoDigits])
  apply hyphen_notMem_tail_yearText date.year
  rw [← hyear]
  cases hchars : yearText day.year with
  | nil => exact absurd hchars (yearText_ne_nil _)
  | cons c cs => simp

lemma monthText_ne_all (date : UtcDate) : monthText date ≠ "all".toList := by
  intro h
  have hmem : '-' ∈ monthText date := by simp [monthText]
  rw [h] at hmem
  revert hmem
  decide

/-- Only a meter that resets every month counts in months. -/
lemma periodKeyFor_eq_month_iff {cadence : ResetCadence} {month : UtcDate} :
    (∃ date, periodKeyFor cadence date = String.ofList (monthText month)) ↔ cadence = .monthly := by
  constructor
  · rintro ⟨date, h⟩
    cases cadence with
    | monthly => rfl
    | daily => exact absurd (String.ofList_injective h) (dayText_ne_monthText date month)
    | never =>
      have hall := congrArg String.toList h
      rw [String.toList_ofList] at hall
      exact absurd hall.symm (monthText_ne_all month)
  · rintro rfl
    exact ⟨month, rfl⟩

structure AdminValidationError where
  field : String
  message : String
deriving DecidableEq

/-- The number a list of digits denotes. -/
def numeral (digits : List Char) : ℕ := Nat.ofDigitChars 10 digits 0

/-- `None` and blank stand for the current month. Two and four digits always parse, so the errors of `parse`
do not occur. -/
def cleanPeriodKey (today : UtcDate) (value : Option String) : Except AdminValidationError String :=
  match (value.map trim).filter (· ≠ "") with
  | none => .ok (String.ofList (monthText today))
  | some value =>
    match value.toList with
    | [y₁, y₂, y₃, y₄, '-', m₁, m₂] =>
      if [y₁, y₂, y₃, y₄, m₁, m₂].all Char.isDigit then
        let month := numeral [m₁, m₂]
        let year := numeral [y₁, y₂, y₃, y₄]
        if month < 1 ∨ 12 < month then .error ⟨"period_key", "month must be between 01 and 12"⟩
        -- Adjustments target recent history, not the far past or future.
        else if (year : ℤ) < today.year - 5 ∨ today.year + 1 < year then
          .error ⟨"period_key", "year is outside the adjustable window"⟩
        else .ok value
      else .error ⟨"period_key", "must have the form YYYY-MM"⟩
    | _ => .error ⟨"period_key", "must have the form YYYY-MM"⟩

lemma exists_digitChar {c : Char} (h : c.isDigit = true) : ∃ n < 10, c = Nat.digitChar n := by
  have hlow : 48 ≤ c.toNat := by
    simp [Char.isDigit] at h
    exact h.1
  have hhigh : c.toNat ≤ 57 := by
    simp [Char.isDigit] at h
    exact h.2
  refine ⟨c.toNat - 48, by omega, ?_⟩
  have hall : ∀ n ∈ List.range 10, Nat.digitChar n = Char.ofNat (n + 48) := by decide
  rw [hall _ (List.mem_range.mpr (by omega)), Nat.sub_add_cancel hlow, Char.ofNat_toNat]

lemma numeral_pair {i j : ℕ} (hi : i < 10) (hj : j < 10) : numeral [Nat.digitChar i, Nat.digitChar j] = 10 * i + j := by
  have hall : ∀ i ∈ List.range 10, ∀ j ∈ List.range 10,
      numeral [Nat.digitChar i, Nat.digitChar j] = 10 * i + j := by decide
  exact hall i (List.mem_range.mpr hi) j (List.mem_range.mpr hj)

lemma twoDigits_numeral {a b : Char} (ha : a.isDigit = true) (hb : b.isDigit = true) : twoDigits (numeral [a, b]) = [a, b] := by
  obtain ⟨i, hi, rfl⟩ := exists_digitChar ha
  obtain ⟨j, hj, rfl⟩ := exists_digitChar hb
  have hquot : (10 * i + j) / 10 = i := by omega
  have hrem : (10 * i + j) % 10 = j := by omega
  rw [numeral_pair hi hj, twoDigits, hquot, hrem]

lemma numeral_pair_lt {a b : Char} (ha : a.isDigit = true) (hb : b.isDigit = true) : numeral [a, b] < 100 := by
  obtain ⟨i, hi, rfl⟩ := exists_digitChar ha
  obtain ⟨j, hj, rfl⟩ := exists_digitChar hb
  rw [numeral_pair hi hj]
  omega

lemma numeral_append (a b c d : Char) : numeral [a, b, c, d] = 100 * numeral [a, b] + numeral [c, d] := by
  simp only [numeral, Nat.ofDigitChars, List.foldl]
  omega

lemma yearText_numeral {a b c d : Char} (h : ∀ x ∈ [a, b, c, d], x.isDigit = true) :
    yearText (numeral [a, b, c, d]) = [a, b, c, d] := by
  simp only [List.mem_cons, List.not_mem_nil, or_false, forall_eq_or_imp, forall_eq] at h
  obtain ⟨ha, hb, hc, hd⟩ := h
  have hhigh := numeral_pair_lt ha hb
  have hlow := numeral_pair_lt hc hd
  have hquot : (100 * numeral [a, b] + numeral [c, d]) / 100 = numeral [a, b] := by omega
  have hrem : (100 * numeral [a, b] + numeral [c, d]) % 100 = numeral [c, d] := by omega
  rw [numeral_append, yearText, if_pos (by omega), Int.toNat_natCast, hquot, hrem, twoDigits_numeral ha hb,
    twoDigits_numeral hc hd]
  rfl

/-- What is accepted is a month. -/
theorem cleanPeriodKey_month {today : UtcDate} {value : Option String} {key : String}
    (h : cleanPeriodKey today value = .ok key) : ∃ month, key = String.ofList (monthText month) := by
  unfold cleanPeriodKey at h
  split at h
  · cases h
    exact ⟨today, rfl⟩
  rename_i value hvalue
  split at h
  · rename_i y₁ y₂ y₃ y₄ m₁ m₂ hchars
    split at h
    · rename_i hdigits
      dsimp only at h
      split at h
      · cases h
      rename_i hmonth
      split at h
      · cases h
      cases h
      simp only [List.all_cons, List.all_nil, Bool.and_true, Bool.and_eq_true] at hdigits
      obtain ⟨h₁, h₂, h₃, h₄, h₅, h₆⟩ := hdigits
      have hyear : yearText (numeral [y₁, y₂, y₃, y₄]) = [y₁, y₂, y₃, y₄] :=
        yearText_numeral (by simp [h₁, h₂, h₃, h₄])
      refine ⟨firstOf (numeral [y₁, y₂, y₃, y₄]) (numeral [m₁, m₂]) (by omega), ?_⟩
      rw [monthText, firstOf, hyear, twoDigits_numeral h₅ h₆]
      apply String.toList_injective
      rw [hchars, String.toList_ofList]
      rfl
    · cases h
  · cases h

/-- `read_totals`: used and reserved, zero for a period without a row. -/
def currentTotals (customerId : ℕ) (meterKey periodKey : String) (d : Database) : ℚ × ℚ :=
  (((d .usagePeriodTotals).find? (isTotals customerId meterKey periodKey)).map fun e =>
    (e.val.used, e.val.reserved)).getD (0, 0)

section Totals
variable {customerId : ℕ} {meterKey periodKey : String} {s : DbStore}

lemma holder_totals (v : UsagePeriodTotal) (d : Database) : holder (κ := UniqueKey) usagePeriodTotals v d =
    (d usagePeriodTotals).find? (isTotals v.customerId v.meterKey v.periodKey) :=
  congrArg (fun p => (d usagePeriodTotals).find? p) (conflicts_totals v)

lemma currentTotals_of_find {d : Database} {e : Entry UsagePeriodTotal}
    (h : (d usagePeriodTotals).find? (isTotals customerId meterKey periodKey) = some e) :
    currentTotals customerId meterKey periodKey d = (e.val.used, e.val.reserved) := by
  rw [currentTotals, h]
  rfl

/-- Folding an amount into the totals, as an adjustment does. -/
lemma ensures_foldTotals {ε : Type} [FromSql ε] {amount : ℚ} :
    (upsert usagePeriodTotals ⟨customerId, meterKey, periodKey, amount, 0⟩
      (fun r => { r with used := r.used + amount }) : Tx ε _).Ensures s fun _ s' =>
        ((s'.db usagePeriodTotals).find? (isTotals customerId meterKey periodKey)).isSome = true ∧
        currentTotals customerId meterKey periodKey s'.db =
          ((currentTotals customerId meterKey periodKey s.db).1 + amount,
            (currentTotals customerId meterKey periodKey s.db).2) := by
  refine ensures_upsert_cases.mono fun e s' h => ?_
  rw [holder_totals] at h
  rcases h with ⟨e₀, hheld, -, hdb⟩ | ⟨hfree, -, hdb⟩
  · have hfind : (s'.db usagePeriodTotals).find? (isTotals customerId meterKey periodKey) =
        some ⟨e₀.id, { e₀.val with used := e₀.val.used + amount }⟩ := by
      rw [hdb, Db.put_self, find_updateRows (fun _ _ _ => rfl), hheld]
      simp [updateEntry]
    rw [hfind, currentTotals_of_find hfind, currentTotals_of_find hheld]
    exact ⟨rfl, rfl⟩
  · have hfind : (s'.db usagePeriodTotals).find? (isTotals customerId meterKey periodKey) =
        some ⟨s.seq, ⟨customerId, meterKey, periodKey, amount, 0⟩⟩ := by
      rw [hdb, Db.put_self, List.find?_append, hfree]
      simp [isTotals]
    have hbefore : currentTotals customerId meterKey periodKey s.db = (0, 0) := by
      rw [currentTotals, hfree]
      rfl
    rw [hfind, currentTotals_of_find hfind, hbefore]
    exact ⟨rfl, by simp⟩

end Totals

end ForgeCustomer.UsagePeriods
