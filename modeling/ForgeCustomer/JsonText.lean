import ForgeCustomer.JsonValue

/-!
# JSON text

Values over any type of numbers, their compact text, and a parser that reads it back. How numbers are
written and read is a parameter.
-/
namespace ForgeCustomer.JsonText
open JsonValue

/-- How numbers are written and read. -/
structure NumberFormat (ν : Type) where
  finite : ν → Bool
  format : ν → List Char
  read : List Char → Option ν

/-- The characters of a JSON number. -/
def isNumberChar (c : Char) : Bool := c.isDigit || ['-', '+', '.', 'e', 'E'].contains c

def isNumberStart (c : Char) : Bool := c.isDigit || c == '-'

/-- Finite numbers are written as JSON numbers, and read back exactly. -/
structure NumberFormat.Lawful {ν : Type} (N : NumberFormat ν) : Prop where
  chars : ∀ x, N.finite x = true → ∀ c ∈ N.format x, isNumberChar c = true
  start : ∀ x, N.finite x = true → ∃ c rest, N.format x = c :: rest ∧ isNumberStart c = true
  read_format : ∀ x, N.finite x = true → N.read (N.format x) = some x

inductive Json (ν : Type) where
  | null
  | bool (b : Bool)
  | num (x : ν)
  | str (s : String)
  | arr (items : List (Json ν))
  | obj (members : List (String × Json ν))

def hexChar (n : ℕ) : Char := "0123456789abcdef".toList.getD n '0'

/-- Quotes, backslashes and control characters are escaped. -/
def escapeChar (c : Char) : List Char :=
  if c = '"' then ['\\', '"']
  else if c = '\\' then ['\\', '\\']
  else if c = '\x08' then ['\\', 'b']
  else if c = '\x0c' then ['\\', 'f']
  else if c = '\n' then ['\\', 'n']
  else if c = '\r' then ['\\', 'r']
  else if c = '\t' then ['\\', 't']
  else if c.toNat < 0x20 then ['\\', 'u', '0', '0', hexChar (c.toNat / 16), hexChar (c.toNat % 16)]
  else [c]

/-- The rest of a string after its opening quote. -/
def printBody : List Char → List Char
  | [] => ['"']
  | c :: cs => escapeChar c ++ printBody cs

def printString (s : String) : List Char := '"' :: printBody s.toList

section Print
variable {ν : Type} (N : NumberFormat ν)

mutual
/-- Compact text, without white space. -/
def print : Json ν → List Char
  | .null => "null".toList
  | .bool true => "true".toList
  | .bool false => "false".toList
  | .num x => N.format x
  | .str s => printString s
  | .arr [] => ['[', ']']
  | .arr (v :: items) => '[' :: (print v ++ printItems items)
  | .obj [] => ['{', '}']
  | .obj ((k, v) :: members) => '{' :: (printString k ++ ':' :: (print v ++ printMembers members))

/-- The rest of an array after an item. -/
def printItems : List (Json ν) → List Char
  | [] => [']']
  | v :: items => ',' :: (print v ++ printItems items)

/-- The rest of an object after a member. -/
def printMembers : List (String × Json ν) → List Char
  | [] => ['}']
  | (k, v) :: members => ',' :: (printString k ++ ':' :: (print v ++ printMembers members))
end

end Print

def isJsonSpace (c : Char) : Bool := c == ' ' || c == '\n' || c == '\t' || c == '\r'

def skipSpace (cs : List Char) : List Char := cs.dropWhile isJsonSpace

/-- Four hexadecimal digits. -/
def readHex : List Char → Option (ℕ × List Char)
  | a :: b :: c :: d :: rest => (hexNumber [a, b, c, d]).map fun n => (n, rest)
  | _ => none

/-- After `\u`; a surrogate needs its partner. -/
def readUnicode (cs : List Char) : Option (Char × List Char) :=
  (readHex cs).bind fun (n, rest) =>
    if 0xDC00 ≤ n ∧ n < 0xE000 then none
    else if 0xD800 ≤ n ∧ n < 0xDC00 then
      match rest with
      | '\\' :: 'u' :: rest => (readHex rest).bind fun (m, rest) =>
          if 0xDC00 ≤ m ∧ m < 0xE000 then
            some (Char.ofNat (0x10000 + (n - 0xD800) * 0x400 + (m - 0xDC00)), rest)
          else none
      | _ => none
    else some (Char.ofNat n, rest)

/-- After a backslash. -/
def readEscape : List Char → Option (Char × List Char)
  | '"' :: rest => some ('"', rest)
  | '\\' :: rest => some ('\\', rest)
  | '/' :: rest => some ('/', rest)
  | 'b' :: rest => some ('\x08', rest)
  | 'f' :: rest => some ('\x0c', rest)
  | 'n' :: rest => some ('\n', rest)
  | 'r' :: rest => some ('\r', rest)
  | 't' :: rest => some ('\t', rest)
  | 'u' :: rest => readUnicode rest
  | _ => none

/-- One character of a string; a raw control character is refused. -/
def readChar : List Char → Option (Char × List Char)
  | [] => none
  | c :: rest => if c = '\\' then readEscape rest else if c.toNat < 0x20 then none else some (c, rest)

/-- The rest of a string after its opening quote. -/
def readBody : ℕ → List Char → Option (List Char × List Char)
  | 0, _ => none
  | _, [] => none
  | n + 1, c :: rest =>
    if c = '"' then some ([], rest)
    else (readChar (c :: rest)).bind fun (c, rest) => (readBody n rest).map fun (cs, rest) => (c :: cs, rest)

def readString (cs : List Char) : Option (String × List Char) :=
  (readBody cs.length cs).map fun (s, rest) => (String.ofList s, rest)

/-- Take one character off the front, after white space. -/
def expect (c : Char) (cs : List Char) : Option (List Char) :=
  match skipSpace cs with
  | [] => none
  | c' :: rest => if c' = c then some rest else none

/-- Take a literal off the front. -/
def literal (word : String) (cs : List Char) : Option (List Char) :=
  if word.toList.isPrefixOf cs then some (cs.drop word.toList.length) else none

section Parse
variable {ν : Type} (N : NumberFormat ν)

def parseNumber (cs : List Char) : Option (Json ν × List Char) :=
  (N.read (cs.takeWhile isNumberChar)).map fun x => (.num x, cs.dropWhile isNumberChar)

/-- `null`, `true`, `false` or a number. -/
def parseAtom (c : Char) (rest : List Char) : Option (Json ν × List Char) :=
  if c = 'n' then (literal "null" (c :: rest)).map fun rest => (.null, rest)
  else if c = 't' then (literal "true" (c :: rest)).map fun rest => (.bool true, rest)
  else if c = 'f' then (literal "false" (c :: rest)).map fun rest => (.bool false, rest)
  else if isNumberStart c then parseNumber N (c :: rest)
  else none

mutual
/-- A value and the text behind it; the first argument bounds the steps. -/
def parseValue : ℕ → List Char → Option (Json ν × List Char)
  | 0, _ => none
  | n + 1, cs =>
    match skipSpace cs with
    | [] => none
    | c :: rest =>
      if c = '"' then (readString rest).map fun (s, rest) => (.str s, rest)
      else if c = '[' then
        match expect ']' rest with
        | some rest => some (.arr [], rest)
        | none => (parseValue n rest).bind fun (v, rest) =>
            (parseItems n rest).map fun (items, rest) => (.arr (v :: items), rest)
      else if c = '{' then
        match expect '}' rest with
        | some rest => some (.obj [], rest)
        | none => (parseMember n rest).bind fun (m, rest) =>
            (parseMembers n rest).map fun (members, rest) => (.obj (m :: members), rest)
      else parseAtom N c rest

def parseItems : ℕ → List Char → Option (List (Json ν) × List Char)
  | 0, _ => none
  | n + 1, cs =>
    match expect ']' cs with
    | some rest => some ([], rest)
    | none => (expect ',' cs).bind fun rest => (parseValue n rest).bind fun (v, rest) =>
        (parseItems n rest).map fun (items, rest) => (v :: items, rest)

def parseMember : ℕ → List Char → Option ((String × Json ν) × List Char)
  | 0, _ => none
  | n + 1, cs => (expect '"' cs).bind fun rest => (readString rest).bind fun (k, rest) =>
      (expect ':' rest).bind fun rest => (parseValue n rest).map fun (v, rest) => ((k, v), rest)

def parseMembers : ℕ → List Char → Option (List (String × Json ν) × List Char)
  | 0, _ => none
  | n + 1, cs =>
    match expect '}' cs with
    | some rest => some ([], rest)
    | none => (expect ',' cs).bind fun rest => (parseMember n rest).bind fun (m, rest) =>
        (parseMembers n rest).map fun (members, rest) => (m :: members, rest)
end

/-- A whole document: one value with nothing but white space behind it. -/
def parse (cs : List Char) : Option (Json ν) :=
  (parseValue N (3 * cs.length) cs).bind fun (v, rest) => if skipSpace rest = [] then some v else none

end Parse

@[simp] lemma skipSpace_cons {c : Char} {rest : List Char} (h : isJsonSpace c = false) :
    skipSpace (c :: rest) = c :: rest := by
  simp [skipSpace, h]

lemma expect_cons {c : Char} (h : isJsonSpace c = false) (rest : List Char) : expect c (c :: rest) = some rest := by
  rw [expect, skipSpace_cons h]
  exact if_pos rfl

lemma expect_of_ne {c c' : Char} (h : isJsonSpace c = false) (hne : c ≠ c') (rest : List Char) :
    expect c' (c :: rest) = none := by
  rw [expect, skipSpace_cons h]
  exact if_neg hne

lemma hexDigit_hexChar : ∀ n < 16, hexDigit (hexChar n) = some n := by decide

lemma readHex_control {n : ℕ} (h : n < 0x20) (rest : List Char) :
    readHex ('0' :: '0' :: hexChar (n / 16) :: hexChar (n % 16) :: rest) = some (n, rest) := by
  have hzero : hexDigit '0' = some 0 := by decide
  have hhigh := hexDigit_hexChar (n / 16) (by omega)
  have hlow := hexDigit_hexChar (n % 16) (by omega)
  have hsum : 16 * (n / 16) + n % 16 = n := by omega
  simp [readHex, hexNumber, hzero, hhigh, hlow, hsum]

lemma readChar_escapeChar (c : Char) (rest : List Char) : readChar (escapeChar c ++ rest) = some (c, rest) := by
  unfold escapeChar
  split
  · subst_vars; rfl
  split
  · subst_vars; rfl
  split
  · subst_vars; rfl
  split
  · subst_vars; rfl
  split
  · subst_vars; rfl
  split
  · subst_vars; rfl
  split
  · subst_vars; rfl
  split
  · rename_i hlow
    have hread := readHex_control hlow rest
    have h1 : ¬(0xDC00 ≤ c.toNat ∧ c.toNat < 0xE000) := by omega
    have h2 : ¬(0xD800 ≤ c.toNat ∧ c.toNat < 0xDC00) := by omega
    change readUnicode ('0' :: '0' :: hexChar (c.toNat / 16) :: hexChar (c.toNat % 16) :: rest) = some (c, rest)
    rw [readUnicode, hread]
    dsimp only [Option.bind]
    rw [if_neg h1, if_neg h2, Char.ofNat_toNat]
  · rename_i hquote hslash _ _ _ _ _ hlow
    simp [readChar, hslash, hlow]

/-- An escaped character does not begin with the closing quote. -/
lemma escapeChar_cons (c : Char) : ∃ c' cs, escapeChar c = c' :: cs ∧ c' ≠ '"' := by
  unfold escapeChar
  split
  · exact ⟨_, _, rfl, by decide⟩
  split
  · exact ⟨_, _, rfl, by decide⟩
  split
  · exact ⟨_, _, rfl, by decide⟩
  split
  · exact ⟨_, _, rfl, by decide⟩
  split
  · exact ⟨_, _, rfl, by decide⟩
  split
  · exact ⟨_, _, rfl, by decide⟩
  split
  · exact ⟨_, _, rfl, by decide⟩
  split
  · exact ⟨_, _, rfl, by decide⟩
  · rename_i hquote _ _ _ _ _ _ _
    exact ⟨c, [], rfl, hquote⟩

lemma readBody_printBody (cs rest : List Char) {n : ℕ} (hn : cs.length < n) :
    readBody n (printBody cs ++ rest) = some (cs, rest) := by
  induction cs generalizing n with
  | nil =>
    obtain ⟨m, rfl⟩ := Nat.exists_eq_succ_of_ne_zero (Nat.ne_of_gt hn)
    rfl
  | cons c cs ih =>
    obtain ⟨m, rfl⟩ := Nat.exists_eq_succ_of_ne_zero (Nat.ne_of_gt (Nat.zero_lt_of_lt hn))
    obtain ⟨c', cs', hesc, hquote⟩ := escapeChar_cons c
    have hread := readChar_escapeChar c (printBody cs ++ rest)
    have ih := ih (n := m) (by simpa using hn)
    rw [printBody, List.append_assoc]
    rw [hesc, List.cons_append] at hread ⊢
    rw [readBody, if_neg hquote, hread]
    dsimp only [Option.bind]
    rw [ih]
    rfl

lemma length_printBody (cs : List Char) : cs.length < (printBody cs).length := by
  induction cs with
  | nil => simp [printBody]
  | cons c cs ih =>
    obtain ⟨c', cs', hesc, -⟩ := escapeChar_cons c
    simp only [printBody, hesc, List.length_append, List.length_cons]
    omega

lemma readString_printBody (s : String) (rest : List Char) :
    readString (printBody s.toList ++ rest) = some (s, rest) := by
  have hlength := length_printBody s.toList
  rw [readString, readBody_printBody s.toList rest (by rw [List.length_append]; omega)]
  simp

section RoundTrip
variable {ν : Type} {N : NumberFormat ν}

mutual
/-- All numbers in a value are finite. -/
def Finite (N : NumberFormat ν) : Json ν → Prop
  | .null => True
  | .bool _ => True
  | .num x => N.finite x = true
  | .str _ => True
  | .arr items => FiniteItems N items
  | .obj members => FiniteMembers N members

def FiniteItems (N : NumberFormat ν) : List (Json ν) → Prop
  | [] => True
  | v :: items => Finite N v ∧ FiniteItems N items

def FiniteMembers (N : NumberFormat ν) : List (String × Json ν) → Prop
  | [] => True
  | (_, v) :: members => Finite N v ∧ FiniteMembers N members
end

/-- No number goes on behind a value. -/
def Ends (rest : List Char) : Prop := ∀ c ∈ rest.head?, isNumberChar c = false

lemma ends_cons {c : Char} {rest : List Char} (h : isNumberChar c = false) : Ends (c :: rest) := by
  intro x hx
  obtain rfl : c = x := by simpa using hx
  exact h

lemma parseNumber_format (hN : N.Lawful) {x : ν} (hx : N.finite x = true) {rest : List Char} (hrest : Ends rest) :
    parseNumber N (N.format x ++ rest) = some (.num x, rest) := by
  have hchars := hN.chars x hx
  have htake : (N.format x ++ rest).takeWhile isNumberChar = N.format x := by
    rw [List.takeWhile_append_of_pos hchars]
    cases rest with
    | nil => simp
    | cons c rest =>
      have hc : isNumberChar c = false := hrest c (by simp)
      simp [hc]
  have hdrop : (N.format x ++ rest).dropWhile isNumberChar = rest := by
    rw [List.dropWhile_append_of_pos hchars]
    cases rest with
    | nil => rfl
    | cons c rest =>
      have hc : isNumberChar c = false := hrest c (by simp)
      simp [hc]
  rw [parseNumber, htake, hdrop, hN.read_format x hx]
  rfl

/-- A value does not begin with white space or a closing bracket. -/
lemma print_cons (hN : N.Lawful) (v : Json ν) (hv : Finite N v) :
    ∃ c cs, print N v = c :: cs ∧ isJsonSpace c = false ∧ c ≠ ']' := by
  cases v with
  | null => exact ⟨_, _, rfl, by decide, by decide⟩
  | bool b => cases b <;> exact ⟨_, _, by rw [print]; rfl, by decide, by decide⟩
  | num x =>
    obtain ⟨c, cs, hformat, hstart⟩ := hN.start x hv
    refine ⟨c, cs, by rw [print, hformat], ?_, ?_⟩
    · cases hspace : isJsonSpace c with
      | false => rfl
      | true =>
        simp only [isJsonSpace, Bool.or_eq_true, beq_iff_eq] at hspace
        rcases hspace with ((rfl | rfl) | rfl) | rfl <;> simp [isNumberStart] at hstart
    · rintro rfl
      simp [isNumberStart] at hstart
  | str s => exact ⟨_, _, rfl, by decide, by decide⟩
  | arr items => cases items <;> exact ⟨_, _, by rw [print], by decide, by decide⟩
  | obj members => rcases members with _ | ⟨⟨k, v⟩, members⟩ <;> exact ⟨_, _, by rw [print], by decide, by decide⟩

lemma ends_printItems (items : List (Json ν)) (rest : List Char) : Ends (printItems N items ++ rest) := by
  cases items <;> exact ends_cons (by decide)

lemma ends_printMembers (members : List (String × Json ν)) (rest : List Char) :
    Ends (printMembers N members ++ rest) := by
  rcases members with _ | ⟨⟨k, v⟩, members⟩ <;> exact ends_cons (by decide)

/-- A member is read back when its value is. -/
lemma parseMember_print {n : ℕ} {k : String} {v : Json ν} {rest : List Char}
    (h : parseValue N n (print N v ++ rest) = some (v, rest)) :
    parseMember N (n + 1) (printString k ++ ':' :: (print N v ++ rest)) = some ((k, v), rest) := by
  rw [printString, List.cons_append, parseMember, expect_cons (by decide)]
  dsimp only [Option.bind]
  rw [readString_printBody]
  dsimp only [Option.bind]
  rw [expect_cons (by decide)]
  dsimp only [Option.bind]
  rw [h]
  rfl

lemma parseValue_string {n : ℕ} (s : String) (rest : List Char) :
    parseValue N (n + 1) (printString s ++ rest) = some (.str s, rest) := by
  have hquote : skipSpace (printString s ++ rest) = '"' :: (printBody s.toList ++ rest) := skipSpace_cons (by decide)
  rw [parseValue, hquote]
  dsimp only
  rw [if_pos rfl, readString_printBody]
  rfl

lemma parseValue_number (hN : N.Lawful) {x : ν} (hx : N.finite x = true) {rest : List Char} (hrest : Ends rest) (n : ℕ) :
    parseValue N (n + 1) (N.format x ++ rest) = some (.num x, rest) := by
  have hread := parseNumber_format hN hx hrest
  obtain ⟨c, cs, hformat, hspace, -⟩ := print_cons hN (.num x) hx
  obtain ⟨c', cs', hformat', hstart⟩ := hN.start x hx
  rw [print] at hformat
  obtain ⟨rfl, rfl⟩ := List.cons.inj (hformat.symm.trans hformat')
  have hne : ∀ d : Char, isNumberStart d = false → c ≠ d := by
    rintro d hd rfl
    rw [hstart] at hd
    cases hd
  rw [hformat, List.cons_append] at hread ⊢
  rw [parseValue, skipSpace_cons hspace]
  dsimp only
  rw [if_neg (hne _ (by decide)), if_neg (hne _ (by decide)), if_neg (hne _ (by decide)), parseAtom,
    if_neg (hne _ (by decide)), if_neg (hne _ (by decide)), if_neg (hne _ (by decide)), if_pos hstart, hread]

mutual
/-- Every value is read back from its text, whatever comes behind it. -/
theorem parseValue_print (hN : N.Lawful) (v : Json ν) (hv : Finite N v) (rest : List Char) (hrest : Ends rest) (n : ℕ)
    (hn : 3 * (print N v).length ≤ n) : parseValue N n (print N v ++ rest) = some (v, rest) := by
  obtain ⟨c, cs, hprint, -⟩ := print_cons hN v hv
  obtain ⟨n, rfl⟩ : ∃ m, n = m + 1 := ⟨n - 1, by rw [hprint, List.length_cons] at hn; omega⟩
  clear hprint
  cases v with
  | null => rfl
  | bool b => cases b <;> rfl
  | num x => exact parseValue_number hN hv hrest n
  | str s => exact parseValue_string s rest
  | arr items =>
    cases items with
    | nil => rfl
    | cons v items =>
      simp only [print, List.length_cons, List.length_append] at hn
      obtain ⟨c, cs, hprint, hspace, hbracket⟩ := print_cons hN v hv.1
      have hvalue := parseValue_print hN v hv.1 (printItems N items ++ rest) (ends_printItems items rest) n (by omega)
      have hitems := parseItems_print hN items hv.2 rest n (by omega)
      have hopen : skipSpace ('[' :: (print N v ++ (printItems N items ++ rest))) =
          '[' :: (print N v ++ (printItems N items ++ rest)) := skipSpace_cons (by decide)
      rw [print, List.cons_append, List.append_assoc, parseValue, hopen]
      dsimp only
      rw [if_neg (by decide), if_pos rfl]
      rw [hprint, List.cons_append] at hvalue ⊢
      rw [expect_of_ne hspace hbracket]
      dsimp only
      rw [hvalue]
      dsimp only [Option.bind]
      rw [hitems]
      rfl
  | obj members =>
    rcases members with _ | ⟨⟨k, v⟩, members⟩
    · rfl
    · simp only [print, printString, List.length_cons, List.length_append] at hn
      obtain ⟨m, rfl⟩ : ∃ m, n = m + 1 := ⟨n - 1, by omega⟩
      have hvalue := parseValue_print hN v hv.1 (printMembers N members ++ rest) (ends_printMembers members rest) m
        (by omega)
      have hmember := parseMember_print (k := k) hvalue
      have hmembers := parseMembers_print hN members hv.2 rest (m + 1) (by omega)
      have hopen : skipSpace ('{' :: (printString k ++ ':' :: (print N v ++ (printMembers N members ++ rest)))) =
          '{' :: (printString k ++ ':' :: (print N v ++ (printMembers N members ++ rest))) := skipSpace_cons (by decide)
      rw [print, List.cons_append, List.append_assoc, List.cons_append, List.append_assoc, parseValue, hopen]
      dsimp only
      rw [if_neg (by decide), if_neg (by decide), if_pos rfl]
      rw [printString, List.cons_append] at hmember ⊢
      rw [expect_of_ne (by decide) (by decide)]
      dsimp only
      rw [hmember]
      dsimp only [Option.bind]
      rw [hmembers]
      rfl

theorem parseItems_print (hN : N.Lawful) (items : List (Json ν)) (hitems : FiniteItems N items) (rest : List Char)
    (n : ℕ) (hn : 3 * (printItems N items).length ≤ n) :
    parseItems N n (printItems N items ++ rest) = some (items, rest) := by
  cases items with
  | nil =>
    obtain ⟨n, rfl⟩ : ∃ m, n = m + 1 := ⟨n - 1, by simp only [printItems, List.length_cons] at hn; omega⟩
    rfl
  | cons v items =>
    simp only [printItems, List.length_cons, List.length_append] at hn
    obtain ⟨n, rfl⟩ : ∃ m, n = m + 1 := ⟨n - 1, by omega⟩
    have hvalue := parseValue_print hN v hitems.1 (printItems N items ++ rest) (ends_printItems items rest) n (by omega)
    have hrest := parseItems_print hN items hitems.2 rest n (by omega)
    rw [printItems, List.cons_append, List.append_assoc, parseItems, expect_of_ne (by decide) (by decide),
      expect_cons (by decide)]
    dsimp only [Option.bind]
    rw [hvalue]
    dsimp only [Option.bind]
    rw [hrest]
    rfl

theorem parseMembers_print (hN : N.Lawful) (members : List (String × Json ν)) (hmembers : FiniteMembers N members)
    (rest : List Char) (n : ℕ) (hn : 3 * (printMembers N members).length ≤ n) :
    parseMembers N n (printMembers N members ++ rest) = some (members, rest) := by
  rcases members with _ | ⟨⟨k, v⟩, members⟩
  · obtain ⟨n, rfl⟩ : ∃ m, n = m + 1 := ⟨n - 1, by simp only [printMembers, List.length_cons] at hn; omega⟩
    rfl
  · simp only [printMembers, printString, List.length_cons, List.length_append] at hn
    obtain ⟨n, rfl⟩ : ∃ m, n = m + 2 := ⟨n - 2, by omega⟩
    have hvalue := parseValue_print hN v hmembers.1 (printMembers N members ++ rest) (ends_printMembers members rest) n
      (by omega)
    have hmember := parseMember_print (k := k) hvalue
    have hrest := parseMembers_print hN members hmembers.2 rest (n + 1) (by omega)
    rw [printMembers, List.cons_append, List.append_assoc, List.cons_append, List.append_assoc, parseMembers,
      expect_of_ne (by decide) (by decide), expect_cons (by decide)]
    dsimp only [Option.bind]
    rw [hmember]
    dsimp only [Option.bind]
    rw [hrest]
    rfl
end

theorem parse_print (hN : N.Lawful) {v : Json ν} (hv : Finite N v) : parse N (print N v) = some v := by
  have hread := parseValue_print hN v hv [] (by simp [Ends]) (3 * (print N v).length) (le_refl _)
  rw [List.append_nil] at hread
  rw [parse, hread]
  rfl

/-- Text determines the value. -/
theorem print_injective (hN : N.Lawful) {v v' : Json ν} (hv : Finite N v) (hv' : Finite N v')
    (h : print N v = print N v') : v = v' := by
  have hread := parse_print hN hv
  rw [h, parse_print hN hv'] at hread
  exact (Option.some.inj hread).symm

end RoundTrip
end ForgeCustomer.JsonText
