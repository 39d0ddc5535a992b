import Mathlib

/-!
# JSON documents and their redaction

`serde_json::Value` with the accessors the Stripe integration uses, and
`domain::redaction`. Objects are association lists with distinct keys.
-/
namespace ForgeCustomer.JsonValue

inductive Value where
  | null
  | bool (b : Bool)
  | int (n : ℤ)
  | float (q : ℚ)
  | str (s : String)
  | arr (items : List Value)
  | obj (members : List (String × Value))

namespace Value

/-- A generated key or an instant as `json!` renders it. -/
def uuid (id : ℕ) : Value := .str (toString id)
def time (t : ℤ) : Value := .str (toString t)

/-- `json!` on an `Option`. -/
def opt {α : Type} (f : α → Value) (a : Option α) : Value := (a.map f).getD .null

/-- `Value::get`. -/
def get (key : String) : Value → Option Value
  | .obj members => (members.find? fun m => m.1 == key).map (·.2)
  | _ => none

def asStr : Value → Option String
  | .str s => some s
  | _ => none

def asBool : Value → Option Bool
  | .bool b => some b
  | _ => none

/-- `as_i64`: integers out of range are not read. -/
def asI64 : Value → Option ℤ
  | .int n => if -2 ^ 63 ≤ n ∧ n < 2 ^ 63 then some n else none
  | _ => none

def asArray : Value → Option (List Value)
  | .arr items => some items
  | _ => none

def isNull : Value → Bool
  | .null => true
  | _ => false

end Value

def stringField (value : Value) (key : String) : Option String := (value.get key).bind Value.asStr
def boolField (value : Value) (key : String) : Option Bool := (value.get key).bind Value.asBool
def integerField (value : Value) (key : String) : Option ℤ := (value.get key).bind Value.asI64

/-- Keys that must never appear in a sanitized outbox payload. -/
def prohibitedKeys : List String :=
  ["email", "full_name", "name", "display_name", "stripe_customer_id", "payment_method", "card",
    "raw_payload", "password", "session", "refresh_token", "access_token", "manuscript", "prompt",
    "content"]

mutual
/-- Remove prohibited keys at every depth. -/
def sanitize : Value → Value
  | .obj members => .obj (sanitizeMembers members)
  | .arr items => .arr (sanitizeItems items)
  | .null => .null
  | .bool b => .bool b
  | .int n => .int n
  | .float q => .float q
  | .str s => .str s

def sanitizeMembers : List (String × Value) → List (String × Value)
  | [] => []
  | (k, v) :: members =>
    if prohibitedKeys.contains k then sanitizeMembers members
    else (k, sanitize v) :: sanitizeMembers members

def sanitizeItems : List Value → List Value
  | [] => []
  | v :: items => sanitize v :: sanitizeItems items
end

def hexDigit (c : Char) : Option ℕ :=
  if '0' ≤ c ∧ c ≤ '9' then some (c.toNat - '0'.toNat)
  else if 'a' ≤ c ∧ c ≤ 'f' then some (c.toNat - 'a'.toNat + 10)
  else if 'A' ≤ c ∧ c ≤ 'F' then some (c.toNat - 'A'.toNat + 10)
  else none

def hexNumber (cs : List Char) : Option ℕ :=
  cs.foldl (fun acc c => acc.bind fun n => (hexDigit c).map (16 * n + ·)) (some 0)

/-- Eight, four, four, four and twelve digits between hyphens. -/
def parseHyphenated (cs : List Char) : Option ℕ :=
  if cs.length = 36 ∧ [8, 13, 18, 23].all (fun i => cs[i]? == some '-') then
    hexNumber (cs.take 8 ++ (cs.drop 9).take 4 ++ (cs.drop 14).take 4 ++ (cs.drop 19).take 4 ++
      cs.drop 24)
  else none

/-- `Uuid::parse_str`: the simple, hyphenated, braced and URN forms. -/
def parseUuid (s : String) : Option ℕ :=
  let cs := s.toList
  if cs.length = 32 then hexNumber cs
  else if cs.length = 36 then parseHyphenated cs
  else if cs.length = 38 ∧ cs.head? = some '{' ∧ cs.getLast? = some '}' then
    parseHyphenated ((cs.drop 1).take 36)
  else if cs.length = 45 ∧ cs.take 9 = "urn:uuid:".toList then parseHyphenated (cs.drop 9)
  else none

def uuidField (value : Value) (key : String) : Option ℕ := (stringField value key).bind parseUuid

example : parseUuid "00000000-0000-0000-0000-0000000000ff" = some 255 := by decide

end ForgeCustomer.JsonValue
