import ForgeCustomer.JsonText
import ForgeCustomer.SortedMap

/-!
# Signed documents

Entitlement snapshots and offline leases, their JSON, the bytes that are signed, and what these bytes
say about the document.
-/
namespace ForgeCustomer.SignedDocuments
open JsonText

def SCHEMA_VERSION : String := "forge.entitlements.v1"

def LEASE_SCHEMA_VERSION : String := "forge.lease.v1"

inductive FeatureValue (ν : Type) where
  | bool (b : Bool)
  | number (x : ν)
  | text (s : String)
deriving DecidableEq

structure EntitlementSnapshot (ν : Type) where
  schemaVersion : String
  customerId : String
  installationId : Option String
  product : String
  issuedAt : String
  expiresAt : String
  features : SortedMap String (FeatureValue ν)
  quotas : SortedMap String ν
  keyId : String
  signature : String
deriving DecidableEq

structure OfflineLease where
  schemaVersion : String
  leaseId : String
  customerId : String
  licenseId : String
  installationId : String
  product : String
  issuedAt : String
  expiresAt : String
  keyId : String
  signature : String
deriving DecidableEq

variable {ν : Type}

section ToJson
variable (N : NumberFormat ν)

/-- A number that is not finite is written as `null`. -/
def numberJson (x : ν) : Json ν := if N.finite x then .num x else .null

def FeatureValue.toJson : FeatureValue ν → Json ν
  | .bool b => .bool b
  | .number x => numberJson N x
  | .text s => .str s

def optionJson : Option String → Json ν
  | none => .null
  | some s => .str s

def mapJson {α : Type} (toJson : α → Json ν) (m : SortedMap String α) : Json ν :=
  .obj (m.entries.map fun e => (e.1, toJson e.2))

def EntitlementSnapshot.toJson (s : EntitlementSnapshot ν) : Json ν :=
  .obj [("schema_version", .str s.schemaVersion), ("customer_id", .str s.customerId),
    ("installation_id", optionJson s.installationId), ("product", .str s.product),
    ("issued_at", .str s.issuedAt), ("expires_at", .str s.expiresAt),
    ("features", mapJson (FeatureValue.toJson N) s.features), ("quotas", mapJson (numberJson N) s.quotas),
    ("key_id", .str s.keyId), ("signature", .str s.signature)]

def OfflineLease.toJson (l : OfflineLease) : Json ν :=
  .obj [("schema_version", .str l.schemaVersion), ("lease_id", .str l.leaseId),
    ("customer_id", .str l.customerId), ("license_id", .str l.licenseId),
    ("installation_id", .str l.installationId), ("product", .str l.product),
    ("issued_at", .str l.issuedAt), ("expires_at", .str l.expiresAt), ("key_id", .str l.keyId),
    ("signature", .str l.signature)]

end ToJson

def stringFrom : Json ν → Option String
  | .str s => some s
  | _ => none

def numberFrom : Json ν → Option ν
  | .num x => some x
  | _ => none

/-- The first variant that fits: a Boolean, a number, a text. -/
def FeatureValue.fromJson : Json ν → Option (FeatureValue ν)
  | .bool b => some (.bool b)
  | .num x => some (.number x)
  | .str s => some (.text s)
  | _ => none

/-- The last value of a key stays. -/
def mapFrom {α : Type} (fromJson : Json ν → Option α) : Json ν → Option (SortedMap String α)
  | .obj members =>
    (members.mapM fun m => (fromJson m.2).map fun v => (m.1, v)).map SortedMap.ofList
  | _ => none

/-- The fields of a struct: by name, or by position, where the last field has a default. -/
def structFields (names : List String) : Json ν → Option (List (String × Json ν))
  | .obj members => some members
  | .arr items =>
    if names.length ≤ items.length + 1 ∧ items.length ≤ names.length then some (names.zip items) else none
  | _ => none

/-- What a field holds, if it is there; a field that is there twice is an error. -/
def field (name : String) (members : List (String × Json ν)) : Option (Option (Json ν)) :=
  match members.filter fun m => m.1 == name with
  | [] => some none
  | [m] => some (some m.2)
  | _ => none

def requiredField {α : Type} (fromJson : Json ν → Option α) (name : String) (members : List (String × Json ν)) :
    Option α :=
  (field name members).bind fun v => v.bind fromJson

def optionFrom : Json ν → Option (Option String)
  | .null => some none
  | v => (stringFrom v).map some

/-- A missing or null field is `none`. -/
def optionalField (name : String) (members : List (String × Json ν)) : Option (Option String) :=
  (field name members).bind fun v => optionFrom (v.getD .null)

def signatureField (members : List (String × Json ν)) : Option String :=
  (field "signature" members).bind fun v => stringFrom (v.getD (.str ""))

def EntitlementSnapshot.fromJson (v : Json ν) : Option (EntitlementSnapshot ν) :=
  (structFields ["schema_version", "customer_id", "installation_id", "product", "issued_at", "expires_at",
    "features", "quotas", "key_id", "signature"] v).bind fun members => do
  return {
    schemaVersion := ← requiredField stringFrom "schema_version" members
    customerId := ← requiredField stringFrom "customer_id" members
    installationId := ← optionalField "installation_id" members
    product := ← requiredField stringFrom "product" members
    issuedAt := ← requiredField stringFrom "issued_at" members
    expiresAt := ← requiredField stringFrom "expires_at" members
    features := ← requiredField (mapFrom FeatureValue.fromJson) "features" members
    quotas := ← requiredField (mapFrom numberFrom) "quotas" members
    keyId := ← requiredField stringFrom "key_id" members
    signature := ← signatureField members }

def OfflineLease.fromJson (v : Json ν) : Option OfflineLease :=
  (structFields ["schema_version", "lease_id", "customer_id", "license_id", "installation_id", "product",
    "issued_at", "expires_at", "key_id", "signature"] v).bind fun members => do
  return {
    schemaVersion := ← requiredField stringFrom "schema_version" members
    leaseId := ← requiredField stringFrom "lease_id" members
    customerId := ← requiredField stringFrom "customer_id" members
    licenseId := ← requiredField stringFrom "license_id" members
    installationId := ← requiredField stringFrom "installation_id" members
    product := ← requiredField stringFrom "product" members
    issuedAt := ← requiredField stringFrom "issued_at" members
    expiresAt := ← requiredField stringFrom "expires_at" members
    keyId := ← requiredField stringFrom "key_id" members
    signature := ← signatureField members }

section Text
variable (N : NumberFormat ν)

def serialize (v : Json ν) : String := String.ofList (print N v)

def deserialize (text : String) : Option (Json ν) := parse N text.toList

def EntitlementSnapshot.serialize (s : EntitlementSnapshot ν) : String := SignedDocuments.serialize N (s.toJson N)

def EntitlementSnapshot.parse (text : String) : Option (EntitlementSnapshot ν) :=
  (deserialize N text).bind EntitlementSnapshot.fromJson

def OfflineLease.serialize (l : OfflineLease) : String := SignedDocuments.serialize N l.toJson

def OfflineLease.parse (text : String) : Option OfflineLease := (deserialize N text).bind OfflineLease.fromJson

/-- The bytes of the document with its signature cleared. -/
def EntitlementSnapshot.signingBytes (s : EntitlementSnapshot ν) : ByteArray :=
  ({ s with signature := "" }.serialize N).toUTF8

def OfflineLease.signingBytes (l : OfflineLease) : ByteArray := ({ l with signature := "" }.serialize N).toUTF8

end Text

/-- A key and its identifier. -/
structure Signer25519 where
  keyId : String
  signBytes : ByteArray → String

def Signer25519.signSnapshot (signer : Signer25519) (N : NumberFormat ν) (s : EntitlementSnapshot ν) :
    EntitlementSnapshot ν :=
  let unsigned := { s with
    keyId := signer.keyId
    signature := "" }
  { unsigned with signature := signer.signBytes (unsigned.signingBytes N) }

/-- As the issuer of leases signs. -/
def Signer25519.signLease (signer : Signer25519) (N : NumberFormat ν) (l : OfflineLease) : OfflineLease :=
  let unsigned := { l with
    keyId := signer.keyId
    signature := "" }
  { unsigned with signature := signer.signBytes (unsigned.signingBytes N) }

section RoundTrip
variable {N : NumberFormat ν}

def FeatureValue.Finite (N : NumberFormat ν) : FeatureValue ν → Prop
  | .number x => N.finite x = true
  | _ => True

/-- All numbers of a snapshot are finite. -/
def EntitlementSnapshot.Finite (N : NumberFormat ν) (s : EntitlementSnapshot ν) : Prop :=
  (∀ e ∈ s.features.entries, e.2.Finite N) ∧ ∀ e ∈ s.quotas.entries, N.finite e.2 = true

lemma numberJson_of_finite {x : ν} (hx : N.finite x = true) : numberJson N x = .num x := by simp [numberJson, hx]

lemma FeatureValue.fromJson_toJson {v : FeatureValue ν} (hv : v.Finite N) : fromJson (v.toJson N) = some v := by
  cases v with
  | bool b => rfl
  | number x =>
    have hx : numberJson N x = .num x := numberJson_of_finite hv
    simp [toJson, hx, fromJson]
  | text s => rfl

lemma FeatureValue.finite_toJson {v : FeatureValue ν} (hv : v.Finite N) : JsonText.Finite N (v.toJson N) := by
  cases v with
  | bool b => simp [toJson, JsonText.Finite]
  | number x =>
    have hx : N.finite x = true := hv
    simp [toJson, numberJson_of_finite hx, JsonText.Finite, hx]
  | text s => simp [toJson, JsonText.Finite]

lemma optionFrom_optionJson (o : Option String) : optionFrom (optionJson o : Json ν) = some o := by
  cases o with
  | none => rfl
  | some s => rfl

lemma finite_optionJson (o : Option String) : JsonText.Finite N (optionJson o) := by
  cases o with
  | none => simp [optionJson, JsonText.Finite]
  | some s => simp [optionJson, JsonText.Finite]

section Maps
variable {α : Type} {toJson : α → Json ν} {fromJson : Json ν → Option α}

lemma mapM_entries {entries : List (String × α)} (h : ∀ e ∈ entries, fromJson (toJson e.2) = some e.2) :
    ((entries.map fun e => (e.1, toJson e.2)).mapM fun m => (fromJson m.2).map fun v => (m.1, v)) =
      some entries := by
  induction entries with
  | nil => rfl
  | cons e entries ih =>
    have he := h e (by simp)
    have ih := ih fun x hx => h x (by simp [hx])
    rw [List.map_cons, List.mapM_cons, ih]
    simp [he]

/-- A map is read back entry by entry, in the order of its keys. -/
lemma mapFrom_mapJson {m : SortedMap String α} (h : ∀ e ∈ m.entries, fromJson (toJson e.2) = some e.2) :
    mapFrom fromJson (mapJson toJson m) = some m := by
  simp only [mapJson, mapFrom, mapM_entries h, Option.map_some, SortedMap.ofList_self]

lemma finiteMembers_map {entries : List (String × α)} (h : ∀ e ∈ entries, JsonText.Finite N (toJson e.2)) :
    FiniteMembers N (entries.map fun e => (e.1, toJson e.2)) := by
  induction entries with
  | nil => simp [FiniteMembers]
  | cons e entries ih =>
    have he := h e (by simp)
    have ih := ih fun x hx => h x (by simp [hx])
    simpa [FiniteMembers] using And.intro he ih

lemma finite_mapJson {m : SortedMap String α} (h : ∀ e ∈ m.entries, JsonText.Finite N (toJson e.2)) :
    JsonText.Finite N (mapJson toJson m) := by
  simpa [mapJson, JsonText.Finite] using finiteMembers_map h

end Maps

lemma EntitlementSnapshot.fromJson_toJson {s : EntitlementSnapshot ν} (hs : s.Finite N) :
    fromJson (s.toJson N) = some s := by
  have hfeatures : mapFrom FeatureValue.fromJson (mapJson (FeatureValue.toJson N) s.features) = some s.features :=
    mapFrom_mapJson fun e he => FeatureValue.fromJson_toJson (hs.1 e he)
  have hquotas : mapFrom numberFrom (mapJson (numberJson N) s.quotas) = some s.quotas :=
    mapFrom_mapJson fun e he => by rw [numberJson_of_finite (hs.2 e he)]; rfl
  simp [fromJson, toJson, structFields, requiredField, optionalField, signatureField, field, stringFrom,
    optionFrom_optionJson, hfeatures, hquotas]

lemma OfflineLease.fromJson_toJson (l : OfflineLease) : fromJson (l.toJson : Json ν) = some l := by
  simp [fromJson, toJson, structFields, requiredField, signatureField, field, stringFrom]

lemma EntitlementSnapshot.finite_toJson {s : EntitlementSnapshot ν} (hs : s.Finite N) :
    JsonText.Finite N (s.toJson N) := by
  have hfeatures : JsonText.Finite N (mapJson (FeatureValue.toJson N) s.features) :=
    finite_mapJson fun e he => FeatureValue.finite_toJson (hs.1 e he)
  have hquotas : JsonText.Finite N (mapJson (numberJson N) s.quotas) := finite_mapJson fun e he => by
    rw [numberJson_of_finite (hs.2 e he)]
    simpa [JsonText.Finite] using hs.2 e he
  have hinstallation := finite_optionJson (N := N) s.installationId
  simp [toJson, JsonText.Finite, FiniteMembers, hfeatures, hquotas, hinstallation]

lemma OfflineLease.finite_toJson (l : OfflineLease) : JsonText.Finite N l.toJson := by
  simp [toJson, JsonText.Finite, FiniteMembers]

lemma deserialize_serialize (hN : N.Lawful) {v : Json ν} (hv : JsonText.Finite N v) :
    deserialize N (SignedDocuments.serialize N v) = some v := by
  rw [deserialize, SignedDocuments.serialize, String.toList_ofList, parse_print hN hv]

/-- A snapshot is read back from its text. -/
theorem EntitlementSnapshot.parse_serialize (hN : N.Lawful) {s : EntitlementSnapshot ν} (hs : s.Finite N) :
    EntitlementSnapshot.parse N (s.serialize N) = some s := by
  rw [parse, serialize, deserialize_serialize hN (finite_toJson hs), Option.bind_some, fromJson_toJson hs]

/-- A lease is read back from its text. -/
theorem OfflineLease.parse_serialize (hN : N.Lawful) (l : OfflineLease) :
    OfflineLease.parse N (l.serialize N) = some l := by
  rw [parse, serialize, deserialize_serialize hN (finite_toJson l), Option.bind_some, fromJson_toJson l]

end RoundTrip

section SigningBytes
variable {N : NumberFormat ν}

lemma serialize_injective (hN : N.Lawful) {v v' : Json ν} (hv : JsonText.Finite N v) (hv' : JsonText.Finite N v')
    (h : (SignedDocuments.serialize N v).toUTF8 = (SignedDocuments.serialize N v').toUTF8) : v = v' := by
  have htext : SignedDocuments.serialize N v = SignedDocuments.serialize N v' := String.toByteArray_inj.mp h
  have hread := deserialize_serialize hN hv
  rw [htext, deserialize_serialize hN hv'] at hread
  exact (Option.some.inj hread).symm

lemma EntitlementSnapshot.toJson_injective {s s' : EntitlementSnapshot ν} (hs : s.Finite N) (hs' : s'.Finite N)
    (h : s.toJson N = s'.toJson N) : s = s' := by
  have hread := fromJson_toJson hs
  rw [h, fromJson_toJson hs'] at hread
  exact (Option.some.inj hread).symm

lemma OfflineLease.toJson_injective {l l' : OfflineLease} (h : (l.toJson : Json ν) = l'.toJson) : l = l' := by
  have hread := fromJson_toJson (ν := ν) l
  rw [h, fromJson_toJson l'] at hread
  exact (Option.some.inj hread).symm

/-- The bytes say everything but the signature. -/
lemma EntitlementSnapshot.signingBytes_eq_iff (hN : N.Lawful) {s s' : EntitlementSnapshot ν} (hs : s.Finite N)
    (hs' : s'.Finite N) :
    s.signingBytes N = s'.signingBytes N ↔ { s with signature := s'.signature } = s' := by
  have hs₀ : ({ s with signature := "" } : EntitlementSnapshot ν).Finite N := hs
  have hs₀' : ({ s' with signature := "" } : EntitlementSnapshot ν).Finite N := hs'
  constructor
  · intro h
    have hjson := serialize_injective hN (finite_toJson hs₀) (finite_toJson hs₀') h
    have heq := toJson_injective hs₀ hs₀' hjson
    cases s
    cases s'
    simpa using heq
  · intro h
    rw [← h]
    rfl

lemma OfflineLease.signingBytes_eq_iff (hN : N.Lawful) {l l' : OfflineLease} :
    l.signingBytes N = l'.signingBytes N ↔ { l with signature := l'.signature } = l' := by
  constructor
  · intro h
    have hjson := serialize_injective hN (finite_toJson _) (finite_toJson _) h
    have heq := toJson_injective hjson
    cases l
    cases l'
    simpa using heq
  · intro h
    rw [← h]
    rfl

/-- The schema version is the first thing in either document. -/
lemma signingBytes_ne (hN : N.Lawful) {s : EntitlementSnapshot ν} (hs : s.Finite N) {l : OfflineLease}
    (hversion : s.schemaVersion ≠ l.schemaVersion) : s.signingBytes N ≠ l.signingBytes N := by
  intro h
  have hs₀ : ({ s with signature := "" } : EntitlementSnapshot ν).Finite N := hs
  have hjson := serialize_injective hN (EntitlementSnapshot.finite_toJson hs₀) (OfflineLease.finite_toJson _) h
  simp only [EntitlementSnapshot.toJson, OfflineLease.toJson, Json.obj.injEq, List.cons.injEq, Prod.mk.injEq,
    Json.str.injEq] at hjson
  exact hversion hjson.1.2

/-- A signed snapshot carries the signature of its own bytes, and so does the one read back from its text;
the bytes leave the signature out and tell all else apart; no snapshot's bytes are a lease's. -/
theorem signing_bytes_determine_documents (hN : N.Lawful) (signer : Signer25519) :
    (∀ s : EntitlementSnapshot ν, s.Finite N →
      let signed := signer.signSnapshot N s
      signed.signature = signer.signBytes (signed.signingBytes N) ∧
        (EntitlementSnapshot.parse N (signed.serialize N)).map (EntitlementSnapshot.signingBytes N) =
          some (signed.signingBytes N)) ∧
    (∀ l : OfflineLease,
      let signed := signer.signLease N l
      signed.signature = signer.signBytes (signed.signingBytes N) ∧
        (OfflineLease.parse N (signed.serialize N)).map (OfflineLease.signingBytes N) =
          some (signed.signingBytes N)) ∧
    (∀ s s' : EntitlementSnapshot ν, s.Finite N → s'.Finite N →
      (s.signingBytes N = s'.signingBytes N ↔ { s with signature := s'.signature } = s')) ∧
    (∀ l l' : OfflineLease,
      l.signingBytes N = l'.signingBytes N ↔ { l with signature := l'.signature } = l') ∧
    ∀ (s : EntitlementSnapshot ν) (l : OfflineLease), s.Finite N → s.schemaVersion = SCHEMA_VERSION →
      l.schemaVersion = LEASE_SCHEMA_VERSION → s.signingBytes N ≠ l.signingBytes N := by
  refine ⟨fun s hs => ⟨rfl, ?_⟩, fun l => ⟨rfl, ?_⟩, ?_, ?_, ?_⟩
  · have hsigned : (signer.signSnapshot N s).Finite N := hs
    rw [EntitlementSnapshot.parse_serialize hN hsigned, Option.map_some]
  · rw [OfflineLease.parse_serialize hN, Option.map_some]
  · exact fun s s' hs hs' => EntitlementSnapshot.signingBytes_eq_iff hN hs hs'
  · exact fun l l' => OfflineLease.signingBytes_eq_iff hN
  · intro s l hs hsnapshot hlease
    have hversion : s.schemaVersion ≠ l.schemaVersion := by
      rw [hsnapshot, hlease]
      decide
    exact signingBytes_ne hN hs hversion

end SigningBytes

/-- Halves of one digit, written with their decimal. -/
def halves : NumberFormat (Fin 20) where
  finite := fun _ => true
  format := fun x => [Char.ofNat ('0'.toNat + x.val / 2), '.', if x.val % 2 = 0 then '0' else '5']
  read := fun
    | [c, '.', d] =>
      let n := 2 * (c.toNat - '0'.toNat) + (if d = '5' then 1 else 0)
      if h : n < 20 then some ⟨n, h⟩ else none
    | _ => none

lemma halves_lawful : halves.Lawful where
  chars := by
    have hall : ∀ x : Fin 20, (halves.format x).all isNumberChar = true := by decide
    exact fun x _ c hc => List.all_eq_true.mp (hall x) c hc
  start := fun x _ => ⟨_, _, rfl, by revert x; decide⟩
  read_format := fun x _ => by fin_cases x <;> rfl

/-- A snapshot with one feature and a quota of seven and a half. -/
def sampleSnapshot : EntitlementSnapshot (Fin 20) where
  schemaVersion := SCHEMA_VERSION
  customerId := "cust_1"
  installationId := some "inst_1"
  product := "authorforge"
  issuedAt := "2026-06-09T20:00:00Z"
  expiresAt := "2026-06-10T20:00:00Z"
  features := SortedMap.empty.insert "cloud.enabled" (.bool true)
  quotas := SortedMap.empty.insert "cloud_tokens.monthly" 15
  keyId := ""
  signature := ""

def sampleSigner : Signer25519 := ⟨"entitlement-key-1", fun _ => "sig"⟩

theorem sampleSnapshot_signed :
    (EntitlementSnapshot.parse halves ((sampleSigner.signSnapshot halves sampleSnapshot).serialize halves)).map
        (EntitlementSnapshot.signingBytes halves) =
      some ((sampleSigner.signSnapshot halves sampleSnapshot).signingBytes halves) :=
  ((signing_bytes_determine_documents halves_lawful sampleSigner).1 sampleSnapshot
    ⟨fun _ he => by cases List.mem_singleton.mp he; trivial, fun _ _ => rfl⟩).2

end ForgeCustomer.SignedDocuments
