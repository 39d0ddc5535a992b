import ForgeCustomer.CommercialPolicy
import ForgeCustomer.SortedMap

/-!
# Key rings

The verification keys of `services::signing::VerifyingKeyRing` as `AppState::build` loads them: the signer's key and
the keys that `ENTITLEMENT_VERIFY_PUBLIC_KEYS` lists. How a key is read from its text is left to `base64` and
`ed25519_dalek`.
-/
namespace ForgeCustomer.KeyRing
open CommercialPolicy

inductive ConfigError where
  | invalid (key message : String)
deriving DecidableEq

/-- `serde_json` on the text of an object: its entries as far as they can be read, and where it places an error. -/
structure JsonReader where
  nextEntries : String → List (Except String (String × String))
  located : String → String → String

/-- Entries in document order, refusing an empty or repeated id. -/
def visitMap (located : String → String) (entries : List (String × String)) :
    List (Except String (String × String)) → Except String (List (String × String))
  | [] => .ok entries
  | .error e :: _ => .error e
  | .ok (keyId, publicKey) :: rest =>
    if trim keyId = "" then .error (located "empty key_id")
    else if entries.any fun seen => seen.1 == keyId then .error (located s!"duplicate key_id {keyId}")
    else visitMap located (entries ++ [(keyId, publicKey)]) rest

def parseVerifyPublicKeys (reader : JsonReader) (raw : Option String) :
    Except ConfigError (List (String × String)) :=
  match (raw.map trim).filter (· ≠ "") with
  | none => .ok []
  | some raw =>
    match visitMap (reader.located raw) [] (reader.nextEntries raw) with
    | .error e =>
      .error (.invalid "ENTITLEMENT_VERIFY_PUBLIC_KEYS"
        s!"must be a JSON object of key_id to base64 public key: {e}")
    | .ok entries => .ok entries

lemma visitMap_distinct {located : String → String} {entries entries' : List (String × String)}
    {rest : List (Except String (String × String))} (hdistinct : (entries.map (·.1)).Nodup)
    (h : visitMap located entries rest = .ok entries') : (entries'.map (·.1)).Nodup := by
  induction rest generalizing entries with
  | nil =>
    cases h
    exact hdistinct
  | cons next rest ih =>
    cases next with
    | error e => cases h
    | ok e =>
      rw [visitMap] at h
      split_ifs at h with hempty hseen
      refine ih ?_ h
      simp only [List.any_eq_true, beq_iff_eq, not_exists, not_and] at hseen
      rw [List.map_append, List.nodup_append]
      refine ⟨hdistinct, by simp, fun keyId hkey other hother => ?_⟩
      obtain ⟨seen, hin, rfl⟩ := List.mem_map.mp hkey
      rw [List.mem_singleton.mp hother]
      exact hseen seen hin

lemma parseVerifyPublicKeys_distinct {reader : JsonReader} {raw : Option String} {entries : List (String × String)}
    (h : parseVerifyPublicKeys reader raw = .ok entries) : (entries.map (·.1)).Nodup := by
  unfold parseVerifyPublicKeys at h
  split at h
  · cases h
    exact .nil
  · split at h
    · cases h
    · rename_i hvisit
      cases h
      exact visitMap_distinct (by simp) hvisit

/-- What key loading uses of both libraries. Keys are equal when their bytes are. -/
structure KeyCodec (Key : Type) where
  decodeBase64 : String → Except String (List UInt8)
  encodeBase64 : List UInt8 → String
  fromBytes : List UInt8 → Except String Key
  toBytes : Key → List UInt8
  encode_injective : ∀ key key', encodeBase64 (toBytes key) = encodeBase64 (toBytes key') → key = key'

/-- The public half of `Signer25519`. -/
structure Signer25519 (Key : Type) where
  keyId : String
  verifyingKey : Key

inductive SigningError where
  | invalidKey (message : String)
deriving DecidableEq

def SigningError.text : SigningError → String
  | .invalidKey message => "invalid signing key: " ++ message

inductive StateError where
  | verifyKeys (message : String)
deriving DecidableEq

abbrev VerifyingKeyRing (Key : Type) := SortedMap String Key

section Loading
variable {Key : Type} (codec : KeyCodec Key)

/-- The key that a text stands for. -/
def decodeKey (publicKey : String) : Except SigningError Key :=
  match codec.decodeBase64 (trim publicKey) with
  | .error e => .error (.invalidKey e)
  | .ok raw =>
    if raw.length ≠ 32 then .error (.invalidKey "public key must be 32 bytes")
    else match codec.fromBytes raw with
      | .error e => .error (.invalidKey e)
      | .ok key => .ok key

def addBase64 (ring : VerifyingKeyRing Key) (keyId publicKey : String) :
    Except SigningError (VerifyingKeyRing Key) :=
  match decodeKey codec publicKey with
  | .error e => .error e
  | .ok key => .ok (ring.insert keyId key)

def addSigner (ring : VerifyingKeyRing Key) (signer : Signer25519 Key) : VerifyingKeyRing Key :=
  ring.insert signer.keyId signer.verifyingKey

def published (ring : VerifyingKeyRing Key) : List (String × String) :=
  ring.entries.map fun e => (e.1, codec.encodeBase64 (codec.toBytes e.2))

def publicKeyBase64 (signer : Signer25519 Key) : String := codec.encodeBase64 (codec.toBytes signer.verifyingKey)

/-- One pass of the loop: the entry is decoded into a ring of its own first. -/
def addVerifyKey (signer : Signer25519 Key) (ring : VerifyingKeyRing Key) (keyId publicKey : String) :
    Except StateError (VerifyingKeyRing Key) :=
  match addBase64 codec .empty keyId publicKey with
  | .error e => .error (.verifyKeys s!"key_id {keyId}: {e.text}")
  | .ok probe =>
    if keyId = signer.keyId then
      if (published codec probe).head?.any fun e => e.2 == publicKeyBase64 codec signer then .ok ring
      else .error (.verifyKeys s!"key_id {keyId} is the active signing key id with a different public key")
    else match addBase64 codec ring keyId publicKey with
      | .error e => .error (.verifyKeys s!"key_id {keyId}: {e.text}")
      | .ok ring => .ok ring

def addVerifyKeys (signer : Signer25519 Key) (ring : VerifyingKeyRing Key) :
    List (String × String) → Except StateError (VerifyingKeyRing Key)
  | [] => .ok ring
  | (keyId, publicKey) :: entries =>
    match addVerifyKey codec signer ring keyId publicKey with
    | .error e => .error e
    | .ok ring => addVerifyKeys signer ring entries

/-- The ring of `AppState::build`. -/
def loadKeyRing (signer : Signer25519 Key) (entries : List (String × String)) :
    Except StateError (VerifyingKeyRing Key) :=
  addVerifyKeys codec signer (addSigner .empty signer) entries

/-- Every entry is a key, and under the active id it is the active one. -/
structure Loadable (signer : Signer25519 Key) (entries : List (String × String)) : Prop where
  decoded : ∀ e ∈ entries, ∃ key, decodeKey codec e.2 = .ok key
  active : ∀ e ∈ entries, e.1 = signer.keyId → decodeKey codec e.2 = .ok signer.verifyingKey

/-- The ring has the signer's key, the key of each entry, and no other. -/
structure HoldsKeys (signer : Signer25519 Key) (entries : List (String × String)) (ring : VerifyingKeyRing Key) :
    Prop where
  active : ring.get? signer.keyId = some signer.verifyingKey
  listed : ∀ e ∈ entries, ∃ key, decodeKey codec e.2 = .ok key ∧ ring.get? e.1 = some key
  nothingElse : ∀ keyId ∈ ring.keys, keyId = signer.keyId ∨ keyId ∈ entries.map (·.1)

structure ExactLoading (signer : Signer25519 Key) (entries : List (String × String)) : Prop where
  loads_iff : (∃ ring, loadKeyRing codec signer entries = .ok ring) ↔ Loadable codec signer entries
  holds : ∀ ring, loadKeyRing codec signer entries = .ok ring → HoldsKeys codec signer entries ring
  anyOrder : ∀ entries', entries.Perm entries' → ∀ ring,
    loadKeyRing codec signer entries = .ok ring → loadKeyRing codec signer entries' = .ok ring

variable {codec} {signer : Signer25519 Key} {ring ring' : VerifyingKeyRing Key} {entries entries' : List (String × String)}

/-- The probe has one key, and its text is the signer's just when the key is. -/
lemma probe_same (keyId : String) (key : Key) :
    ((published codec (SortedMap.empty.insert keyId key)).head?.any fun e => e.2 == publicKeyBase64 codec signer) = true ↔
      key = signer.verifyingKey := by
  change (codec.encodeBase64 (codec.toBytes key) == codec.encodeBase64 (codec.toBytes signer.verifyingKey)) = true ↔ _
  rw [beq_iff_eq]
  exact ⟨codec.encode_injective _ _, fun h => by rw [h]⟩

/-- What one entry does: nothing under the active id, and a new key otherwise. -/
lemma addVerifyKey_ok_iff {keyId publicKey : String} :
    addVerifyKey codec signer ring keyId publicKey = .ok ring' ↔
      ∃ key, decodeKey codec publicKey = .ok key ∧
        (keyId = signer.keyId ∧ key = signer.verifyingKey ∧ ring' = ring ∨
          keyId ≠ signer.keyId ∧ ring' = ring.insert keyId key) := by
  unfold addVerifyKey addBase64
  cases hkey : decodeKey codec publicKey with
  | error e => simp
  | ok key =>
    dsimp only
    split_ifs with hactive hsame
    · rw [probe_same] at hsame
      simp [hactive, hsame, eq_comm]
    · rw [probe_same] at hsame
      simp [hactive, hsame]
    · simp [hactive, eq_comm]

lemma addVerifyKeys_cons_ok {e : String × String}
    (h : addVerifyKeys codec signer ring (e :: entries) = .ok ring') :
    ∃ next, addVerifyKey codec signer ring e.1 e.2 = .ok next ∧ addVerifyKeys codec signer next entries = .ok ring' := by
  rw [addVerifyKeys] at h
  cases hnext : addVerifyKey codec signer ring e.1 e.2 with
  | error e => simp [hnext] at h
  | ok next => exact ⟨next, rfl, by simpa [hnext] using h⟩

/-- An entry never replaces the signer's key. -/
lemma addVerifyKey_active {keyId publicKey : String} (h : addVerifyKey codec signer ring keyId publicKey = .ok ring') :
    ring'.get? signer.keyId = ring.get? signer.keyId := by
  obtain ⟨key, -, ⟨-, -, rfl⟩ | ⟨hother, rfl⟩⟩ := addVerifyKey_ok_iff.mp h
  · rfl
  · rw [SortedMap.get?_insert, if_neg hother]

lemma addVerifyKeys_active (h : addVerifyKeys codec signer ring entries = .ok ring') :
    ring'.get? signer.keyId = ring.get? signer.keyId := by
  induction entries generalizing ring with
  | nil =>
    cases h
    rfl
  | cons e entries ih =>
    obtain ⟨next, hnext, hrest⟩ := addVerifyKeys_cons_ok h
    exact (ih hrest).trans (addVerifyKey_active hnext)

/-- Ids that no entry names are left alone. -/
lemma addVerifyKeys_frame (h : addVerifyKeys codec signer ring entries = .ok ring') {keyId : String}
    (hkey : keyId ∉ entries.map (·.1)) : ring'.get? keyId = ring.get? keyId := by
  induction entries generalizing ring with
  | nil =>
    cases h
    rfl
  | cons e entries ih =>
    obtain ⟨next, hnext, hrest⟩ := addVerifyKeys_cons_ok h
    rw [List.map_cons, List.mem_cons, not_or] at hkey
    rw [ih hrest hkey.2]
    obtain ⟨key, -, ⟨-, -, rfl⟩ | ⟨-, rfl⟩⟩ := addVerifyKey_ok_iff.mp hnext
    · rfl
    · rw [SortedMap.get?_insert, if_neg (Ne.symm hkey.1)]

lemma addVerifyKeys_loadable (h : addVerifyKeys codec signer ring entries = .ok ring') :
    Loadable codec signer entries := by
  induction entries generalizing ring with
  | nil => exact ⟨by simp, by simp⟩
  | cons e entries ih =>
    obtain ⟨next, hnext, hrest⟩ := addVerifyKeys_cons_ok h
    obtain ⟨hdecoded, hactive⟩ := ih hrest
    obtain ⟨key, hkey, hcase⟩ := addVerifyKey_ok_iff.mp hnext
    refine ⟨List.forall_mem_cons.mpr ⟨⟨key, hkey⟩, hdecoded⟩, List.forall_mem_cons.mpr ⟨fun hid => ?_, hactive⟩⟩
    obtain ⟨-, rfl, -⟩ | ⟨hother, -⟩ := hcase
    · exact hkey
    · exact absurd hid hother

/-- Nothing but an undecodable key or another key under the active id stops the loop. -/
lemma addVerifyKeys_of_loadable (h : Loadable codec signer entries) :
    ∃ ring', addVerifyKeys codec signer ring entries = .ok ring' := by
  induction entries generalizing ring with
  | nil => exact ⟨ring, rfl⟩
  | cons e entries ih =>
    obtain ⟨⟨key, hkey⟩, hdecoded⟩ := List.forall_mem_cons.mp h.decoded
    obtain ⟨hsame, hactive⟩ := List.forall_mem_cons.mp h.active
    obtain ⟨next, hnext⟩ : ∃ next, addVerifyKey codec signer ring e.1 e.2 = .ok next := by
      by_cases hid : e.1 = signer.keyId
      · exact ⟨ring, addVerifyKey_ok_iff.mpr ⟨_, hsame hid, .inl ⟨hid, rfl, rfl⟩⟩⟩
      · exact ⟨ring.insert e.1 key, addVerifyKey_ok_iff.mpr ⟨key, hkey, .inr ⟨hid, rfl⟩⟩⟩
    obtain ⟨ring', hrest⟩ := @ih next ⟨hdecoded, hactive⟩
    exact ⟨ring', by rw [addVerifyKeys, hnext]; exact hrest⟩

/-- With distinct ids no later entry replaces an earlier one. -/
lemma addVerifyKeys_listed (hnodup : (entries.map (·.1)).Nodup)
    (h : addVerifyKeys codec signer ring entries = .ok ring') {e : String × String} (he : e ∈ entries)
    (hother : e.1 ≠ signer.keyId) : ∃ key, decodeKey codec e.2 = .ok key ∧ ring'.get? e.1 = some key := by
  induction entries generalizing ring with
  | nil => simp at he
  | cons e' entries ih =>
    obtain ⟨next, hnext, hrest⟩ := addVerifyKeys_cons_ok h
    obtain ⟨hnew, hnodup⟩ := List.nodup_cons.mp hnodup
    obtain rfl | he := List.mem_cons.mp he
    · obtain ⟨key, hkey, ⟨hid, -⟩ | ⟨-, rfl⟩⟩ := addVerifyKey_ok_iff.mp hnext
      · exact absurd hid hother
      · refine ⟨key, hkey, ?_⟩
        rw [addVerifyKeys_frame hrest hnew, SortedMap.get?_insert, if_pos rfl]
    · exact ih hnodup hrest he

lemma get?_addSigner (keyId : String) :
    (addSigner .empty signer).get? keyId = if signer.keyId = keyId then some signer.verifyingKey else none := by
  rw [addSigner, SortedMap.get?_insert, SortedMap.get?_empty]

lemma loadKeyRing_holds (hnodup : (entries.map (·.1)).Nodup) (h : loadKeyRing codec signer entries = .ok ring) :
    HoldsKeys codec signer entries ring := by
  have hactive : ring.get? signer.keyId = some signer.verifyingKey := by
    rw [addVerifyKeys_active h, get?_addSigner, if_pos rfl]
  refine ⟨hactive, fun e he => ?_, fun keyId hkey => ?_⟩
  · by_cases hid : e.1 = signer.keyId
    · exact ⟨_, (addVerifyKeys_loadable h).active e he hid, hid ▸ hactive⟩
    · exact addVerifyKeys_listed hnodup h he hid
  · by_contra hneither
    obtain ⟨hother, hunlisted⟩ := not_or.mp hneither
    rw [SortedMap.mem_keys_iff, addVerifyKeys_frame h hunlisted, get?_addSigner, if_neg (Ne.symm hother)] at hkey
    cases hkey

/-- The keys determine the ring. -/
lemma HoldsKeys.eq (h : HoldsKeys codec signer entries ring) (h' : HoldsKeys codec signer entries' ring')
    (hperm : entries.Perm entries') : ring = ring' := by
  refine SortedMap.ext_get? fun keyId => ?_
  by_cases hactive : keyId = signer.keyId
  · rw [hactive, h.active, h'.active]
  by_cases hlisted : keyId ∈ entries.map (·.1)
  · obtain ⟨e, he, rfl⟩ := List.mem_map.mp hlisted
    obtain ⟨key, hkey, hget⟩ := h.listed e he
    obtain ⟨key', hkey', hget'⟩ := h'.listed e (hperm.mem_iff.mp he)
    obtain rfl : key = key' := by simpa [hkey] using hkey'
    rw [hget, hget']
  · have hnone : ring.get? keyId = none := by
      by_contra hsome
      have hkey := SortedMap.mem_keys_iff.mpr (Option.isSome_iff_ne_none.mpr hsome)
      exact (h.nothingElse keyId hkey).elim hactive hlisted
    have hnone' : ring'.get? keyId = none := by
      by_contra hsome
      have hkey := SortedMap.mem_keys_iff.mpr (Option.isSome_iff_ne_none.mpr hsome)
      exact (h'.nothingElse keyId hkey).elim hactive fun hin => hlisted ((hperm.map _).mem_iff.mpr hin)
    rw [hnone, hnone']

lemma Loadable.perm (h : Loadable codec signer entries) (hperm : entries.Perm entries') :
    Loadable codec signer entries' :=
  ⟨fun e he => h.decoded e (hperm.mem_iff.mpr he), fun e he => h.active e (hperm.mem_iff.mpr he)⟩

/-- Entries with distinct ids are loaded as a set. -/
theorem key_ring_exact (codec : KeyCodec Key) (signer : Signer25519 Key) (entries : List (String × String))
    (hnodup : (entries.map (·.1)).Nodup) : ExactLoading codec signer entries where
  loads_iff := ⟨fun ⟨_, h⟩ => addVerifyKeys_loadable h, addVerifyKeys_of_loadable⟩
  holds := fun _ h => loadKeyRing_holds hnodup h
  anyOrder := by
    intro entries' hperm ring h
    obtain ⟨ring', h'⟩ : ∃ ring', loadKeyRing codec signer entries' = .ok ring' :=
      addVerifyKeys_of_loadable ((addVerifyKeys_loadable h).perm hperm)
    have hnodup' : (entries'.map (·.1)).Nodup := (hperm.map _).nodup_iff.mp hnodup
    rw [(loadKeyRing_holds hnodup h).eq (loadKeyRing_holds hnodup' h') hperm, h']

/-- The ring that the service starts with. -/
lemma configured_keys_held {reader : JsonReader} {raw : Option String}
    (hparsed : parseVerifyPublicKeys reader raw = .ok entries) (h : loadKeyRing codec signer entries = .ok ring) :
    HoldsKeys codec signer entries ring :=
  loadKeyRing_holds (parseVerifyPublicKeys_distinct hparsed) h

end Loading

/-- Two keys, the public ones of the seeds that repeat `1` and `2`. -/
def rotationBytes : Bool → List UInt8
  | true => [138, 136, 227, 221, 116, 9, 241, 149, 253, 82, 219, 45, 60, 186, 93, 114,
      202, 103, 9, 191, 29, 148, 18, 27, 243, 116, 136, 1, 180, 15, 111, 92]
  | false => [129, 57, 119, 14, 168, 125, 23, 95, 86, 163, 84, 102, 195, 76, 126, 204,
      203, 141, 138, 145, 180, 238, 55, 162, 93, 246, 15, 91, 143, 201, 179, 148]

def rotationText : Bool → String
  | true => "iojj3XQJ8ZX9UtstPLpdcspnCb8dlBIb83SIAbQPb1w="
  | false => "gTl3Dqh9F19Wo1Rmw0x+zMuNipG07jeiXfYPW4/Js5Q="

def rotationCodec : KeyCodec Bool where
  decodeBase64 text :=
    if text = rotationText true then .ok (rotationBytes true)
    else if text = rotationText false then .ok (rotationBytes false)
    else .error "Invalid padding"
  encodeBase64 bytes := rotationText (decide (bytes = rotationBytes true))
  fromBytes bytes := .ok (decide (bytes = rotationBytes true))
  toBytes := rotationBytes
  encode_injective := by decide

def rotationSigner : Signer25519 Bool := ⟨"entitlement-key-2", true⟩

/-- The active key and the one before it. -/
def rotationEntries : List (String × String) :=
  [("entitlement-key-1", rotationText false), ("entitlement-key-2", rotationText true)]

theorem key_ring_exact_rotation : ExactLoading rotationCodec rotationSigner rotationEntries :=
  key_ring_exact rotationCodec rotationSigner rotationEntries (by decide)

example : loadKeyRing rotationCodec rotationSigner [("entitlement-key-2", rotationText false)] =
    .error (.verifyKeys "key_id entitlement-key-2 is the active signing key id with a different public key") := by
  decide +kernel

end ForgeCustomer.KeyRing
