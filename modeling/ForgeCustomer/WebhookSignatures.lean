import ForgeCustomer.UsagePeriods

/-!
# Signatures of webhooks

`integrations::stripe::verify_signature`: the header is read part by part, the timestamp is compared with the
clock, and the payload is authenticated last.
-/
namespace ForgeCustomer.WebhookSignatures
open JsonValue CommercialPolicy UsagePeriods

inductive WebhookError where
  | malformedHeader
  | timestampOutOfTolerance
  | noMatch
  | notConfigured
deriving DecidableEq

/-- `str::split_once`. -/
def splitOnce (sep : Char) (s : String) : Option (String × String) :=
  match s.toList.dropWhile (· ≠ sep) with
  | [] => none
  | _ :: rest => some (String.ofList (s.toList.takeWhile (· ≠ sep)), String.ofList rest)

/-- `str::split(',')`. -/
def headerParts (header : String) : List String := (header.toList.splitOn ',').map String.ofList

def InI64 (z : ℤ) : Prop := -2 ^ 63 ≤ z ∧ z < 2 ^ 63

instance (z : ℤ) : Decidable (InI64 z) := by unfold InI64; infer_instance

def readDigits (cs : List Char) : Option ℤ :=
  if cs ≠ [] ∧ cs.all Char.isDigit = true then some (numeral cs) else none

/-- `str::parse::<i64>`. -/
def parseI64 (s : String) : Option ℤ :=
  let signed := match s.toList with
    | '-' :: digits => (readDigits digits).map Neg.neg
    | '+' :: digits => readDigits digits
    | digits => readDigits digits
  signed.filter fun z => InI64 z

/-- Two digits for each byte. -/
def decodeHexDigits : List Char → Option (List UInt8)
  | [] => some []
  | [_] => none
  | high :: low :: rest => do
    let h ← hexDigit high
    let l ← hexDigit low
    let bytes ← decodeHexDigits rest
    pure (UInt8.ofNat (16 * h + l) :: bytes)

/-- `hex::decode`. -/
def decodeHex (s : String) : Option (List UInt8) := decodeHexDigits s.toList

/-- What the loop over the parts has collected. -/
structure SignatureHeader where
  timestamp : Option ℤ
  signatures : List (List UInt8)
deriving DecidableEq

def readPart (acc : SignatureHeader) (part : String) : Except WebhookError SignatureHeader :=
  match splitOnce '=' part with
  | none => .error .malformedHeader
  | some (k, v) =>
    if trim k = "t" then
      match parseI64 (trim v) with
      | none => .error .malformedHeader
      | some ts => .ok { acc with timestamp := some ts }
    else if trim k = "v1" then
      match decodeHex (trim v) with
      | none => .error .malformedHeader
      | some bytes => .ok { acc with signatures := acc.signatures ++ [bytes] }
    else .ok acc

def readParts (parts : List String) : Except WebhookError SignatureHeader := parts.foldlM readPart ⟨none, []⟩

/-- The result, unless an operation on 64 bits overflows: a panic or a wrapped value, as the build has it. -/
inductive Outcome where
  | overflow
  | returned (result : Except WebhookError Unit)
deriving DecidableEq

/-- `a - b` on `i64`. -/
def checkedSub (a b : ℤ) : Option ℤ := if InI64 (a - b) then some (a - b) else none

/-- `i64::abs`. -/
def checkedAbs (a : ℤ) : Option ℤ := if InI64 |a| then some |a| else none

def signedPayload (ts : ℤ) (payload : List UInt8) : List UInt8 :=
  (toString ts).toUTF8.toList ++ ".".toUTF8.toList ++ payload

variable (hmacSha256 : List UInt8 → List UInt8 → List UInt8)

def verifySignature (payload : List UInt8) (sigHeader secret : String) (nowUnix toleranceSecs : ℤ) : Outcome :=
  if secret = "" then .returned (.error .notConfigured)
  else match readParts (headerParts sigHeader) with
    | .error e => .returned (.error e)
    | .ok header =>
      match header.timestamp with
      | none => .returned (.error .malformedHeader)
      | some ts =>
        match (checkedSub nowUnix ts).bind checkedAbs with
        | none => .overflow
        | some skew =>
          if toleranceSecs < skew then .returned (.error .timestampOutOfTolerance)
          else if header.signatures = [] then .returned (.error .malformedHeader)
          else
            let expected := hmacSha256 secret.toUTF8.toList (signedPayload ts payload)
            if header.signatures.any (fun sig => sig.length == expected.length && expected == sig) then
              .returned (.ok ())
            else .returned (.error .noMatch)

/-- The value of a part with the key. -/
def valueOf (key part : String) : Option String :=
  (splitOnce '=' part).bind fun kv => if trim kv.1 = key then some (trim kv.2) else none

def values (key : String) (parts : List String) : List String := parts.filterMap (valueOf key)

/-- Every part is a pair, every `t` a number and every `v1` a string of bytes. -/
structure WellFormed (parts : List String) : Prop where
  pairs : ∀ part ∈ parts, '=' ∈ part.toList
  times : ∀ v ∈ values "t" parts, (parseI64 v).isSome = true
  hexes : ∀ v ∈ values "v1" parts, (decodeHex v).isSome = true

/-- The last `t`. -/
def lastTimestamp (parts : List String) : Option ℤ := (values "t" parts).getLast?.bind parseI64

/-- The header is well formed, recent, and one of its signatures is that of the payload. -/
structure Authentic (payload : List UInt8) (sigHeader secret : String) (nowUnix toleranceSecs : ℤ) : Prop where
  wellFormed : WellFormed (headerParts sigHeader)
  signed : ∃ ts, lastTimestamp (headerParts sigHeader) = some ts ∧ |nowUnix - ts| ≤ toleranceSecs ∧
    ∃ v ∈ values "v1" (headerParts sigHeader),
      decodeHex v = some (hmacSha256 secret.toUTF8.toList (signedPayload ts payload))

/-- Nothing overflows, and exactly the authentic payloads are accepted. -/
def Exact (payload : List UInt8) (sigHeader secret : String) (nowUnix toleranceSecs : ℤ) : Prop :=
  ∃ result, verifySignature hmacSha256 payload sigHeader secret nowUnix toleranceSecs = .returned result ∧
    (result = .ok () ↔ Authentic hmacSha256 payload sigHeader secret nowUnix toleranceSecs)

lemma splitOnce_isSome {sep : Char} {s : String} : (splitOnce sep s).isSome = true ↔ sep ∈ s.toList := by
  unfold splitOnce
  split
  · rename_i hnone
    have hall : ∀ c ∈ s.toList, c ≠ sep := by simpa using hnone
    constructor
    · intro h
      cases h
    · intro h
      exact absurd rfl (hall sep h)
  · rename_i c rest hsome
    have hmem : sep ∈ s.toList := by
      by_contra hnot
      have hall : ∀ c ∈ s.toList, decide (c ≠ sep) = true := fun c hc => by
        simp only [ne_eq, decide_not, Bool.not_eq_eq_eq_not, Bool.not_true, decide_eq_false_iff_not]
        rintro rfl
        exact hnot hc
      rw [List.dropWhile_eq_nil_iff.mpr hall] at hsome
      cases hsome
    simp [hmem]

lemma values_append (key : String) (parts : List String) (part : String) :
    values key (parts ++ [part]) = values key parts ++ (valueOf key part).toList := by
  unfold values
  rw [List.filterMap_append]
  cases h : valueOf key part <;> simp [h]

lemma wellFormed_append {parts : List String} {part : String} : WellFormed (parts ++ [part]) ↔
    WellFormed parts ∧ '=' ∈ part.toList ∧ (∀ v, valueOf "t" part = some v → (parseI64 v).isSome = true) ∧
      ∀ v, valueOf "v1" part = some v → (decodeHex v).isSome = true := by
  constructor
  · intro h
    have htimes := h.times
    have hhexes := h.hexes
    rw [values_append] at htimes hhexes
    exact ⟨⟨fun p hp => h.pairs p (by simp [hp]), fun v hv => htimes v (by simp [hv]),
        fun v hv => hhexes v (by simp [hv])⟩,
      h.pairs part (by simp), fun v hv => htimes v (by simp [hv]), fun v hv => hhexes v (by simp [hv])⟩
  · rintro ⟨h, hpair, htime, hhex⟩
    constructor
    · intro p hp
      rcases List.mem_append.mp hp with hp | hp
      · exact h.pairs p hp
      · rwa [List.mem_singleton.mp hp]
    · intro v hv
      rw [values_append] at hv
      rcases List.mem_append.mp hv with hv | hv
      · exact h.times v hv
      · exact htime v (by simpa using hv)
    · intro v hv
      rw [values_append] at hv
      rcases List.mem_append.mp hv with hv | hv
      · exact h.hexes v hv
      · exact hhex v (by simpa using hv)

/-- One part. -/
lemma readPart_ok {acc header : SignatureHeader} {part : String} : readPart acc part = .ok header ↔
    ('=' ∈ part.toList ∧ (∀ v, valueOf "t" part = some v → (parseI64 v).isSome = true) ∧
      ∀ v, valueOf "v1" part = some v → (decodeHex v).isSome = true) ∧
    header = ⟨((valueOf "t" part).bind parseI64).or acc.timestamp,
      acc.signatures ++ ((valueOf "v1" part).bind decodeHex).toList⟩ := by
  rw [← splitOnce_isSome]
  unfold readPart valueOf
  cases splitOnce '=' part with
  | none => simp
  | some kv =>
    obtain ⟨k, v⟩ := kv
    have hkeys : ¬"t" = "v1" := by decide
    by_cases ht : trim k = "t"
    · cases hparse : parseI64 (trim v) with
      | none => simp [ht, hkeys, hparse]
      | some ts =>
        simp only [Option.bind_some, ht, hkeys, if_true, if_false, hparse, Option.isSome_some, Except.ok.injEq]
        simp [hparse, @eq_comm _ header]
    · by_cases hv1 : trim k = "v1"
      · have hkeys' : ¬"v1" = "t" := by decide
        cases hdecode : decodeHex (trim v) with
        | none => simp [hv1, hkeys', hdecode]
        | some bytes =>
          simp only [Option.bind_some, hv1, hkeys', if_true, if_false, hdecode, Option.isSome_some, Except.ok.injEq]
          simp [hdecode, @eq_comm _ header]
      · simp [ht, hv1, @eq_comm _ header]

/-- The loop succeeds on the well-formed headers, with the last timestamp and all signatures. -/
lemma readParts_ok {parts : List String} {header : SignatureHeader} : readParts parts = .ok header ↔
    WellFormed parts ∧ header = ⟨lastTimestamp parts, (values "v1" parts).filterMap decodeHex⟩ := by
  induction parts using List.reverseRecOn generalizing header with
  | nil =>
    have hnil : WellFormed [] := ⟨by simp, by simp [values], by simp [values]⟩
    simp [readParts, hnil, lastTimestamp, values, eq_comm, pure, Except.pure]
  | append_singleton parts part ih =>
    have hstep : readParts (parts ++ [part]) = (readParts parts).bind fun acc => readPart acc part := by
      simp [readParts, List.foldlM_append]
      rfl
    have hread : readParts (parts ++ [part]) = .ok header ↔
        ∃ acc, readParts parts = .ok acc ∧ readPart acc part = .ok header := by
      rw [hstep]
      cases readParts parts <;> simp [Except.bind]
    have hlast : (∀ v, valueOf "t" part = some v → (parseI64 v).isSome = true) →
        lastTimestamp (parts ++ [part]) = ((valueOf "t" part).bind parseI64).or (lastTimestamp parts) := by
      intro htime
      unfold lastTimestamp
      rw [values_append]
      cases hv : valueOf "t" part with
      | none => simp
      | some v =>
        obtain ⟨ts, hts⟩ := Option.isSome_iff_exists.mp (htime v hv)
        simp [hts]
    have hsigs : (values "v1" (parts ++ [part])).filterMap decodeHex =
        (values "v1" parts).filterMap decodeHex ++ ((valueOf "v1" part).bind decodeHex).toList := by
      rw [values_append, List.filterMap_append]
      cases valueOf "v1" part with
      | none => simp
      | some v => cases hd : decodeHex v <;> simp [hd]
    rw [hread, wellFormed_append, hsigs]
    constructor
    · rintro ⟨acc, hacc, hpart⟩
      obtain ⟨hwell, rfl⟩ := ih.mp hacc
      obtain ⟨hok, rfl⟩ := readPart_ok.mp hpart
      exact ⟨⟨hwell, hok⟩, by rw [hlast hok.2.1]⟩
    · rintro ⟨⟨hwell, hok⟩, rfl⟩
      exact ⟨_, ih.mpr ⟨hwell, rfl⟩, readPart_ok.mpr ⟨hok, by rw [hlast hok.2.1]⟩⟩

/-- The distance to the clock is computed if it is below `2 ^ 63`. -/
lemma checkedSkew {a b : ℤ} : (checkedSub a b).bind checkedAbs = if |a - b| < 2 ^ 63 then some |a - b| else none := by
  unfold checkedSub checkedAbs
  by_cases h : |a - b| < 2 ^ 63
  · obtain ⟨hlow, hhigh⟩ := abs_lt.mp h
    have hpos := abs_nonneg (a - b)
    have hsub : InI64 (a - b) := ⟨hlow.le, hhigh⟩
    have habs : InI64 |a - b| := ⟨by omega, h⟩
    rw [if_pos hsub, Option.bind_some, if_pos habs, if_pos h]
  · have habs : ¬InI64 |a - b| := fun hin => h hin.2
    rw [if_neg h]
    split_ifs with hsub
    · rw [Option.bind_some, if_neg habs]
    · rfl

variable {hmacSha256 : List UInt8 → List UInt8 → List UInt8} {payload : List UInt8} {sigHeader secret : String}
  {nowUnix toleranceSecs : ℤ}

/-- The timestamp of a well-formed header is less than `2 ^ 63` seconds away from the clock. -/
def ClockNear (sigHeader : String) (nowUnix : ℤ) : Prop :=
  WellFormed (headerParts sigHeader) → ∀ ts, lastTimestamp (headerParts sigHeader) = some ts →
    |nowUnix - ts| < 2 ^ 63

variable (hmacSha256 payload toleranceSecs) in
/-- Verification of a well-formed header with a timestamp nearby. -/
lemma verify_near (hsecret : secret ≠ "") (hwell : WellFormed (headerParts sigHeader)) {ts : ℤ}
    (hts : lastTimestamp (headerParts sigHeader) = some ts) (hnear : |nowUnix - ts| < 2 ^ 63) :
    ∃ result, verifySignature hmacSha256 payload sigHeader secret nowUnix toleranceSecs = .returned result ∧
      (result = .ok () ↔ |nowUnix - ts| ≤ toleranceSecs ∧ ∃ v ∈ values "v1" (headerParts sigHeader),
        decodeHex v = some (hmacSha256 secret.toUTF8.toList (signedPayload ts payload))) := by
  have hread := readParts_ok.mpr ⟨hwell, rfl⟩
  unfold verifySignature
  rw [if_neg hsecret, hread]
  dsimp only
  rw [hts]
  dsimp only
  rw [checkedSkew, if_pos hnear]
  dsimp only
  split_ifs with hskew hempty hany
  · refine ⟨_, rfl, ?_⟩
    simp [not_le.mpr hskew]
  · refine ⟨_, rfl, ?_⟩
    simp only [reduceCtorEq, false_iff, not_and]
    rintro - ⟨v, hv, hdecode⟩
    have hmem := List.mem_filterMap.mpr ⟨v, hv, hdecode⟩
    rw [hempty] at hmem
    cases hmem
  · refine ⟨_, rfl, ?_⟩
    simp only [true_iff]
    obtain ⟨sig, hsig, heq⟩ := List.any_eq_true.mp hany
    obtain ⟨v, hv, hdecode⟩ := List.mem_filterMap.mp hsig
    simp only [Bool.and_eq_true, beq_iff_eq] at heq
    exact ⟨not_lt.mp hskew, v, hv, by rw [hdecode, heq.2]⟩
  · refine ⟨_, rfl, ?_⟩
    simp only [reduceCtorEq, false_iff, not_and]
    rintro - ⟨v, hv, hdecode⟩
    exact hany (List.any_eq_true.mpr ⟨_, List.mem_filterMap.mpr ⟨v, hv, hdecode⟩, by simp⟩)

/-- Signatures are checked exactly as long as the timestamp is not so far from the clock that the difference
overflows. -/
theorem verify_signature_exact_iff (hsecret : secret ≠ "") :
    Exact hmacSha256 payload sigHeader secret nowUnix toleranceSecs ↔ ClockNear sigHeader nowUnix := by
  by_cases hwell : WellFormed (headerParts sigHeader)
  · cases hts : lastTimestamp (headerParts sigHeader) with
    | none =>
      have hnear : ClockNear sigHeader nowUnix := by
        intro _ ts h
        rw [hts] at h
        cases h
      have hexact : Exact hmacSha256 payload sigHeader secret nowUnix toleranceSecs := by
        refine ⟨.error .malformedHeader, ?_, ?_⟩
        · unfold verifySignature
          rw [if_neg hsecret, readParts_ok.mpr ⟨hwell, rfl⟩]
          dsimp only
          rw [hts]
        · simp only [reduceCtorEq, false_iff]
          rintro ⟨-, ts, h, -⟩
          rw [hts] at h
          cases h
      exact ⟨fun _ => hnear, fun _ => hexact⟩
    | some ts =>
      constructor
      · rintro ⟨result, hresult, -⟩ - ts' hts'
        rw [hts] at hts'
        obtain rfl := Option.some.inj hts'
        by_contra hfar
        unfold verifySignature at hresult
        rw [if_neg hsecret, readParts_ok.mpr ⟨hwell, rfl⟩] at hresult
        dsimp only at hresult
        rw [hts] at hresult
        dsimp only at hresult
        rw [checkedSkew, if_neg hfar] at hresult
        cases hresult
      · intro hnear
        obtain ⟨result, hresult, hiff⟩ := verify_near hmacSha256 payload toleranceSecs hsecret hwell hts
          (hnear hwell ts hts)
        refine ⟨result, hresult, hiff.trans ⟨fun h => ⟨hwell, ts, hts, h⟩, ?_⟩⟩
        rintro ⟨-, ts', hts', h⟩
        rw [hts] at hts'
        rw [← Option.some.inj hts'] at h
        exact h
  · have herror : ∃ e, readParts (headerParts sigHeader) = .error e := by
      cases h : readParts (headerParts sigHeader) with
      | error e => exact ⟨e, rfl⟩
      | ok header => exact absurd (readParts_ok.mp h).1 hwell
    obtain ⟨e, he⟩ := herror
    have hexact : Exact hmacSha256 payload sigHeader secret nowUnix toleranceSecs := by
      refine ⟨.error e, ?_, ?_⟩
      · unfold verifySignature
        rw [if_neg hsecret, he]
      · simp only [reduceCtorEq, false_iff]
        exact fun h => hwell h.wellFormed
    exact ⟨fun _ h => absurd h hwell, fun _ => hexact⟩

/-- The smallest timestamp that can be written; nothing is signed. -/
def smallestHeader : String := "t=-9223372036854775808,v1=00"

/-- The difference to the present overflows before any signature has been looked at. -/
theorem smallest_timestamp_overflows :
    verifySignature (fun _ message => message) "{}".toUTF8.toList smallestHeader "whsec_test" 1700000000 300 = .overflow ∧
    ¬Exact (fun _ message => message) "{}".toUTF8.toList smallestHeader "whsec_test" 1700000000 300 := by
  have hoverflow : verifySignature (fun _ message => message) "{}".toUTF8.toList smallestHeader "whsec_test"
      1700000000 300 = .overflow := by decide
  refine ⟨hoverflow, ?_⟩
  rintro ⟨result, hresult, -⟩
  rw [hoverflow] at hresult
  cases hresult

/-- The digest of `1700000000.\x7b\x7d` under `whsec_test`. -/
def sampleDigest : List UInt8 :=
  [53, 73, 80, 36, 244, 239, 63, 148, 229, 169, 62, 34, 34, 21, 68, 196, 183, 94, 154, 66, 48, 12, 217, 101, 171, 129,
    203, 133, 205, 153, 78, 145]

def sampleHeader : String := "t=1700000000,v1=35495024f4ef3f94e5a93e22221544c4b75e9a42300cd965ab81cb85cd994e91"

theorem verify_signature_exact_iff_sample :
    verifySignature (fun _ _ => sampleDigest) "{}".toUTF8.toList sampleHeader "whsec_test" 1700000005 300 =
      .returned (.ok ()) ∧
    (Exact (fun _ _ => sampleDigest) "{}".toUTF8.toList sampleHeader "whsec_test" 1700000005 300 ↔
      ClockNear sampleHeader 1700000005) :=
  ⟨by decide, verify_signature_exact_iff (by decide)⟩

end ForgeCustomer.WebhookSignatures
