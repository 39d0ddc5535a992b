import ForgeCustomer.AuditWriters

/-!
# Redaction

`domain::redaction` removes members under prohibited keys, and `DataforgeClient::publish` refuses payloads that
still have one. The two walk through a document in the same way.
-/
namespace ForgeCustomer.Redaction
open SqlTables SqlPrograms SqlStatements JsonValue StripeEvents DatabaseTables AuditWriters TableName

mutual
/-- Whether a prohibited key stands at any depth. -/
def containsProhibited : Value → Bool
  | .obj members => membersProhibited members
  | .arr items => itemsProhibited items
  | .null => false
  | .bool _ => false
  | .int _ => false
  | .float _ => false
  | .str _ => false

def membersProhibited : List (String × Value) → Bool
  | [] => false
  | (k, v) :: members => prohibitedKeys.contains k || containsProhibited v || membersProhibited members

def itemsProhibited : List Value → Bool
  | [] => false
  | v :: items => containsProhibited v || itemsProhibited items
end

inductive DataforgeError where
  | prohibitedPayload
  | transport (message : String)
  | notConfigured
deriving DecidableEq

/-- The client with the transport that it posts through. -/
structure DataforgeClient where
  http : String → String → Value → Except String Unit
  url : String
  token : String

def publish (client : DataforgeClient) (eventType deliveryKey : String) (payload : Value) :
    Except DataforgeError Unit :=
  if client.url = "" then .error .notConfigured
  else if containsProhibited payload then .error .prohibitedPayload
  else
    let body := Value.obj
      [("event_type", .str eventType), ("delivery_key", .str deliveryKey), ("payload", payload)]
    match client.http client.url client.token body with
    | .error e => .error (.transport e)
    | .ok () => .ok ()

def IsScalar : Value → Prop
  | .obj _ => False
  | .arr _ => False
  | _ => True

/-- A property of scalars that arrays and objects have with their parts is one of all documents. -/
@[elab_as_elim]
theorem tree_induction {P : Value → Prop} (v : Value) (scalar : ∀ v, IsScalar v → P v)
    (arr : ∀ items, (∀ v ∈ items, P v) → P (.arr items))
    (obj : ∀ members : List (String × Value), (∀ m ∈ members, P m.2) → P (.obj members)) : P v :=
  Value.rec (motive_1 := P) (motive_2 := fun items => ∀ v ∈ items, P v)
    (motive_3 := fun members => ∀ m ∈ members, P m.2) (motive_4 := fun m => P m.2)
    (scalar _ trivial) (fun _ => scalar _ trivial) (fun _ => scalar _ trivial) (fun _ => scalar _ trivial)
    (fun _ => scalar _ trivial) arr obj (by simp) (fun _ _ hv hitems => by simpa using ⟨hv, hitems⟩) (by simp)
    (fun _ _ hm hmembers => by simpa using ⟨hm, fun a b hab => hmembers (a, b) hab⟩) (fun _ _ hv => hv) v

/-- The key may stand in a sanitized document. -/
def keeps (m : String × Value) : Bool := !prohibitedKeys.contains m.1

lemma keeps_iff {m : String × Value} : keeps m = true ↔ m.1 ∉ prohibitedKeys := by
  simp [keeps]

lemma sanitizeMembers_eq (members : List (String × Value)) :
    sanitizeMembers members = (members.filter keeps).map fun m => (m.1, sanitize m.2) := by
  induction members with
  | nil => rfl
  | cons m members ih =>
    rw [sanitizeMembers, List.filter_cons, keeps]
    cases prohibitedKeys.contains m.1 with
    | true => exact ih
    | false => rw [if_neg (by simp), if_pos (by rfl), List.map_cons, ih]

lemma sanitizeItems_eq (items : List Value) : sanitizeItems items = items.map sanitize := by
  induction items with
  | nil => rfl
  | cons v items ih => rw [sanitizeItems, ih, List.map_cons]

lemma membersProhibited_eq (members : List (String × Value)) :
    membersProhibited members = members.any fun m => prohibitedKeys.contains m.1 || containsProhibited m.2 := by
  induction members with
  | nil => rfl
  | cons m members ih => rw [membersProhibited, ih, List.any_cons]

lemma itemsProhibited_eq (items : List Value) : itemsProhibited items = items.any containsProhibited := by
  induction items with
  | nil => rfl
  | cons v items ih => rw [itemsProhibited, ih, List.any_cons]

/-- Members under allowed keys stay in their order. -/
@[simp] lemma sanitize_obj (members : List (String × Value)) :
    sanitize (.obj members) = .obj ((members.filter keeps).map fun m => (m.1, sanitize m.2)) := by
  rw [sanitize, sanitizeMembers_eq]

@[simp] lemma sanitize_arr (items : List Value) : sanitize (.arr items) = .arr (items.map sanitize) := by
  rw [sanitize, sanitizeItems_eq]

lemma sanitize_scalar {v : Value} (h : IsScalar v) : sanitize v = v := by
  cases v with
  | obj members => exact h.elim
  | arr items => exact h.elim
  | _ => rfl

@[simp] lemma containsProhibited_obj (members : List (String × Value)) :
    containsProhibited (.obj members) =
      members.any fun m => prohibitedKeys.contains m.1 || containsProhibited m.2 := by
  rw [containsProhibited, membersProhibited_eq]

@[simp] lemma containsProhibited_arr (items : List Value) :
    containsProhibited (.arr items) = items.any containsProhibited := by
  rw [containsProhibited, itemsProhibited_eq]

lemma containsProhibited_scalar {v : Value} (h : IsScalar v) : containsProhibited v = false := by
  cases v with
  | obj members => exact h.elim
  | arr items => exact h.elim
  | _ => rfl

/-- One step down into a document. -/
inductive Step where
  | key (k : String)
  | index (i : ℕ)
deriving DecidableEq

def child : Value → Step → Option Value
  | v, .key k => v.get k
  | .arr items, .index i => items[i]?
  | _, .index _ => none

/-- The value that a path leads to. -/
def pointer : List Step → Value → Option Value
  | [], v => some v
  | step :: path, v => (child v step).bind (pointer path)

/-- The path does not go through a prohibited key. -/
def Allowed (path : List Step) : Prop := ∀ k, Step.key k ∈ path → k ∉ prohibitedKeys

/-- `v'` is `v` without what stands under prohibited keys. -/
structure KeepsAllowed (v v' : Value) : Prop where
  scalars : ∀ path x, Allowed path → pointer path v = some x → IsScalar x → pointer path v' = some x
  arrays : ∀ path items, Allowed path → pointer path v = some (.arr items) →
    ∃ items', pointer path v' = some (.arr items') ∧ items'.length = items.length
  objects : ∀ path members, Allowed path → pointer path v = some (.obj members) →
    ∃ members', pointer path v' = some (.obj members') ∧
      members'.map (·.1) = (members.map (·.1)).filter fun k => !prohibitedKeys.contains k
  nothingElse : ∀ path x, pointer path v' = some x → Allowed path ∧ ∃ y, pointer path v = some y

lemma child_sanitize_key {k : String} (h : k ∉ prohibitedKeys) (v : Value) :
    child (sanitize v) (.key k) = (child v (.key k)).map sanitize := by
  cases v with
  | obj members =>
    have hpred : (fun m : String × Value => decide (keeps m = true ∧ (m.1 == k) = true)) = fun m => m.1 == k := by
      funext m
      rw [Bool.eq_iff_iff, decide_eq_true_eq]
      exact ⟨And.right, fun hm => ⟨keeps_iff.mpr (eq_of_beq hm ▸ h), hm⟩⟩
    rw [sanitize_obj, child, child, Value.get, Value.get, List.find?_map, List.find?_filter]
    simp only [Function.comp_def, hpred, Option.map_map]
  | _ => rfl

lemma child_sanitize_prohibited {k : String} (h : k ∈ prohibitedKeys) (v : Value) :
    child (sanitize v) (.key k) = none := by
  cases v with
  | obj members =>
    rw [sanitize_obj, child, Value.get, Option.map_eq_none_iff, List.find?_eq_none]
    intro m hm hkey
    obtain ⟨m', hm', rfl⟩ := List.mem_map.mp hm
    exact keeps_iff.mp (List.mem_filter.mp hm').2 (eq_of_beq hkey ▸ h)
  | _ => rfl

lemma child_sanitize_index (i : ℕ) (v : Value) :
    child (sanitize v) (.index i) = (child v (.index i)).map sanitize := by
  cases v with
  | arr items => rw [sanitize_arr, child, child, List.getElem?_map]
  | _ => rfl

lemma allowed_cons_key {k : String} {path : List Step} :
    Allowed (.key k :: path) ↔ k ∉ prohibitedKeys ∧ Allowed path := by
  simp [Allowed]

lemma allowed_cons_index {i : ℕ} {path : List Step} : Allowed (.index i :: path) ↔ Allowed path := by
  simp [Allowed]

/-- Along an allowed path redaction and descent commute. -/
lemma pointer_sanitize {path : List Step} (h : Allowed path) (v : Value) :
    pointer path (sanitize v) = (pointer path v).map sanitize := by
  induction path generalizing v with
  | nil => rfl
  | cons step path ih =>
    have hstep : child (sanitize v) step = (child v step).map sanitize ∧ Allowed path := by
      cases step with
      | key k => exact ⟨child_sanitize_key (allowed_cons_key.mp h).1 v, (allowed_cons_key.mp h).2⟩
      | index i => exact ⟨child_sanitize_index i v, allowed_cons_index.mp h⟩
    rw [pointer, pointer, hstep.1]
    cases child v step with
    | none => rfl
    | some w => exact ih hstep.2 w

/-- A path that leads somewhere in a sanitized document is allowed. -/
lemma allowed_of_pointer_sanitize {path : List Step} {v x : Value} (h : pointer path (sanitize v) = some x) :
    Allowed path := by
  induction path generalizing v with
  | nil => exact fun k hk => absurd hk (by simp)
  | cons step path ih =>
    rw [pointer, Option.bind_eq_some_iff] at h
    obtain ⟨w, hchild, hpath⟩ := h
    cases step with
    | key k =>
      by_cases hk : k ∈ prohibitedKeys
      · simp [child_sanitize_prohibited hk] at hchild
      · rw [child_sanitize_key hk, Option.map_eq_some_iff] at hchild
        obtain ⟨w', -, rfl⟩ := hchild
        exact allowed_cons_key.mpr ⟨hk, ih hpath⟩
    | index i =>
      rw [child_sanitize_index, Option.map_eq_some_iff] at hchild
      obtain ⟨w', -, rfl⟩ := hchild
      exact allowed_cons_index.mpr (ih hpath)

lemma sanitize_keepsAllowed (v : Value) : KeepsAllowed v (sanitize v) where
  scalars := by
    intro path x hallowed hx hscalar
    rw [pointer_sanitize hallowed, hx, Option.map_some, sanitize_scalar hscalar]
  arrays := by
    intro path items hallowed hitems
    refine ⟨items.map sanitize, ?_, List.length_map ..⟩
    rw [pointer_sanitize hallowed, hitems, Option.map_some, sanitize_arr]
  objects := by
    intro path members hallowed hmembers
    refine ⟨_, by rw [pointer_sanitize hallowed, hmembers, Option.map_some, sanitize_obj], ?_⟩
    rw [List.map_map, List.filter_map]
    rfl
  nothingElse := by
    intro path x hx
    have hallowed := allowed_of_pointer_sanitize hx
    rw [pointer_sanitize hallowed, Option.map_eq_some_iff] at hx
    obtain ⟨y, hy, -⟩ := hx
    exact ⟨hallowed, y, hy⟩

lemma containsProhibited_sanitize (v : Value) : containsProhibited (sanitize v) = false := by
  induction v using tree_induction with
  | scalar v h => rw [sanitize_scalar h, containsProhibited_scalar h]
  | arr items ih =>
    rw [sanitize_arr, containsProhibited_arr, List.any_map, List.any_eq_false]
    exact fun v hv => by simp [ih v hv]
  | obj members ih =>
    rw [sanitize_obj, containsProhibited_obj, List.any_map, List.any_eq_false]
    intro m hm
    obtain ⟨hmem, hkept⟩ := List.mem_filter.mp hm
    simp [ih m hmem, keeps_iff.mp hkept]

/-- Without a prohibited key there is nothing to remove. -/
lemma sanitize_of_clean {v : Value} (h : containsProhibited v = false) : sanitize v = v := by
  induction v using tree_induction with
  | scalar v hv => exact sanitize_scalar hv
  | arr items ih =>
    rw [containsProhibited_arr, List.any_eq_false] at h
    have hitems : items.map sanitize = items := by
      refine (List.map_congr_left fun v hv => ?_).trans (List.map_id items)
      exact ih v hv (by simpa using h v hv)
    rw [sanitize_arr, hitems]
  | obj members ih =>
    rw [containsProhibited_obj, List.any_eq_false] at h
    have hclean : ∀ m ∈ members, m.1 ∉ prohibitedKeys ∧ containsProhibited m.2 = false := by
      simpa using h
    have hfilter : members.filter keeps = members :=
      List.filter_eq_self.mpr fun m hm => keeps_iff.mpr (hclean m hm).1
    have hmembers : (members.map fun m => (m.1, sanitize m.2)) = members := by
      refine (List.map_congr_left fun m hm => ?_).trans (List.map_id members)
      rw [ih m hm (hclean m hm).2]
      rfl
    rw [sanitize_obj, hfilter, hmembers]

lemma sanitize_eq_iff (v : Value) : sanitize v = v ↔ containsProhibited v = false := by
  refine ⟨fun h => ?_, sanitize_of_clean⟩
  rw [← h]
  exact containsProhibited_sanitize v

lemma sanitize_sanitize (v : Value) : sanitize (sanitize v) = sanitize v :=
  sanitize_of_clean (containsProhibited_sanitize v)

/-- The client does not refuse the event for its payload. -/
def Publishable (e : OutboxEvent) : Prop :=
  ∀ client : DataforgeClient,
    publish client e.eventType e.deliveryKey e.payload ≠ .error .prohibitedPayload

/-- The payload is refused for nothing but a prohibited key, and before anything is sent. -/
lemma publish_refuses_iff (client : DataforgeClient) (eventType deliveryKey : String) (payload : Value) :
    publish client eventType deliveryKey payload = .error .prohibitedPayload ↔
      client.url ≠ "" ∧ containsProhibited payload = true := by
  unfold publish
  dsimp only
  split_ifs with hurl hprohibited
  · simp [hurl]
  · simp [hurl, hprohibited]
  · split <;> simp [hprohibited]

lemma publishable_of_clean {e : OutboxEvent} (h : containsProhibited e.payload = false) : Publishable e := by
  intro client hrefused
  simpa [h] using ((publish_refuses_iff client _ _ _).mp hrefused).2

/-- A row that the writer adds can be published. -/
lemma writeOutbox_publishable {ε : Type} [FromSql ε] (eventType deliveryKey : String) (payload : Value)
    (s : DbStore) :
    (writeOutbox eventType deliveryKey payload : Tx ε Unit).Ensures s fun _ s' =>
      ∀ e ∈ s'.db outboxEvents, e ∈ s.db outboxEvents ∨ Publishable e.val := by
  refine ensures_writeOutbox.mono fun _ s' hwritten e he => ?_
  obtain ⟨hsame, -⟩ | ⟨hadded, -⟩ := hwritten
  · rw [hsame] at he
    exact .inl he
  · rw [hadded, Db.put_self] at he
    obtain he | he := List.mem_append.mp he
    · exact .inl he
    · rw [List.mem_singleton.mp he]
      exact .inr (publishable_of_clean (containsProhibited_sanitize payload))

/-- Nothing forbidden survives redaction, nothing allowed is lost, and what the outbox writer stores is published. -/
structure ExactRedaction : Prop where
  clean : ∀ v, containsProhibited (sanitize v) = false
  keepsAllowed : ∀ v, KeepsAllowed v (sanitize v)
  unchanged_iff : ∀ v, sanitize v = v ↔ containsProhibited v = false
  idempotent : ∀ v, sanitize (sanitize v) = sanitize v
  publishable : ∀ {ε : Type} [FromSql ε] (eventType deliveryKey : String) (payload : Value) (s : DbStore),
    (writeOutbox eventType deliveryKey payload : Tx ε Unit).Ensures s fun _ s' =>
      ∀ e ∈ s'.db outboxEvents, e ∈ s.db outboxEvents ∨ Publishable e.val

theorem redaction_exact : ExactRedaction where
  clean := containsProhibited_sanitize
  keepsAllowed := sanitize_keepsAllowed
  unchanged_iff := sanitize_eq_iff
  idempotent := sanitize_sanitize
  publishable := writeOutbox_publishable

end ForgeCustomer.Redaction
