import ForgeCustomer.CommerceRepository
import ForgeCustomer.SqlDiscipline

/-!
# Publishing the commercial policy

`repositories::commercial_policy`: immutable versions of the limits of the AuthorForge plans, each effective
from a date of its own.
-/
namespace ForgeCustomer.CommercialPolicy
open SqlTables SqlPrograms SqlStatements SqlSessions SqlDiscipline Discipline JsonValue StripeEvents
  DatabaseTables AuditWriters CommerceRepository TableName

def authorforgeProductKey : String := "authorforge"

inductive PolicyError where
  | productNotFound
  | noActivePolicy
  | versionConflict
  | effectiveAtInPast
  | invalid (reason : String)
  | db (e : SqlError)
deriving DecidableEq

instance : FromSql PolicyError := ⟨.db⟩

def limitFields (limits : PolicyLimits) : List (String × ℤ) :=
  [("cloud_tokens_per_month", limits.cloudTokensPerMonth),
    ("deep_analysis_runs_per_month", limits.deepAnalysisRunsPerMonth),
    ("premium_model_requests_per_month", limits.premiumModelRequestsPerMonth),
    ("device_limit", limits.deviceLimit)]

def planFields (plan : String) (limits : PolicyLimits) : List (String × ℤ) :=
  (limitFields limits).map fun entry => (plan ++ "." ++ entry.1, entry.2)

/-- The first negative limit is reported. -/
def validate (policy : PolicyDocument) : Except PolicyError Unit :=
  match (planFields "included" policy.included ++ planFields "pro" policy.pro).find? fun entry => entry.2 < 0 with
  | some entry => .error (.invalid (entry.1 ++ " must be non-negative"))
  | none => .ok ()

def limitsJson (limits : PolicyLimits) : Value :=
  .obj ((limitFields limits).map fun entry => (entry.1, .int entry.2))

def documentJson (policy : PolicyDocument) : Value :=
  .obj [("included", limitsJson policy.included), ("pro", limitsJson policy.pro)]

/-- A stored version as the operator sees it. -/
structure PublishedPolicy where
  productKey : String
  planVersion : String
  effectiveAt : Time
  policy : PolicyDocument
  reason : String
  publishedBy : String
  correlationId : Option String
  publishedAt : Time
deriving DecidableEq

def published (row : CommercialPolicyVersion) : PublishedPolicy :=
  { productKey := authorforgeProductKey
    planVersion := toString row.version
    effectiveAt := row.effectiveAt
    policy := row.policy
    reason := row.reason
    publishedBy := row.createdBy
    correlationId := row.correlationId
    publishedAt := row.createdAt }

structure PublishInput where
  operatorId : String
  basePlanVersion : String
  effectiveAt : Time
  policy : PolicyDocument
  reason : String
  idempotencyKey : String
  correlationId : Option String

/-- `str::trim`. -/
def trim (s : String) : String :=
  String.ofList (((s.toList.dropWhile isWhitespace).reverse.dropWhile isWhitespace).reverse)

lemma trim_eq (s : String) : trim s = String.ofList ((s.toList.dropWhile isWhitespace).rdropWhile isWhitespace) := rfl

/-- What is left begins with a character that stays. -/
lemma dropWhile_rdropWhile {α : Type} (p : α → Bool) (l : List α) :
    ((l.dropWhile p).rdropWhile p).dropWhile p = (l.dropWhile p).rdropWhile p := by
  obtain ⟨rest, hrest⟩ := List.rdropWhile_prefix p (l := l.dropWhile p)
  cases hkept : (l.dropWhile p).rdropWhile p with
  | nil => rfl
  | cons a kept =>
    rw [hkept, List.cons_append] at hrest
    have hstays := List.head_dropWhile_not p (l := l) (by simp [← hrest])
    simp only [← hrest, List.head_cons] at hstays
    rw [List.dropWhile_cons_of_neg (by simp [hstays])]

@[simp] lemma trim_trim (s : String) : trim (trim s) = trim s := by
  simp only [trim_eq, String.toList_ofList, dropWhile_rdropWhile, List.rdropWhile_idempotent]

def policyVersions (productId : ℕ) (d : Database) : List (Entry CommercialPolicyVersion) :=
  (d .commercialPolicyVersions).filter fun e => e.val.productId == productId

/-- `order by effective_at desc, version desc`. -/
def activeBefore (a b : Entry CommercialPolicyVersion) : Bool :=
  decide (b.val.effectiveAt < a.val.effectiveAt) ||
    (a.val.effectiveAt == b.val.effectiveAt && decide (b.val.version < a.val.version))

/-- The version in force at `now` among `rows`. -/
def activeAmong (now : Time) (rows : List (Entry CommercialPolicyVersion)) : Option (Entry CommercialPolicyVersion) :=
  firstBy activeBefore (rows.filter fun e => e.val.effectiveAt ≤ now)

/-- `coalesce(max(version), 0) + 1`. -/
def nextVersion (rows : List (Entry CommercialPolicyVersion)) : ℤ :=
  match rows.map (·.val.version) with
  | [] => 1
  | v :: vs => vs.foldl max v + 1

def authorforge (d : Database) : Option (Entry Product) :=
  (d .products).find? fun e => e.val.key == authorforgeProductKey && e.val.status == .active

def isKeyed (input : PublishInput) (e : Entry CommercialPolicyVersion) : Bool :=
  e.val.idempotencyKey == input.idempotencyKey

def newVersion (clock : Clock) (input : PublishInput) (productId : ℕ) (version : ℤ) : CommercialPolicyVersion :=
  { productId := productId
    version := version
    effectiveAt := input.effectiveAt
    policy := input.policy
    reason := input.reason
    createdBy := input.operatorId
    idempotencyKey := input.idempotencyKey
    correlationId := input.correlationId
    createdAt := clock.now }

def fiveMinutes : Time := 300 * 1000000

def auditPublished (input : PublishInput) (active inserted : CommercialPolicyVersion) : Tx PolicyError Unit :=
  writeOperatorAudit
    { eventType := "commercial_policy_version_published"
      operatorId := input.operatorId
      customerId := none
      targetType := "commercial_policy"
      targetId := authorforgeProductKey ++ ":" ++ toString inserted.version
      reason := input.reason
      beforeState := some (.obj [("plan_version", .int active.version), ("policy", documentJson active.policy)])
      afterState := some (.obj [("plan_version", .int inserted.version),
        ("effective_at", .time inserted.effectiveAt), ("policy", documentJson inserted.policy)])
      correlationId := input.correlationId }

def announcePublished (inserted : CommercialPolicyVersion) : Tx PolicyError Unit :=
  writeOutbox "commercial_policy_version_published"
    ("commercial-policy:" ++ authorforgeProductKey ++ ":" ++ toString inserted.version)
    (.obj [("product_key", .str authorforgeProductKey), ("plan_version", .int inserted.version),
      ("effective_at", .time inserted.effectiveAt)])

/-- The locked product takes a new version on top of the active one. -/
def publishOn (clock : Clock) (input : PublishInput) (product : Entry Product) : Tx PolicyError PublishedPolicy := do
  let existing ← select fun d => (policyVersions product.id d).find? (isKeyed input)
  match existing with
  | some row => pure (published row.val)
  | none =>
    let active ← select fun d => activeAmong clock.now (policyVersions product.id d)
    match active with
    | none => .fail .noActivePolicy
    | some active =>
      if trim input.basePlanVersion ≠ toString active.val.version then .fail .versionConflict
      else do
        let next ← select fun d => nextVersion (policyVersions product.id d)
        let inserted ← insertRow commercialPolicyVersions (newVersion clock input product.id next)
        auditPublished input active.val inserted.val
        announcePublished inserted.val
        pure (published inserted.val)

def publish (clock : Clock) (input : PublishInput) : Tx PolicyError PublishedPolicy :=
  match validate input.policy with
  | .error e => .fail e
  | .ok _ =>
    if input.effectiveAt < clock.utcNow - fiveMinutes then .fail .effectiveAtInPast
    else do
      let product ← selectForUpdate products authorforge
      match product with
      | none => .fail .productNotFound
      | some product => publishOn clock input product

section Versions
variable {rows : List (Entry CommercialPolicyVersion)} {e : Entry CommercialPolicyVersion} {now : Time}

lemma le_foldl_max (vs : List ℤ) (v : ℤ) : v ≤ vs.foldl max v ∧ ∀ w ∈ vs, w ≤ vs.foldl max v := by
  induction vs generalizing v with
  | nil => simp
  | cons u vs ih =>
    obtain ⟨hmax, hrest⟩ := ih (max v u)
    have hv : v ≤ max v u := le_max_left v u
    have hu : u ≤ max v u := le_max_right v u
    refine ⟨hv.trans hmax, fun w hw => ?_⟩
    rcases List.mem_cons.mp hw with rfl | hw
    · exact hu.trans hmax
    · exact hrest w hw

lemma lt_nextVersion (he : e ∈ rows) : e.val.version < nextVersion rows := by
  have hmem : e.val.version ∈ rows.map (·.val.version) := List.mem_map_of_mem he
  unfold nextVersion
  cases hvs : rows.map (·.val.version) with
  | nil => simp [hvs] at hmem
  | cons v vs =>
    rw [hvs] at hmem
    obtain ⟨hv, hrest⟩ := le_foldl_max vs v
    have hle : e.val.version ≤ vs.foldl max v := by
      rcases List.mem_cons.mp hmem with heq | hmem
      · rwa [heq]
      · exact hrest _ hmem
    dsimp only
    omega

lemma activeBefore_iff {a b : Entry CommercialPolicyVersion} : activeBefore a b = true ↔
    b.val.effectiveAt < a.val.effectiveAt ∨ a.val.effectiveAt = b.val.effectiveAt ∧ b.val.version < a.val.version := by
  simp [activeBefore]

lemma activeBefore_false {a b : Entry CommercialPolicyVersion} : activeBefore a b = false ↔
    a.val.effectiveAt ≤ b.val.effectiveAt ∧
      (a.val.effectiveAt = b.val.effectiveAt → a.val.version ≤ b.val.version) := by
  rw [← Bool.not_eq_true, activeBefore_iff]
  push Not
  rfl

/-- What is in force is dated as late as anything in force, and is the newest of that date. -/
lemma activeAmong_spec {active : Entry CommercialPolicyVersion} (h : activeAmong now rows = some active) :
    active ∈ rows ∧ ∀ e ∈ rows, e.val.effectiveAt ≤ now → activeBefore e active = false := by
  refine ⟨(List.mem_filter.mp (mem_of_firstBy h)).1, fun e he hnow => ?_⟩
  refine not_before_firstBy (fun a b hab => ?_) (fun a b c hcb hba => ?_) h e
    (List.mem_filter.mpr ⟨he, by simpa using hnow⟩)
  · rw [activeBefore_iff] at hab
    rw [activeBefore_false]
    constructor
    · rcases hab with hlt | ⟨heq, -⟩
      · exact hlt.le
      · exact heq.ge
    · rintro heq
      rcases hab with hlt | ⟨-, hlt⟩
      · exact absurd heq hlt.ne
      · exact hlt.le
  · rw [activeBefore_false] at hcb hba ⊢
    refine ⟨hcb.1.trans hba.1, fun heq => ?_⟩
    have hcb' : c.val.effectiveAt = b.val.effectiveAt := le_antisymm hcb.1 (hba.1.trans heq.ge)
    exact (hcb.2 hcb').trans (hba.2 (hcb'.symm.trans heq))

/-- No version above `active` is scheduled for after `now` or dated before `active`. -/
def DatedInOrder (now : Time) (active : CommercialPolicyVersion) (rows : List (Entry CommercialPolicyVersion)) : Prop :=
  ∀ e ∈ rows, active.version < e.val.version → e.val.effectiveAt ≤ now ∧ active.effectiveAt ≤ e.val.effectiveAt

lemma activeAmong_newest {active : Entry CommercialPolicyVersion} (h : activeAmong now rows = some active)
    (hdated : DatedInOrder now active.val rows) : ∀ e ∈ rows, e.val.version ≤ active.val.version := by
  intro e he
  by_contra hlt
  have habove : active.val.version < e.val.version := not_le.mp hlt
  obtain ⟨hnow, hdate⟩ := hdated e he habove
  obtain ⟨hle, heq⟩ := activeBefore_false.mp ((activeAmong_spec h).2 e he hnow)
  have hsame : e.val.effectiveAt = active.val.effectiveAt := le_antisymm hle hdate
  exact hlt (heq hsame)

end Versions

/-- The AuthorForge product and all policy versions; whoever locks the product may add a version. -/
def policyLock : Discipline Row UniqueKey where
  global _ := True
  evolves d d' := d' .products = d .products
  evolves_refl _ := rfl
  evolves_trans _ _ _ h h' := h'.trans h
  Key := Unit
  Part _ := Option ℕ × List (Entry CommercialPolicyVersion)
  part _ d := ((authorforge d).map (·.id), d .commercialPolicyVersions)
  ok _ _ := True
  guards _ x L := ∃ i, x.1 = some i ∧ Lock.row products i ∈ L
  guards_mono _ _ L L' h hL := by
    obtain ⟨i, hi, hlock⟩ := h
    exact ⟨i, hi, hL _ hlock⟩
  exclusive _ x L L' _ h h' := by
    obtain ⟨i, hi, hlock⟩ := h
    obtain ⟨j, hj, hlock'⟩ := h'
    obtain rfl : i = j := Option.some.inj (hi.symm.trans hj)
    exact ⟨_, hlock, hlock'⟩

/-- The versions of the AuthorForge policy. -/
def policyRows (d : Database) : List (Entry CommercialPolicyVersion) :=
  ((authorforge d).map fun product => policyVersions product.id d).getD []

/-- What a publish does to the committed rows: nothing when it fails or when its key is known, otherwise it adds
one version above the active one that it was based on. -/
def Publishing (clock : Clock) (input : PublishInput) (answer : Except PolicyError PublishedPolicy) (d d' : Database) :
    Prop :=
  (d' = d ∧ ∀ a, answer = .ok a → ∃ e ∈ policyRows d, isKeyed input e = true) ∨
    ∃ active row, activeAmong clock.now (policyRows d) = some active ∧
      trim input.basePlanVersion = toString active.val.version ∧ (policyRows d).find? (isKeyed input) = none ∧
      policyRows d' = policyRows d ++ [row] ∧ row.val.version = nextVersion (policyRows d)

variable {clock : Clock} {input : PublishInput} {L L' : List (Lock TableName UniqueKey)} {d d' : Database}
  {product : Entry Product}

lemma policyRows_eq (h : authorforge d = some product) : policyRows d = policyVersions product.id d := by
  rw [policyRows, h]
  rfl

/-- The product is locked, and `rows` are its versions. -/
structure Locked (product : Entry Product) (rows : List (Entry CommercialPolicyVersion))
    (L : List (Lock TableName UniqueKey)) (d : Database) : Prop where
  found : authorforge d = some product
  lock : Lock.row products product.id ∈ L
  versions : policyVersions product.id d = rows

variable {rows : List (Entry CommercialPolicyVersion)}

lemma Locked.rely (h : Locked product rows L d) (hr : policyLock.Rely L d d') : Locked product rows L d' := by
  have hpart := hr.2.1 () ⟨product.id, by simp [policyLock, h.found], h.lock⟩
  have hversions : d' .commercialPolicyVersions = d .commercialPolicyVersions := congrArg Prod.snd hpart
  have hproducts : d' .products = d .products := hr.1
  refine ⟨?_, h.lock, ?_⟩
  · rw [authorforge, hproducts]
    exact h.found
  · rw [policyVersions, hversions]
    exact h.versions

lemma Locked.mono (h : Locked product rows L d) (hL : ∀ k ∈ L, k ∈ L') : Locked product rows L' d :=
  ⟨h.found, hL _ h.lock, h.versions⟩

lemma commits_refused (e : PolicyError) {v : Database → Database} :
    policyLock.Commits (Publishing clock input) (.error e) L v d :=
  fun _ _ _ _ => .inl ⟨rfl, fun _ h => by cases h⟩

lemma Locked.commits_known (h : Locked product rows L d) {row : Entry CommercialPolicyVersion} (hrow : row ∈ rows)
    (hkey : isKeyed input row = true) (a : PublishedPolicy) :
    policyLock.Commits (Publishing clock input) (.ok a) L id d := by
  intro d' _ hr _
  have h' := h.rely hr
  refine ⟨⟨trivial, rfl, fun _ => trivial, fun _ => .inl rfl⟩, .inl ⟨rfl, fun _ _ => ⟨row, ?_, hkey⟩⟩⟩
  rwa [policyRows_eq h'.found, h'.versions]

lemma Locked.commits_published (h : Locked product rows L d) {active : Entry CommercialPolicyVersion}
    (hactive : activeAmong clock.now rows = some active)
    (hbase : trim input.basePlanVersion = toString active.val.version) (hnew : rows.find? (isKeyed input) = none)
    {v : Database → Database} {n : ℕ}
    (hversions : ∀ x, v x commercialPolicyVersions = x commercialPolicyVersions ++
      [⟨n, newVersion clock input product.id (nextVersion rows)⟩])
    (hproducts : ∀ x, v x products = x products) (a : PublishedPolicy) :
    policyLock.Commits (Publishing clock input) (.ok a) L v d := by
  intro d' _ hr _
  have h' := h.rely hr
  have hbefore : policyRows d' = rows := (policyRows_eq h'.found).trans h'.versions
  have hafter : policyRows (v d') = rows ++ [⟨n, newVersion clock input product.id (nextVersion rows)⟩] := by
    have hfound : authorforge (v d') = some product := by
      rw [authorforge, hproducts]
      exact h'.found
    rw [policyRows_eq hfound, policyVersions, hversions, List.filter_append, ← h'.versions]
    simp [policyVersions, newVersion]
  refine ⟨⟨trivial, hproducts d', fun _ => trivial, fun _ => .inr ⟨product.id, ?_, h'.lock⟩⟩,
    .inr ⟨active, ⟨n, newVersion clock input product.id (nextVersion rows)⟩, ?_, hbase, ?_, ?_, ?_⟩⟩
  · simp [policyLock, h'.found]
  · rw [hbefore]
    exact hactive
  · rw [hbefore]
    exact hnew
  · rw [hbefore, hafter]
  · rw [hbefore]
    rfl

/-- Auditing and announcing the new version leaves products and versions alone. -/
lemma receipts_touch (input : PublishInput) (active inserted : CommercialPolicyVersion) :
    Prog.Touches [commercialAuditEvents, outboxEvents] (do
      auditPublished input active inserted
      announcePublished inserted
      pure (published inserted) : Tx PolicyError PublishedPolicy) :=
  ((writeOperatorAudit_checked (by decide) _).bind fun _ =>
    (writeOutbox_checked (by decide) _ _ _).bind fun _ => .pure _).touches

lemma safe_publishOn (h : Locked product rows L d) : policyLock.Safe (fun _ _ _ => True)
    (policyLock.Commits (Publishing clock input)) (publishOn clock input product) L id d := by
  refine safe_bind.mpr (safe_select fun d₁ _ h₁ _ _ _ => ?_)
  have hlocked₁ := h.rely h₁
  have hrows₁ : policyVersions product.id (id d₁) = rows := hlocked₁.versions
  rw [hrows₁]
  cases hexisting : rows.find? (isKeyed input) with
  | some row =>
    exact hlocked₁.commits_known (List.mem_of_find?_eq_some hexisting) (List.find?_some hexisting) _
  | none =>
    refine safe_bind.mpr (safe_select fun d₂ _ h₂ _ _ _ => ?_)
    have hlocked₂ := hlocked₁.rely h₂
    have hrows₂ : policyVersions product.id (id d₂) = rows := hlocked₂.versions
    rw [hrows₂]
    cases hactive : activeAmong clock.now rows with
    | none => exact commits_refused _
    | some active =>
      dsimp only
      split
      · exact commits_refused _
      rename_i hbase
      refine safe_bind.mpr (safe_select fun d₃ _ h₃ _ _ _ => ?_)
      have hlocked₃ := hlocked₂.rely h₃
      have hrows₃ : policyVersions product.id (id d₃) = rows := hlocked₃.versions
      rw [hrows₃]
      refine safe_bind.mpr (safe_statement fun d₄ _ h₄ env _ _ => ⟨fun c inserted hat _ => ?_,
        fun _ _ _ => commits_refused _⟩)
      have hlocked₄ := (hlocked₃.rely h₄).mono fun k hk => List.mem_append_left ([] ++ c.locks env.fresh) hk
      obtain ⟨-, rfl, rfl⟩ := tryInsert_ok hat
      refine safe_touches (receipts_touch _ _ _) fun answer L' v' d₅ hL h₅ hv => ?_
      have hlocked₅ := (hlocked₄.rely h₅).mono hL
      cases answer with
      | error e => exact commits_refused e
      | ok a =>
        refine hlocked₅.commits_published hactive (not_not.mp hbase) hexisting (n := env.fresh) (fun x => ?_) (fun x => ?_) a
        · rw [hv x _ (by decide)]
          simp [Change.apply]
        · rw [hv x _ (by decide)]
          simp [Change.apply]

theorem safe_publish (clock : Clock) (input : PublishInput) (d : Database) : policyLock.Safe (fun _ _ _ => True)
    (policyLock.Commits (Publishing clock input)) (publish clock input) [] id d := by
  unfold publish
  split
  · exact commits_refused _
  split
  · exact commits_refused _
  refine safe_bind.mpr (safe_selectForUpdate fun d₁ _ _ _ _ _ _ => ?_)
  cases hfound : authorforge d₁ with
  | none =>
    have hnone : authorforge (id d₁) = none := hfound
    rw [hnone]
    exact commits_refused _
  | some product =>
    have hlocked : Locked product (policyVersions product.id d₁) [Lock.row products product.id] d₁ :=
      ⟨hfound, by simp, rfl⟩
    simpa [hfound] using safe_publishOn hlocked

abbrev PolicySys := Sys Row UniqueKey PolicyError PublishedPolicy
abbrev PolicyCommit := Commit Row PolicyError PublishedPolicy

def publishes (calls : List (Clock × PublishInput)) : List (Prog Row UniqueKey PolicyError PublishedPolicy) :=
  calls.map fun call => publish call.1 call.2

/-- When a publish with a new key commits, no version above the one in force at its `now()` is scheduled for
later or dated before that one. -/
def InForce (calls : List (Clock × PublishInput)) (y : PolicySys) (m : Move) : Prop :=
  ∀ i a w h call, m = .advance i → y.Active i (.done a) w h → calls[i]? = some call →
    (policyRows y.store.db).find? (isKeyed call.2) = none →
    ∀ active, activeAmong call.1.now (policyRows y.store.db) = some active →
      DatedInOrder call.1.now active.val (policyRows y.store.db)

/-- The base version that the call of a commit names. -/
def base (calls : List (Clock × PublishInput)) (c : PolicyCommit) : Option String :=
  calls[c.session]?.map fun call => trim call.2.basePlanVersion

/-- The commit adds a version. -/
def Publishes (c : PolicyCommit) : Prop := policyRows c.after ≠ policyRows c.before

def Post (calls : List (Clock × PublishInput)) (i : ℕ) (answer : Except PolicyError PublishedPolicy)
    (d d' : Database) : Prop :=
  ∀ call, calls[i]? = some call → Publishing call.1 call.2 answer d d'

variable {calls : List (Clock × PublishInput)} {store : DbStore} {y y' : PolicySys} {m : Move}

abbrev PolicySound (calls : List (Clock × PublishInput)) (y : PolicySys) : Prop :=
  Sound policyLock (fun _ _ _ _ => True) (Post calls) y

lemma policySound_of_reach (hk : store.Keyed) (hy : Sys.Reachable (Sys.start store (publishes calls)) y) :
    PolicySound calls y := by
  refine reach_sound ⟨trivial, fun _ => trivial⟩ hk (fun i p hp d _ => ?_) hy
  rw [publishes, List.getElem?_map, Option.map_eq_some_iff] at hp
  obtain ⟨call, hcall, rfl⟩ := hp
  refine Safe.mono (fun r L v d h d' hd' hr hkeyed => ?_) (safe_publish call.1 call.2 d)
  have hcommit := h d' hd' hr hkeyed
  have hsame : ∀ call', calls[i]? = some call' → call = call' := fun call' h' => Option.some.inj (hcall.symm.trans h')
  cases r with
  | ok a =>
    refine ⟨hcommit.1, fun call' h' => ?_⟩
    rw [← hsame call' h']
    exact hcommit.2
  | error e =>
    intro call' h'
    rw [← hsame call' h']
    exact hcommit

/-- The versions published so far, each on top of the newest one. -/
structure OnePerBase (calls : List (Clock × PublishInput)) (y : PolicySys) : Prop where
  newest : ∀ c ∈ y.log, Publishes c → ∃ newest ∈ policyRows c.before,
    base calls c = some (toString newest.val.version) ∧
    (∀ e ∈ policyRows c.before, e.val.version ≤ newest.val.version) ∧
    ∃ e ∈ policyRows y.store.db, newest.val.version < e.val.version
  once : y.log.Pairwise fun c c' => Publishes c → Publishes c' → base calls c ≠ base calls c'

/-- A commit that publishes does so on top of the newest version. -/
lemma Publishing.onNewest {call : Clock × PublishInput} {answer : Except PolicyError PublishedPolicy}
    (h : Publishing call.1 call.2 answer d d') (hchanged : policyRows d' ≠ policyRows d)
    (hdated : (policyRows d).find? (isKeyed call.2) = none → ∀ active,
      activeAmong call.1.now (policyRows d) = some active → DatedInOrder call.1.now active.val (policyRows d)) :
    ∃ newest ∈ policyRows d, trim call.2.basePlanVersion = toString newest.val.version ∧
      (∀ e ∈ policyRows d, e.val.version ≤ newest.val.version) ∧
      ∃ row, policyRows d' = policyRows d ++ [row] ∧ newest.val.version < row.val.version := by
  rcases h with ⟨rfl, -⟩ | ⟨active, row, hactive, hbase, hnew, hrows, hversion⟩
  · exact absurd rfl hchanged
  have hmem := (activeAmong_spec hactive).1
  refine ⟨active, hmem, hbase, activeAmong_newest hactive (hdated hnew active hactive), row, hrows, ?_⟩
  rw [hversion]
  exact lt_nextVersion hmem

/-- Versions are only ever added. -/
lemma Publishing.grows {call : Clock × PublishInput} {answer : Except PolicyError PublishedPolicy}
    (h : Publishing call.1 call.2 answer d d') {e : Entry CommercialPolicyVersion} (he : e ∈ policyRows d) :
    e ∈ policyRows d' := by
  rcases h with ⟨rfl, -⟩ | ⟨active, row, -, -, -, hrows, -⟩
  · exact he
  · rw [hrows]
    exact List.mem_append_left _ he

lemma OnePerBase.append (h : OnePerBase calls y) {c : PolicyCommit} {call : Clock × PublishInput}
    (hlog : y'.log = y.log ++ [c]) (hbefore : c.before = y.store.db) (hafter : c.after = y'.store.db)
    (hcall : calls[c.session]? = some call) (hc : Publishing call.1 call.2 c.answer c.before c.after)
    (hdated : (policyRows c.before).find? (isKeyed call.2) = none → ∀ active,
      activeAmong call.1.now (policyRows c.before) = some active →
        DatedInOrder call.1.now active.val (policyRows c.before)) : OnePerBase calls y' := by
  have hbase : base calls c = some (trim call.2.basePlanVersion) := by rw [base, hcall, Option.map_some]
  refine ⟨fun c' hc' hpub => ?_, ?_⟩
  · rw [hlog] at hc'
    rcases List.mem_append.mp hc' with hc' | hc'
    · obtain ⟨newest, hmem, hb, hall, e, he, hlt⟩ := h.newest c' hc' hpub
      refine ⟨newest, hmem, hb, hall, e, ?_, hlt⟩
      rw [← hafter]
      rw [← hbefore] at he
      exact hc.grows he
    · obtain rfl := List.mem_singleton.mp hc'
      obtain ⟨newest, hmem, hb, hall, row, hrows, hlt⟩ := hc.onNewest hpub hdated
      refine ⟨newest, hmem, by rw [hbase, hb], hall, row, ?_, hlt⟩
      rw [← hafter, hrows]
      simp
  · rw [hlog, List.pairwise_append]
    refine ⟨h.once, List.pairwise_singleton _ _, fun c₀ hc₀ c' hc' hpub₀ hpub heq => ?_⟩
    obtain rfl := List.mem_singleton.mp hc'
    obtain ⟨newest₀, -, hb₀, -, e, he, hlt⟩ := h.newest c₀ hc₀ hpub₀
    obtain ⟨newest, -, hb, hall, -⟩ := hc.onNewest hpub hdated
    rw [hb₀, hbase, hb] at heq
    have hsame : newest₀.val.version = newest.val.version := Int.repr_injective (Option.some.inj heq)
    rw [← hbefore] at he
    have hle := hall e he
    omega

lemma onePerBase_of_reach (hk : store.Keyed)
    (hy : Sys.ReachWhen (InForce calls) (Sys.start store (publishes calls)) y) :
    y.sessions.length = calls.length ∧ OnePerBase calls y := by
  induction hy with
  | start => exact ⟨by simp [Sys.start, publishes], fun c hc => absurd hc (by simp [Sys.start]), .nil⟩
  | @step y y' m hr hD hm ih =>
    have hsound := policySound_of_reach hk (hr.step hD hm).reachable
    have hcalled : ∀ i p w h, y.Active i p w h → ∃ call, calls[i]? = some call := by
      intro i p w h hi
      have hlt : i < calls.length := ih.1 ▸ (List.getElem?_eq_some_iff.mp hi).1
      exact ⟨calls[i], List.getElem?_eq_getElem hlt⟩
    have hkept : y'.log = y.log → y'.store.db = y.store.db → OnePerBase calls y' := by
      intro hlog hdb
      refine ⟨?_, by rw [hlog]; exact ih.2.once⟩
      rw [hlog, hdb]
      exact ih.2.newest
    rcases Sys.step_cases hm with ⟨i, a, w, h, rfl, hi, rfl⟩ | ⟨i, e, w, h, rfl, hi, rfl⟩ |
      ⟨i, l, change, n, w, h, rfl, hi, -, rfl⟩ | ⟨i, p, w, h, rfl, hi, rfl⟩
    · obtain ⟨call, hcall⟩ := hcalled i _ w h hi
      refine ⟨by simpa using ih.1, ih.2.append rfl rfl rfl hcall ?_ fun hnew active hactive => ?_⟩
      · exact (hsound.log _ (List.mem_append_right _ (List.mem_singleton_self _))).2.2 call hcall
      · exact hD i a w h call rfl hi hcall hnew active hactive
    · obtain ⟨call, hcall⟩ := hcalled i _ w h hi
      refine ⟨by simpa using ih.1, ⟨fun c hc hpub => ?_, ?_⟩⟩
      · rcases List.mem_append.mp hc with hc | hc
        · exact ih.2.newest c hc hpub
        · obtain rfl := List.mem_singleton.mp hc
          exact absurd rfl hpub
      · refine List.pairwise_append.mpr ⟨ih.2.once, List.pairwise_singleton _ _, fun c₀ _ c hc _ hpub => ?_⟩
        obtain rfl := List.mem_singleton.mp hc
        exact absurd rfl hpub
    · exact ⟨by simpa using ih.1, hkept rfl rfl⟩
    · exact ⟨by simpa using ih.1, hkept rfl rfl⟩

/-- As long as no version above the one in force is scheduled for later or dated before it, at most one publish
succeeds for each base version, always on top of the newest version; any other success is the replay of a key. -/
theorem one_publish_per_base (hk : store.Keyed)
    (hy : Sys.ReachWhen (InForce calls) (Sys.start store (publishes calls)) y) :
    (∀ c ∈ y.log, ∀ call a, calls[c.session]? = some call → c.answer = .ok a →
      Publishes c ∨ ∃ e ∈ policyRows c.before, isKeyed call.2 e = true) ∧
    (y.log.Pairwise fun c c' => Publishes c → Publishes c' → base calls c ≠ base calls c') ∧
    ∀ c ∈ y.log, Publishes c → ∃ newest ∈ policyRows c.before, base calls c = some (toString newest.val.version) ∧
      ∀ e ∈ policyRows c.before, e.val.version ≤ newest.val.version := by
  obtain ⟨-, hone⟩ := onePerBase_of_reach hk hy
  refine ⟨fun c hc call a hcall ha => ?_, hone.once, fun c hc hpub => ?_⟩
  · have hpost := ((policySound_of_reach hk hy.reachable).log c hc).2.2 call hcall
    rcases hpost with ⟨-, hknown⟩ | ⟨active, row, -, -, -, hrows, -⟩
    · exact .inr (hknown a ha)
    · refine .inl ?_
      rw [Publishes, hrows]
      simp
  · obtain ⟨newest, hmem, hbase, hall, -⟩ := hone.newest c hc hpub
    exact ⟨newest, hmem, hbase, hall⟩

def bootstrapLimits : PolicyDocument := ⟨⟨0, 0, 0, 1⟩, ⟨1000000, 500, 2000, 3⟩⟩

def bootstrapRows : ∀ t, List (Entry (Row t))
  | .products => [⟨0, ⟨"authorforge", .active⟩⟩]
  | .commercialPolicyVersions => [⟨1, ⟨0, 1, 0, bootstrapLimits, "bootstrap", "system", "migration", none, 0⟩⟩]
  | _ => []

def bootstrapStore : DbStore := ⟨bootstrapRows, 2⟩

lemma bootstrapStore_keyed : bootstrapStore.Keyed := by
  refine ⟨fun t => ?_, fun t => ?_⟩ <;> cases t <;> simp [bootstrapStore, bootstrapRows]

/-- A new version on top of `base`, effective at `effectiveAt`. -/
def publishCall (now : Time) (base key : String) (effectiveAt : Time) : Clock × PublishInput :=
  (⟨now, now⟩, ⟨"op", base, effectiveAt, bootstrapLimits, "new terms", key, none⟩)

def scheduledCalls : List (Clock × PublishInput) := [publishCall 10 "1" "key_1" 1000, publishCall 20 "1" "key_2" 2000]

def inTurnMoves : List Move := List.replicate 8 (.advance 0) ++ List.replicate 8 (.advance 1)

/-- For each commit the base it names and how many versions it adds. -/
def basesTaken (calls : List (Clock × PublishInput)) (y : PolicySys) : List (Option String × ℕ) :=
  y.log.map fun c => (base calls c, (policyRows c.after).length - (policyRows c.before).length)

lemma publishes_of_basesTaken {taken : List (Option String × ℕ)} (h : basesTaken calls y = taken)
    (hone : ∀ t ∈ taken, t.2 = 1) : ∀ c ∈ y.log, Publishes c := by
  intro c hc hsame
  have hmem : (base calls c, (policyRows c.after).length - (policyRows c.before).length) ∈ basesTaken calls y :=
    List.mem_map_of_mem hc
  rw [h] at hmem
  have := hone _ hmem
  rw [hsame] at this
  simp at this

theorem two_publishes_on_one_base : bootstrapStore.Keyed ∧
    ∃ y, Sys.Reachable (Sys.start bootstrapStore (publishes scheduledCalls)) y ∧
      ¬y.log.Pairwise fun c c' => Publishes c → Publishes c' → base scheduledCalls c ≠ base scheduledCalls c' := by
  refine ⟨bootstrapStore_keyed, ?_⟩
  have hrun : (Sys.run inTurnMoves (Sys.start bootstrapStore (publishes scheduledCalls))).map
      (basesTaken scheduledCalls) = some [(some "1", 1), (some "1", 1)] := by decide
  obtain ⟨y, hy, htaken⟩ := Option.map_eq_some_iff.mp hrun
  refine ⟨y, Sys.reachable_of_run .start hy, fun hpairs => ?_⟩
  have hpub := publishes_of_basesTaken htaken (by decide)
  have hlog : y.log.length = 2 := by simpa [basesTaken] using congrArg List.length htaken
  obtain ⟨c, c', hlog⟩ := List.length_eq_two.mp hlog
  rw [hlog, List.pairwise_pair] at hpairs
  refine hpairs (hpub c (by simp [hlog])) (hpub c' (by simp [hlog])) ?_
  have hbases : [base scheduledCalls c, base scheduledCalls c'] = [some "1", some "1"] := by
    have := congrArg (List.map Prod.fst) htaken
    simpa [basesTaken, hlog] using this
  obtain ⟨hc, hc'⟩ : base scheduledCalls c = some "1" ∧ base scheduledCalls c' = some "1" := by simpa using hbases
  rw [hc, hc']

instance (now : Time) (active : CommercialPolicyVersion) (rows : List (Entry CommercialPolicyVersion)) :
    Decidable (DatedInOrder now active rows) :=
  inferInstanceAs (Decidable (∀ e ∈ rows, active.version < e.val.version →
    e.val.effectiveAt ≤ now ∧ active.effectiveAt ≤ e.val.effectiveAt))

/-- The move meets the condition on the dates. -/
def inForceCheck (calls : List (Clock × PublishInput)) (y : PolicySys) : Move → Bool
  | .advance i => calls[i]?.all fun call =>
    (activeAmong call.1.now (policyRows y.store.db)).all fun active =>
      DatedInOrder call.1.now active.val (policyRows y.store.db)
  | .abort _ => true

lemma inForce_of_check (h : inForceCheck calls y m = true) : InForce calls y m := by
  rintro i a w held call rfl - hcall - active hactive
  rw [inForceCheck, hcall, Option.all_some, hactive, Option.all_some] at h
  exact of_decide_eq_true h

def immediateCalls : List (Clock × PublishInput) := [publishCall 10 "1" "key_1" 10, publishCall 20 "2" "key_2" 20]

theorem one_publish_per_base_sample : ∃ y, Sys.runChecked (inForceCheck immediateCalls) inTurnMoves
      (Sys.start bootstrapStore (publishes immediateCalls)) = some y ∧
    basesTaken immediateCalls y = [(some "1", 1), (some "2", 1)] ∧
    y.log.Pairwise fun c c' => Publishes c → Publishes c' → base immediateCalls c ≠ base immediateCalls c' := by
  have hrun : (Sys.runChecked (inForceCheck immediateCalls) inTurnMoves
      (Sys.start bootstrapStore (publishes immediateCalls))).map (basesTaken immediateCalls) =
        some [(some "1", 1), (some "2", 1)] := by decide
  obtain ⟨y, hy, htaken⟩ := Option.map_eq_some_iff.mp hrun
  have hreach : Sys.ReachWhen (InForce immediateCalls) (Sys.start bootstrapStore (publishes immediateCalls)) y :=
    Sys.reachWhen_of_runChecked (fun _ _ h => inForce_of_check h) .start hy
  exact ⟨y, hy, htaken, (one_publish_per_base bootstrapStore_keyed hreach).2.1⟩

end ForgeCustomer.CommercialPolicy
