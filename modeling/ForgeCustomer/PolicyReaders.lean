import ForgeCustomer.CommercialPolicy
import ForgeCustomer.EntitlementEvaluation
import ForgeCustomer.LicenseSync

/-!
# The readers of the commercial policy

The admin read, the evaluation of entitlements and the device limit of an activation each look for the version
in force on their own, latest effective date first.
-/
namespace ForgeCustomer.PolicyReaders
open SqlTables SqlPrograms SqlStatements DomainRules StripeEvents DatabaseTables AuditWriters LicensingRepository
  CommercialPolicy EntitlementEvaluation TableName

/-- `read_active`. -/
def readActive (now : Time) (d : Database) : Option PublishedPolicy :=
  (activePolicy now authorforgeProductKey d).map published

/-- `key text not null unique`. -/
def ProductKeysUnique (d : Database) : Prop :=
  ∀ p ∈ d products, ∀ q ∈ d products, p.val.key = q.val.key → p = q

/-- At `now` all readers see the version `a`. -/
structure InForceFor (now : Time) (a : PublishedPolicy) (s : DbStore) : Prop where
  admin : readActive now s.db = some a
  entitlements : ∀ tables monthKey, activeDocument ⟨s.db, tables, now, monthKey⟩ authorforgeProductKey =
    some a.policy
  devices : ∀ planKey tier, policyTier authorforgeProductKey planKey = some tier →
    ((commercialPolicyDeviceLimit now authorforgeProductKey planKey : Tx SqlError _).execute s).1 =
      .ok (some (clampLimit (tier a.policy).deviceLimit))

section Versions
variable {rows : List (Entry CommercialPolicyVersion)} {row : Entry CommercialPolicyVersion} {now : Time}

lemma exists_activeAmong (h : row ∈ rows) (hnow : row.val.effectiveAt ≤ now) :
    ∃ active, activeAmong now rows = some active := by
  cases hactive : activeAmong now rows with
  | some active => exact ⟨active, rfl⟩
  | none =>
    have hnone := firstBy_eq_none hactive
    have hmem : row ∈ rows.filter fun e => e.val.effectiveAt ≤ now :=
      List.mem_filter.mpr ⟨h, by simpa using hnow⟩
    rw [hnone] at hmem
    cases hmem

lemma activeAmong_effective {active : Entry CommercialPolicyVersion} (h : activeAmong now rows = some active) :
    active.val.effectiveAt ≤ now := by
  have hmem := (List.mem_filter.mp (mem_of_firstBy h)).2
  simpa using hmem

/-- A version with a new highest number is in force unless one that is effective has a later date. -/
theorem activeAmong_append (hversion : ∀ e ∈ rows, e.val.version < row.val.version)
    (hnow : row.val.effectiveAt ≤ now) : activeAmong now (rows ++ [row]) = some row ↔
      ∀ e ∈ rows, e.val.effectiveAt ≤ now → e.val.effectiveAt ≤ row.val.effectiveAt := by
  constructor
  · intro h e he hle
    have hbefore := (activeAmong_spec h).2 e (List.mem_append_left _ he) hle
    exact (activeBefore_false.mp hbefore).1
  · intro h
    have hmem : row ∈ rows ++ [row] := by simp
    obtain ⟨active, hactive⟩ := exists_activeAmong hmem hnow
    obtain ⟨hactiveMem, hspec⟩ := activeAmong_spec hactive
    rcases List.mem_append.mp hactiveMem with hold | hnew
    · obtain ⟨hle, heq⟩ := activeBefore_false.mp (hspec row hmem hnow)
      have hdate := h active hold (activeAmong_effective hactive)
      have hsame : row.val.effectiveAt = active.val.effectiveAt := le_antisymm hle hdate
      have hlt := hversion active hold
      have := heq hsame
      omega
    · rw [hactive, List.mem_singleton.mp hnew]

end Versions

variable {s s' : DbStore} {d : Database} {product : Entry Product} {now : Time}

lemma authorforge_spec (h : authorforge d = some product) :
    product ∈ d products ∧ product.val.key = authorforgeProductKey := by
  have hcond := List.find?_some h
  simp only [Bool.and_eq_true, beq_iff_eq] at hcond
  exact ⟨List.mem_of_find?_eq_some h, hcond.1⟩

/-- The version that entitlements and activations look for is the one that a publish looks for. -/
lemma activePolicy_eq (hs : Stored s) (hkeys : ProductKeysUnique s.db) (h : authorforge s.db = some product) :
    activePolicy now authorforgeProductKey s.db = (activeAmong now (policyRows s.db)).map (·.val) := by
  obtain ⟨hproduct, hkey⟩ := authorforge_spec h
  have howner : ∀ e : Entry CommercialPolicyVersion,
      ((s.db.lookup products e.val.productId).map (·.key) == some authorforgeProductKey) =
        (e.val.productId == product.id) := by
    intro e
    rw [Bool.eq_iff_iff, beq_iff_eq, beq_iff_eq]
    constructor
    · intro hlookup
      obtain ⟨p, hp, hpkey⟩ := Option.map_eq_some_iff.mp hlookup
      obtain ⟨x, hx, rfl⟩ := Option.map_eq_some_iff.mp hp
      have hid : x.id = e.val.productId := by simpa using List.find?_some hx
      rw [← hid, hkeys x (List.mem_of_find?_eq_some hx) product hproduct (hpkey.trans hkey.symm)]
    · intro hid
      rw [hid, hs.keyed.lookup_of_mem hproduct, Option.map_some, hkey]
  have hfilter : (s.db commercialPolicyVersions).filter (fun e =>
      ((s.db.lookup products e.val.productId).map (·.key) == some authorforgeProductKey) &&
        Decidable.decide (e.val.effectiveAt ≤ now)) =
      (policyRows s.db).filter fun e => Decidable.decide (e.val.effectiveAt ≤ now) := by
    rw [policyRows_eq h, policyVersions, List.filter_filter]
    refine List.filter_congr fun e _ => ?_
    rw [howner e, Bool.and_comm]
  rw [activePolicy, hfilter]
  rfl

/-- All readers see `a` if the admin read does. -/
lemma inForceFor_iff {a : PublishedPolicy} : InForceFor now a s ↔ readActive now s.db = some a := by
  refine ⟨fun h => h.admin, fun h => ?_⟩
  obtain ⟨version, hversion, rfl⟩ := Option.map_eq_some_iff.mp h
  refine ⟨h, fun tables monthKey => ?_, fun planKey tier htier => ?_⟩
  · have hdocument : activePolicy now "authorforge" s.db = some version := hversion
    simp [activeDocument, authorforgeProductKey, hdocument, published]
  · obtain ⟨limit, s', hrun, hlimit, -⟩ := (LicenseSync.runs_commercialPolicyDeviceLimit (ε := SqlError) (s := s)
      now authorforgeProductKey planKey).execute
    rw [hrun, hlimit, LicenseSync.policyDeviceLimit, htier, Option.bind_some, hversion, Option.map_some]
    rfl

/-- A successful publish with a new key adds its version above all others. -/
structure Added (clock : Clock) (input : PublishInput) (a : PublishedPolicy) (s s' : DbStore) : Prop where
  product : ∃ product, authorforge s.db = some product ∧ authorforge s'.db = some product
  products : s'.db products = s.db products
  row : ∃ row : Entry CommercialPolicyVersion, policyRows s'.db = policyRows s.db ++ [row] ∧ published row.val = a ∧
    row.val.version = nextVersion (policyRows s.db) ∧ row.val.effectiveAt = input.effectiveAt

lemma publishTables_checked (clock : Clock) (input : PublishInput) :
    Checked [commercialPolicyVersions, commercialAuditEvents, outboxEvents] (publish clock input) := by
  unfold publish
  split
  · exact .fail _
  split
  · exact .fail _
  refine (checked_selectForUpdate _ _).bind fun product => ?_
  cases product with
  | none => exact .fail _
  | some product =>
    refine (checked_select _).bind fun existing => ?_
    cases existing with
    | some row => exact .pure _
    | none =>
      refine (checked_select _).bind fun active => ?_
      cases active with
      | none => exact .fail _
      | some active =>
        dsimp only
        split
        · exact .fail _
        refine (checked_select _).bind fun next => (checked_insertRow (by decide) _).bind fun inserted => ?_
        exact (writeOperatorAudit_checked (by decide) _).bind fun _ =>
          (writeOutbox_checked (by decide) _ _ _).bind fun _ => .pure _

lemma ensures_publish {clock : Clock} {input : PublishInput}
    (hnew : (policyRows s.db).find? (isKeyed input) = none) :
    (publish clock input).Ensures s fun a s' => Added clock input a s s' := by
  unfold publish
  split
  · exact .fail
  split
  · exact .fail
  refine ensures_selectForUpdate.bind fun found s₀ h₀ => ?_
  obtain ⟨hfound, rfl⟩ := h₀
  cases found with
  | none => exact .fail
  | some product =>
    have hrows : policyRows s.db = policyVersions product.id s.db := policyRows_eq hfound.symm
    refine ensures_select.bind fun existing s₁ h₁ => ?_
    obtain ⟨hexisting, rfl⟩ := h₁
    rw [← hrows, hnew] at hexisting
    subst hexisting
    refine ensures_select.bind fun active s₂ h₂ => ?_
    obtain ⟨-, rfl⟩ := h₂
    cases active with
    | none => exact .fail
    | some active =>
      dsimp only
      split
      · exact .fail
      refine ensures_select.bind fun next s₃ h₃ => ?_
      obtain ⟨hnext, rfl⟩ := h₃
      refine ensures_insertRow.bind fun inserted s₄ h₄ => ?_
      have hval : inserted.val = newVersion clock input product.id next := by rw [h₄.1]
      have hdb : s₄.db commercialPolicyVersions = s.db commercialPolicyVersions ++ [inserted] := by
        rw [h₄.2, Db.put_self, h₄.1]
      have hkept : s₄.db products = s.db products := by rw [h₄.2, Db.put_of_ne _ (by decide)]
      intro a s₅ hrun
      have hframe : ∀ {t}, t ∉ [commercialAuditEvents, outboxEvents] → s₅.db t = s₄.db t := fun ht =>
        (receipts_touch input active.val inserted.val).run_eq hrun ht
      have hanswer : a = published inserted.val := by
        have hpure : (do
            auditPublished input active.val inserted.val
            announcePublished inserted.val
            pure (published inserted.val) : Tx PolicyError PublishedPolicy).Ensures s₄
              fun a _ => a = published inserted.val :=
          Prog.Ensures.bind (fun _ _ _ => trivial) fun _ _ (_ : True) =>
            Prog.Ensures.bind (fun _ _ _ => trivial) fun _ _ (_ : True) => .pure rfl
        exact hpure a s₅ hrun
      have hproducts : s₅.db products = s.db products := (hframe (by decide)).trans hkept
      have hproduct : authorforge s₅.db = some product := by
        rw [authorforge, hproducts]
        exact hfound.symm
      refine ⟨⟨product, hfound.symm, hproduct⟩, hproducts, inserted, ?_, hanswer.symm, ?_, by rw [hval]; rfl⟩
      · rw [policyRows_eq hproduct, policyVersions, hframe (by decide), hdb, hrows, List.filter_append, policyVersions]
        simp [hval, newVersion]
      · rw [hval, hrows]
        exact hnext

/-- A new version that a publish dates no later than `now` is in force at `now` for every reader exactly if no
version that is effective by then has a later date. -/
theorem publish_in_force_iff (hs : Stored s) (hkeys : ProductKeysUnique s.db) {clock : Clock} {input : PublishInput}
    {a : PublishedPolicy} (h : (publish clock input).execute s = (.ok a, s'))
    (hnew : (policyRows s.db).find? (isKeyed input) = none) (hnow : input.effectiveAt ≤ now) :
    InForceFor now a s' ↔
      ∀ e ∈ policyRows s.db, e.val.effectiveAt ≤ now → e.val.effectiveAt ≤ input.effectiveAt := by
  obtain ⟨⟨product, -, hproduct⟩, hproducts, row, hrows, hpublished, hversion, heffective⟩ :=
    ensures_publish hnew a s' (Prog.run_of_execute_ok h)
  have hs' : Stored s' := by
    have := hs.execute (publishTables_checked clock input)
    rwa [h] at this
  have hkeys' : ProductKeysUnique s'.db := by
    rw [ProductKeysUnique, hproducts]
    exact hkeys
  have habove : ∀ e ∈ policyRows s.db, e.val.version < row.val.version := by
    intro e he
    rw [hversion]
    exact lt_nextVersion he
  rw [inForceFor_iff, readActive, activePolicy_eq hs' hkeys' hproduct, hrows, ← heffective]
  rw [← heffective] at hnow
  rw [← activeAmong_append habove hnow]
  constructor
  · intro hactive
    obtain ⟨version, hsome, hsame⟩ := Option.map_eq_some_iff.mp hactive
    obtain ⟨active, hactive, rfl⟩ := Option.map_eq_some_iff.mp hsome
    rcases List.mem_append.mp (activeAmong_spec hactive).1 with hold | hlast
    · have hnumber : toString active.val.version = toString row.val.version := by
        rw [← hpublished] at hsame
        exact congrArg PublishedPolicy.planVersion hsame
      have hversions : active.val.version = row.val.version := Int.repr_injective hnumber
      have hlt := habove active hold
      omega
    · rw [hactive, List.mem_singleton.mp hlast]
  · intro hactive
    rw [hactive, Option.map_some, Option.map_some, hpublished]

lemma bootstrapStore_stored : Stored bootstrapStore := by
  refine ⟨bootstrapStore_keyed, fun t => ?_⟩
  cases t <;> simp [bootstrapStore, bootstrapRows, Db.refsOk, Schema.refs, foreignKeys, Db.resolves, Db.has]

/-- Version 2 is in force since 1000. -/
def publishedStore : DbStore :=
  ((publish (publishCall 1000 "1" "key_2" 1000).1 (publishCall 1000 "1" "key_2" 1000).2).execute bootstrapStore).2

/-- Version 3 is published at 2000 and dated 500. -/
def backdatedCall : Clock × PublishInput := publishCall 2000 "2" "key_3" 500

def backdatedAnswer : PublishedPolicy := ⟨"authorforge", "3", 500, bootstrapLimits, "new terms", "op", none, 2000⟩

def backdatedStore : DbStore := ((publish backdatedCall.1 backdatedCall.2).execute publishedStore).2

lemma publishedStore_stored : Stored publishedStore :=
  bootstrapStore_stored.execute (publishTables_checked _ _)

lemma publishedStore_keys : ProductKeysUnique publishedStore.db := by
  unfold ProductKeysUnique
  decide

lemma publish_backdated : (publish backdatedCall.1 backdatedCall.2).execute publishedStore =
    (.ok backdatedAnswer, backdatedStore) := by rfl

/-- Right after its commit the admin read still answers version 2. -/
theorem backdated_not_in_force : Stored publishedStore ∧ ProductKeysUnique publishedStore.db ∧
    (publish backdatedCall.1 backdatedCall.2).execute publishedStore = (.ok backdatedAnswer, backdatedStore) ∧
    backdatedCall.2.effectiveAt ≤ 2000 ∧ ¬InForceFor 2000 backdatedAnswer backdatedStore := by
  refine ⟨publishedStore_stored, publishedStore_keys, publish_backdated, by decide, fun h => ?_⟩
  have hread : (readActive 2000 backdatedStore.db).map (·.planVersion) = some "2" := by decide
  rw [h.admin] at hread
  revert hread
  decide

theorem publish_in_force_iff_backdated : InForceFor 2000 backdatedAnswer backdatedStore ↔
    ∀ e ∈ policyRows publishedStore.db, e.val.effectiveAt ≤ 2000 → e.val.effectiveAt ≤ 500 :=
  publish_in_force_iff publishedStore_stored publishedStore_keys publish_backdated (by decide) (by decide)

end ForgeCustomer.PolicyReaders
