import ForgeCustomer.LicenseInvariants
import ForgeCustomer.SqlDiscipline

/-!
# Device limits under concurrency

Activations of a license run under the license's row lock, deactivations do not. What an activation
relies on between its count and its insert is that the license gets no other activation; what its limit
rests on is the license's row, its plan and the policy at the moment at which it reads the plan.
-/
namespace ForgeCustomer.DeviceLimits
open SqlTables SqlPrograms SqlStatements SqlSessions SqlDiscipline Discipline DomainRules StripeEvents
  DatabaseTables AuditWriters LicensingRepository CommerceRepository LicenseSync LicenseRuns LicenseInvariants
  TableName

/-- The effective limit of a license: the policy's for the plan of its subscription, else that of its row. -/
def limitOf (now : Time) (licenseId : ℕ) (d : Database) : Option ℕ :=
  ((d licenses).find? fun e => e.id == licenseId).map fun license => effectiveLimit now license d

/-- The tables that a policy is read from. -/
def policyTables : List TableName := [products, commercialPolicyVersions]

/-- The tables that a limit is read from. -/
def limitTables : List TableName := [licenses, subscriptions, planVersions, plans] ++ policyTables

lemma licensePlan_congr {d d' : Database} (h : ∀ t ∈ limitTables, d' t = d t) (licenseId : ℕ) :
    licensePlan licenseId d' = licensePlan licenseId d := by
  simp only [licensePlan, Db.lookup, h licenses (by decide), h subscriptions (by decide), h planVersions (by decide),
    h plans (by decide), h products (by decide)]

lemma policyDeviceLimit_congr {d d' : Database} (h : ∀ t ∈ policyTables, d' t = d t) (now : Time)
    (productKey planKey : String) : policyDeviceLimit now productKey planKey d' = policyDeviceLimit now productKey planKey d := by
  simp only [policyDeviceLimit, activePolicy, Db.lookup, h products (by decide),
    h commercialPolicyVersions (by decide)]

/-- The limit is decided by the license's row, its plan and the policies. -/
lemma limitOf_eq {d d' : Database} {licenseId : ℕ}
    (hrow : (d' licenses).filter (fun e => e.id == licenseId) = (d licenses).filter fun e => e.id == licenseId)
    (hplan : licensePlan licenseId d' = licensePlan licenseId d) (hpolicies : ∀ t ∈ policyTables, d' t = d t)
    (now : Time) : limitOf now licenseId d' = limitOf now licenseId d := by
  rw [limitOf, limitOf, ← List.head?_filter, hrow, List.head?_filter]
  cases hfound : (d licenses).find? fun e => e.id == licenseId with
  | none => rfl
  | some license =>
    have hid : license.id = licenseId := by simpa using List.find?_some hfound
    simp only [Option.map_some, effectiveLimit, hid, hplan, policyDeviceLimit_congr hpolicies]

lemma limitOf_congr {d d' : Database} (h : ∀ t ∈ limitTables, d' t = d t) (now : Time) (licenseId : ℕ) :
    limitOf now licenseId d' = limitOf now licenseId d :=
  limitOf_eq (by rw [h licenses (by decide)]) (licensePlan_congr h licenseId)
    (fun t ht => h t (List.mem_append_right _ ht)) now

/-- A policy limit is a clamped `i32`, a row's is the column's. -/
lemma limitOf_lt {d : Database} {now : Time} {licenseId limit : ℕ} (h : limitOf now licenseId d = some limit)
    (hrows : ∀ e ∈ d licenses, e.val.deviceLimit < 2 ^ 31) : limit < 2 ^ 31 := by
  obtain ⟨license, hfound, rfl⟩ := Option.map_eq_some_iff.mp h
  unfold effectiveLimit
  cases hlimit : (licensePlan license.id d).bind fun plan => policyDeviceLimit now plan.productKey plan.planKey d with
  | none => exact hrows license (List.mem_of_find?_eq_some hfound)
  | some value =>
    obtain ⟨plan, -, hpolicy⟩ := Option.bind_eq_some_iff.mp hlimit
    obtain ⟨tier, -, hpolicy⟩ := Option.bind_eq_some_iff.mp hpolicy
    obtain ⟨version, -, rfl⟩ := Option.map_eq_some_iff.mp hpolicy
    simp only [Option.getD_some, clampLimit]
    omega

/-- Rows stay, whatever is active was active before or is new, and no policy changes. -/
structure Winds (d d' : Database) : Prop where
  stays : ∀ e ∈ d .licenseActivations, ∃ e' ∈ d' .licenseActivations, e'.id = e.id
  active : ∀ e' ∈ d' .licenseActivations, e'.val.status = .active →
    (∃ e ∈ d .licenseActivations, e.id = e'.id ∧ e.val.status = .active ∧ e.val.licenseId = e'.val.licenseId ∧
      e.val.installationId = e'.val.installationId) ∨ ∀ e ∈ d .licenseActivations, e.id ≠ e'.id
  policies : ∀ t ∈ policyTables, d' t = d t

lemma Winds.refl (d : Database) : Winds d d :=
  ⟨fun e he => ⟨e, he, rfl⟩, fun e he h => .inl ⟨e, he, rfl, h, rfl, rfl⟩, fun _ _ => rfl⟩

lemma Winds.trans (d d' d'' : Database) (h : Winds d d') (h' : Winds d' d'') : Winds d d'' := by
  refine ⟨fun e he => ?_, fun e'' he'' hactive => ?_, fun t ht => (h'.policies t ht).trans (h.policies t ht)⟩
  · obtain ⟨e', he', hid'⟩ := h.stays e he
    obtain ⟨e'', he'', hid''⟩ := h'.stays e' he'
    exact ⟨e'', he'', hid''.trans hid'⟩
  · rcases h'.active e'' he'' hactive with ⟨e', he', hid', hactive', hl', hi'⟩ | hnew
    · rcases h.active e' he' hactive' with ⟨e, he, hid, ha, hl, hi⟩ | hnew
      · exact .inl ⟨e, he, hid.trans hid', ha, hl.trans hl', hi.trans hi'⟩
      · exact .inr fun e he hid => hnew e he (hid.trans hid'.symm)
    · refine .inr fun e he hid => ?_
      obtain ⟨e', he', hid'⟩ := h.stays e he
      exact hnew e' he' (hid'.trans hid)

lemma Winds.of_eq {d d' : Database} (h : ∀ t ∈ licenseActivations :: policyTables, d' t = d t) : Winds d d' := by
  have hrows := h licenseActivations (by decide)
  refine ⟨?_, ?_, fun t ht => h t (List.mem_cons_of_mem _ ht)⟩ <;> rw [hrows]
  · exact (Winds.refl d).stays
  · exact (Winds.refl d).active

/-- Whoever adds an activation of a license, ended ones included, holds the lock of its row. -/
def slots : Discipline Row UniqueKey where
  global _ := True
  evolves := Winds
  evolves_refl := Winds.refl
  evolves_trans := Winds.trans
  Key := ℕ
  Part _ := List ℕ
  part := activationIds
  ok _ _ := True
  guards licenseId _ L := Lock.row licenses licenseId ∈ L
  guards_mono _ _ _ _ h hL := hL _ h
  exclusive _ _ _ _ _ h h' := ⟨_, h, h'⟩

lemma mem_activationIds {licenseId id : ℕ} {d : Database} : id ∈ activationIds licenseId d ↔
    ∃ e ∈ d .licenseActivations, e.val.licenseId = licenseId ∧ e.id = id := by
  simp [activationIds, and_assoc]

/-- An active row of the license is an active row of the earlier state. -/
lemma active_before {d d' : Database} {licenseId : ℕ} (h : Winds d d')
    (hkeys : activationIds licenseId d' = activationIds licenseId d) {e' : Entry LicenseActivation}
    (he' : e' ∈ d' licenseActivations) (hl : e'.val.licenseId = licenseId) (hactive : e'.val.status = .active) :
    ∃ e ∈ d licenseActivations, e.id = e'.id ∧ e.val.status = .active ∧ e.val.licenseId = licenseId ∧
      e.val.installationId = e'.val.installationId := by
  rcases h.active e' he' hactive with ⟨e, he, hid, ha, hlicense, hi⟩ | hnew
  · exact ⟨e, he, hid, ha, hlicense.trans hl, hi⟩
  · have hmem : e'.id ∈ activationIds licenseId d := hkeys ▸ mem_activationIds.mpr ⟨e', he', hl, rfl⟩
    obtain ⟨e, he, -, hid⟩ := mem_activationIds.mp hmem
    exact absurd hid (hnew e he)

/-- Without a new activation the license has at most as many active devices as before. -/
lemma activeDevices_le {d d' : Database} {licenseId : ℕ} (h : Winds d d')
    (hkeys : activationIds licenseId d' = activationIds licenseId d)
    (hnodup : ((d' licenseActivations).map (·.id)).Nodup) : activeDevices licenseId d' ≤ activeDevices licenseId d := by
  have hids : ∀ d : Database, activeDevices licenseId d = (((d licenseActivations).filter fun e =>
      e.val.licenseId == licenseId && e.val.status == .active).map (·.id)).length := by
    intro d
    rw [List.length_map]
    rfl
  rw [hids, hids]
  refine List.Subperm.length_le (List.subperm_of_subset ?_ fun i hi => ?_)
  · exact hnodup.sublist (List.filter_sublist.map _)
  · obtain ⟨e', he', rfl⟩ := List.mem_map.mp hi
    simp only [List.mem_filter, Bool.and_eq_true, beq_iff_eq] at he'
    obtain ⟨hmem, hl, hactive⟩ := he'
    obtain ⟨e, he, hid, ha, hlicense, -⟩ := active_before h hkeys hmem hl hactive
    refine List.mem_map.mpr ⟨e, ?_, hid⟩
    simp [he, ha, hlicense]

section Appended
variable {d d' : Database} {n licenseId : ℕ} {row : LicenseActivation}

/-- A new activation belongs to its own license only. -/
lemma activationIds_append (h : d' licenseActivations = d licenseActivations ++ [⟨n, row⟩])
    (hne : licenseId ≠ row.licenseId) : activationIds licenseId d' = activationIds licenseId d := by
  rw [activationIds, h, filter_append_other]
  · rfl
  · simpa using hne.symm

/-- It raises the count of that license by one at most. -/
lemma activeDevices_append_le (h : d' licenseActivations = d licenseActivations ++ [⟨n, row⟩]) (licenseId : ℕ) :
    activeDevices licenseId d' ≤ activeDevices licenseId d + if licenseId = row.licenseId then 1 else 0 := by
  rw [activeDevices, h, List.filter_append, List.length_append, activeDevices]
  refine Nat.add_le_add_left ?_ _
  split
  · exact List.length_filter_le _ _
  · rename_i hne
    have hdrop : ([⟨n, row⟩] : List (Entry LicenseActivation)).filter (fun e =>
        e.val.licenseId == licenseId && e.val.status == .active) = [] := by
      simp [Ne.symm hne]
    rw [hdrop]
    exact le_refl 0

lemma Winds.append (h : d' licenseActivations = d licenseActivations ++ [⟨n, row⟩])
    (hfresh : ∀ e ∈ d licenseActivations, e.id ≠ n) (hpolicies : ∀ t ∈ policyTables, d' t = d t) : Winds d d' := by
  refine ⟨fun e he => ⟨e, ?_, rfl⟩, fun e' he' hactive => ?_, hpolicies⟩
  · rw [h]
    exact List.mem_append_left _ he
  · rw [h] at he'
    rcases List.mem_append.mp he' with he' | he'
    · exact .inl ⟨e', he', rfl, hactive, rfl, rfl⟩
    · obtain rfl := List.mem_singleton.mp he'
      exact .inr hfresh

end Appended

/-- The pending writes add no activation and end at most some. -/
structure Releases (v : Database → Database) : Prop where
  winds : ∀ d, Winds d (v d)
  keys : ∀ d licenseId, activationIds licenseId (v d) = activationIds licenseId d

/-- The change does. -/
def Ends (c : Change Row) : Prop := ∀ n, Releases (c.apply n)

lemma releases_of_tables {v : Database → Database}
    (h : ∀ d, ∀ t ∈ licenseActivations :: policyTables, v d t = d t) : Releases v :=
  ⟨fun d => .of_eq (h d), fun d _ => by rw [activationIds, activationIds, h d _ (by decide)]⟩

lemma ends_of_on {S : List TableName} {c : Change Row} (h : c.On S)
    (hS : ∀ t ∈ licenseActivations :: policyTables, t ∉ S) : Ends c :=
  fun n => releases_of_tables fun d t ht => h.apply_eq n d (hS t ht)

lemma ends_endActivation (p : Entry LicenseActivation → Bool) (ids : List ℕ) (now : Time) :
    Ends (.update licenseActivations p ids (endActivation now)) := by
  intro n
  refine ⟨fun d => ⟨fun e he => ?_, fun e' he' hactive => ?_, fun t ht => ?_⟩, fun d licenseId => ?_⟩
  · rw [Change.apply, Db.put_self]
    refine ⟨_, mem_updateRows.mpr ⟨e, he, rfl⟩, ?_⟩
    split <;> rfl
  · rw [Change.apply, Db.put_self] at he'
    obtain ⟨e, he, rfl⟩ := mem_updateRows.mp he'
    split at hactive
    · cases hactive
    · rename_i hp
      rw [if_neg hp]
      exact .inl ⟨e, he, rfl, hactive, rfl, rfl⟩
  · have hne : t ≠ licenseActivations := by
      rintro rfl
      exact absurd ht (by decide)
    rw [Change.apply]
    exact Db.put_of_ne _ hne _
  · rw [activationIds, Change.apply, Db.put_self]
    exact filter_map_updateRows (fun _ => rfl) _

lemma Releases.comp {v : Database → Database} {c : Change Row} (hv : Releases v) (hc : Ends c) (n : ℕ) :
    Releases fun d => c.apply n (v d) :=
  ⟨fun d => Winds.trans d (v d) _ (hv.winds d) ((hc n).winds (v d)),
    fun d licenseId => ((hc n).keys (v d) licenseId).trans (hv.keys d licenseId)⟩

lemma each_ends_of_checked {ε α : Type} {S : List TableName} {p : Tx ε α} (hp : Checked S p)
    (hS : ∀ t ∈ licenseActivations :: policyTables, t ∉ S) : p.Each fun _ _ c => Ends c :=
  Prog.Each.mono (fun _ _ _ hc => ends_of_on hc.1 hS) hp

lemma each_ends_update {ε : Type} [FromSql ε] (p : Entry LicenseActivation → Bool) (now : Time) :
    (update licenseActivations p (endActivation now) : Tx ε _).Each fun _ _ c => Ends c := by
  refine statement_each fun env => ?_
  unfold tryUpdate
  dsimp only
  split
  · exact fun n => releases_of_tables fun _ _ _ => rfl
  · exact ends_endActivation _ _ now

lemma each_ends_deactivateInstallation (clock : Clock) (customerId installationId : ℕ)
    (correlationId : Option String) :
    (deactivateInstallation clock customerId installationId correlationId).Each fun _ _ c => Ends c := by
  refine Prog.Each.bind (each_ends_of_checked (checked_selectForUpdate (S := []) _ _) (by decide))
    fun installation => ?_
  cases installation with
  | none => trivial
  | some installation =>
    dsimp only
    split
    · trivial
    refine Prog.Each.bind (each_ends_of_checked (checked_update (S := [installations]) (by decide)
      (unkeyed (by decide)) _ _) (by decide)) fun _ => ?_
    refine Prog.Each.bind (each_ends_update _ _) fun released => ?_
    exact Prog.Each.bind (each_ends_of_checked (writeCustomerAudit_checked (S := [commercialAuditEvents])
      (by decide) _) (by decide)) fun _ => trivial

/-- The answer of an activation, nothing for every other transaction. -/
abbrev DeviceAnswer := Except Unit (Option ActivationOutcome)

/-- A commit leaves no license with more active devices than it had, but for the activated one, and that
one with no more than the limit it was checked against, which is a `u32`. An activation of what is active
already changes nothing. -/
def Bounded (Against : ℕ → ℕ → Database → Prop) (r : DeviceAnswer) (before after : Database) : Prop :=
  match r with
  | .ok (some o) =>
    Against o.licenseId o.deviceLimit before ∧
    (o.deviceLimit < 2 ^ 32 → ∀ licenseId, activeDevices licenseId after ≤ activeDevices licenseId before ∨
      licenseId = o.licenseId ∧ activeDevices licenseId after ≤ o.deviceLimit) ∧
    ((∃ e ∈ before .licenseActivations, isActivationOf o.licenseId o.installationId e = true) → after = before)
  | _ => ∀ licenseId, activeDevices licenseId after ≤ activeDevices licenseId before

/-- The license had the limit in rows that the transaction saw, and has it still, unless the plan of its
subscription has changed since. -/
def LimitSeen (Saw : Database → Prop) (now : Time) (licenseId limit : ℕ) (before : Database) : Prop :=
  ∃ d, Saw d ∧ limitOf now licenseId d = some limit ∧
    (licensePlan licenseId before = licensePlan licenseId d → limitOf now licenseId before = some limit)

variable {C : Env Row UniqueKey → Change Row → List (Lock TableName UniqueKey) → Prop} {L : List (Lock TableName UniqueKey)}
  {v : Database → Database} {d : Database} {Against : ℕ → ℕ → Database → Prop} {Saw : Database → Prop}

lemma commits_error (e : Unit) : slots.Commits (Bounded Against) (.error e) L v d := fun _ _ _ _ _ => le_refl _

/-- Pending writes that add no activation may be committed. -/
lemma Releases.allowed (hv : Releases v) (d : Database) : slots.Allowed L v d :=
  ⟨trivial, hv.winds d, fun _ => trivial, fun licenseId => .inl (hv.keys d licenseId)⟩

lemma Releases.activeDevices_le (hv : Releases v) {n : ℕ} (hk : Keyed n (v d)) (licenseId : ℕ) :
    activeDevices licenseId (v d) ≤ activeDevices licenseId d :=
  DeviceLimits.activeDevices_le (hv.winds d) (hv.keys d licenseId) (hk.nodup _)

lemma releases_id : Releases id := releases_of_tables fun _ _ _ => rfl

lemma safe_releasing {ε α : Type} {p : Tx ε α} (hp : p.Each fun _ _ c => Ends c) :
    slots.Safe C (slots.Commits (Bounded Against)) (translate (fun _ => ()) (fun _ => none) p) L id d := by
  refine safe_translate (safe_each (R := Ends) (T := Releases) hp (fun c n v hc hv => hv.comp hc n)
    releases_id fun r L' v' d' hv => ?_)
  cases r with
  | error e => exact commits_error ()
  | ok a =>
    intro d'' _ _ hkeyed
    obtain ⟨n, hk⟩ := hkeyed
    exact ⟨hv.allowed d'', hv.activeDevices_le hk⟩

/-- From `d` on, while others commit, the license keeps its row and gets no new activation. -/
structure Held (licenseId : ℕ) (d d' : Database) : Prop where
  winds : Winds d d'
  keys : activationIds licenseId d' = activationIds licenseId d
  row : (d' licenses).filter (fun e => e.id == licenseId) = (d licenses).filter fun e => e.id == licenseId

lemma Held.of_rely {licenseId : ℕ} {d d' : Database} (hL : Lock.row licenses licenseId ∈ L)
    (h : slots.Rely L d d') : Held licenseId d d' := ⟨h.1, h.2.1 licenseId hL, h.2.2 licenses licenseId hL⟩

lemma Held.trans {licenseId : ℕ} {d d' d'' : Database} (h : Held licenseId d d') (h' : Held licenseId d' d'') :
    Held licenseId d d'' :=
  ⟨Winds.trans _ _ _ h.winds h'.winds, h'.keys.trans h.keys, h'.row.trans h.row⟩

/-- A pair that was not active has not become active. -/
lemma Held.not_activated {licenseId installationId : ℕ} {d d' : Database} (h : Held licenseId d d')
    (hnone : (d licenseActivations).find? (isActivationOf licenseId installationId) = none) :
    ∀ e ∈ d' licenseActivations, ¬isActivationOf licenseId installationId e = true := by
  intro e' he' hactivation
  simp only [isActivationOf, Bool.and_eq_true, beq_iff_eq] at hactivation
  obtain ⟨⟨hl, hi⟩, hactive⟩ := hactivation
  obtain ⟨e, he, -, ha, hl', hi'⟩ := active_before h.winds h.keys he' hl hactive
  exact absurd (by simp [isActivationOf, ha, hl', hi'.trans hi]) (List.find?_eq_none.mp hnone e he)

lemma Held.limitSeen {licenseId limit : ℕ} {now : Time} {d d' : Database} (h : Held licenseId d d') (hsaw : Saw d)
    (hlimit : limitOf now licenseId d = some limit) : LimitSeen Saw now licenseId limit d' :=
  ⟨d, hsaw, hlimit, fun hplan => (limitOf_eq h.row hplan h.winds.policies now).trans hlimit⟩

/-- The plan is read first and then the policy; nothing else decides the limit. -/
lemma safe_policyLimit {ε : Type} {now : Time} {licenseId : ℕ}
    {Q : Except ε (Option ℕ) → List (Lock TableName UniqueKey) → (Database → Database) → Database → Prop}
    (hC : ∀ env c l, C env c l → Saw env.db)
    (h : ∀ d₁ d₂, slots.Rely L d d₁ → Saw d₁ → slots.Rely L d₁ d₂ →
      Q (.ok ((licensePlan licenseId d₁).bind fun plan => policyDeviceLimit now plan.productKey plan.planKey d₁))
        L id d₂) :
    slots.Safe C Q (commercialPolicyDeviceLimitForLicense now licenseId) L id d := by
  refine safe_bind.mpr (safe_select fun d₁ _ h₁ env henv hsaw => ?_)
  have hsaw₁ : Saw d₁ := by
    have := hC env _ _ hsaw
    rwa [henv] at this
  have hpolicy := fun d₂ => h d₁ d₂ h₁ hsaw₁
  dsimp only [id] at hpolicy ⊢
  cases hplan : licensePlan licenseId d₁ with
  | none =>
    have := hpolicy d₁ (Rely.refl _ _ _)
    rwa [hplan] at this
  | some plan =>
    dsimp only
    rw [hplan] at hpolicy
    simp only [Option.bind_some] at hpolicy
    unfold commercialPolicyDeviceLimit
    cases htier : policyTier plan.productKey plan.planKey with
    | none =>
      have := hpolicy d₁ (Rely.refl _ _ _)
      rwa [policyDeviceLimit, htier, Option.bind_none] at this
    | some tier =>
      refine safe_select fun d₂ _ h₂ _ _ _ => ?_
      have := hpolicy d₂ h₂
      rwa [← policyDeviceLimit_congr h₂.1.policies, policyDeviceLimit, htier, Option.bind_some] at this

/-- An activation that has passed its checks may be committed. -/
lemma commits_activated {o : ActivationOutcome} {n : ℕ} {row : LicenseActivation} {d₁ d₂ : Database}
    (hlock : Lock.row licenses o.licenseId ∈ L) (h₁ : Held o.licenseId d₁ d) (h₂ : Held o.licenseId d₂ d)
    (hv : ∀ x, v x licenseActivations = x licenseActivations ++ [⟨n, row⟩])
    (hlicense : row.licenseId = o.licenseId)
    (hpolicies : ∀ x, ∀ t ∈ policyTables, v x t = x t)
    (hagainst : ∀ d', Held o.licenseId d d' → Against o.licenseId o.deviceLimit d')
    (hslot : canActivateDevice (countDevices (activeDevices o.licenseId d₁)) o.deviceLimit = true)
    (hnone : (d₂ .licenseActivations).find? (isActivationOf o.licenseId o.installationId) = none) :
    slots.Commits (Bounded Against) (.ok (some o)) L v d := by
  intro d' _ hrely hkeyed
  obtain ⟨m, hk⟩ := hkeyed
  have hheld : Held o.licenseId d d' := Held.of_rely hlock hrely
  have hnodup := hk.nodup licenseActivations
  rw [hv d', List.map_append, List.nodup_append] at hnodup
  obtain ⟨hnodup, -, hfresh⟩ := hnodup
  have hwinds : Winds d' (v d') :=
    .append (hv d') (fun e he => hfresh e.id (List.mem_map_of_mem he) n (by simp)) (hpolicies d')
  refine ⟨⟨trivial, hwinds, fun _ => trivial, fun licenseId => ?_⟩, hagainst d' hheld, fun hu32 licenseId => ?_, ?_⟩
  · by_cases hid : licenseId = o.licenseId
    · exact .inr (hid ▸ hlock)
    · exact .inl (activationIds_append (hv d') (by rwa [hlicense]))
  · have hle := activeDevices_append_le (hv d') licenseId
    rw [hlicense] at hle
    by_cases hid : licenseId = o.licenseId
    · obtain rfl := hid
      refine .inr ⟨rfl, ?_⟩
      rw [if_pos rfl] at hle
      have hchecked := activeDevices_le (h₁.trans hheld).winds (h₁.trans hheld).keys hnodup
      have hlt : countDevices (activeDevices o.licenseId d₁) < o.deviceLimit := by
        simpa [canActivateDevice] using hslot
      unfold countDevices at hlt
      omega
    · rw [if_neg hid] at hle
      exact .inl hle
  · -- the pair was not active when the activation looked, or it would have answered that row
    rintro ⟨e', he', hactivation⟩
    exact absurd hactivation ((h₂.trans hheld).not_activated hnone e' he')

/-- The limit of a license whose row has been read. -/
lemma limitOf_of_row {now : Time} {license : Entry License}
    (h : (d licenses).filter (fun e => e.id == license.id) = [license]) :
    limitOf now license.id d = some (effectiveLimit now license d) := by
  rw [limitOf, ← List.head?_filter, h, List.head?_cons, Option.map_some]

theorem safe_activateInstallation (clock : Clock) (customerId installationId : ℕ) (licenseId : Option ℕ)
    (correlationId : Option String) (hC : ∀ env c l, C env c l → Saw env.db)
    (hagainst : ∀ licenseId limit before, LimitSeen Saw clock.now licenseId limit before →
      Against licenseId limit before) :
    slots.Safe C (slots.Commits (Bounded Against)) (translate (fun _ => ()) some
      (activateInstallation clock customerId installationId licenseId correlationId)) L id d := by
  refine safe_translate (safe_bind.mpr (safe_select fun d₀ _ _ _ _ _ => ?_))
  dsimp only
  cases installationContext installationId customerId (id d₀) with
  | none => exact commits_error ()
  | some context =>
  obtain ⟨installation, deviceStatus⟩ := context
  dsimp only
  split
  · exact commits_error ()
  split
  · exact commits_error ()
  refine safe_bind.mpr (safe_selectForUpdate fun d₁ _ _ _ _ hk₁ _ => ?_)
  dsimp only
  cases hpick : pickLicense clock.now customerId installation.val.productId licenseId (id d₁) with
  | none =>
    dsimp only
    split <;> exact commits_error ()
  | some license =>
  have hfound : (d₁ licenses).filter (fun e => e.id == license.id) = [license] :=
    hk₁.filter_id (pickLicense_spec hpick).1
  dsimp only
  split
  · exact commits_error ()
  split
  · exact commits_error ()
  split
  · exact commits_error ()
  refine safe_bind.mpr (safe_select fun d₂ _ h₂ _ _ _ => ?_)
  dsimp only
  split
  · exact commits_error ()
  generalize hL : L ++ (Option.map (fun e => Lock.row licenses e.id) (some license)).toList = L₁ at h₂ ⊢
  have hlock : Lock.row licenses license.id ∈ L₁ := by simp [← hL]
  refine safe_bind.mpr (safe_policyLimit hC fun d₃ d₃' h₃ hsaw h₃' => ?_)
  have hlimit : limitOf clock.now license.id d₃ = some (effectiveLimit clock.now license d₃) := by
    refine limitOf_of_row ?_
    rw [(Held.of_rely hlock h₃).row, (Held.of_rely hlock h₂).row, hfound]
  dsimp only
  refine safe_bind.mpr (safe_select fun d₄ _ h₄ _ _ _ => ?_)
  refine safe_bind.mpr (safe_select fun d₅ _ h₅ _ _ _ => ?_)
  dsimp only [id]
  have hheld₄ : Held license.id d₃ d₄ := (Held.of_rely hlock h₃').trans (.of_rely hlock h₄)
  have hheld₅ : Held license.id d₃ d₅ := hheld₄.trans (.of_rely hlock h₅)
  cases hexisting : (d₅ .licenseActivations).find? (isActivationOf license.id installation.id) with
  | some activation =>
    intro d₆ _ h₆ _
    refine ⟨releases_id.allowed d₆, hagainst _ _ _ ((hheld₅.trans (.of_rely hlock h₆)).limitSeen hsaw hlimit),
      fun _ licenseId => .inl (le_refl _), fun _ => rfl⟩
  | none =>
  dsimp only
  split
  · exact commits_error ()
  rename_i hslot
  refine safe_bind.mpr (safe_statement fun d₆ _ h₆ env henv _ => ⟨fun c a hat _ => ?_, fun _ _ _ => commits_error ()⟩)
  split at hat <;> cases hat
  refine safe_bind.mpr (safe_touches (writeCustomerAudit_checked (S := [commercialAuditEvents]) (by decide) _).touches
    fun r L₃ v₃ d₇ hL₃ h₇ hv₃ => ?_)
  cases r with
  | error e => exact commits_error ()
  | ok _ =>
  refine safe_bind.mpr (safe_touches (writeOutbox_checked (S := [outboxEvents]) (by decide) _ _ _).touches
    fun r L₄ v₄ d₈ hL₄ h₈ hv₄ => ?_)
  cases r with
  | error e => exact commits_error ()
  | ok _ =>
  intro d₉ hd₉ h₉ hkeyed
  have hview : ∀ x, v₄ x licenseActivations = x licenseActivations ++
      [⟨env.fresh, newActivation clock installation license⟩] := by
    intro x
    rw [hv₄ x _ (by decide), hv₃ x _ (by decide), Change.apply, Db.put_self]
    rfl
  have hpolicies : ∀ x, ∀ t ∈ policyTables, v₄ x t = x t := by
    intro x t ht
    have hne : t ≠ licenseActivations ∧ t ∉ [commercialAuditEvents] ∧ t ∉ [outboxEvents] := by
      revert ht
      cases t <;> decide
    rw [hv₄ x t hne.2.2, hv₃ x t hne.2.1, Change.apply]
    exact Db.put_of_ne _ hne.1 _
  have hheld₈ : Held license.id d₆ d₈ :=
    (Held.of_rely (List.mem_append_left _ hlock) h₇).trans (.of_rely (hL₃ _ (List.mem_append_left _ hlock)) h₈)
  have hsince₅ : Held license.id d₅ d₈ := (Held.of_rely hlock h₆).trans hheld₈
  have hsince₄ : Held license.id d₄ d₈ := (Held.of_rely hlock h₅).trans hsince₅
  exact commits_activated (hL₄ _ (hL₃ _ (List.mem_append_left _ hlock))) hsince₄ hsince₅ hview rfl hpolicies
    (fun d' h' => hagainst _ _ _ (((hheld₅.trans hsince₅).trans h').limitSeen hsaw hlimit))
    (by rw [activeDevices]; simpa using hslot) hexisting d₉ hd₉ h₉ hkeyed

/-- An activation as a transaction of the system. -/
def activation (clock : Clock) (customerId installationId : ℕ) (licenseId : Option ℕ)
    (correlationId : Option String) : Prog Row UniqueKey Unit (Option ActivationOutcome) :=
  translate (fun _ => ()) some (activateInstallation clock customerId installationId licenseId correlationId)

/-- A transaction of the service that activates, deactivates or syncs a license. -/
inductive Party : Prog Row UniqueKey Unit (Option ActivationOutcome) → Prop
  | activate (clock : Clock) (customerId installationId : ℕ) (licenseId : Option ℕ)
      (correlationId : Option String) :
      Party (activation clock customerId installationId licenseId correlationId)
  | deactivate (clock : Clock) (customerId installationId : ℕ) (correlationId : Option String) :
      Party (translate (fun _ => ()) (fun _ => none)
        (deactivateInstallation clock customerId installationId correlationId))
  | webhook (clock : Clock) (event : ParsedStripeEvent) :
      Party (translate (fun _ => ()) (fun _ => none) (processStripeWebhookEvent clock event))
  | resync (clock : Clock) (subscriptionId : ℕ) (change : StripeSubscriptionChange) (operatorId reason : String)
      (correlationId : Option String) : Party (translate (fun _ => ()) (fun _ => none)
        (applyAdminResync clock subscriptionId change operatorId reason correlationId))

variable {ms : List Move} {store : DbStore} {progs : List (Prog Row UniqueKey Unit (Option ActivationOutcome))}
  {y : Sys Row UniqueKey Unit (Option ActivationOutcome)}

/-- The rows that session `i` sees at some point of the run. -/
def SeenBy (ms : List Move) (store : DbStore) (progs : List (Prog Row UniqueKey Unit (Option ActivationOutcome)))
    (i : ℕ) (d : Database) : Prop :=
  ∃ env, Sys.Sees ms (Sys.start store progs) i env ∧ env.db = d

/-- Session `i` is an activation that saw the license with the limit. -/
def AgainstSeen (ms : List Move) (store : DbStore)
    (progs : List (Prog Row UniqueKey Unit (Option ActivationOutcome))) (i licenseId limit : ℕ)
    (before : Database) : Prop :=
  ∃ clock customerId installationId named correlationId,
    progs[i]? = some (activation clock customerId installationId named correlationId) ∧
    LimitSeen (SeenBy ms store progs i) clock.now licenseId limit before

theorem Party.safe {p : Prog Row UniqueKey Unit (Option ActivationOutcome)} (h : Party p) {i : ℕ}
    (hi : progs[i]? = some p) (d : Database) :
    slots.Safe (fun env _ _ => Sys.Sees ms (Sys.start store progs) i env)
      (slots.Commits (Bounded (AgainstSeen ms store progs i))) p [] id d := by
  cases h with
  | activate =>
    have hsaw : ∀ env, Sys.Sees ms (Sys.start store progs) i env → SeenBy ms store progs i env.db :=
      fun env h => ⟨env, h, rfl⟩
    exact safe_activateInstallation _ _ _ _ _ (fun env _ _ h => hsaw env h)
      fun _ _ _ h => ⟨_, _, _, _, _, hi, h⟩
  | deactivate => exact safe_releasing (each_ends_deactivateInstallation _ _ _ _)
  | webhook => exact safe_releasing (each_ends_of_checked (processStripeWebhookEvent_checked _ _) (by decide))
  | resync => exact safe_releasing (each_ends_of_checked (applyAdminResync_checked _ _ _ _ _ _) (by decide))

/-- Session `i` is an activation, and in a state of the run in which it is under way the license has the limit. It
has it still when the session commits, unless the plan of its subscription has changed since. -/
def CheckedAgainst (ms : List Move) (store : DbStore)
    (progs : List (Prog Row UniqueKey Unit (Option ActivationOutcome))) (i licenseId limit : ℕ)
    (before : Database) : Prop :=
  ∃ clock customerId installationId named correlationId y p w h,
    progs[i]? = some (activation clock customerId installationId named correlationId) ∧
    Sys.Through ms (Sys.start store progs) y ∧ y.Active i p w h ∧
    limitOf clock.now licenseId y.store.db = some limit ∧
    (licensePlan licenseId before = licensePlan licenseId y.store.db →
      limitOf clock.now licenseId before = some limit)

/-- An activation itself writes nothing that its limit is read from. -/
lemma AgainstSeen.checkedAgainst {i licenseId limit : ℕ} {before : Database}
    (h : AgainstSeen ms store progs i licenseId limit before) :
    CheckedAgainst ms store progs i licenseId limit before := by
  obtain ⟨clock, customerId, installationId, named, correlationId, hprog, _,
    ⟨_, ⟨y, p, w, held, hthrough, hactive, rfl⟩, rfl⟩, hlimit, hkept⟩ := h
  have htouches : (activation clock customerId installationId named correlationId).Touches activationTables :=
    each_translate _ _ (activateInstallation_checked clock customerId installationId named correlationId).touches
  have hsame : ∀ t ∈ limitTables, (y.env i w).db t = y.store.db t := fun t ht =>
    replay_table (Sys.active_touches hprog htouches hthrough.reachable hactive).2
      (by revert ht; cases t <;> decide) _
  rw [limitOf_congr hsame] at hlimit
  rw [licensePlan_congr hsame] at hkept
  exact ⟨clock, customerId, installationId, named, correlationId, y, p, w, held, hprog, hthrough, hactive, hlimit,
    hkept⟩

/-- A commit raises the active devices of a license at most to the limit that its activation was checked
against, which is the one it answers. -/
def WithinLimit (ms : List Move) (store : DbStore)
    (progs : List (Prog Row UniqueKey Unit (Option ActivationOutcome)))
    (c : Commit Row Unit (Option ActivationOutcome)) : Prop :=
  ∀ licenseId, activeDevices licenseId c.after ≤ activeDevices licenseId c.before ∨
    ∃ o, c.answer = .ok (some o) ∧ o.licenseId = licenseId ∧
      CheckedAgainst ms store progs c.session licenseId o.deviceLimit c.before ∧
      activeDevices licenseId c.after ≤ o.deviceLimit

/-- The column of the limits is an `int4`. -/
def LimitsFit (ms : List Move) (y₀ : Sys Row UniqueKey Unit (Option ActivationOutcome)) : Prop :=
  ∀ y, Sys.Through ms y₀ y → ∀ e ∈ y.store.db licenses, e.val.deviceLimit < 2 ^ 31

lemma Bounded.withinLimit {c : Commit Row Unit (Option ActivationOutcome)}
    (h : Bounded (AgainstSeen ms store progs c.session) c.answer c.before c.after)
    (hfit : LimitsFit ms (Sys.start store progs)) : WithinLimit ms store progs c := by
  intro licenseId
  unfold Bounded at h
  split at h
  · rename_i o ho
    obtain ⟨hseen, hbound, -⟩ := h
    have hchecked := hseen.checkedAgainst
    obtain ⟨clock, _, _, _, _, y, _, _, _, _, hthrough, _, hlimit, _⟩ := id hchecked
    have hlt : o.deviceLimit < 2 ^ 32 := (limitOf_lt hlimit (hfit y hthrough)).trans (by decide)
    rcases hbound hlt licenseId with hle | ⟨rfl, hle⟩
    · exact .inl hle
    · exact .inr ⟨o, ho, rfl, hchecked, hle⟩
  · exact .inl (h licenseId)

/-- In every state of the run the license has no other effective limit at the time of an activation. -/
def ConstantLimit (ms : List Move) (store : DbStore)
    (progs : List (Prog Row UniqueKey Unit (Option ActivationOutcome))) (licenseId limit : ℕ) : Prop :=
  ∀ clock customerId installationId named correlationId,
    activation clock customerId installationId named correlationId ∈ progs →
    ∀ y, Sys.Through ms (Sys.start store progs) y →
      ∀ limit', limitOf clock.now licenseId y.store.db = some limit' → limit' = limit

lemma CheckedAgainst.eq {i licenseId limit limit' : ℕ} {before : Database}
    (h : CheckedAgainst ms store progs i licenseId limit' before)
    (hconstant : ConstantLimit ms store progs licenseId limit) : limit' = limit := by
  obtain ⟨clock, customerId, installationId, named, correlationId, y, -, -, -, hprog, hthrough, -, hlimit, -⟩ := h
  exact hconstant clock customerId installationId named correlationId (List.mem_of_getElem? hprog) y hthrough limit'
    hlimit

/-- In every interleaving each commit stays within the effective limit it was checked against, a license with a
constant effective limit never has more active devices, and a pair that is active is activated without effect. -/
theorem device_limit_kept (hk : store.Keyed) (hp : ∀ p ∈ progs, Party p)
    (hy : Sys.run ms (Sys.start store progs) = some y) (hfit : LimitsFit ms (Sys.start store progs)) :
    (∀ c ∈ y.log, WithinLimit ms store progs c) ∧
    (∀ licenseId limit, activeDevices licenseId store.db ≤ limit → ConstantLimit ms store progs licenseId limit →
      activeDevices licenseId y.store.db ≤ limit) ∧
    ∀ c ∈ y.log, ∀ o, c.answer = .ok (some o) →
      (∃ e ∈ c.before .licenseActivations, isActivationOf o.licenseId o.installationId e = true) →
      c.after = c.before := by
  have hinv : ∀ d, slots.Inv d := fun d => ⟨trivial, fun _ => trivial⟩
  have hsafe : ∀ i p, progs[i]? = some p → ∀ d, slots.Inv d →
      slots.Safe (fun env _ _ => Sys.Sees ms (Sys.start store progs) i env)
        (slots.Commits (Bounded (AgainstSeen ms store progs i))) p [] id d :=
    fun i p hi d _ => (hp p (List.mem_of_getElem? hi)).safe hi d
  have hreach := Sys.reach_sees hy
  have hsound := reach_sound (G := slots) (hinv _) hk hsafe hreach
  refine ⟨fun c hc => (hsound.log c hc).2.2.withinLimit hfit, fun licenseId limit hstart hconstant => ?_,
    fun c hc o ho => ?_⟩
  · refine reach_commits (G := slots) (fun _ d => activeDevices licenseId d ≤ limit) (hinv _) hk hsafe hstart ?_ hreach
    intro log c hbefore _ _ hpost
    rcases Bounded.withinLimit hpost hfit licenseId with hkept | ⟨o, -, -, hchecked, hafter⟩
    · omega
    · rwa [hchecked.eq hconstant] at hafter
  · have hbounded := (hsound.log c hc).2.2
    rw [ho] at hbounded
    exact hbounded.2.2

def oneSlotRows : ∀ t, List (Entry (Row t))
  | .customerProfiles => [⟨0, ⟨100, .individual, none, .active, none, none, false, none, 0⟩⟩]
  | .products => [⟨1, ⟨"authorforge", .active⟩⟩]
  | .licenses => [⟨2, ⟨0, 1, none, .active, 1, 0, none⟩⟩]
  | .installations => [⟨3, ⟨0, none, none, "key_1", 1, none, none, none, none, none, none, .active, none⟩⟩,
      ⟨4, ⟨0, none, none, "key_2", 1, none, none, none, none, none, none, .active, none⟩⟩]
  | _ => []

def twoActivations : List (Prog Row UniqueKey Unit (Option ActivationOutcome)) :=
  [activation ⟨1, 1⟩ 0 3 none none, activation ⟨1, 1⟩ 0 4 none none]

/-- Both look up their installation, the first one takes the license and goes to its end. -/
def interleavedMoves : List Move :=
  [.advance 0, .advance 1] ++ List.replicate 9 (.advance 0) ++ List.replicate 6 (.advance 1)

lemma oneSlot_keyed : (⟨oneSlotRows, 5⟩ : DbStore).Keyed := by
  refine ⟨fun t => ?_, fun t => ?_⟩ <;> cases t <;> simp [oneSlotRows]

def interleavedEnd : Option (Sys Row UniqueKey Unit (Option ActivationOutcome)) :=
  Sys.run interleavedMoves (Sys.start ⟨oneSlotRows, 5⟩ twoActivations)

lemma twoActivations_touch : ∀ p ∈ twoActivations, p.Touches activationTables := by
  intro p hp
  rcases List.mem_pair.mp hp with rfl | rfl <;>
    exact each_translate _ _ (activateInstallation_checked _ _ _ _ _).touches

/-- Activations leave all rows alone that their limit is read from. -/
lemma limitTables_oneSlot {ms : List Move} (h : Sys.Through ms (Sys.start ⟨oneSlotRows, 5⟩ twoActivations) y) :
    ∀ t ∈ limitTables, y.store.db t = oneSlotRows t := by
  intro t ht
  refine Sys.reachable_table twoActivations_touch h.reachable ?_
  revert ht
  cases t <;> decide

/-- The second one waits for the license and is then refused. -/
theorem device_limit_kept_sample : ∃ y, interleavedEnd = some y ∧ activeDevices 2 y.store.db ≤ 1 := by
  have hsome : interleavedEnd.isSome = true := by decide
  obtain ⟨y, hy⟩ := Option.isSome_iff_exists.mp hsome
  have hparty : ∀ p ∈ twoActivations, Party p := by
    intro p hp
    rcases List.mem_pair.mp hp with rfl | rfl <;> exact .activate _ _ _ _ _
  have hkept := device_limit_kept oneSlot_keyed hparty hy fun y' h => by
    rw [limitTables_oneSlot h licenses (by decide)]
    decide
  refine ⟨y, hy, hkept.2.1 2 1 (by decide) ?_⟩
  intro clock _ _ _ _ _ y' h limit hlimit
  rw [limitOf_congr (limitTables_oneSlot h)] at hlimit
  exact (Option.some.inj hlimit).symm

end ForgeCustomer.DeviceLimits
