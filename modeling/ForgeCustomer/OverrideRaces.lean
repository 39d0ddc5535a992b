import ForgeCustomer.OverrideEvaluation
import ForgeCustomer.SqlAssumptions

/-!
# Concurrent overrides

Transactions of `set_entitlement_override` for one customer, product and key, interleaved in any way. Each
deactivates the rows it sees; a row that another one is about to insert is not among them. In PostgreSQL that holds of
an update that waits as well, since it keeps the snapshot of when it was issued. The condition therefore counts an update
from when it may be issued, so that no row is committed while it waits.
-/
namespace ForgeCustomer.OverrideRaces
open SqlTables SqlPrograms SqlStatements SqlSessions SqlDiscipline SqlAssumptions Discipline DatabaseTables AuditWriters
  AdminRepository OverrideEvaluation TableName

/-- Whose override, of which product and for which key. -/
structure OverrideTarget where
  customerId : ℕ
  productKey : String
  key : OverrideKey

/-- An operator sets the override, or clears it if there is no value. -/
structure OverrideCall where
  operatorId : String
  value : Option OverrideValue
  expiresAt : Option Time
  reason : String
  correlationId : Option String

def OverrideCall.input (target : OverrideTarget) (call : OverrideCall) : OverrideInput :=
  { customerId := target.customerId
    productKey := target.productKey
    featureKey := target.key.featureKey
    quotaKey := target.key.quotaKey
    value := call.value
    expiresAt := call.expiresAt
    reason := call.reason }

def OverrideCall.prog (target : OverrideTarget) (call : OverrideCall) : Tx AdminError OverrideOutcome :=
  setEntitlementOverride call.operatorId (call.input target) call.correlationId

/-- An active override of the target. -/
def winning (target : OverrideTarget) (productId : ℕ) (e : Entry EntitlementOverride) : Bool :=
  e.val.customerId == target.customerId && e.val.productId == productId && e.val.active &&
    e.val.featureKey == target.key.featureKey && e.val.quotaKey == target.key.quotaKey

def winners (target : OverrideTarget) (productId : ℕ) (d : Database) : List (Entry EntitlementOverride) :=
  (d entitlementOverrides).filter (winning target productId)

variable {target : OverrideTarget} {productId : ℕ} {d d' : Database}

/-- Every winner has been one before. -/
def NoNew (target : OverrideTarget) (productId : ℕ) (d d' : Database) : Prop :=
  ∀ e ∈ winners target productId d', ∃ e₀ ∈ winners target productId d, e₀.id = e.id

lemma NoNew.refl (d : Database) : NoNew target productId d d := fun e he => ⟨e, he, rfl⟩

lemma NoNew.trans {d'' : Database} (h : NoNew target productId d d') (h' : NoNew target productId d' d'') :
    NoNew target productId d d'' := by
  intro e he
  obtain ⟨e₁, he₁, hid₁⟩ := h' e he
  obtain ⟨e₀, he₀, hid₀⟩ := h e₁ he₁
  exact ⟨e₀, he₀, hid₀.trans hid₁⟩

/-- At most one override wins; locks of rows are all that is relied on besides. -/
def oneWinner (target : OverrideTarget) (productId : ℕ) : Discipline Row UniqueKey where
  global d := (winners target productId d).length ≤ 1
  evolves _ _ := True
  evolves_refl _ := trivial
  evolves_trans _ _ _ _ _ := trivial
  Key := Empty
  Part _ := Unit
  part _ _ := ()
  ok _ _ := True
  guards _ _ _ := True
  guards_mono := Discipline.noKeys_mono
  exclusive := Discipline.noKeys_exclusive

/-- A transaction that sets a value assumes, once it has deactivated what it saw, that nobody adds a winner. -/
def noNewWinner (target : OverrideTarget) (productId : ℕ) (sets : Bool) : Assumption (oneWinner target productId) where
  holds w d d' := sets = true → 3 ≤ w.length → NoNew target productId d d'
  refl _ d _ _ := NoNew.refl d
  trans _ _ _ _ _ _ h h' hs hw := (h hs hw).trans (h' hs hw)

/-- Clearing adds no winner. -/
def Settles (target : OverrideTarget) (productId : ℕ) (sets : Bool) (r : Except AdminError OverrideOutcome)
    (d d' : Database) : Prop :=
  match r with
  | .ok _ => sets = false → NoNew target productId d d'
  | .error _ => True

/-- The rows that the transaction saw for the product `seen` are deactivated, and `added` is inserted. -/
structure Written (target : OverrideTarget) (productId : ℕ) (sets : Bool) (seen : ℕ)
    (added : List (Entry EntitlementOverride)) (w : List (ℕ × Change Row)) (d : Database) : Prop where
  long : 3 ≤ w.length
  few : added.length ≤ 1
  product : ∀ e ∈ added, e.val.productId = seen
  clears : sets = false → added = []
  rows : ∃ ids : List ℕ, (∀ x, replay w x entitlementOverrides =
      updateRows (fun e => winning target seen e && ids.contains e.id) deactivate (x entitlementOverrides) ++ added) ∧
    (sets = true → seen = productId → ∀ e ∈ winners target productId d, e.id ∈ ids)

variable {sets : Bool} {seen : ℕ} {added : List (Entry EntitlementOverride)} {w : List (ℕ × Change Row)}
  {L : List (Lock TableName UniqueKey)}

lemma Written.rely (h : Written target productId sets seen added w d)
    (hr : RelyOn (noNewWinner target productId sets) L w d d') : Written target productId sets seen added w d' := by
  obtain ⟨ids, hrows, hids⟩ := h.rows
  refine ⟨h.long, h.few, h.product, h.clears, ids, hrows, fun hs hseen e he => ?_⟩
  obtain ⟨e₀, he₀, hid⟩ := hr.2 hs h.long e he
  rw [← hid]
  exact hids hs hseen e₀ he₀

lemma Written.step (h : Written target productId sets seen added w d) {n : ℕ} {c : Change Row}
    (hc : c.On [commercialAuditEvents]) : Written target productId sets seen added (w ++ [(n, c)]) d := by
  obtain ⟨ids, hrows, hids⟩ := h.rows
  have hlong := h.long
  refine ⟨by rw [List.length_append]; omega, h.few, h.product, h.clears, ids, fun x => ?_, hids⟩
  rw [replay_append, hc.apply_eq _ _ (by decide)]
  exact hrows x

lemma filter_deactivated {p : Entry EntitlementOverride → Bool} {rows : List (Entry EntitlementOverride)} :
    (updateRows p deactivate rows).filter (winning target productId) =
      rows.filter fun e => winning target productId e && !p e :=
  filter_updateRows_drop fun e _ _ => by simp [winning, deactivate]

/-- The winners after the transaction: of another product the old ones, else at most the one it has added. -/
lemma Written.commits (h : Written target productId sets seen added w d) (outcome : OverrideOutcome) :
    CommitsOn (noNewWinner target productId sets) (Settles target productId sets) (.ok outcome) L w d := by
  intro d' hd' hr _
  obtain ⟨ids, hrows, hids⟩ := (h.rely hr).rows
  have hone : (winners target productId d').length ≤ 1 := hd'.1
  have hafter : winners target productId (replay w d') = (d' entitlementOverrides).filter (fun e =>
      winning target productId e && !(winning target seen e && ids.contains e.id)) ++
        added.filter (winning target productId) := by
    rw [winners, hrows, List.filter_append, filter_deactivated]
  have hold : ((d' entitlementOverrides).filter fun e =>
      winning target productId e && !(winning target seen e && ids.contains e.id)).Sublist
        (winners target productId d') :=
    List.monotone_filter_right _ fun e he => (Bool.and_eq_true_iff.mp he).1
  have hkept : added.filter (winning target productId) = [] →
      (winners target productId (replay w d')).length ≤ 1 ∧ NoNew target productId d' (replay w d') := by
    intro hnone
    rw [hnone, List.append_nil] at hafter
    refine ⟨?_, fun e he => ⟨e, ?_, rfl⟩⟩
    · rw [hafter]
      exact hold.length_le.trans hone
    · rw [hafter] at he
      exact hold.subset he
  suffices hgoal : (winners target productId (replay w d')).length ≤ 1 ∧
      (sets = false → NoNew target productId d' (replay w d')) from
    ⟨⟨hgoal.1, trivial, fun K => K.elim, fun K => K.elim⟩, hgoal.2⟩
  by_cases hseen : seen = productId
  · cases hsets : sets with
    | false =>
      obtain ⟨hlength, hnew⟩ := hkept (by rw [h.clears hsets]; rfl)
      exact ⟨hlength, fun _ => hnew⟩
    | true =>
      refine ⟨?_, fun hs => by cases hs⟩
      have hdeactivated : (d' entitlementOverrides).filter (fun e =>
          winning target productId e && !(winning target seen e && ids.contains e.id)) = [] := by
        refine List.filter_eq_nil_iff.mpr fun e he hkept => ?_
        simp only [Bool.and_eq_true, Bool.not_eq_true'] at hkept
        have hmem := hids hsets hseen e (List.mem_filter.mpr ⟨he, hkept.1⟩)
        simp [hseen, hkept.1, hmem] at hkept
      rw [hafter, hdeactivated, List.nil_append]
      exact (List.length_filter_le _ _).trans h.few
  · obtain ⟨hlength, hnew⟩ := hkept (List.filter_eq_nil_iff.mpr fun e he hwins => by
      simp only [winning, Bool.and_eq_true, beq_iff_eq] at hwins
      exact hseen ((h.product e he).symm.trans hwins.1.1.1.2))
    exact ⟨hlength, fun _ => hnew⟩

/-- The new row comes on top. -/
lemma Written.insert (h : Written target productId true seen [] w d) {n : ℕ} {r : EntitlementOverride}
    (hr : r.productId = seen) :
    Written target productId true seen [⟨n, r⟩] (w ++ [(n, .insert entitlementOverrides r)]) d := by
  obtain ⟨ids, hrows, hids⟩ := h.rows
  have hlong := h.long
  refine ⟨by rw [List.length_append]; omega, le_rfl, fun e he => ?_, fun hs => (by cases hs), ids, fun x => ?_, hids⟩
  · obtain rfl := List.mem_singleton.mp he
    exact hr
  · rw [replay_append, Change.apply, Db.put_self, hrows, List.append_nil]

/-- The audit row changes no override. -/
lemma Written.safeOn_audit (h : Written target productId sets seen added w d) (record : OperatorAudit)
    (outcome : OverrideOutcome) :
    SafeOn (noNewWinner target productId sets) (CommitsOn (noNewWinner target productId sets)
      (Settles target productId sets)) (do
        writeOperatorAudit record
        pure outcome) L w d := by
  refine safeOn_bind.mpr (safeOn_touches (writeOperatorAudit_checked (S := [commercialAuditEvents]) (by decide)
    record).touches (F := fun _ w d => Written target productId sets seen added w d) h (fun _ _ _ _ hF _ hr => hF.rely hr)
    (fun _ _ _ _ _ _ hF hc _ => hF.step hc) fun a L' w' d' hF => ?_)
  cases a with
  | ok => exact hF.commits outcome
  | error e => exact fun _ _ _ _ => trivial

theorem safeOn_override (target : OverrideTarget) (productId : ℕ) (call : OverrideCall) (d : Database) :
    SafeOn (noNewWinner target productId call.value.isSome) (CommitsOn (noNewWinner target productId call.value.isSome)
      (Settles target productId call.value.isSome)) (call.prog target) [] [] d := by
  refine safeOn_bind.mpr (safeOn_select fun d₁ n₁ _ _ => ?_)
  dsimp only
  split
  · exact fun _ _ _ _ => trivial
  refine safeOn_bind.mpr (safeOn_select fun d₂ n₂ _ _ => ?_)
  dsimp only
  split
  · exact fun _ _ _ _ => trivial
  rename_i product _
  rw [update, updateFrom]
  refine safeOn_bind.mpr (safeOn_statement fun d₃ _ _ env henv _ => ⟨fun c cleared hat => ?_,
    fun _ _ _ _ _ _ _ _ => trivial⟩)
  obtain ⟨rfl, -⟩ := tryUpdate_ok hat
  have hwritten : Written target productId call.value.isSome product.id []
      ([] ++ [(n₁, .nothing)] ++ [(n₂, .nothing)] ++ [(env.fresh, .update entitlementOverrides
        (superseded (call.input target) product.id) (((env.db entitlementOverrides).filter
          (superseded (call.input target) product.id)).map (·.id)) deactivate)]) d₃ := by
    refine ⟨by simp, by simp, by simp, fun _ => rfl, ((env.db entitlementOverrides).filter
      (superseded (call.input target) product.id)).map (·.id), fun x => ?_, fun _ hseen e he => ?_⟩
    · rw [List.append_nil]
      rfl
    · rw [henv, hseen]
      exact List.mem_map_of_mem he
  cases hvalue : call.value with
  | none =>
    have hnone : insertOverride call.operatorId (call.input target) product.id = pure none := by
      unfold insertOverride OverrideCall.input
      rw [hvalue]
    rw [hvalue] at hwritten
    dsimp only
    rw [hnone]
    exact hwritten.safeOn_audit _ _
  | some value =>
    have hsome : insertOverride call.operatorId (call.input target) product.id = (do
        let row ← insertRow entitlementOverrides (overrideRow call.operatorId (call.input target) product.id value)
        pure (some row.id)) := by
      unfold insertOverride OverrideCall.input
      rw [hvalue]
      rfl
    rw [hvalue] at hwritten
    dsimp only
    rw [hsome]
    refine safeOn_bind.mpr (safeOn_bind.mpr (safeOn_statement fun d₄ _ hr env₂ _ _ => ⟨fun c row hat => ?_,
      fun _ _ _ _ _ _ _ _ => trivial⟩))
    obtain ⟨-, rfl, -⟩ := tryInsert_ok hat
    exact ((hwritten.rely hr).insert rfl).safeOn_audit _ _

abbrev OverrideSys := Sys Row UniqueKey AdminError OverrideOutcome

def overrides (target : OverrideTarget) (calls : List OverrideCall) : List (Tx AdminError OverrideOutcome) :=
  calls.map (·.prog target)

/-- The session sets a value. -/
def Sets (calls : List OverrideCall) (i : ℕ) : Bool := (calls[i]?.bind (·.value)).isSome

/-- While a transaction commits that sets a value, no other one that does so has come to its deactivation: it has not
looked up the product yet, which is the statement before. -/
def NoOverlap (calls : List OverrideCall) (y : OverrideSys) (m : Move) : Prop :=
  ∀ i a w h, m = .advance i → y.Active i (.done a) w h → Sets calls i = true →
    ∀ j p' w' h', j ≠ i → y.Active j p' w' h' → Sets calls j = true → w'.length < 2

variable {calls : List OverrideCall} {y y' : OverrideSys} {m : Move} {store : DbStore}

abbrev OverridesSound (target : OverrideTarget) (productId : ℕ) (calls : List OverrideCall) (y : OverrideSys) : Prop :=
  SoundOn (fun i => noNewWinner target productId (Sets calls i)) (fun i => Settles target productId (Sets calls i)) y

lemma overridesSound_start (hk : store.Keyed) (hone : (winners target productId store.db).length ≤ 1) :
    OverridesSound target productId calls (Sys.start store (overrides target calls)) := by
  refine soundOn_start ⟨hone, fun K => K.elim⟩ hk fun i p hp => ?_
  rw [overrides, List.getElem?_map, Option.map_eq_some_iff] at hp
  obtain ⟨call, hcall, rfl⟩ := hp
  have hsets : Sets calls i = call.value.isSome := by rw [Sets, hcall, Option.bind_some]
  rw [hsets]
  exact safeOn_override target productId call store.db

lemma overridesSound_step (hy : OverridesSound target productId calls y) (hD : NoOverlap calls y m)
    (hm : y.step m = some y') : OverridesSound target productId calls y' := by
  refine hy.step hm fun i a w h hmove hi hpost j p' w' h' hne hj hsets hw => ?_
  cases hset : Sets calls i with
  | false => exact hpost hset
  | true =>
    have hbehind := hD i a w h hmove hi hset j p' w' h' hne hj hsets
    omega

lemma overridesSound_of_reach (hk : store.Keyed) (hone : (winners target productId store.db).length ≤ 1)
    (hy : Sys.ReachWhen (NoOverlap calls) (Sys.start store (overrides target calls)) y) :
    OverridesSound target productId calls y := by
  induction hy with
  | start => exact overridesSound_start hk hone
  | step _ hD hm ih => exact overridesSound_step ih hD hm

/-- As long as no transaction that sets a value commits while another one has come to its deactivation, every
committed state has at most one active override for the key. -/
theorem at_most_one_override (hk : store.Keyed) (hone : (winners target productId store.db).length ≤ 1)
    (hy : Sys.ReachWhen (NoOverlap calls) (Sys.start store (overrides target calls)) y) :
    (winners target productId y.store.db).length ≤ 1 :=
  (overridesSound_of_reach hk hone hy).inv.1

def plainRows : ∀ t, List (Entry (Row t))
  | .customerProfiles => [⟨0, ⟨100, .individual, none, .active, none, none, false, none, 0⟩⟩]
  | .products => [⟨1, ⟨"authorforge", .active⟩⟩]
  | _ => []

def plainStore : DbStore := ⟨plainRows, 2⟩

lemma plainStore_keyed : plainStore.Keyed := by
  refine ⟨fun t => ?_, fun t => ?_⟩ <;> cases t <;> simp [plainStore, plainRows]

def betaTarget : OverrideTarget := ⟨0, "authorforge", .feature "beta"⟩

/-- One operator switches the feature on, the other one off. -/
def opposedCalls : List OverrideCall :=
  [⟨"op_1", some (.bool true), none, "on", none⟩, ⟨"op_2", some (.bool false), none, "off", none⟩]

def opposed : OverrideSys := Sys.start plainStore (overrides betaTarget opposedCalls)

/-- Both find nothing to deactivate before either inserts. -/
def crossedMoves : List Move := List.replicate 3 (.advance 0) ++ List.replicate 6 (.advance 1) ++ List.replicate 3 (.advance 0)

/-- The values of the active overrides for the feature. -/
def activeValues (y : OverrideSys) : List (Option Bool) := (winners betaTarget 1 y.store.db).map (·.val.boolValue)

theorem two_active_overrides : plainStore.Keyed ∧ winners betaTarget 1 plainStore.db = [] ∧
    ∃ y, Sys.Reachable opposed y ∧ activeValues y = [some false, some true] ∧
      ¬(winners betaTarget 1 y.store.db).length ≤ 1 := by
  refine ⟨plainStore_keyed, by decide, ?_⟩
  have hrun : (Sys.run crossedMoves opposed).map activeValues = some [some false, some true] := by decide
  obtain ⟨y, hy, hvalues⟩ := Option.map_eq_some_iff.mp hrun
  refine ⟨y, Sys.reachable_of_run .start hy, hvalues, ?_⟩
  have htwo : (winners betaTarget 1 y.store.db).length = 2 := by
    have := congrArg List.length hvalues
    simpa [activeValues] using this
  omega

/-- No other transaction has come to its deactivation. -/
def onlyWriter (y : OverrideSys) : Move → Bool
  | .advance i => (List.range y.sessions.length).all fun j => j == i ||
    match y.sessions[j]? with
    | some (.running _ w _) => w.length < 2
    | _ => true
  | .abort _ => true

lemma noOverlap_of_onlyWriter (h : onlyWriter y m = true) : NoOverlap calls y m := by
  rintro i a w held rfl - - j p' w' held' hne hj -
  have hlt : j < y.sessions.length := (List.getElem?_eq_some_iff.mp hj).1
  have hj' := List.all_eq_true.mp h j (List.mem_range.mpr hlt)
  simpa [hne, hj] using hj'

/-- Both look up the customer before the first one sets its value. -/
def inTurnMoves : List Move := .advance 1 :: List.replicate 6 (.advance 0) ++ List.replicate 5 (.advance 1)

theorem at_most_one_override_sample : ∃ y, Sys.runChecked onlyWriter inTurnMoves opposed = some y ∧
    activeValues y = [some false] ∧ (winners betaTarget 1 y.store.db).length ≤ 1 := by
  have hrun : (Sys.runChecked onlyWriter inTurnMoves opposed).map activeValues = some [some false] := by decide
  obtain ⟨y, hy, hvalues⟩ := Option.map_eq_some_iff.mp hrun
  have hreach : Sys.ReachWhen (NoOverlap opposedCalls) opposed y :=
    Sys.reachWhen_of_runChecked (fun _ _ h => noOverlap_of_onlyWriter h) .start hy
  exact ⟨y, hy, hvalues, at_most_one_override plainStore_keyed (by decide) hreach⟩

end ForgeCustomer.OverrideRaces
