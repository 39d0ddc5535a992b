import Mathlib

/-!
# Rate limiting

`middleware::rate_limit`: one table counts the requests of every client in windows of a minute. Entries of
earlier windows are reset when their client comes back, or swept all at once. The limiter is compared with
counters that forget nothing.
-/
namespace ForgeCustomer.RateLimiter

def windowSecs : ℕ := 60

def sweepMinEntries : ℕ := 1024

def maxTrackedClients : ℕ := 100000

structure Window where
  started : ℕ
  count : ℕ
deriving DecidableEq

structure Inner where
  windows : Std.HashMap String Window
  sweptWindow : ℕ

/-- `RateLimiter::default()`. -/
def fresh : Inner := ⟨∅, 0⟩

inductive RateDecision where
  | allow
  | deny (retryAfterSecs : ℕ)
deriving DecidableEq

/-- A call of `check`; the clock is far from the end of its range. -/
structure Call where
  key : String
  limit : ℕ
  nowUnix : ℕ
  limit_u32 : limit < 2 ^ 32
  now_u64 : nowUnix + windowSecs < 2 ^ 64

/-- The start of the window that contains an instant. -/
def windowOf (nowUnix : ℕ) : ℕ := nowUnix - nowUnix % windowSecs

/-- `(window + WINDOW_SECS).saturating_sub(now_unix).max(1)` in 64 bits. -/
def retryAfterSecs (nowUnix : ℕ) : ℕ := max ((windowOf nowUnix + windowSecs) % 2 ^ 64 - nowUnix) 1

/-- Drop the entries of other windows, once in a window and only from a large table. -/
def sweep (window : ℕ) (inner : Inner) : Inner :=
  if inner.sweptWindow ≠ window ∧ sweepMinEntries ≤ inner.windows.size then
    ⟨inner.windows.filter fun _ w => w.started == window, window⟩
  else inner

/-- The entry of a client in the window: a new one, or the old one after its reset. -/
def entryIn (window : ℕ) (entry : Option Window) : Window :=
  match entry with
  | none => ⟨window, 0⟩
  | some w => if w.started = window then w else ⟨window, 0⟩

def check (c : Call) (inner : Inner) : RateDecision × Inner :=
  let window := windowOf c.nowUnix
  let inner := sweep window inner
  if maxTrackedClients ≤ inner.windows.size ∧ c.key ∉ inner.windows then
    (.deny (retryAfterSecs c.nowUnix), inner)
  else
    let entry := entryIn window inner.windows[c.key]?
    if c.limit ≤ entry.count then
      (.deny (retryAfterSecs c.nowUnix), { inner with windows := inner.windows.insert c.key entry })
    else
      let counted := { entry with count := (entry.count + 1) % 2 ^ 32 }
      (.allow, { inner with windows := inner.windows.insert c.key counted })

/-- A call with its decision. -/
structure Answered where
  call : Call
  decision : RateDecision

def calls (log : List Answered) : List Call := log.map (·.call)

structure Run where
  inner : Inner
  log : List Answered

def Run.check (r : Run) (c : Call) : Run :=
  let answer := RateLimiter.check c r.inner
  ⟨answer.2, r.log ++ [⟨c, answer.1⟩]⟩

/-- Call after call on a fresh limiter. -/
def run (cs : List Call) : Run := cs.foldl Run.check ⟨fresh, []⟩

def inWindow (window : ℕ) (c : Call) : Bool := windowOf c.nowUnix == window

/-- A call admits its client to its window unless the window is full. -/
def admitClient (window : ℕ) (admitted : List String) (c : Call) : List String :=
  if inWindow window c = true ∧ c.key ∉ admitted ∧ admitted.length < maxTrackedClients then
    admitted ++ [c.key]
  else admitted

def admittedIn (window : ℕ) (cs : List Call) : List String := cs.foldl (admitClient window) []

/-- The calls of a client that were allowed in a window. -/
def allowedIn (window : ℕ) (key : String) (log : List Answered) : ℕ :=
  log.countP fun a => a.call.key == key && inWindow window a.call && a.decision == .allow

/-- The decision that the history of all calls determines. -/
def decision (log : List Answered) (c : Call) : RateDecision :=
  let window := windowOf c.nowUnix
  if c.key ∈ admittedIn window (calls log ++ [c]) ∧ allowedIn window c.key log < c.limit then .allow
  else .deny (window + windowSecs - c.nowUnix)

def answer (log : List Answered) (c : Call) : List Answered := log ++ [⟨c, decision log c⟩]

/-- Call after call as specified. -/
def specified (cs : List Call) : List Answered := cs.foldl answer []

variable {cs : List Call} {c : Call} {log : List Answered} {inner : Inner} {window : ℕ}

lemma windowOf_le (n : ℕ) : windowOf n ≤ n := Nat.sub_le _ _

lemma lt_windowOf (n : ℕ) : n < windowOf n + windowSecs := by
  unfold windowOf windowSecs
  omega

lemma windowOf_mono {n m : ℕ} (h : n ≤ m) : windowOf n ≤ windowOf m := by
  unfold windowOf windowSecs
  omega

/-- The retry delay is the distance to the end of the window. -/
lemma retryAfterSecs_eq (c : Call) : retryAfterSecs c.nowUnix = windowOf c.nowUnix + windowSecs - c.nowUnix := by
  have hle := windowOf_le c.nowUnix
  have hlt := lt_windowOf c.nowUnix
  have hbound := c.now_u64
  have hfits : (windowOf c.nowUnix + windowSecs) % 2 ^ 64 = windowOf c.nowUnix + windowSecs :=
    Nat.mod_eq_of_lt (by omega)
  rw [retryAfterSecs, hfits]
  omega

lemma admittedIn_append (window : ℕ) (cs : List Call) (c : Call) :
    admittedIn window (cs ++ [c]) = admitClient window (admittedIn window cs) c := by
  simp [admittedIn]

lemma nodup_admittedIn (window : ℕ) (cs : List Call) : (admittedIn window cs).Nodup := by
  induction cs using List.reverseRecOn with
  | nil => simp [admittedIn]
  | append_singleton cs c ih =>
    rw [admittedIn_append, admitClient]
    split_ifs with h
    · exact List.nodup_append.mpr ⟨ih, List.nodup_singleton _, fun a ha b hb heq => by
        simp only [List.mem_singleton] at hb
        exact h.2.1 (by rw [← hb, ← heq]; exact ha)⟩
    · exact ih

/-- Nobody is admitted to a window without calls. -/
lemma admittedIn_of_none {cs : List Call} (h : ∀ c ∈ cs, windowOf c.nowUnix ≠ window) :
    admittedIn window cs = [] := by
  induction cs using List.reverseRecOn with
  | nil => rfl
  | append_singleton cs c ih =>
    have hc : inWindow window c = false := by simpa [inWindow] using h c (by simp)
    rw [admittedIn_append, ih fun x hx => h x (by simp [hx]), admitClient]
    simp [hc]

lemma allowedIn_of_none {key : String} {log : List Answered} (h : ∀ a ∈ log, windowOf a.call.nowUnix ≠ window) :
    allowedIn window key log = 0 := by
  refine List.countP_eq_zero.mpr fun a ha => ?_
  simp [inWindow, h a ha]

lemma allowedIn_append (window : ℕ) (key : String) (log : List Answered) (a : Answered) :
    allowedIn window key (log ++ [a]) = allowedIn window key log +
      if a.call.key = key ∧ windowOf a.call.nowUnix = window ∧ a.decision = .allow then 1 else 0 := by
  simp [allowedIn, List.countP_append, List.countP_singleton, inWindow, and_assoc]

lemma mem_admitClient {admitted : List String} {key : String} : key ∈ admitClient window admitted c ↔
    key ∈ admitted ∨ key = c.key ∧ inWindow window c = true ∧ admitted.length < maxTrackedClients := by
  unfold admitClient
  split_ifs with h
  · have : inWindow window c = true := h.1
    simp [this, h.2.2]
  · constructor
    · exact .inl
    · rintro (hmem | ⟨rfl, hin, hroom⟩)
      · exact hmem
      · by_contra hnot
        exact h ⟨hin, hnot, hroom⟩

/-- The table in a window: its entries of the window are the admitted clients, with their counters; the
others are older, and there are none of them after a sweep. -/
structure Tracks (window : ℕ) (log : List Answered) (inner : Inner) : Prop where
  past : ∀ a ∈ log, windowOf a.call.nowUnix ≤ window
  older : ∀ (key : String) (e : Window), inner.windows[key]? = some e → e.started ≤ window
  admitted : ∀ key : String, key ∈ admittedIn window (calls log) ↔
    ∃ e : Window, inner.windows[key]? = some e ∧ e.started = window
  counts : ∀ key : String, (entryIn window inner.windows[key]?).count = allowedIn window key log
  sweptLe : inner.sweptWindow ≤ window
  swept : inner.sweptWindow = window → ∀ (key : String) (e : Window), inner.windows[key]? = some e → e.started = window

lemma Tracks.start : Tracks 0 [] fresh where
  past := by simp
  older := by simp [fresh]
  admitted := by simp [fresh, admittedIn, calls]
  counts := by simp [fresh, entryIn, allowedIn]
  sweptLe := by simp [fresh]
  swept := by simp [fresh]

lemma entryIn_of_ne {entry : Option Window} (h : ∀ e : Window, entry = some e → e.started ≠ window) :
    entryIn window entry = ⟨window, 0⟩ := by
  cases entry with
  | none => rfl
  | some e => exact if_neg (h e rfl)

lemma entryIn_started (window : ℕ) (entry : Option Window) : (entryIn window entry).started = window := by
  unfold entryIn
  split
  · rfl
  · split_ifs with h
    · exact h
    · rfl

/-- In a later window every entry is an old one. -/
lemma Tracks.advance {window' : ℕ} (h : Tracks window log inner) (hle : window ≤ window') :
    Tracks window' log inner := by
  rcases Nat.eq_or_lt_of_le hle with rfl | hlt
  · exact h
  have hno : ∀ (key : String) (e : Window), inner.windows[key]? = some e → e.started ≠ window' := fun key e he => by
    have := h.older key e he
    omega
  have hpast : ∀ a ∈ log, windowOf a.call.nowUnix ≠ window' := fun a ha => by
    have := h.past a ha
    omega
  have hcalls : ∀ c ∈ calls log, windowOf c.nowUnix ≠ window' := by
    intro c hc
    obtain ⟨a, ha, rfl⟩ := List.mem_map.mp hc
    exact hpast a ha
  have hsweptLe := h.sweptLe
  exact
    { past := fun a ha => (h.past a ha).trans hle
      older := fun key e he => (h.older key e he).trans hle
      admitted := fun key => by
        rw [admittedIn_of_none hcalls]
        simp only [List.not_mem_nil, false_iff]
        rintro ⟨e, he, hstarted⟩
        exact hno key e he hstarted
      counts := fun key => by rw [entryIn_of_ne (hno key), allowedIn_of_none hpast]
      sweptLe := hsweptLe.trans hle
      swept := fun hswept => by omega }

lemma getElem?_sweep {key : String} {e : Window} :
    (inner.windows.filter fun _ w => w.started == window)[key]? = some e ↔
      inner.windows[key]? = some e ∧ e.started = window := by
  rw [Std.HashMap.getElem?_filter']
  simp [Option.filter_eq_some_iff]

lemma Tracks.after_sweep (h : Tracks window log inner) : Tracks window log (sweep window inner) := by
  unfold sweep
  split_ifs with hcond
  · exact
      { past := h.past
        older := fun key e he => (getElem?_sweep.mp he).2.le
        admitted := fun key => by
          rw [h.admitted key]
          simp only [getElem?_sweep, and_assoc, and_self]
        counts := fun key => by
          rw [← h.counts key, Std.HashMap.getElem?_filter']
          cases inner.windows[key]? with
          | none => rfl
          | some e => by_cases he : e.started = window <;> simp [entryIn, Option.filter, he]
        sweptLe := le_refl window
        swept := fun _ key e he => (getElem?_sweep.mp he).2 }
  · exact h

/-- A table that is full after the sweep holds entries of the window only. -/
lemma Tracks.full_current (h : Tracks window log inner)
    (hfull : maxTrackedClients ≤ (sweep window inner).windows.size) (key : String) (e : Window)
    (he : (sweep window inner).windows[key]? = some e) : e.started = window := by
  have hswept : (sweep window inner).sweptWindow = window := by
    unfold sweep at hfull ⊢
    split_ifs at hfull ⊢ with hcond
    · rfl
    · by_contra hne
      have hsmall : ¬sweepMinEntries ≤ inner.windows.size := fun hsize => hcond ⟨hne, hsize⟩
      unfold maxTrackedClients at hfull
      unfold sweepMinEntries at hsmall
      omega
  exact h.after_sweep.swept hswept key e he

/-- Every admitted client has an entry of its own. -/
lemma Tracks.length_le (h : Tracks window log inner) :
    (admittedIn window (calls log)).length ≤ inner.windows.size := by
  have hsub : admittedIn window (calls log) ⊆ inner.windows.keys := by
    intro key hkey
    obtain ⟨e, he, -⟩ := (h.admitted key).mp hkey
    rw [Std.HashMap.mem_keys, Std.HashMap.mem_iff_isSome_getElem?, he]
    rfl
  have hle := (List.subperm_of_subset (nodup_admittedIn window (calls log)) hsub).length_le
  rwa [Std.HashMap.length_keys] at hle

/-- A table without old entries holds admitted clients only. -/
lemma Tracks.size_le (h : Tracks window log inner)
    (hcurrent : ∀ (key : String) (e : Window), inner.windows[key]? = some e → e.started = window) :
    inner.windows.size ≤ (admittedIn window (calls log)).length := by
  have hsub : inner.windows.keys ⊆ admittedIn window (calls log) := by
    intro key hkey
    rw [Std.HashMap.mem_keys, Std.HashMap.mem_iff_isSome_getElem?] at hkey
    obtain ⟨e, he⟩ := Option.isSome_iff_exists.mp hkey
    exact (h.admitted key).mpr ⟨e, he, hcurrent key e he⟩
  have hle := (List.subperm_of_subset Std.HashMap.nodup_keys hsub).length_le
  rwa [Std.HashMap.length_keys] at hle

lemma calls_append (log : List Answered) (c : Call) (d : RateDecision) : calls (log ++ [⟨c, d⟩]) = calls log ++ [c] := by
  simp [calls]

/-- A client that is not admitted leaves no trace. -/
lemma Tracks.skip {d : RateDecision} (h : Tracks window log inner) (hc : windowOf c.nowUnix = window)
    (hnot : c.key ∉ admittedIn window (calls log ++ [c])) (hd : d ≠ .allow) :
    Tracks window (log ++ [⟨c, d⟩]) inner where
  past := by
    intro a ha
    rcases List.mem_append.mp ha with ha | ha
    · exact h.past a ha
    · rw [List.mem_singleton.mp ha, hc]
  older := h.older
  admitted := by
    intro key
    rw [calls_append, admittedIn_append, mem_admitClient, ← h.admitted key]
    rw [admittedIn_append, mem_admitClient] at hnot
    constructor
    · rintro (hmem | ⟨rfl, hin, hroom⟩)
      · exact hmem
      · exact absurd (.inr ⟨rfl, hin, hroom⟩) hnot
    · exact .inl
  counts := by
    intro key
    rw [h.counts key, allowedIn_append]
    simp [hd]
  sweptLe := h.sweptLe
  swept := h.swept

/-- An admitted client has its entry rewritten. -/
lemma Tracks.store {d : RateDecision} {entry : Window} (h : Tracks window log inner) (hc : windowOf c.nowUnix = window)
    (hin : c.key ∈ admittedIn window (calls log ++ [c])) (hstarted : entry.started = window)
    (hcount : entry.count = allowedIn window c.key (log ++ [⟨c, d⟩])) :
    Tracks window (log ++ [⟨c, d⟩]) { inner with windows := inner.windows.insert c.key entry } where
  past := by
    intro a ha
    rcases List.mem_append.mp ha with ha | ha
    · exact h.past a ha
    · rw [List.mem_singleton.mp ha, hc]
  older := by
    intro key e he
    rw [Std.HashMap.getElem?_insert] at he
    split_ifs at he with hkey
    · rw [← Option.some.inj he, hstarted]
    · exact h.older key e he
  admitted := by
    intro key
    rw [calls_append, Std.HashMap.getElem?_insert]
    by_cases hkey : c.key = key
    · subst hkey
      simp [hin, hstarted]
    · rw [admittedIn_append, mem_admitClient, h.admitted key]
      have hkey' : ¬key = c.key := fun heq => hkey heq.symm
      simp [hkey, hkey']
  counts := by
    intro key
    rw [Std.HashMap.getElem?_insert]
    by_cases hkey : c.key = key
    · subst hkey
      simp [entryIn, hstarted, hcount]
    · have hrest := h.counts key
      rw [allowedIn_append]
      simpa [hkey] using hrest
  sweptLe := h.sweptLe
  swept := by
    intro hswept key e he
    rw [Std.HashMap.getElem?_insert] at he
    split_ifs at he with hkey
    · rw [← Option.some.inj he, hstarted]
    · exact h.swept hswept key e he

/-- The table has room for a client exactly if the window has. -/
lemma Tracks.admits_iff (h : Tracks window log inner) (hc : windowOf c.nowUnix = window) :
    c.key ∈ admittedIn window (calls log ++ [c]) ↔
      ¬(maxTrackedClients ≤ (sweep window inner).windows.size ∧
        c.key ∉ (sweep window inner).windows) := by
  have hin : inWindow window c = true := by simp [inWindow, hc]
  rw [admittedIn_append, mem_admitClient]
  constructor
  · rintro (hmem | ⟨-, -, hroom⟩) ⟨hfull, hnew⟩
    · obtain ⟨e, he, -⟩ := (h.after_sweep.admitted c.key).mp hmem
      rw [Std.HashMap.mem_iff_isSome_getElem?, he] at hnew
      exact hnew rfl
    · have hsize := h.after_sweep.size_le (h.full_current hfull)
      omega
  · intro hroom
    by_cases hmem : c.key ∈ admittedIn window (calls log)
    · exact .inl hmem
    · have hfree : ¬maxTrackedClients ≤ (sweep window inner).windows.size := by
        intro hfull
        have hknown : c.key ∈ (sweep window inner).windows := by
          by_contra hnew
          exact hroom ⟨hfull, hnew⟩
        rw [Std.HashMap.mem_iff_isSome_getElem?] at hknown
        obtain ⟨e, he⟩ := Option.isSome_iff_exists.mp hknown
        exact hmem ((h.after_sweep.admitted c.key).mpr ⟨e, he, h.full_current hfull c.key e he⟩)
      have hlength := h.after_sweep.length_le
      exact .inr ⟨rfl, hin, by omega⟩

/-- One call: the decision is the specified one, and the table keeps up with the history. -/
theorem Tracks.after_check (h : Tracks (windowOf c.nowUnix) log inner) :
    (check c inner).1 = decision log c ∧ Tracks (windowOf c.nowUnix) (answer log c) (check c inner).2 := by
  have hadmits := h.admits_iff (c := c) rfl
  have hswept := h.after_sweep
  have hcounts := hswept.counts c.key
  have hstarted := entryIn_started (windowOf c.nowUnix) (sweep (windowOf c.nowUnix) inner).windows[c.key]?
  unfold answer check
  dsimp only
  split_ifs with hfull hspent
  · have hnot : c.key ∉ admittedIn (windowOf c.nowUnix) (calls log ++ [c]) := fun hin => hadmits.mp hin hfull
    have hdecision : decision log c = .deny (retryAfterSecs c.nowUnix) := by
      simp [decision, hnot, retryAfterSecs_eq]
    rw [hdecision]
    exact ⟨rfl, hswept.skip rfl hnot (by simp)⟩
  · have hin := hadmits.mpr hfull
    have hdecision : decision log c = .deny (retryAfterSecs c.nowUnix) := by
      rw [hcounts] at hspent
      simp [decision, hspent, retryAfterSecs_eq]
    rw [hdecision]
    refine ⟨rfl, hswept.store rfl hin hstarted ?_⟩
    rw [allowedIn_append, hcounts]
    simp
  · have hin := hadmits.mpr hfull
    have hlimit := c.limit_u32
    have hdecision : decision log c = .allow := by
      rw [hcounts] at hspent
      simp [decision, hin, Nat.lt_of_not_le hspent]
    have hfits : (allowedIn (windowOf c.nowUnix) c.key log + 1) % 2 ^ 32 =
        allowedIn (windowOf c.nowUnix) c.key log + 1 := by
      apply Nat.mod_eq_of_lt
      omega
    rw [hdecision]
    refine ⟨rfl, hswept.store rfl hin hstarted ?_⟩
    rw [allowedIn_append, hcounts, hfits]
    simp

lemma run_append (cs : List Call) (c : Call) : run (cs ++ [c]) = (run cs).check c := by
  simp [run]

lemma specified_append (cs : List Call) (c : Call) : specified (cs ++ [c]) = answer (specified cs) c := by
  simp [specified]

/-- After every run the table follows the specified history, and this is the history of the run. -/
theorem run_tracks (hmono : cs.Pairwise fun c c' => c.nowUnix ≤ c'.nowUnix) :
    (run cs).log = specified cs ∧ ∃ window, (∀ c : Call, (∀ c' ∈ cs, c'.nowUnix ≤ c.nowUnix) →
      window ≤ windowOf c.nowUnix) ∧ Tracks window (specified cs) (run cs).inner := by
  induction cs using List.reverseRecOn with
  | nil => exact ⟨rfl, 0, fun c _ => Nat.zero_le _, Tracks.start⟩
  | append_singleton cs c ih =>
    obtain ⟨hinit, -, hlast⟩ := List.pairwise_append.mp hmono
    obtain ⟨hlog, window, hwindow, htracks⟩ := ih hinit
    have hlater := hwindow c fun c' hc' => hlast c' hc' c (by simp)
    obtain ⟨hdecision, hnext⟩ := (htracks.advance hlater).after_check
    rw [run_append, specified_append]
    refine ⟨?_, windowOf c.nowUnix, fun c' hc' => windowOf_mono (hc' c (by simp)), hnext⟩
    simp [Run.check, answer, hlog, hdecision]

/-- Every denial names the distance to the end of the window. -/
lemma denied_specified {a : Answered} {r : ℕ} (ha : a ∈ specified cs) (hdenied : a.decision = .deny r) :
    a.call.nowUnix + r = windowOf a.call.nowUnix + windowSecs ∧ 1 ≤ r ∧ r ≤ windowSecs := by
  induction cs using List.reverseRecOn with
  | nil => simp [specified] at ha
  | append_singleton cs c ih =>
    rw [specified_append, answer] at ha
    rcases List.mem_append.mp ha with ha | ha
    · exact ih ha
    · have hle := windowOf_le c.nowUnix
      have hlt := lt_windowOf c.nowUnix
      obtain rfl := List.mem_singleton.mp ha
      unfold decision at hdenied
      dsimp only at hdenied ⊢
      split_ifs at hdenied
      have hr := RateDecision.deny.inj hdenied
      omega

lemma size_check (h : inner.windows.size ≤ maxTrackedClients) : (check c inner).2.windows.size ≤ maxTrackedClients := by
  have hsweep : (sweep (windowOf c.nowUnix) inner).windows.size ≤ maxTrackedClients := by
    unfold sweep
    split_ifs
    · exact Std.HashMap.size_filter_le_size.trans h
    · exact h
  have hinsert : ∀ entry, ¬(maxTrackedClients ≤ (sweep (windowOf c.nowUnix) inner).windows.size ∧
      c.key ∉ (sweep (windowOf c.nowUnix) inner).windows) →
      ((sweep (windowOf c.nowUnix) inner).windows.insert c.key entry).size ≤ maxTrackedClients := by
    intro entry hroom
    rw [Std.HashMap.size_insert]
    split_ifs with hknown
    · exact hsweep
    · have : ¬maxTrackedClients ≤ (sweep (windowOf c.nowUnix) inner).windows.size := fun hfull =>
        hroom ⟨hfull, hknown⟩
      omega
  unfold check
  dsimp only
  split_ifs with hfull hspent
  · exact hsweep
  · exact hinsert _ hfull
  · exact hinsert _ hfull

/-- The table is bounded in every run. -/
lemma size_run (cs : List Call) : (run cs).inner.windows.size ≤ maxTrackedClients := by
  induction cs using List.reverseRecOn with
  | nil => simp [run, fresh]
  | append_singleton cs c ih =>
    rw [run_append]
    exact size_check ih

/-- The limiter decides as its specification, in every run with nondecreasing times: sweeps and old entries
never show. -/
theorem rate_limiter_specified (hmono : cs.Pairwise fun c c' => c.nowUnix ≤ c'.nowUnix) :
    (run cs).log = specified cs ∧
    (∀ n, (run (cs.take n)).inner.windows.size ≤ maxTrackedClients) ∧
    ∀ a ∈ (run cs).log, ∀ r, a.decision = .deny r →
      a.call.nowUnix + r = windowOf a.call.nowUnix + windowSecs ∧ 1 ≤ r ∧ r ≤ windowSecs := by
  have hlog := (run_tracks hmono).1
  refine ⟨hlog, fun n => size_run _, fun a ha r hdenied => ?_⟩
  rw [hlog] at ha
  exact denied_specified ha hdenied

/-- Two calls within the limit, one beyond it, and one in the next window. -/
def fourCalls : List Call :=
  [⟨"10.0.0.1", 2, 1700000000, by decide, by decide⟩, ⟨"10.0.0.1", 2, 1700000000, by decide, by decide⟩,
    ⟨"10.0.0.1", 2, 1700000001, by decide, by decide⟩, ⟨"10.0.0.1", 2, 1700000060, by decide, by decide⟩]

theorem rate_limiter_specified_fourCalls : (run fourCalls).log = specified fourCalls ∧
    (specified fourCalls).map (·.decision) = [.allow, .allow, .deny 39, .allow] := by
  have hmono : fourCalls.Pairwise fun c c' => c.nowUnix ≤ c'.nowUnix := by decide
  exact ⟨(rate_limiter_specified hmono).1, by decide⟩

end ForgeCustomer.RateLimiter
