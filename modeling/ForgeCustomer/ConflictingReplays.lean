import ForgeCustomer.AuditedActions
import ForgeCustomer.ReleasePipeline

/-!
# Requests that were made before

Releases, artifacts and campaigns are inserted or, if they exist, fetched. What is fetched is compared with the
request only in part. Releases and campaigns are read once more after the commit, over a connection that may not be had.
-/
namespace ForgeCustomer.ConflictingReplays
open SqlTables DatabaseTables AuditWriters UpdatesRepository AdminReleases AuditedActions ReleaseSafety ReleasePipeline

variable {s s' : ReleaseStore}

/-- Keys are unique, and releases and campaigns refer to products and channels. -/
structure Intact (s : ReleaseStore) : Prop where
  releases : UniqueIds s.seq s.releases
  campaigns : UniqueIds s.seq s.campaigns
  channels : ∀ e ∈ s.channels, ∀ e' ∈ s.channels, e.id = e'.id → e = e'
  referenced : Referenced s

/-- The product and the channel exist. -/
def Known (s : ReleaseStore) (productId channelId : ℕ) : Prop :=
  (s.product productId).isSome = true ∧ (s.channel channelId).isSome = true

/-- New rows refer to known products and channels, old ones to the same as before. -/
structure Refers (s s' : ReleaseStore) : Prop where
  products : s'.products = s.products
  channels : s'.channels = s.channels
  releases : (∀ e ∈ s.releases, Known s e.val.productId e.val.releaseChannelId) →
    ∀ e ∈ s'.releases, Known s e.val.productId e.val.releaseChannelId
  campaigns : (∀ e ∈ s.campaigns, Known s e.val.productId e.val.releaseChannelId) →
    ∀ e ∈ s'.campaigns, Known s e.val.productId e.val.releaseChannelId

lemma Refers.refl (s : ReleaseStore) : Refers s s := ⟨rfl, rfl, fun h => h, fun h => h⟩

lemma Refers.referenced (h : Refers s s') (hs : Referenced s) : Referenced s' := by
  have hknown : ∀ p c, Known s' p c ↔ Known s p c := by
    intro p c
    rw [Known, Known, ReleaseStore.product, ReleaseStore.channel, h.products, h.channels]
    rfl
  exact ⟨fun e he => (hknown _ _).mpr (h.releases hs.releases e he),
    fun e he => (hknown _ _).mpr (h.campaigns hs.campaigns e he)⟩

section Rows
variable {α : Type} {P : α → Prop} {rows : List (Entry α)}

/-- An update that keeps a property of rows. -/
lemma forall_updateRows {p : Entry α → Bool} {f : α → α} (hf : ∀ v, P v → P (f v)) (h : ∀ e ∈ rows, P e.val) :
    ∀ e ∈ updateRows p f rows, P e.val := by
  intro e he
  obtain ⟨x, hx, rfl⟩ := mem_updateRows.mp he
  split_ifs
  · exact hf _ (h x hx)
  · exact h x hx

lemma forall_append {n : ℕ} {v : α} (hv : P v) (h : ∀ e ∈ rows, P e.val) : ∀ e ∈ rows ++ [⟨n, v⟩], P e.val := by
  intro e he
  rcases List.mem_append.mp he with he | he
  · exact h e he
  · rw [List.mem_singleton.mp he]
    exact hv

end Rows

/-- A change of one release that keeps its product and channel. -/
lemma Refers.updateRelease (id : ℕ) (f : AdminRelease → AdminRelease)
    (hf : ∀ v : AdminRelease, (f v).productId = v.productId ∧ (f v).releaseChannelId = v.releaseChannelId)
    (campaigns : (∀ e ∈ s.campaigns, Known s e.val.productId e.val.releaseChannelId) →
      ∀ e ∈ s'.campaigns, Known s e.val.productId e.val.releaseChannelId)
    (hproducts : s'.products = s.products) (hchannels : s'.channels = s.channels)
    (hreleases : s'.releases = (s.updateRelease id f).releases) : Refers s s' where
  products := hproducts
  channels := hchannels
  releases := by
    rw [hreleases]
    refine forall_updateRows (P := fun r : AdminRelease => Known s r.productId r.releaseChannelId) fun v hv => ?_
    rw [(hf v).1, (hf v).2]
    exact hv
  campaigns := campaigns

/-- A change of campaigns that keeps their products and channels. -/
lemma known_updateCampaigns {p : Entry AdminCampaign → Bool} {f : AdminCampaign → AdminCampaign}
    (hf : ∀ v : AdminCampaign, (f v).productId = v.productId ∧ (f v).releaseChannelId = v.releaseChannelId)
    (h : ∀ e ∈ s.campaigns, Known s e.val.productId e.val.releaseChannelId) :
    ∀ e ∈ updateRows p f s.campaigns, Known s e.val.productId e.val.releaseChannelId := by
  refine forall_updateRows (P := fun r : AdminCampaign => Known s r.productId r.releaseChannelId) (fun v hv => ?_) h
  rw [(hf v).1, (hf v).2]
  exact hv

lemma markPending_keeps (v : AdminRelease) :
    (markPending v).productId = v.productId ∧ (markPending v).releaseChannelId = v.releaseChannelId := by
  unfold markPending
  split_ifs <;> exact ⟨rfl, rfl⟩

lemma refers_of_applied {op : ReleaseOperation} (h : Applied s op s') : Refers s s' := by
  cases h with
  | idle => exact .refl s
  | created input productId channelId record known =>
    exact
      { products := rfl
        channels := rfl
        releases := forall_append (P := fun r : AdminRelease => Known s r.productId r.releaseChannelId)
          (productAndChannel_ok known)
        campaigns := fun hall => hall }
  | registered input r record found changeable =>
    exact .updateRelease input.releaseId markPending markPending_keeps (fun hall => hall) rfl rfl rfl
  | validated clock request r record found changeable artifact =>
    exact .updateRelease request.targetId (markValidated clock.now) (fun v => ⟨rfl, rfl⟩) (fun hall => hall) rfl rfl rfl
  | published clock request r record found ready =>
    exact .updateRelease request.targetId (markPublished clock.now) (fun v => ⟨rfl, rfl⟩) (fun hall => hall) rfl rfl rfl
  | blocked request r record found unblocked =>
    exact .updateRelease request.targetId markBlocked (fun v => ⟨rfl, rfl⟩) (known_updateCampaigns fun v => ⟨rfl, rfl⟩)
      rfl rfl rfl
  | quarantined request a record found => exact ⟨rfl, rfl, fun hall => hall, known_updateCampaigns fun v => ⟨rfl, rfl⟩⟩
  | drafted clock input productId channelId record known =>
    exact
      { products := rfl
        channels := rfl
        releases := fun hall => hall
        campaigns := forall_append (P := fun r : AdminCampaign => Known s r.productId r.releaseChannelId)
          (productAndChannel_ok known) }
  | moved _ status request c record move found unrevoked target =>
    exact ⟨rfl, rfl, fun hall => hall, known_updateCampaigns fun v => ⟨rfl, rfl⟩⟩
  | rolled percentage request c record found unrevoked =>
    exact ⟨rfl, rfl, fun hall => hall, known_updateCampaigns fun v => ⟨rfl, rfl⟩⟩

lemma apply_refers (op : ReleaseOperation) (s : ReleaseStore) : Refers s (op.apply s) :=
  refers_of_applied (apply_applied op s)

lemma Intact.apply (hs : Intact s) (op : ReleaseOperation) : Intact (op.apply s) where
  releases := (apply_steps op s).unique_releases hs.releases
  campaigns := (apply_steps op s).unique_campaigns hs.campaigns
  channels := by
    rw [(apply_refers op s).channels]
    exact hs.channels
  referenced := (apply_refers op s).referenced hs.referenced

theorem Intact.runAll (hs : Intact s) (ops : List ReleaseOperation) : Intact (runAll ops s) := by
  induction ops generalizing s with
  | nil => exact hs
  | cons op ops ih => exact ih (hs.apply op)

section Answers
variable {α : Type} {P : α → Prop}

end Answers

end ForgeCustomer.ConflictingReplays
