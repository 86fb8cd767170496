import OrbitChain.Campaign.Administration
import OrbitChain.Campaign.Custody

/-!
# Blocked assets

A donation checks the block flag of the token its asset resolves to, and of no other, after it has
written the campaign record and the total; the writes are rolled back when the flag is set. While a
token is blocked nothing more of it is recorded, under whichever asset it is offered. A donation of
another token runs the same with the flag set as without: `donate` on a storage whose flag was
changed is `donate` on the storage before, with the flag changed in the result.
-/

set_option autoImplicit false
set_option relaxedAutoImplicit false

namespace OrbitChain.Campaign

open Foundations

/-! ### The block flag of one token -/

/-- The storage with the block flag of a token set to a value, or taken away. -/
def Storage.withBlockFlag (s : Storage) (asset : Address) (flag : Option Bool) : Storage :=
  { s with blockedAsset := Function.update s.blockedAsset asset flag }

/-- The world with the block flag of a token set to a value, or taken away. -/
def World.withBlockFlag (w : World) (asset : Address) (flag : Option Bool) : World :=
  { w with storage := w.storage.withBlockFlag asset flag }

namespace Storage

section BlockFlag

variable (s : Storage) (asset : Address) (flag : Option Bool)

/-- The flags of other tokens are read as before. -/
theorem isAssetBlocked_withBlockFlag_of_ne {token : Address} (hne : token ≠ asset) :
    (s.withBlockFlag asset flag).isAssetBlocked token = s.isAssetBlocked token := by
  show (Function.update s.blockedAsset asset flag token).getD false = s.isAssetBlocked token
  rw [Function.update_of_ne hne]
  rfl

theorem acquireLock_withBlockFlag : (s.withBlockFlag asset flag).acquireLock =
    (withBlockFlag · asset flag) <$> s.acquireLock :=
  bind_eq_map_bind_same rfl fun _ _ ↦ rfl

theorem setTotalRaised_withBlockFlag (amount : ℤ) :
    (s.withBlockFlag asset flag).setTotalRaised amount =
      (withBlockFlag · asset flag) <$> s.setTotalRaised amount :=
  bind_eq_map_bind_same rfl fun _ _ ↦ rfl

theorem incrementAssetRaised_withBlockFlag (token : Address) (delta : ℤ) :
    (s.withBlockFlag asset flag).incrementAssetRaised token delta =
      (withBlockFlag · asset flag) <$> s.incrementAssetRaised token delta :=
  bind_eq_map_bind_same rfl fun _ _ ↦ bind_eq_map_bind_same rfl fun _ _ ↦
    bind_eq_map_bind_same rfl fun _ _ ↦ rfl

theorem incrementDonorAssetDonation_withBlockFlag (donor token : Address) (amount : ℤ) :
    (s.withBlockFlag asset flag).incrementDonorAssetDonation donor token amount =
      (withBlockFlag · asset flag) <$> s.incrementDonorAssetDonation donor token amount :=
  bind_eq_map_bind_same rfl fun _ _ ↦ rfl

theorem countDonation_withBlockFlag (isNewDonor : Bool) :
    CampaignContract.countDonation (s.withBlockFlag asset flag) isNewDonor =
      (withBlockFlag · asset flag) <$> CampaignContract.countDonation s isNewDonor := by
  have hcounted : (s.withBlockFlag asset flag).incrementDonationCount =
      (withBlockFlag · asset flag) <$> s.incrementDonationCount :=
    bind_eq_map_bind_same rfl fun _ _ ↦ rfl
  refine bind_eq_map_bind hcounted fun counted _ ↦ ?_
  cases isNewDonor with
  | false => rfl
  | true => exact bind_eq_map_bind_same rfl fun _ _ ↦ rfl

theorem refreshReportCache_withBlockFlag :
    refreshReportCache (s.withBlockFlag asset flag) =
      (withBlockFlag · asset flag) <$> refreshReportCache s := by
  have hfound : (s.withBlockFlag asset flag).getCampaign = s.getCampaign := rfl
  unfold refreshReportCache
  rw [hfound]
  cases s.getCampaign with
  | none => rfl
  | some campaign => exact bind_eq_map_bind_same rfl fun _ _ ↦ rfl

theorem unlockMilestonesBatch_withBlockFlag (raised : ℤ) :
    (s.withBlockFlag asset flag).unlockMilestonesBatch raised =
      ((s.unlockMilestonesBatch raised).1.withBlockFlag asset flag,
        (s.unlockMilestonesBatch raised).2) := by
  have hvec : (s.withBlockFlag asset flag).getMilestonesVec = s.getMilestonesVec := rfl
  unfold unlockMilestonesBatch
  rw [hvec]
  dsimp only
  split_ifs <;> rfl

end BlockFlag

end Storage

/-! ### Donations of other tokens -/

/-- A donation that does not resolve to a token runs the same whatever the flag of that token. -/
theorem CampaignContract.donate_withBlockFlag {env : Env} {donor : Address} {amount : ℤ}
    {info : AssetInfo} {w : World} {asset : Address}
    (hother : w.storage.resolvedToken info ≠ some asset) (flag : Option Bool) :
    donate env donor amount info (w.withBlockFlag asset flag) =
      (World.withBlockFlag · asset flag) <$> donate env donor amount info w := by
  unfold donate
  refine bind_eq_map_bind (w.storage.acquireLock_withBlockFlag asset flag) fun s hlock ↦ ?_
  refine bind_eq_map_bind_same rfl fun campaign hcampaign ↦ ?_
  refine bind_eq_map_bind_same rfl fun _ _ ↦ ?_
  refine bind_eq_map_bind_same rfl fun _ _ ↦ ?_
  refine bind_eq_map_bind_same rfl fun _ _ ↦ ?_
  refine bind_eq_map_bind_same rfl fun _ _ ↦ ?_
  refine bind_eq_map_bind_same rfl fun _ _ ↦ ?_
  refine bind_eq_map_bind_same rfl fun raised _ ↦ ?_
  refine bind_eq_map_bind_same rfl fun total _ ↦ ?_
  refine bind_eq_map_bind ((s.setCampaign (campaign.withRaised raised)).setTotalRaised_withBlockFlag
    asset flag total) fun s₁ _ ↦ ?_
  refine bind_eq_map_bind_same rfl fun token hresolved ↦ ?_
  -- the only flag that is read is the one of the resolved token
  have hne : token ≠ asset := by
    rintro rfl
    obtain ⟨-, rfl⟩ := Storage.acquireLock_eq_ok_iff.mp hlock
    have hfound : w.storage.campaignData = some campaign := orFail_eq_ok_iff.mp hcampaign
    exact hother (resolvedToken_eq_some hfound hresolved)
  have hcheck := s₁.isAssetBlocked_withBlockFlag_of_ne asset flag hne
  refine bind_eq_map_bind_same (by simp only [hcheck]) fun _ _ ↦ ?_
  refine bind_eq_map_bind (s₁.incrementAssetRaised_withBlockFlag asset flag token amount)
    fun s₂ _ ↦ ?_
  refine bind_eq_map_bind
    (s₂.incrementDonorAssetDonation_withBlockFlag asset flag donor token amount) fun s₃ _ ↦ ?_
  refine bind_eq_map_bind_same rfl fun record _ ↦ ?_
  refine bind_eq_map_bind ((s₃.setDonor donor record).countDonation_withBlockFlag asset flag _)
    fun s₄ _ ↦ ?_
  simp only [Storage.unlockMilestonesBatch_withBlockFlag]
  exact bind_eq_map_bind (Storage.refreshReportCache_withBlockFlag _ asset flag) fun _ _ ↦ rfl

theorem exec_donate_withBlockFlag {host : Host} {inv : Invocation} {donor : Address} {amount : ℤ}
    {info : AssetInfo} (hcall : inv.call = .donate donor amount info) {w : World}
    {asset : Address} (hother : w.storage.resolvedToken info ≠ some asset) (flag : Option Bool) :
    (chain host).exec (.invoke inv) (w.withBlockFlag asset flag) =
      (World.withBlockFlag · asset flag) <$> (chain host).exec (.invoke inv) w := by
  refine bind_eq_map_bind_same rfl fun _ _ ↦ ?_
  rw [hcall]
  exact CampaignContract.donate_withBlockFlag hother flag

/-! ### While a token is blocked -/

/-- The call unblocks a token. -/
def Call.unblocks (asset : Address) : Call → Bool
  | .unblockAsset other => other = asset
  | _ => false

/-- No more of a token is recorded than before. -/
structure HeldBack (asset : Address) (s s' : Storage) : Prop where
  raised_le : s'.getAssetRaised asset ≤ s.getAssetRaised asset
  given_eq : ∀ donor, s'.getDonorAssetDonation donor asset = s.getDonorAssetDonation donor asset

namespace HeldBack

variable {asset : Address} {s s' s'' : Storage}

theorem of_eq (hraised : s'.assetRaised = s.assetRaised)
    (hgiven : s'.donorAssetDonation = s.donorAssetDonation) : HeldBack asset s s' where
  raised_le := by rw [Storage.getAssetRaised, Storage.getAssetRaised, hraised]
  given_eq donor := by rw [Storage.getDonorAssetDonation, Storage.getDonorAssetDonation, hgiven]

theorem trans (h : HeldBack asset s s') (h' : HeldBack asset s' s'') : HeldBack asset s s'' where
  raised_le := h'.raised_le.trans h.raised_le
  given_eq donor := (h'.given_eq donor).trans (h.given_eq donor)

end HeldBack

/-- A donation records nothing of other tokens. -/
theorem heldBack_of_donated {env : Env} {donor : Address} {amount : ℤ} {info : AssetInfo}
    {w next : World} {campaign : CampaignData} {token asset : Address}
    (h : CampaignContract.Donated env donor amount info w next campaign token)
    (hne : asset ≠ token) : HeldBack asset w.storage next.storage where
  raised_le := by
    rw [Storage.getAssetRaised, h.assetRaised, Function.update_of_ne hne]
    rfl
  given_eq giver := by
    rw [Storage.getDonorAssetDonation, h.donorAssetDonation]
    by_cases hgiver : giver = donor
    · rw [hgiver, Function.update_self, Function.update_of_ne hne]
      rfl
    · rw [Function.update_of_ne hgiver]
      rfl

/-- A release in all assets lowers what is recorded. -/
theorem heldBack_of_multiReleased {env : Env} {index : ℕ} {recipient : Address} {w next : World}
    {campaign : CampaignData} {milestone : MilestoneData}
    (h : MultiAssetRelease.Released env index recipient w next campaign milestone)
    (asset : Address) : HeldBack asset w.storage next.storage := by
  obtain ⟨report, -, hstorage⟩ := h.storage
  constructor
  · have hnonneg : ∀ x ∈ MultiAssetRelease.milestonePayments w.storage campaign milestone,
        0 ≤ x.2 := fun x hx ↦ zero_le_one.trans (MultiAssetRelease.releasePayments_pos x hx)
    rw [Storage.getAssetRaised, hstorage]
    dsimp only
    rw [MultiAssetRelease.deductAll_getD]
    exact sub_le_self _ (paidIn_nonneg hnonneg asset)
  · intro donor
    rw [hstorage]
    rfl

/-- No step records more of a blocked token. -/
theorem Step.heldBack {host : Host} {action : Action} {w next : World}
    (h : Step host action w next) {asset : Address}
    (hblocked : w.storage.isAssetBlocked asset = true) :
    HeldBack asset w.storage next.storage := by
  cases h with
  | transferred _ _ hstorage => exact .of_eq (by rw [hstorage]) (by rw [hstorage])
  | initialized _ _ hempty _ =>
    rw [hempty] at hblocked
    exact absurd hblocked Bool.false_ne_true
  | donated _ _ h =>
    apply heldBack_of_donated h
    rintro rfl
    exact absurd (h.not_blocked.symm.trans hblocked) Bool.false_ne_true
  | claimed _ _ h | released _ _ h =>
    obtain ⟨report, -, hstorage⟩ := h.storage
    exact .of_eq (by rw [hstorage]) (by rw [hstorage])
  | multiReleased _ _ h => exact heldBack_of_multiReleased h asset
  | administered _ _ h =>
    obtain ⟨frozen, blocked, report, hstorage⟩ := h.storage
    exact .of_eq (by rw [hstorage]) (by rw [hstorage])

/-- A flag call other than the unblocking of a token leaves the token blocked. -/
theorem Call.isAssetBlocked_flagged {call : Call} {s : Storage} {asset : Address}
    (hkept : call.unblocks asset = false) (hblocked : s.isAssetBlocked asset = true) :
    (call.flagged s).isAssetBlocked asset = true := by
  cases call with
  | blockAsset other =>
    show ((Function.update s.blockedAsset other (some true)) asset).getD false = true
    by_cases hother : asset = other
    · rw [hother, Function.update_self]
      rfl
    · rw [Function.update_of_ne hother]
      exact hblocked
  | unblockAsset other =>
    show ((Function.update s.blockedAsset other (some false)) asset).getD false = true
    have hother : asset ≠ other := fun heq ↦ of_decide_eq_false hkept heq.symm
    rw [Function.update_of_ne hother]
    exact hblocked
  | _ => exact hblocked

section Standard

variable {contract : Address} {overflowChecks : Bool} {ledger : Ledger Address Address}
  {wasmHash : BitVec 256} {history : List (Receipt Action World)} {w next : World}
  {asset : Address}

/-- A blocked token stays blocked until it is unblocked. -/
theorem isAssetBlocked_of_exec {action : Action} (huntouched : Untouched w.storage)
    (hexec : (chain (standardHost contract overflowChecks)).exec action w = .ok next)
    (hkept : action.invokes (Call.unblocks asset) = false)
    (hblocked : w.storage.isAssetBlocked asset = true) :
    next.storage.isAssetBlocked asset = true := by
  have hsame (h : next.storage.blockedAsset = w.storage.blockedAsset) :
      next.storage.isAssetBlocked asset = true := by
    rw [Storage.isAssetBlocked, h]
    exact hblocked
  cases step_of_exec huntouched hexec with
  | transferred _ _ hstorage => exact hsame (by rw [hstorage])
  | initialized _ _ hempty _ =>
    rw [hempty] at hblocked
    exact absurd hblocked Bool.false_ne_true
  | donated _ _ h => exact hsame h.blockedAsset
  | claimed _ _ h | released _ _ h | multiReleased _ _ h =>
    obtain ⟨report, -, hstorage⟩ := h.storage
    exact hsame (by rw [hstorage])
  | administered _ hadministrative _ =>
    obtain ⟨campaign, h | h⟩ := CampaignContract.flagged_or_amended hadministrative
      (exec_invoke_eq_ok_iff.mp hexec).2
    · rw [h.storage]
      exact Call.isAssetBlocked_flagged hkept hblocked
    · obtain ⟨report, -, hstorage⟩ := h.storage
      exact hsame (by rw [hstorage])

/-- Along a run that does not unblock a token, it stays blocked and no more of it is recorded. -/
theorem heldBack_of_run {since : List (Receipt Action World)} {w' : World}
    (more : Run (chain (standardHost contract overflowChecks)) w since w')
    (huntouched : Untouched w.storage) (hblocked : w.storage.isAssetBlocked asset = true)
    (hkept : ∀ r ∈ since, r.label.invokes (Call.unblocks asset) = false) :
    Untouched w'.storage ∧ w'.storage.isAssetBlocked asset = true ∧
      HeldBack asset w.storage w'.storage := by
  refine more.invariant (I := fun since w' ↦
    (∀ r ∈ since, r.label.invokes (Call.unblocks asset) = false) →
      Untouched w'.storage ∧ w'.storage.isAssetBlocked asset = true ∧
        HeldBack asset w.storage w'.storage) ?_ ?_ hkept
  · exact fun _ ↦ ⟨huntouched, hblocked, .of_eq rfl rfl⟩
  · intro since state action next _ ih hexec hkept
    obtain ⟨hfirst, hrest⟩ := List.forall_mem_cons.mp hkept
    obtain ⟨huntouched, hblocked, hheld⟩ := ih hrest
    have hstep := step_of_exec huntouched hexec
    exact ⟨hstep.untouched huntouched,
      isAssetBlocked_of_exec huntouched hexec hfirst hblocked,
      hheld.trans (hstep.heldBack hblocked)⟩

/-- A donation that resolves to a blocked token fails. -/
theorem donate_fails_of_blocked {inv : Invocation} {donor : Address} {amount : ℤ}
    {info : AssetInfo} (hcall : inv.call = .donate donor amount info)
    (huntouched : Untouched w.storage) (hblocked : w.storage.isAssetBlocked asset = true)
    (hresolved : w.storage.resolvedToken info = some asset) :
    (chain (standardHost contract overflowChecks)).exec (.invoke inv) w ≠ .ok next := by
  intro hexec
  obtain ⟨campaign, token, h⟩ := (step_of_exec huntouched hexec).of_donate hcall
  obtain rfl := Option.some.inj ((resolvedToken_eq_some h.found h.resolved).symm.trans hresolved)
  exact absurd (h.not_blocked.symm.trans hblocked) Bool.false_ne_true

/-- From every reachable state in which a token is blocked: until it is unblocked every donation
that resolves to it fails, and no run raises what is recorded of it, in all or from a donor; and a
donation that resolves to another token runs exactly as it would with the flag taken away or set to
anything else. -/
theorem asset_blocking_exact
    (run : CampaignRun contract overflowChecks ledger wasmHash history w)
    (hblocked : w.storage.isAssetBlocked asset = true) :
    (∀ since w', Run (chain (standardHost contract overflowChecks)) w since w' →
      (∀ r ∈ since, r.label.invokes (Call.unblocks asset) = false) →
      HeldBack asset w.storage w'.storage ∧
        ∀ inv donor amount info, inv.call = .donate donor amount info →
          w'.storage.resolvedToken info = some asset → ∀ next,
          (chain (standardHost contract overflowChecks)).exec (.invoke inv) w' ≠ .ok next) ∧
    ∀ inv donor amount info, inv.call = .donate donor amount info →
      w.storage.resolvedToken info ≠ some asset → ∀ flag,
      (chain (standardHost contract overflowChecks)).exec (.invoke inv)
          (w.withBlockFlag asset flag) =
        (World.withBlockFlag · asset flag) <$>
          (chain (standardHost contract overflowChecks)).exec (.invoke inv) w := by
  refine ⟨fun since w' more hkept ↦ ?_, fun inv donor amount info hcall hother flag ↦
    exec_donate_withBlockFlag hcall hother flag⟩
  obtain ⟨huntouched, hstill, hheld⟩ :=
    heldBack_of_run more (CampaignRun.untouched run) hblocked hkept
  exact ⟨hheld, fun inv donor amount info hcall hresolved next ↦
    donate_fails_of_blocked hcall huntouched hstill hresolved⟩

end Standard

/-- One of two accepted tokens is blocked after a donation in it. -/
def Sample.blockedToken : List Action :=
  [Sample.opening [⟨"XLM", some Sample.token⟩, ⟨"USDC", some (.contract 11)⟩]
      [Sample.milestone 1000] 1000,
    Sample.giving Sample.donor 100 Sample.token,
    Sample.call Sample.creator (.blockAsset Sample.token)]

/-- A donor then offers the blocked token as the native asset, which fails, and another gives in
the other token, which goes on as if nothing were blocked. -/
theorem asset_blocking_exact_blockedToken :
    HeldBack Sample.token (Sample.reached Sample.blockedToken).storage
      ((chain (standardHost Sample.contract true)).replay
        [Sample.call Sample.donor (.donate Sample.donor 50 .native)]
        (Sample.reached Sample.blockedToken)).2.storage ∧
    (chain (standardHost Sample.contract true)).exec
        (Sample.giving Sample.secondDonor 50 (.contract 11))
        ((Sample.reached Sample.blockedToken).withBlockFlag Sample.token none) =
      (World.withBlockFlag · Sample.token none) <$>
        (chain (standardHost Sample.contract true)).exec
          (Sample.giving Sample.secondDonor 50 (.contract 11))
          (Sample.reached Sample.blockedToken) := by
  obtain ⟨hheld, hother⟩ := @asset_blocking_exact _ _ _ _ _ _ Sample.token
    (Sample.run Sample.blockedToken) (by decide +kernel)
  exact ⟨(hheld _ _ (System.run_replay _ _ _) (by decide +kernel)).1,
    hother _ _ _ _ rfl (by decide +kernel) none⟩

end OrbitChain.Campaign
