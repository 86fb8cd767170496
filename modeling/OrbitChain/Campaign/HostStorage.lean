import OrbitChain.Campaign.Storage
import OrbitChain.Foundations.ExpiringStore

/-!
# Contract storage on the ledger

The accessors of `storage.rs` as the host runs them: keys of a persistent and a temporary store
whose entries expire. Every accessor of a persistent entry has its lifetime extended; only the
entries of the per-index milestone layout are read without. An archived entry fails the access, as
is assumed of the host (`Foundations.StoreHost`).

An accessor `Agrees` with a program on the storage of the contract, which knows of no lifetimes:
unless it meets an archived entry, it returns what the program returns and fails as it fails, and
it loses no entry and shortens no lifetime. `Storage` is what there is to see of the ledger
(`HostStorage.view`).

Not modelled here: the entries of the contract's instance and code, whose lifetimes no accessor of
`storage.rs` extends and without which no entrypoint runs.
-/

set_option autoImplicit false
set_option relaxedAutoImplicit false

namespace OrbitChain.Campaign

open Foundations

/-- Bump threshold: an entry with less than about 30 days left is extended. -/
def persistentBumpThreshold : ℕ := 518400

/-- An extended entry has about 60 days left. -/
def persistentBumpAmount : ℕ := 1036800

/-- Lifetime of temporary entries, about 7 days. -/
def temporaryTtl : ℕ := 120960

/-- The storage keys that the contract's entrypoints use. -/
inductive DataKey
  | campaignData
  | milestoneData (index : ℕ)
  | donorData (donor : Address)
  | totalRaised
  | assetRaised (token : Address)
  | donorAssetDonation (donor asset : Address)
  | donationCount
  | uniqueDonorCount
  | releaseCount
  | reentrancyLock
  | frozen
  | milestonesVec
  | blockedAsset (asset : Address)
  | cachedReport
  deriving DecidableEq

/-- What is stored under a key. -/
@[reducible] def DataKey.Value : DataKey → Type
  | .campaignData => CampaignData
  | .milestoneData _ => MilestoneData
  | .donorData _ => DonorRecord
  | .totalRaised | .assetRaised _ | .donorAssetDonation _ _ => ℤ
  | .donationCount | .uniqueDonorCount | .releaseCount => ℕ
  | .reentrancyLock | .frozen | .blockedAsset _ => Bool
  | .milestonesVec => List MilestoneData
  | .cachedReport => CampaignReport

/-- The entries of a contract on the ledger. -/
structure HostStorage where
  persistent : ExpiringStore DataKey.Value
  temporary : ExpiringStore DataKey.Value

/-- The host of a network, where the contract's extensions are within the limit. -/
structure Network extends StoreHost where
  amount_lt : persistentBumpAmount < maximum

/-- Why an access failed: the contract panicked, or the host refused it. -/
inductive Fault
  | contract (failure : Failure)
  | store (fault : StoreFault)
  deriving DecidableEq

/-- A program on the entries of a contract. -/
abbrev Accessor (α : Type) := StateT HostStorage (Except Fault) α

/-- A program on the storage without lifetimes. -/
abbrev StorageProgram (α : Type) := StateT Storage (Except Failure) α

namespace HostStorage

/-- A contract without entries. -/
def empty : HostStorage := ⟨fun _ ↦ none, fun _ ↦ none⟩

/-- What there is to see of the entries at a ledger. -/
def view (now : ℕ) (h : HostStorage) : Storage where
  campaignData := h.persistent.valueAt .campaignData
  milestoneData i := h.persistent.valueAt (.milestoneData i)
  milestonesVec := h.persistent.valueAt .milestonesVec
  donorData d := h.persistent.valueAt (.donorData d)
  totalRaised := h.persistent.valueAt .totalRaised
  assetRaised t := h.persistent.valueAt (.assetRaised t)
  donorAssetDonation d t := h.persistent.valueAt (.donorAssetDonation d t)
  donationCount := h.persistent.valueAt .donationCount
  uniqueDonorCount := h.persistent.valueAt .uniqueDonorCount
  releaseCount := h.persistent.valueAt .releaseCount
  frozen := h.persistent.valueAt .frozen
  blockedAsset t := h.persistent.valueAt (.blockedAsset t)
  cachedReport := h.persistent.valueAt .cachedReport
  reentrancyLock := (h.temporary .reentrancyLock).any fun entry ↦ now ≤ entry.liveUntil

end HostStorage

namespace Storage

/-- The entry of the storage under a persistent key. -/
def entry (s : Storage) : (key : DataKey) → Option key.Value
  | .campaignData => s.campaignData
  | .milestoneData i => s.milestoneData i
  | .donorData d => s.donorData d
  | .totalRaised => s.totalRaised
  | .assetRaised t => s.assetRaised t
  | .donorAssetDonation d t => s.donorAssetDonation d t
  | .donationCount => s.donationCount
  | .uniqueDonorCount => s.uniqueDonorCount
  | .releaseCount => s.releaseCount
  | .reentrancyLock => none
  | .frozen => s.frozen
  | .milestonesVec => s.milestonesVec
  | .blockedAsset t => s.blockedAsset t
  | .cachedReport => s.cachedReport

/-- Write the entry of the storage under a persistent key. -/
def write (s : Storage) : (key : DataKey) → key.Value → Storage
  | .campaignData, data => { s with campaignData := some data }
  | .milestoneData i, data =>
    { s with milestoneData := Function.update s.milestoneData i (some data) }
  | .donorData d, record => { s with donorData := Function.update s.donorData d (some record) }
  | .totalRaised, amount => { s with totalRaised := some amount }
  | .assetRaised t, amount =>
    { s with assetRaised := Function.update s.assetRaised t (some amount) }
  | .donorAssetDonation d t, amount =>
    { s with
      donorAssetDonation := Function.update s.donorAssetDonation d
        (Function.update (s.donorAssetDonation d) t (some amount)) }
  | .donationCount, count => { s with donationCount := some count }
  | .uniqueDonorCount, count => { s with uniqueDonorCount := some count }
  | .releaseCount, count => { s with releaseCount := some count }
  | .reentrancyLock, _ => s
  | .frozen, frozen => { s with frozen := some frozen }
  | .milestonesVec, v => { s with milestonesVec := some v }
  | .blockedAsset t, blocked =>
    { s with blockedAsset := Function.update s.blockedAsset t (some blocked) }
  | .cachedReport, report => { s with cachedReport := some report }

end Storage

namespace HostStorage

variable {now : ℕ} {h : HostStorage} {key : DataKey}

/-- The persistent entries are seen under their keys. -/
theorem entry_view (hkey : key ≠ .reentrancyLock) :
    (h.view now).entry key = h.persistent.valueAt key := by
  cases key with
  | reentrancyLock => exact absurd rfl hkey
  | _ => rfl

/-- A program that keeps the values of the persistent entries changes nothing that is seen. -/
theorem view_congr {persistent : ExpiringStore DataKey.Value}
    (hvalues : persistent.valueAt = h.persistent.valueAt) :
    HostStorage.view now { h with persistent := persistent } = h.view now := by
  unfold view
  rw [hvalues]

/-- An update at a pair is an update of the row of its first component. -/
theorem update_donorAssetDonation (values : (key : DataKey) → Option key.Value) (d t : Address)
    (value : Option (DataKey.Value (.donorAssetDonation d t))) :
    (fun d' t' ↦ Function.update values (.donorAssetDonation d t) value
      (.donorAssetDonation d' t')) =
      Function.update (fun d' t' ↦ values (.donorAssetDonation d' t')) d
        (Function.update (fun t' ↦ values (.donorAssetDonation d t')) t value) := by
  funext other
  by_cases hother : other = d
  · subst hother
    rw [Function.update_self]
    exact Function.update_comp_eq_of_injective' values (fun _ _ hij ↦ by simpa using hij) t value
  · rw [Function.update_of_ne hother]
    exact Function.update_comp_eq_of_forall_ne' values value fun t' hkeys ↦
      hother (DataKey.donorAssetDonation.inj hkeys).1

/-- Values of other keys are seen as before a write, and the written one as written. -/
theorem view_update {persistent : ExpiringStore DataKey.Value} {value : key.Value}
    (hkey : key ≠ .reentrancyLock)
    (hvalues : persistent.valueAt = Function.update h.persistent.valueAt key (some value)) :
    HostStorage.view now { h with persistent := persistent } = (h.view now).write key value := by
  unfold view
  rw [hvalues]
  cases key with
  | reentrancyLock => exact absurd rfl hkey
  | milestoneData i | donorData i | assetRaised i | blockedAsset i =>
    ext1 <;> try rfl
    exact Function.update_comp_eq_of_injective' _ (fun _ _ hij ↦ by simpa using hij) i _
  | donorAssetDonation d t =>
    ext1 <;> try rfl
    exact update_donorAssetDonation _ d t _
  | _ => rfl

end HostStorage

/-! ### Host functions -/

namespace Accessor

variable {α : Type} (net : Network) (now : ℕ)

/-- Panic. -/
def fail (failure : Failure) : Accessor α := fun _ ↦ .error (.contract failure)

/-- Go on with a value or panic. -/
def orFail (value : Option α) (failure : Failure) : Accessor α :=
  match value with
  | some a => pure a
  | none => fail failure

def has (key : DataKey) : Accessor Bool := fun h ↦ do
  let found ←
    (ExpiringStore.has net.toStoreHost .persistent now h.persistent key).mapError .store
  pure (found, h)

def get (key : DataKey) : Accessor (Option key.Value) := fun h ↦ do
  let value ←
    (ExpiringStore.get net.toStoreHost .persistent now h.persistent key).mapError .store
  pure (value, h)

def set (key : DataKey) (value : key.Value) : Accessor Unit := fun h ↦ do
  let persistent ←
    (ExpiringStore.set net.toStoreHost .persistent now h.persistent key value).mapError .store
  pure ((), { h with persistent := persistent })

def extendTtl (key : DataKey) (threshold extendTo : ℕ) : Accessor Unit := fun h ↦ do
  let persistent ← (ExpiringStore.extendTtl net.toStoreHost .persistent now h.persistent key
    threshold extendTo).mapError .store
  pure ((), { h with persistent := persistent })

/-- Extend the lifetime of an entry below the threshold, if there is one. -/
def bumpPersistent (key : DataKey) : Accessor Unit := do
  if ← has net now key then extendTtl net now key persistentBumpThreshold persistentBumpAmount

/-- Load an entry and extend its lifetime. -/
def load (key : DataKey) : Accessor (Option key.Value) := do
  match ← get net now key with
  | none => pure none
  | some value => do
    bumpPersistent net now key
    pure (some value)

/-- Load an entry or a default, and extend the lifetime. -/
def loadOr (key : DataKey) (default : key.Value) : Accessor key.Value := do
  let value ← get net now key
  bumpPersistent net now key
  pure (value.getD default)

/-- Write an entry and extend its lifetime. -/
def store (key : DataKey) (value : key.Value) : Accessor Unit := do
  set net now key value
  bumpPersistent net now key

end Accessor

/-! ### Agreement with the storage without lifetimes -/

/-- What a program may do on the entries at a ledger, where it does something known on the
storage. -/
inductive Conforms {α : Type} (now : ℕ) (h : HostStorage) (known : Except Failure (α × Storage)) :
    Except Fault (α × HostStorage) → Prop
  | ok {a : α} {next : HostStorage} (result : known = .ok (a, next.view now))
      (prolongs : ExpiringStore.Prolongs (now + persistentBumpThreshold) h.persistent
        next.persistent) : Conforms now h known (.ok (a, next))
  | failed {failure : Failure} (result : known = .error failure) :
      Conforms now h known (.error (.contract failure))
  | archived {key : DataKey} {entry : Stored key.Value} (stored : h.persistent key = some entry)
      (ended : entry.liveUntil < now) : Conforms now h known (.error (.store .archived))

/-- Unless it meets an archived entry, an accessor does what a program does on the storage. -/
def Agrees {α : Type} (now : ℕ) (m : Accessor α) (p : StorageProgram α) : Prop :=
  ∀ h, Conforms now h (p (h.view now)) (m h)

section Agreement

variable {α β : Type} {net : Network} {now : ℕ} {h next : HostStorage} {key : DataKey}

/-- What conforms after entries were prolonged conforms before. -/
theorem Conforms.of_prolongs {known : Except Failure (α × Storage)}
    {result : Except Fault (α × HostStorage)}
    (hprolongs : ExpiringStore.Prolongs (now + persistentBumpThreshold) h.persistent
      next.persistent) (hresult : Conforms now next known result) :
    Conforms now h known result := by
  cases hresult with
  | ok hknown hrest => exact .ok hknown (hprolongs.trans hrest)
  | failed hknown => exact .failed hknown
  | archived hstored hended =>
    rcases hprolongs.created hstored with hnew | ⟨entry, hentry, hle⟩
    · omega
    · exact .archived hentry (by omega)

/-! ### Extensions and writes -/

/-- The entry as an extension leaves it. -/
def bumped (net : Network) (now : ℕ) {key : DataKey} (entry : Stored key.Value) :
    Stored key.Value :=
  ⟨entry.value,
    net.extended now entry.liveUntil persistentBumpThreshold persistentBumpAmount⟩

theorem le_bumped (entry : Stored key.Value) :
    entry.liveUntil ≤ (bumped net now entry).liveUntil :=
  net.le_extended ..

/-- After an extension at least the threshold remains. -/
theorem add_le_bumped {entry : Stored key.Value} (hlive : now ≤ entry.liveUntil) :
    now + persistentBumpThreshold ≤ (bumped net now entry).liveUntil :=
  net.add_le_extended hlive (by decide)
    ((show persistentBumpThreshold < persistentBumpAmount by decide).trans net.amount_lt)

/-- A bump extends the entry there is, if it is alive. -/
theorem bumpPersistent_cases (net : Network) (now : ℕ) (key : DataKey) (h : HostStorage) :
    (h.persistent key = none ∧ Accessor.bumpPersistent net now key h = .ok ((), h)) ∨
    (∃ entry, h.persistent key = some entry ∧ now ≤ entry.liveUntil ∧
      Accessor.bumpPersistent net now key h = .ok ((), { h with
        persistent := Function.update h.persistent key (some (bumped net now entry)) })) ∨
    ∃ entry, h.persistent key = some entry ∧ entry.liveUntil < now ∧
      Accessor.bumpPersistent net now key h = .error (.store .archived) := by
  cases hentry : h.persistent key with
  | none =>
    refine .inl ⟨rfl, ?_⟩
    simp [Accessor.bumpPersistent, Accessor.has, ExpiringStore.has, ExpiringStore.find, hentry,
      bind, StateT.bind, Except.bind, Except.mapError]
    rfl
  | some entry =>
    refine .inr ?_
    by_cases hlive : now ≤ entry.liveUntil
    · refine .inl ⟨entry, rfl, hlive, ?_⟩
      simp [Accessor.bumpPersistent, Accessor.has, Accessor.extendTtl, ExpiringStore.has,
        ExpiringStore.extendTtl, ExpiringStore.find, hentry, hlive, orFail, failIf, bumped, bind,
        StateT.bind, Except.bind, Except.mapError, pure, Except.pure]
    · refine .inr ⟨entry, rfl, not_le.mp hlive, ?_⟩
      simp [Accessor.bumpPersistent, Accessor.has, ExpiringStore.has, ExpiringStore.find, hentry,
        hlive, net.ended_persistent, bind, StateT.bind, Except.bind, Except.mapError]

/-- A write leaves its value, with a lifetime as long as before and extended, unless the entry is
archived. -/
theorem store_cases (net : Network) (now : ℕ) (key : DataKey) (value : key.Value)
    (h : HostStorage) :
    (∃ entry : Stored key.Value, entry.value = value ∧ now ≤ entry.liveUntil ∧
      (∀ old, h.persistent key = some old → old.liveUntil ≤ entry.liveUntil) ∧
      Accessor.store net now key value h = .ok ((), { h with
        persistent := Function.update h.persistent key (some (bumped net now entry)) })) ∨
    ∃ entry, h.persistent key = some entry ∧ entry.liveUntil < now ∧
      Accessor.store net now key value h = .error (.store .archived) := by
  have hstore (entry : Stored key.Value) (hlive : now ≤ entry.liveUntil)
      (hset : Accessor.set net now key value h = .ok ((), { h with
        persistent := Function.update h.persistent key (some entry) })) :
      Accessor.store net now key value h = .ok ((), { h with
        persistent := Function.update h.persistent key (some (bumped net now entry)) }) := by
    have hbump := bumpPersistent_cases net now key
      { h with persistent := Function.update h.persistent key (some entry) }
    simp only [Function.update_self, Function.update_idem, Option.some.injEq, reduceCtorEq,
      false_and, exists_eq_left', false_or, hlive, true_and, not_lt.mpr hlive, or_false] at hbump
    change (Accessor.set net now key value h >>= fun x ↦
      Accessor.bumpPersistent net now key x.2) = _
    rw [hset]
    exact hbump
  cases hentry : h.persistent key with
  | none =>
    have hlive := net.le_created .persistent now
    refine .inl ⟨⟨value, net.created .persistent now⟩, rfl, hlive, by simp, hstore _ hlive ?_⟩
    simp [Accessor.set, ExpiringStore.set, ExpiringStore.find, hentry, bind, Except.bind,
      Except.mapError, Pure.pure, Except.pure]
  | some old =>
    by_cases hlive : now ≤ old.liveUntil
    · refine .inl ⟨⟨value, old.liveUntil⟩, rfl, hlive, by simp, hstore _ hlive ?_⟩
      simp [Accessor.set, ExpiringStore.set, ExpiringStore.find, hentry, hlive, bind, Except.bind,
        Except.mapError, Pure.pure, Except.pure]
    · refine .inr ⟨old, rfl, not_le.mp hlive, ?_⟩
      simp [Accessor.store, Accessor.set, ExpiringStore.set, ExpiringStore.find, hentry, hlive,
        net.ended_persistent, bind, StateT.bind, Except.bind, Except.mapError]

namespace Agrees

theorem pure (a : α) : Agrees now (pure a) (pure a) :=
  fun _ ↦ .ok rfl (.refl _ _)

theorem fail (failure : Failure) :
    Agrees now (Accessor.fail failure : Accessor α) (fun _ ↦ .error failure) :=
  fun _ ↦ .failed rfl

theorem bind {m : Accessor α} {p : StorageProgram α} {f : α → Accessor β}
    {g : α → StorageProgram β} (hm : Agrees now m p) (hf : ∀ a, Agrees now (f a) (g a)) :
    Agrees now (m >>= f) (p >>= g) := by
  intro h
  have hfirst := hm h
  change Conforms now h (p (h.view now) >>= fun x ↦ g x.1 x.2) (m h >>= fun x ↦ f x.1 x.2)
  revert hfirst
  generalize m h = result
  intro hfirst
  cases hfirst with
  | ok hknown hprolongs =>
    rw [hknown]
    exact (hf _ _).of_prolongs hprolongs
  | failed hknown =>
    rw [hknown]
    exact .failed rfl
  | archived hstored hended => exact .archived hstored hended

/-- Programs that do the same on every storage are the same to an accessor. -/
theorem congr {m : Accessor α} {p q : StorageProgram α} (hm : Agrees now m p)
    (hsame : ∀ s, p s = q s) : Agrees now m q :=
  fun h ↦ hsame (h.view now) ▸ hm h

/-- A program that goes on with a checked value or panics. -/
theorem checked {value : Option β} {failure : Failure} {m : β → Accessor α}
    {p : β → StorageProgram α} (hm : ∀ b, Agrees now (m b) (p b)) :
    Agrees now (Accessor.orFail value failure >>= m)
      fun s ↦ orFail value failure >>= fun b ↦ p b s := by
  cases value with
  | none => exact fun _ ↦ .failed rfl
  | some b => exact hm b

/-- A write that is refused under a condition. -/
theorem refused {c : Prop} [Decidable c] {failure : Failure} {m : Accessor α}
    {p : StorageProgram α} (hm : Agrees now m p) :
    Agrees now (if c then Accessor.fail failure else m)
      fun s ↦ failIf c failure >>= fun _ ↦ p s := by
  by_cases hc : c
  · rw [if_pos hc]
    exact (fail failure).congr fun s ↦ by simp [failIf, hc, Bind.bind, Except.bind]
  · rw [if_neg hc]
    exact hm.congr fun s ↦ by simp [failIf, hc]

theorem ite {c : Prop} [Decidable c] {m m' : Accessor α} {p p' : StorageProgram α}
    (hm : Agrees now m p) (hm' : Agrees now m' p') :
    Agrees now (if c then m else m') (if c then p else p') := by
  split_ifs
  · exact hm
  · exact hm'

/-- Reading an entry reads the storage. -/
theorem get (net : Network) (key : DataKey) (hkey : key ≠ .reentrancyLock) :
    Agrees now (Accessor.get net now key) fun s ↦ .ok (s.entry key, s) := by
  intro h
  unfold Accessor.get ExpiringStore.get
  rcases ExpiringStore.find_persistent net.toStoreHost now h.persistent key with hfound |
    ⟨hfailed, entry, hentry, hended⟩
  · rw [hfound]
    exact .ok (congrArg (fun value ↦ Except.ok (value, h.view now)) (HostStorage.entry_view hkey))
      (.refl _ _)
  · rw [hfailed]
    exact .archived hentry hended

theorem has (net : Network) (key : DataKey) (hkey : key ≠ .reentrancyLock) :
    Agrees now (Accessor.has net now key) fun s ↦ .ok ((s.entry key).isSome, s) := by
  intro h
  unfold Accessor.has ExpiringStore.has
  rcases ExpiringStore.find_persistent net.toStoreHost now h.persistent key with hfound |
    ⟨hfailed, entry, hentry, hended⟩
  · rw [hfound]
    refine .ok ?_ (.refl _ _)
    change Except.ok (((h.view now).entry key).isSome, h.view now) = _
    rw [HostStorage.entry_view hkey, ExpiringStore.valueAt, Option.isSome_map]
  · rw [hfailed]
    exact .archived hentry hended

/-- Extending a lifetime changes nothing that is seen. -/
theorem bumpPersistent (net : Network) (key : DataKey) :
    Agrees now (Accessor.bumpPersistent net now key) (Pure.pure ()) := by
  intro h
  rcases bumpPersistent_cases net now key h with ⟨-, hrun⟩ | ⟨entry, hentry, hlive, hrun⟩ |
    ⟨entry, hentry, hended, hrun⟩
  · rw [hrun]
    exact .ok rfl (.refl _ _)
  · rw [hrun]
    have hvalues : ExpiringStore.valueAt (Function.update h.persistent key
        (some (bumped net now entry))) = h.persistent.valueAt :=
      ExpiringStore.valueAt_update_self hentry _
    refine .ok ?_ (.update (add_le_bumped hlive) fun old hold ↦ ?_)
    · rw [HostStorage.view_congr hvalues]
      rfl
    · obtain rfl : entry = old := Option.some.inj (hentry.symm.trans hold)
      exact le_bumped entry
  · rw [hrun]
    exact .archived hentry hended

/-- Writing an entry writes the storage. -/
theorem store (net : Network) (key : DataKey) (hkey : key ≠ .reentrancyLock) (value : key.Value) :
    Agrees now (Accessor.store net now key value) fun s ↦ .ok ((), s.write key value) := by
  intro h
  rcases store_cases net now key value h with ⟨entry, hvalue, hlive, hlonger, hrun⟩ |
    ⟨entry, hentry, hended, hrun⟩
  · rw [hrun]
    refine .ok ?_ (.update (add_le_bumped hlive) fun old hold ↦
      (hlonger old hold).trans (le_bumped entry))
    rw [HostStorage.view_update hkey (ExpiringStore.valueAt_update ..), bumped, hvalue]
  · rw [hrun]
    exact .archived hentry hended

theorem load (net : Network) (key : DataKey) (hkey : key ≠ .reentrancyLock) :
    Agrees now (Accessor.load net now key) fun s ↦ .ok (s.entry key, s) := by
  refine (bind (get net key hkey) (g := Pure.pure) fun value ↦ ?_).congr fun s ↦ rfl
  cases value with
  | none => exact pure none
  | some value => exact (bind (bumpPersistent net key) fun _ ↦ pure (some value)).congr fun s ↦ rfl

theorem loadOr (net : Network) (key : DataKey) (hkey : key ≠ .reentrancyLock)
    (default : key.Value) :
    Agrees now (Accessor.loadOr net now key default)
      fun s ↦ .ok ((s.entry key).getD default, s) :=
  (bind (get net key hkey) fun value ↦
    bind (bumpPersistent net key) fun _ ↦ pure (value.getD default)).congr
    fun _ ↦ rfl

end Agrees

end Agreement

end OrbitChain.Campaign
