import OrbitChain.Foundations.ItemLoops
import OrbitChain.Tools.Deploy
import Mathlib.Data.List.Induction

/-!
# The grammar of the deploy arguments

The arguments are a list of items: flags, options with a value, and words that name the network.
The parser is a loop that reads such items (`readsItems`), each an update of the arguments, and
only a word is guarded: it must come before every item that gives the network. A second network is
therefore rejected when a word follows a network, and otherwise the last network of the line is
taken (`followsGrammar_iff`).
-/

set_option autoImplicit false
set_option relaxedAutoImplicit false

namespace OrbitChain.Tools.Deploy

open Foundations

/-! ### Items -/

/-- A word that is no flag. -/
abbrev Word := { text : String // ¬ startsWithDash text }

/-- One item of the arguments. -/
inductive Item
  | longHelp
  | shortHelp
  | force
  | network (value : String)
  | wasm (path : String)
  | positional (word : Word)
  deriving DecidableEq

namespace Item

/-- The arguments that an item is written with. -/
def spell : Item → List String
  | longHelp => ["--help"]
  | shortHelp => ["-h"]
  | force => ["--force"]
  | network value => ["--network", value]
  | wasm path => ["--wasm", path]
  | positional word => [word.val]

/-- The network that an item gives, in either form. -/
def givenNetwork : Item → Option String
  | network value => some value
  | positional word => some word.val
  | _ => none

/-- The artifact that an item gives. -/
def givenWasm : Item → Option String
  | wasm path => some path
  | _ => none

end Item

/-- The networks given, in order. -/
def networks (items : List Item) : List String := items.filterMap Item.givenNetwork

theorem networks_append (items later : List Item) :
    networks (items ++ later) = networks items ++ networks later :=
  List.filterMap_append

/-- The artifacts given, in order. -/
def wasmPaths (items : List Item) : List String := items.filterMap Item.givenWasm

theorem wasmPaths_append (items later : List Item) :
    wasmPaths (items ++ later) = wasmPaths items ++ wasmPaths later :=
  List.filterMap_append

/-- A word comes after an item that gives the network. -/
def WordAfterNetwork (items : List Item) : Prop :=
  ∃ before word after, items = before ++ .positional word :: after ∧ networks before ≠ []

/-- The parser reads the arguments as their grammar says: it accepts exactly the lists of items that
give the network at most once, so that a line naming two networks is never deployed, and it returns
what the items say. -/
structure FollowsGrammar (args : List String) : Prop where
  accepts_iff : (∃ parsed, parseArgs args = .ok parsed) ↔
    ∃ items : List Item, args = items.flatMap Item.spell ∧ (networks items).length ≤ 1
  two_networks : ∀ items : List Item, args = items.flatMap Item.spell →
    2 ≤ (networks items).length → ∀ env, ∃ failure, runTarget env args = .error failure
  returns : ∀ (parsed : DeployArgs) (items : List Item), parseArgs args = .ok parsed →
    args = items.flatMap Item.spell →
      (parsed.help = true ↔ .longHelp ∈ items ∨ .shortHelp ∈ items) ∧
      (parsed.force = true ↔ .force ∈ items) ∧
      parsed.network.toList = networks items ∧
      parsed.wasm = (wasmPaths items).getLast?

/-! ### The parser reads items -/

/-- The update that an item is. -/
def DeployArgs.collect (parsed : DeployArgs) : Item → DeployArgs
  | .longHelp | .shortHelp => { parsed with help := true }
  | .force => { parsed with force := true }
  | .network value => { parsed with network := some value }
  | .wasm path => { parsed with wasm := some path }
  | .positional word => { parsed with network := some word.val }

/-- The step that the parser takes at an item. -/
def DeployArgs.step (parsed : DeployArgs) : Item → Except String DeployArgs
  | .positional word => do
    failIf (parsed.network.isSome = true)
      ("Unexpected argument: " ++ word.val ++ " (network already given)")
    pure (parsed.collect (.positional word))
  | item => .ok (parsed.collect item)

theorem Word.ne_of_dash (word : Word) {flag : String} (h : startsWithDash flag) :
    word.val ≠ flag := by
  intro heq
  exact word.property (heq ▸ h)

theorem prefixFree : PrefixFree Item.spell where
  ne_nil := by
    intro item
    cases item <;> exact List.cons_ne_nil _ _
  unique := by
    intro item item' rest rest' h
    cases item with
    | positional word =>
      cases item' with
      | positional word' =>
        obtain ⟨hword, hrest⟩ := List.cons.inj h
        exact ⟨congrArg _ (Subtype.ext hword), hrest⟩
      | _ => exact absurd (List.cons.inj h).1 (word.ne_of_dash (by decide))
    | _ =>
      cases item' with
      | positional word => exact absurd (List.cons.inj h).1.symm (word.ne_of_dash (by decide))
      | _ => simp_all [Item.spell]

/-- At an item the parser takes its step and goes on. -/
theorem parseFrom_spell (parsed : DeployArgs) (item : Item) (rest : List String) :
    parseFrom parsed (item.spell ++ rest) =
      parsed.step item >>= fun next ↦ parseFrom next rest := by
  cases item with
  | longHelp | shortHelp | force | network | wasm =>
    rw [parseFrom.eq_def]
    rfl
  | positional word =>
    have hhelp : ¬ (word.val = "--help" ∨ word.val = "-h") :=
      not_or.mpr ⟨word.ne_of_dash (by decide), word.ne_of_dash (by decide)⟩
    have hforce : word.val ≠ "--force" := word.ne_of_dash (by decide)
    have hnetwork : word.val ≠ "--network" := word.ne_of_dash (by decide)
    have hwasm : word.val ≠ "--wasm" := word.ne_of_dash (by decide)
    show parseFrom parsed (word.val :: rest) = _
    rw [parseFrom.eq_def]
    dsimp only
    rw [if_neg hhelp, if_neg hforce, if_neg hnetwork, if_neg hwasm, if_neg word.property,
      DeployArgs.step, failIf]
    split_ifs <;> rfl

/-- Arguments that are accepted start with an item. -/
theorem exists_item_of_parseFrom {parsed final : DeployArgs} {args : List String}
    (h : parseFrom parsed args = .ok final) :
    args = [] ∨ ∃ (item : Item) (rest : List String), args = item.spell ++ rest := by
  cases args with
  | nil => exact .inl rfl
  | cons arg rest =>
    right
    rw [parseFrom.eq_def] at h
    dsimp only at h
    split_ifs at h with hhelp hforce hnetwork hwasm hdash
    · rcases hhelp with rfl | rfl
      · exact ⟨.longHelp, rest, rfl⟩
      · exact ⟨.shortHelp, rest, rfl⟩
    · exact ⟨.force, rest, by rw [hforce]; rfl⟩
    · cases rest with
      | nil => cases h
      | cons value rest => exact ⟨.network value, rest, by rw [hnetwork]; rfl⟩
    · cases rest with
      | nil => cases h
      | cons path rest => exact ⟨.wasm path, rest, by rw [hwasm]; rfl⟩
    · exact ⟨.positional ⟨arg, hdash⟩, rest, rfl⟩

theorem readsItems : ReadsItems Item.spell DeployArgs.step parseFrom where
  ne_nil := prefixFree.ne_nil
  nil := fun _ ↦ rfl
  item := parseFrom_spell
  reads := exists_item_of_parseFrom

/-- A step is an update, which only a word makes under a guard. -/
theorem step_eq_ok_iff (parsed : DeployArgs) (item : Item) (next : DeployArgs) :
    parsed.step item = .ok next ↔
      (∀ word, item = .positional word → parsed.network = none) ∧ next = parsed.collect item := by
  cases item with
  | positional word =>
    simp only [DeployArgs.step, bind_eq_ok_iff, failIf_eq_ok_iff, pure_eq_ok_iff, exists_const,
      Option.not_isSome_iff_eq_none]
    constructor
    · rintro ⟨hnone, rfl⟩
      exact ⟨fun _ _ ↦ hnone, rfl⟩
    · rintro ⟨hnone, rfl⟩
      exact ⟨hnone word rfl, rfl⟩
  | _ => simp [DeployArgs.step, eq_comm]

/-! ### What the items leave -/

/-- The arguments that some items leave, each read off the items. -/
structure Collected (items : List Item) (parsed : DeployArgs) : Prop where
  help : parsed.help = true ↔ .longHelp ∈ items ∨ .shortHelp ∈ items
  force : parsed.force = true ↔ .force ∈ items
  network : parsed.network = (networks items).getLast?
  wasm : parsed.wasm = (wasmPaths items).getLast?

theorem Collected.start : Collected [] .default where
  help := by simp [DeployArgs.default]
  force := by simp [DeployArgs.default]
  network := rfl
  wasm := rfl

/-- One more item. -/
theorem Collected.collect {items : List Item} {parsed : DeployArgs} (h : Collected items parsed)
    (item : Item) : Collected (items ++ [item]) (parsed.collect item) where
  help := by
    rw [List.mem_append, List.mem_append, or_or_or_comm, ← h.help]
    cases item <;> simp [DeployArgs.collect]
  force := by
    rw [List.mem_append, ← h.force]
    cases item <;> simp [DeployArgs.collect]
  network := by
    rw [networks_append, List.getLast?_append, ← h.network]
    cases item <;> rfl
  wasm := by
    rw [wasmPaths_append, List.getLast?_append, ← h.wasm]
    cases item <;> rfl

theorem collected (items : List Item) : Collected items (items.foldl .collect .default) := by
  induction items using List.reverseRecOn with
  | nil => exact .start
  | append_singleton items item ih =>
    rw [List.foldl_append]
    exact ih.collect item

/-- The parser accepts the items in which every word comes before every item that gives the
network, and returns what they leave. -/
theorem parseArgs_eq_ok_iff {args : List String} {parsed : DeployArgs} :
    parseArgs args = .ok parsed ↔ ∃ items : List Item, args = items.flatMap Item.spell ∧
      ¬ WordAfterNetwork items ∧ parsed = items.foldl .collect .default := by
  rw [parseArgs, readsItems.eq_ok_iff]
  refine exists_congr fun items ↦ and_congr_right fun _ ↦ ?_
  rw [foldlM_guarded_eq_ok_iff step_eq_ok_iff]
  refine and_congr_left fun _ ↦ ⟨?_, ?_⟩
  · rintro hguards ⟨before, word, after, rfl, hgiven⟩
    have hnone := hguards before _ after rfl word rfl
    rw [(collected before).network, List.getLast?_eq_none_iff] at hnone
    exact hgiven hnone
  · rintro hwords before _ after rfl word rfl
    rw [(collected before).network, List.getLast?_eq_none_iff]
    by_contra hgiven
    exact hwords ⟨before, word, after, rfl, hgiven⟩

/-! ### Two networks -/

/-- A word after a network is a second network. -/
theorem WordAfterNetwork.two_le {items : List Item} (h : WordAfterNetwork items) :
    2 ≤ (networks items).length := by
  obtain ⟨before, word, after, rfl, hgiven⟩ := h
  have hpos := List.length_pos_of_ne_nil hgiven
  have hword : networks (before ++ .positional word :: after) =
      networks before ++ word.val :: networks after := networks_append before _
  rw [hword, List.length_append, List.length_cons]
  omega

/-- A line that the parser rejects is not deployed. -/
theorem runTarget_of_error {args : List String} {failure : String}
    (h : parseArgs args = .error failure) (env : String → Option String) :
    runTarget env args = .error failure := by
  rw [runTarget, h]
  rfl

/-- Of at most one network the last is the one. -/
theorem toList_getLast? {l : List String} (h : l.length ≤ 1) : l.getLast?.toList = l := by
  match l, h with
  | [], _ => rfl
  | [_], _ => rfl

/-- A parser that follows the grammar meets a second network only before a word. -/
theorem FollowsGrammar.wordAfterNetwork {args : List String} (h : FollowsGrammar args)
    {items : List Item} (hitems : args = items.flatMap Item.spell)
    (htwo : 1 < (networks items).length) : WordAfterNetwork items := by
  by_contra hwords
  obtain ⟨items', hitems', hone⟩ :=
    h.accepts_iff.mp ⟨_, parseArgs_eq_ok_iff.mpr ⟨items, hitems, hwords, rfl⟩⟩
  obtain rfl := prefixFree.flatMap_injective (hitems.symm.trans hitems')
  exact absurd hone (Nat.not_le.mpr htwo)

/-- The parser follows the grammar exactly on the lines that are no list of items, give the network
at most once, or have a word after a network: on the others the last `--network` wins. -/
theorem followsGrammar_iff (args : List String) :
    FollowsGrammar args ↔ ∀ items : List Item, args = items.flatMap Item.spell →
      (networks items).length ≤ 1 ∨ WordAfterNetwork items := by
  constructor
  · intro h items hitems
    exact or_iff_not_imp_left.mpr fun htwo ↦ h.wordAfterNetwork hitems (Nat.not_le.mp htwo)
  · intro h
    have hone : ∀ {parsed : DeployArgs} {items : List Item}, parseArgs args = .ok parsed →
        args = items.flatMap Item.spell →
          (networks items).length ≤ 1 ∧ Collected items parsed := by
      intro parsed items hparsed hitems
      obtain ⟨items', hitems', hwords, rfl⟩ := parseArgs_eq_ok_iff.mp hparsed
      obtain rfl := prefixFree.flatMap_injective (hitems.symm.trans hitems')
      exact ⟨(h items hitems).resolve_right hwords, collected items⟩
    refine ⟨⟨?_, ?_⟩, ?_, ?_⟩
    · rintro ⟨parsed, hparsed⟩
      obtain ⟨items, hitems, -⟩ := parseArgs_eq_ok_iff.mp hparsed
      exact ⟨items, hitems, (hone hparsed hitems).1⟩
    · rintro ⟨items, hitems, hlength⟩
      refine ⟨_, parseArgs_eq_ok_iff.mpr ⟨items, hitems, fun hwords ↦ ?_, rfl⟩⟩
      exact absurd hwords.two_le (by omega)
    · intro items hitems htwo env
      cases hparsed : parseArgs args with
      | error failure => exact ⟨failure, runTarget_of_error hparsed env⟩
      | ok parsed => exact absurd (hone hparsed hitems).1 (by omega)
    · intro parsed items hparsed hitems
      obtain ⟨hlength, hcollected⟩ := hone hparsed hitems
      refine ⟨hcollected.help, hcollected.force, ?_, hcollected.wasm⟩
      rw [hcollected.network, toList_getLast? hlength]

/-- A line that names two networks and is deployed to the second. -/
def Sample.twoNetworks : List String := ["testnet", "--network", "mainnet"]

/-- The parser takes `mainnet` from it, and the command goes on to deploy there. -/
theorem not_followsGrammar_twoNetworks :
    ¬ FollowsGrammar Sample.twoNetworks ∧
    parseArgs Sample.twoNetworks = .ok ⟨some "mainnet", none, false, false⟩ ∧
    (runTarget (fun _ ↦ none) Sample.twoNetworks).map (Option.map Target.network) =
      .ok (some .mainnet) := by
  refine ⟨fun h ↦ ?_, by decide +kernel, by decide +kernel⟩
  have hword : ¬ startsWithDash "testnet" := by decide
  obtain ⟨failure, hfailure⟩ := h.two_networks [.positional ⟨"testnet", hword⟩, .network "mainnet"]
    rfl (Nat.le_refl 2) fun _ ↦ none
  have htarget : (runTarget (fun _ ↦ none) Sample.twoNetworks).isOk = true := by decide +kernel
  rw [hfailure] at htarget
  exact Bool.false_ne_true htarget

end OrbitChain.Tools.Deploy
