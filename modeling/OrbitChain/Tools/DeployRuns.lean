import OrbitChain.Foundations.TextLines
import OrbitChain.Foundations.TransitionRuns
import OrbitChain.Tools.Deploy
import OrbitChain.Tools.TextFiles
import Mathlib.Data.List.DropRight

/-!
# Runs of the deploy command

The command reads the deployment record of its network, runs the stellar CLI and writes the record
and the plain ID file; each write can fail, before the file is opened or after any number of bytes.
What the CLI does is a parameter of a run, as are the environment, the files that exist and the
time. JSON is a parameter (`Serde`).

Over any sequence of commands, whatever fails, a network is deployed to without `--force` at most
once and once more for each time its record got lost (`deploys_at_most_once`), and a record that
reads names the last contract that was deployed to its network (`record_names_last_deployment`).
-/

set_option autoImplicit false
set_option relaxedAutoImplicit false

namespace OrbitChain.Tools.Deploy

open Foundations

/-! ### Records -/

/-- One deployment record. -/
structure DeploymentRecord where
  network : String
  contractId : String
  rpcUrl : String
  deployedAt : String
  wasm : String
  deriving DecidableEq

/-- The JSON functions that the command uses. -/
structure Serde where
  toStringPretty : DeploymentRecord → List Char
  fromStr : List Char → Option DeploymentRecord

/-- The record reads back, and not before it is written to its end. -/
structure Serde.RoundTrips (serde : Serde) (record : DeploymentRecord) : Prop where
  fromStr_toStringPretty : serde.fromStr (serde.toStringPretty record) = some record
  fromStr_prefix : ∀ text, text <+: serde.toStringPretty record →
    text ≠ serde.toStringPretty record → serde.fromStr text = none

/-- The record in a file, if there is one to read. -/
def readRecord (serde : Serde) (file : Option ByteArray) : Option DeploymentRecord :=
  (file.bind readToString).bind serde.fromStr

def existingContractId (serde : Serde) (file : Option ByteArray) : Option String :=
  (readRecord serde file).bind fun record ↦
    if record.contractId = "" then none else some record.contractId

/-! ### The stellar CLI -/

/-- Argument vector for `stellar contract deploy`. -/
def stellarDeployArgs (wasm sourceSecret rpcUrl passphrase : String) : List String :=
  ["contract", "deploy", "--wasm", wasm, "--source", sourceSecret, "--rpc-url", rpcUrl,
    "--network-passphrase", passphrase]

/-- A text without the whitespace at its ends. -/
def trim (text : List Char) : List Char := (text.dropWhile isWhitespace).rdropWhile isWhitespace

/-- The contract ID is the last line that is not empty. -/
def contractIdFromStdout (stdout : List Char) : Option String :=
  (((lines '\n' '\r' stdout).map trim).reverse.find? (· ≠ [])).map String.ofList

/-- What comes of running the CLI. -/
inductive StellarRun
  | notFound
  | launchFailed (error : String)
  | failed (status : String) (stderr : List Char)
  | succeeded (stdout : List Char)

/-- The ID that a run of the CLI has printed. -/
def StellarRun.contractId : StellarRun → Except String String
  | notFound => .error ("The 'stellar' CLI was not found on PATH. Install it with " ++
      "'cargo install --locked stellar-cli' (or 'brew install stellar-cli').")
  | launchFailed error => .error ("Failed to launch the stellar CLI: " ++ error)
  | failed status stderr => .error ("stellar contract deploy failed (" ++ status ++ "):\n" ++
      String.ofList (trim stderr))
  | succeeded stdout => orFail (contractIdFromStdout stdout)
      "stellar contract deploy succeeded but printed no contract ID"

/-! ### The command -/

/-- How a write fails. -/
inductive WriteFault
  | notOpened
  /-- The first bytes are in the file. -/
  | cutOff (written : ℕ)

/-- What goes wrong when a deployment is saved. -/
structure SaveFaults where
  createDirAll : Bool
  record : Option WriteFault
  contractIdFile : Option WriteFault

/-- What one run of the command finds around it. -/
structure Command where
  args : List String
  env : String → Option String
  pathExists : String → Bool
  stellar : List String → StellarRun
  now : String
  faults : SaveFaults

/-- What the command writes: one record for each network and the plain ID file. -/
structure Files where
  record : Network → Option ByteArray
  contractIdFile : Option ByteArray

/-- What a write leaves of some content in a file, if it opens it. -/
def writtenBytes (fault : Option WriteFault) (content : ByteArray) : Option ByteArray :=
  match fault with
  | none => some content
  | some .notOpened => none
  | some (.cutOff written) => some (content.extract 0 written)

/-- How a run of the command ends well. -/
inductive Outcome
  | usage
  | alreadyDeployed (contractId : String)
  | deployed (contractId : String)

/-- Where the checks leave the command. -/
inductive Plan
  | stop (outcome : Outcome)
  | deploy (target : Target) (secret : String)

section Serde

variable (serde : Serde)

/-- The prerequisites and the check for an existing deployment. -/
def plan (command : Command) (files : Files) : Except String Plan := do
  match ← runTarget command.env command.args with
  | none => pure (.stop .usage)
  | some target =>
    failIf (command.pathExists target.wasmPath = false) ("WASM not found at " ++ target.wasmPath ++
      " — run 'make build-wasm' first (or pass --wasm <path>)")
    let secret ← orFail ((command.env "SOROBAN_ADMIN_SECRET_KEY").filter (· ≠ ""))
      "SOROBAN_ADMIN_SECRET_KEY is not set. Add it to .env or export it."
    match existingContractId serde (files.record target.network) with
    | none => pure (.deploy target secret)
    | some existing =>
      if target.force then pure (.deploy target secret)
      else pure (.stop (.alreadyDeployed existing))

/-- The record of a deployment. -/
def Target.record (target : Target) (contractId now : String) : DeploymentRecord where
  network := target.network.name
  contractId := contractId
  rpcUrl := target.rpcUrl
  deployedAt := now
  wasm := target.wasmPath

/-- Persist the record and the plain ID file. -/
def save (faults : SaveFaults) (record : DeploymentRecord) (network : Network) (files : Files) :
    Except String Unit × Files :=
  if faults.createDirAll then (.error "Failed to create deployments", files)
  else
    let saved := { files with
      record := Function.update files.record network
        ((writtenBytes faults.record (toUtf8 (serde.toStringPretty record))).or
          (files.record network)) }
    if faults.record.isSome then
      (.error ("Failed to write deployments/" ++ network.name ++ ".json"), saved)
    else
      let stored := { saved with
        contractIdFile := (writtenBytes faults.contractIdFile
          (toUtf8 (record.contractId.toList ++ ['\n']))).or saved.contractIdFile }
      if faults.contractIdFile.isSome then
        (.error "Failed to write .orbitchain_contract_id", stored)
      else (.ok (), stored)

/-- The command: how it ends, and the files it leaves. -/
def run (command : Command) (files : Files) : Except String Outcome × Files :=
  match plan serde command files with
  | .error error => (.error error, files)
  | .ok (.stop outcome) => (.ok outcome, files)
  | .ok (.deploy target secret) =>
    match (command.stellar (stellarDeployArgs target.wasmPath secret target.rpcUrl
      target.passphrase)).contractId with
    | .error error => (.error error, files)
    | .ok contractId =>
      let saving := save serde command.faults (target.record contractId command.now) target.network
        files
      (saving.1.map fun () ↦ .deployed contractId, saving.2)

/-! ### Deployments -/

/-- A contract that the CLI has deployed. -/
structure Deployment where
  target : Target
  /-- The record to save, if it printed an ID. -/
  record : Option DeploymentRecord
  /-- What is left of it in its file, if that was opened. -/
  written : Option ByteArray

/-- The record is in its file. -/
def Deployment.Saved (d : Deployment) : Prop :=
  ∃ record ∈ d.record, d.written = some (toUtf8 (serde.toStringPretty record))

instance (d : Deployment) : Decidable (d.Saved serde) :=
  inferInstanceAs (Decidable (∃ record, record ∈ d.record ∧ _))

/-- The deployment of a run of the command, if it gets as far as that. -/
def deployment (command : Command) (files : Files) : Option Deployment :=
  match plan serde command files with
  | .ok (.deploy target secret) =>
    match command.stellar (stellarDeployArgs target.wasmPath secret target.rpcUrl
      target.passphrase) with
    | .succeeded stdout =>
      let record := (contractIdFromStdout stdout).map (target.record · command.now)
      some
        { target := target
          record := record
          written :=
            if command.faults.createDirAll then none
            else record.bind fun record ↦
              writtenBytes command.faults.record (toUtf8 (serde.toStringPretty record)) }
    | _ => none
  | _ => none

/-! ### Files over time -/

/-- What happens to the files. -/
inductive Event
  | command (command : Command)
  /-- Someone replaces a record, or deletes it. -/
  | edit (network : Network) (content : Option ByteArray)

/-- The event edits the record of the network. -/
def Event.edits (network : Network) : Event → Bool
  | .command _ => false
  | .edit edited _ => edited = network

def filesSystem : System Event Files Empty where
  exec event files :=
    match event with
    | .command command => .ok (run serde command files).2
    | .edit network content =>
      .ok { files with record := Function.update files.record network content }

/-- The deployment of an event. -/
def deployed (r : Receipt Event Files) : Option Deployment :=
  match r.label with
  | .command command => deployment serde command r.before
  | .edit .. => none

/-- The event deploys to the network without being forced to. -/
def deploysUnforced (network : Network) (r : Receipt Event Files) : Bool :=
  (deployed serde r).any fun d ↦ d.target.network = network && !d.target.force

/-- The event deploys to the network and the record is not saved, or it edits the record. -/
def losesRecord (network : Network) (r : Receipt Event Files) : Bool :=
  r.label.edits network ||
    (deployed serde r).any fun d ↦ d.target.network = network && !d.Saved serde

/-- The last deployment that has written the record of the network. -/
def lastWriting (network : Network) (history : List (Receipt Event Files)) : Option Deployment :=
  (history.filterMap (deployed serde)).find? fun d ↦ d.target.network = network && d.written.isSome

end Serde

/-! ### One run of the command -/

theorem contractId_ne_empty {stdout : List Char} {contractId : String}
    (h : contractIdFromStdout stdout = some contractId) : contractId ≠ "" := by
  obtain ⟨line, hline, rfl⟩ := Option.map_eq_some_iff.mp h
  have hne : line ≠ [] := by simpa using List.find?_some hline
  exact fun hempty ↦ hne (String.ofList_eq_empty_iff.mp hempty)

section Steps

variable {serde : Serde} {command : Command} {files : Files} {network : Network} {d : Deployment}

/-- Saving a deployment writes the record of its network and no other. -/
theorem record_save (faults : SaveFaults) (record : DeploymentRecord) (target other : Network)
    (files : Files) : (save serde faults record target files).2.record other =
      if target = other then
        (if faults.createDirAll then none
          else writtenBytes faults.record (toUtf8 (serde.toStringPretty record))).or
            (files.record other)
      else files.record other := by
  unfold save
  by_cases hnetwork : target = other
  · subst hnetwork
    split_ifs <;> simp_all
  · split_ifs <;> simp_all [Function.update_of_ne (Ne.symm hnetwork)]

/-- The record of a network after a run of the command: what its deployment has written. -/
theorem record_run (command : Command) (files : Files) (network : Network) :
    (run serde command files).2.record network =
      (((deployment serde command files).filter (·.target.network = network)).bind
        (·.written)).or (files.record network) := by
  unfold run deployment
  cases hplan : plan serde command files with
  | error => rfl
  | ok planned =>
    cases planned with
    | stop => rfl
    | deploy target secret =>
      dsimp only
      cases hrun : command.stellar (stellarDeployArgs target.wasmPath secret target.rpcUrl
          target.passphrase) with
      | notFound => rfl
      | launchFailed => rfl
      | failed => rfl
      | succeeded stdout =>
        rw [StellarRun.contractId]
        cases hid : contractIdFromStdout stdout with
        | none => by_cases hnetwork : target.network = network <;>
            simp [orFail, Option.filter_some, hnetwork, hid]
        | some contractId =>
          rw [orFail, record_save]
          by_cases hnetwork : target.network = network <;>
            simp [Option.filter_some, hnetwork, hid]

/-- What a deployment has gone through. -/
theorem deployment_spec (h : deployment serde command files = some d) :
    (∃ secret, plan serde command files = .ok (.deploy d.target secret)) ∧
      (∃ stdout, d.record =
        (contractIdFromStdout stdout).map (d.target.record · command.now)) ∧
      ∀ bytes, d.written = some bytes → ∃ record, d.record = some record ∧
        writtenBytes command.faults.record (toUtf8 (serde.toStringPretty record)) =
          some bytes := by
  unfold deployment at h
  split at h
  · rename_i target secret hplan
    split at h
    · rename_i stdout _
      obtain rfl := Option.some.inj h
      refine ⟨⟨secret, hplan⟩, ⟨stdout, rfl⟩, fun bytes hbytes ↦ ?_⟩
      dsimp only at hbytes
      split_ifs at hbytes
      exact Option.bind_eq_some_iff.mp hbytes
    · cases h
  · cases h

/-- An unforced deployment finds no record with an ID. -/
theorem existing_of_deployment (h : deployment serde command files = some d)
    (hunforced : d.target.force = false) :
    existingContractId serde (files.record d.target.network) = none := by
  obtain ⟨⟨secret, hplan⟩, -⟩ := deployment_spec h
  obtain ⟨planned, -, hplan⟩ := bind_eq_ok_iff.mp hplan
  cases planned with
  | none => cases hplan
  | some target =>
    simp only [bind_eq_ok_iff] at hplan
    obtain ⟨-, -, secret', -, hplan⟩ := hplan
    cases hexisting : existingContractId serde (files.record target.network) with
    | none =>
      rw [hexisting] at hplan
      cases hplan
      exact hexisting
    | some existing =>
      rw [hexisting] at hplan
      dsimp only at hplan
      split_ifs at hplan with hforce
      · cases hplan
        exact absurd hunforced (by simp [hforce])
      · cases hplan

/-- A record that is saved has an ID. -/
theorem contractId_of_deployment (h : deployment serde command files = some d)
    {record : DeploymentRecord} (hrecord : d.record = some record) : record.contractId ≠ "" := by
  obtain ⟨-, ⟨stdout, hstdout⟩, -⟩ := deployment_spec h
  rw [hstdout] at hrecord
  obtain ⟨contractId, hid, rfl⟩ := Option.map_eq_some_iff.mp hrecord
  exact contractId_ne_empty hid

theorem readRecord_toStringPretty {record : DeploymentRecord} (h : serde.RoundTrips record) :
    readRecord serde (some (toUtf8 (serde.toStringPretty record))) = some record := by
  rw [readRecord, Option.bind_some, readToString_toUtf8, Option.bind_some,
    h.fromStr_toStringPretty]

/-- What a write has left of a record reads as that record, and is the whole of it, or does not
read. -/
theorem readRecord_writtenBytes {written record : DeploymentRecord} (h : serde.RoundTrips written)
    {fault : Option WriteFault} {bytes : ByteArray}
    (hbytes : writtenBytes fault (toUtf8 (serde.toStringPretty written)) = some bytes) :
    readRecord serde (some bytes) = some record ↔
      written = record ∧ bytes = toUtf8 (serde.toStringPretty written) := by
  constructor
  · intro hread
    have hwhole : bytes = toUtf8 (serde.toStringPretty written) := by
      cases fault with
      | none => exact (Option.some.inj hbytes).symm
      | some fault =>
        cases fault with
        | notOpened => cases hbytes
        | cutOff count =>
          obtain rfl := Option.some.inj hbytes
          obtain ⟨text, htext, hrecord⟩ := Option.bind_eq_some_iff.mp hread
          rw [Option.bind_some, readToString_eq_some_iff] at htext
          have hprefix : text <+: serde.toStringPretty written := by
            refine prefix_of_toUtf8_append ((toUtf8 (serde.toStringPretty written)).extract count
              (toUtf8 (serde.toStringPretty written)).size) ?_
            rw [← htext, ByteArray.extract_append_extract]
            simp
          by_contra hpart
          rw [h.fromStr_prefix text hprefix fun heq ↦ hpart (heq ▸ htext)] at hrecord
          cases hrecord
    rw [hwhole, readRecord_toStringPretty h] at hread
    exact ⟨Option.some.inj hread, hwhole⟩
  · rintro ⟨rfl, rfl⟩
    exact readRecord_toStringPretty h

end Steps

/-! ### Runs -/

section Runs

variable {serde : Serde} {start files next : Files} {event : Event} {network : Network}
  {history : List (Receipt Event Files)}

/-- A network has a record with an ID. -/
def recorded (serde : Serde) (network : Network) (files : Files) : Bool :=
  (existingContractId serde (files.record network)).isSome

theorem exec_command_eq_ok_iff {command : Command} :
    (filesSystem serde).exec (.command command) files = .ok next ↔
      (run serde command files).2 = next :=
  iff_of_eq (Except.ok.injEq _ _)

theorem exec_edit_eq_ok_iff {edited : Network} {content : Option ByteArray} :
    (filesSystem serde).exec (.edit edited content) files = .ok next ↔
      { files with record := Function.update files.record edited content } = next :=
  iff_of_eq (Except.ok.injEq _ _)

@[simp] theorem deployed_command (command : Command) :
    deployed serde ⟨.command command, files, next⟩ = deployment serde command files :=
  rfl

@[simp] theorem deployed_edit (edited : Network) (content : Option ByteArray) :
    deployed serde ⟨.edit edited content, files, next⟩ = none :=
  rfl

theorem exists_deployment {r : Receipt Event Files} {d : Deployment}
    (h : deployed serde r = some d) :
    ∃ command, deployment serde command r.before = some d := by
  unfold deployed at h
  split at h
  · exact ⟨_, h⟩
  · cases h

theorem countP_cons_toNat {α : Type*} (p : α → Bool) (a : α) (l : List α) :
    (a :: l).countP p = l.countP p + (p a).toNat := by
  cases h : p a <;> simp [h]

/-- An unforced deployment finds no record with an ID. -/
theorem deploys_add_recorded_le (serde : Serde) (network : Network) (r : Receipt Event Files) :
    (deploysUnforced serde network r).toNat + (recorded serde network r.before).toNat ≤ 1 := by
  cases hdeploys : deploysUnforced serde network r with
  | false => simpa using Bool.toNat_le _
  | true =>
    obtain ⟨d, hd, hunforced⟩ := (Option.any_eq_true _ _).mp hdeploys
    simp only [Bool.and_eq_true, decide_eq_true_eq, Bool.not_eq_true'] at hunforced
    obtain ⟨rfl, hforce⟩ := hunforced
    obtain ⟨command, hdeployment⟩ := exists_deployment hd
    rw [recorded, existing_of_deployment hdeployment hforce]
    decide

/-- What stands in the records after an event, if no record gets lost. -/
theorem recorded_of_exec (hexec : (filesSystem serde).exec event files = .ok next)
    (hserde : ∀ d ∈ deployed serde ⟨event, files, next⟩, ∀ record ∈ d.record,
      serde.RoundTrips record)
    (hkeeps : losesRecord serde network ⟨event, files, next⟩ = false) :
    recorded serde network next =
      ((deployed serde ⟨event, files, next⟩).any (·.target.network = network) ||
        recorded serde network files) := by
  cases event with
  | edit edited content =>
    obtain rfl := exec_edit_eq_ok_iff.mp hexec
    have hother : network ≠ edited := fun heq ↦ by
      simp [losesRecord, Event.edits, heq] at hkeeps
    simp [recorded, deployed, Function.update_of_ne hother]
  | command command =>
    obtain rfl := exec_command_eq_ok_iff.mp hexec
    rw [recorded, record_run, deployed_command]
    cases hd : deployment serde command files with
    | none => simp [recorded]
    | some d =>
      by_cases hnetwork : d.target.network = network
      · simp only [losesRecord, Event.edits, Bool.false_or, deployed_command, hd,
          Option.any_some, hnetwork, decide_true, Bool.true_and, Bool.not_eq_false',
          decide_eq_true_eq] at hkeeps
        obtain ⟨record, hrecord, hwritten⟩ := hkeeps
        have hread := readRecord_toStringPretty (hserde d hd record hrecord)
        simp [Option.filter_some, hnetwork, hwritten, existingContractId, hread,
          contractId_of_deployment hd hrecord]
      · simp [Option.filter_some, hnetwork, recorded]

/-- An unforced deployment needs that there is no record with an ID, and leaves one unless it loses
it; and no record gets lost otherwise. -/
theorem deploys_step (network : Network)
    (hexec : (filesSystem serde).exec event files = .ok next)
    (hserde : ∀ d ∈ deployed serde ⟨event, files, next⟩, ∀ record ∈ d.record,
      serde.RoundTrips record) :
    (deploysUnforced serde network ⟨event, files, next⟩).toNat +
        (recorded serde network files).toNat ≤
      (losesRecord serde network ⟨event, files, next⟩).toNat +
        (recorded serde network next).toNat := by
  have hone := deploys_add_recorded_le serde network ⟨event, files, next⟩
  cases hloses : losesRecord serde network ⟨event, files, next⟩ with
  | true => exact hone.trans (Nat.le_add_right 1 _)
  | false =>
    rw [recorded_of_exec hexec hserde hloses]
    cases hdeployed : (deployed serde ⟨event, files, next⟩).any (·.target.network = network) with
    | true => simpa using hone
    | false =>
      have hdeploys : deploysUnforced serde network ⟨event, files, next⟩ = false := by
        rw [Option.any_eq_false] at hdeployed
        rw [deploysUnforced, Option.any_eq_false]
        exact fun d hd ↦ by rw [hdeployed d hd, Bool.false_and]
      simp [hdeploys]

/-- Without `--force` a network is deployed to once, if it has no record to begin with, and once for
each time that its record got lost: by a deployment that was not saved, or by an edit. -/
theorem deploys_at_most_once (run : Run (filesSystem serde) start history files)
    (hserde : ∀ r ∈ history, ∀ d ∈ deployed serde r, ∀ record ∈ d.record,
      serde.RoundTrips record) (network : Network) :
    history.countP (deploysUnforced serde network) + (recorded serde network start).toNat ≤
      history.countP (losesRecord serde network) + 1 := by
  have hrun : history.countP (deploysUnforced serde network) +
      (recorded serde network start).toNat ≤
        history.countP (losesRecord serde network) + (recorded serde network files).toNat := by
    induction run with
    | start => simp
    | reject _ _ ih => exact ih hserde
    | accept prior step ih =>
      obtain ⟨hhead, hrest⟩ := List.forall_mem_cons.mp hserde
      have hstep := deploys_step network step hhead
      have hprior := ih hrest
      rw [countP_cons_toNat, countP_cons_toNat]
      omega
  exact hrun.trans (Nat.add_le_add_left (Bool.toNat_le _) _)

theorem lastWriting_cons (r : Receipt Event Files) :
    lastWriting serde network (r :: history) =
      ((deployed serde r).filter fun d ↦ d.target.network = network && d.written.isSome).or
        (lastWriting serde network history) := by
  rw [lastWriting, List.filterMap_cons]
  cases deployed serde r with
  | none => rfl
  | some d =>
    rw [List.find?_cons, Option.filter_some]
    cases decide (d.target.network = network) && d.written.isSome <;> rfl

/-- Where nobody edits a record, it holds what the last deployment that wrote it has written. -/
theorem record_of_run (run : Run (filesSystem serde) start history files)
    (hedits : ∀ r ∈ history, r.label.edits network = false) :
    files.record network =
      ((lastWriting serde network history).bind (·.written)).or (start.record network) := by
  induction run with
  | start => rfl
  | reject _ _ ih => exact ih hedits
  | @accept history files next event prior step ih =>
    obtain ⟨hhead, hrest⟩ := List.forall_mem_cons.mp hedits
    have hprior := ih hrest
    cases event with
    | edit edited content =>
      obtain rfl := exec_edit_eq_ok_iff.mp step
      have hother : network ≠ edited := fun heq ↦ by simp [Event.edits, heq] at hhead
      change Function.update files.record edited content network = _
      rw [Function.update_of_ne hother, hprior, lastWriting_cons]
      rfl
    | command command =>
      obtain rfl := exec_command_eq_ok_iff.mp step
      rw [record_run, hprior, lastWriting_cons, deployed_command]
      cases hd : deployment serde command files with
      | none => rfl
      | some d =>
        by_cases hnetwork : d.target.network = network
        · cases hwritten : d.written <;> simp [Option.filter_some, hnetwork, hwritten]
        · simp [Option.filter_some, hnetwork]

/-- A network whose record nobody edits has the record of the last deployment that wrote it, if that
was saved, and none that reads if it was not. -/
theorem record_names_last_deployment (run : Run (filesSystem serde) start history files)
    (hserde : ∀ r ∈ history, ∀ d ∈ deployed serde r, ∀ record ∈ d.record,
      serde.RoundTrips record) (hstart : start.record network = none)
    (hedits : ∀ r ∈ history, r.label.edits network = false)
    (record : DeploymentRecord) :
    readRecord serde (files.record network) = some record ↔
      ∃ d, lastWriting serde network history = some d ∧ d.record = some record ∧
        d.Saved serde := by
  rw [record_of_run run hedits, hstart, Option.or_none]
  cases hlast : lastWriting serde network history with
  | none => simp [readRecord]
  | some d =>
    obtain ⟨r, hr, hd⟩ := List.mem_filterMap.mp (List.mem_of_find?_eq_some hlast)
    have hopened := List.find?_some hlast
    obtain ⟨bytes, hbytes⟩ := Option.isSome_iff_exists.mp (Bool.and_eq_true_iff.mp hopened).2
    obtain ⟨command, hdeployment⟩ := exists_deployment hd
    obtain ⟨written, hrecord, hwrite⟩ := (deployment_spec hdeployment).2.2 bytes hbytes
    rw [Option.bind_some, hbytes, readRecord_writtenBytes (hserde r hr d hd written hrecord) hwrite]
    simp only [Option.some.injEq, exists_eq_left', hrecord, Deployment.Saved, Option.mem_some,
      hbytes]

end Runs

/-! ### A record that is lost -/

namespace Sample

def record : DeploymentRecord where
  network := "testnet"
  contractId := "CABC"
  rpcUrl := "https://soroban-testnet.stellar.org:443"
  deployedAt := "2026-01-01T00:00:00Z"
  wasm := defaultWasmPath

@[irreducible] def text : List Char :=
  ("\x7b\"network\":\"testnet\",\"contract_id\":\"CABC\"," ++
    "\"rpc_url\":\"https://soroban-testnet.stellar.org:443\"," ++
    "\"deployed_at\":\"2026-01-01T00:00:00Z\"," ++
    "\"wasm\":\"target/wasm32v1-none/release/orbitchain_core.wasm\"\x7d").toList

/-- JSON as far as the sample record goes. -/
def serde : Serde where
  toStringPretty _ := text
  fromStr content := if content = text then some record else none

theorem roundTrips : serde.RoundTrips record where
  fromStr_toStringPretty := if_pos rfl
  fromStr_prefix _ _ hpart := if_neg hpart

/-- A deployment to the test network. -/
def deploying (createDirAll : Bool) : Event :=
  .command
    { args := ["testnet"]
      env := fun name ↦ if name = "SOROBAN_ADMIN_SECRET_KEY" then some "SA" else none
      pathExists := fun _ ↦ true
      stellar := fun _ ↦ .succeeded "simulating\nCABC \n\n".toList
      now := "2026-01-01T00:00:00Z"
      faults := ⟨createDirAll, none, none⟩ }

/-- The directory cannot be made for the first record; the second is written. -/
def interrupted : List Event := [deploying true, deploying false]

def start : Files := ⟨fun _ ↦ none, none⟩

def history : List (Receipt Event Files) := ((filesSystem serde).replay interrupted start).1

def files : Files := ((filesSystem serde).replay interrupted start).2

theorem run_interrupted : Run (filesSystem serde) start history files :=
  System.run_replay _ interrupted start

theorem roundTrips_history : ∀ r ∈ history, ∀ d ∈ deployed serde r, ∀ written ∈ d.record,
    serde.RoundTrips written := by
  have hrecords : ∀ r ∈ history, ∀ d ∈ deployed serde r, ∀ written ∈ d.record,
      written = record := by decide +kernel
  exact fun r hr d hd written hwritten ↦ hrecords r hr d hd written hwritten ▸ roundTrips

end Sample

/-- A second deployment makes up for a record that was lost. -/
theorem deploys_at_most_once_interrupted :
    Sample.history.countP (deploysUnforced Sample.serde .testnet) = 2 ∧
      Sample.history.countP (deploysUnforced Sample.serde .testnet) + 0 ≤
        Sample.history.countP (losesRecord Sample.serde .testnet) + 1 :=
  ⟨by decide +kernel,
    deploys_at_most_once Sample.run_interrupted Sample.roundTrips_history .testnet⟩

/-- The record that was written reads. -/
theorem record_names_last_deployment_interrupted :
    readRecord Sample.serde (Sample.files.record .testnet) = some Sample.record := by
  have hedits : ∀ r ∈ Sample.history, r.label.edits .testnet = false := by decide +kernel
  exact (record_names_last_deployment Sample.run_interrupted Sample.roundTrips_history rfl hedits
    Sample.record).mpr ⟨_, rfl, rfl, _, rfl, rfl⟩

end OrbitChain.Tools.Deploy
