import OrbitChain.Foundations.TextLines
import OrbitChain.Foundations.TransitionRuns
import OrbitChain.Tools.TextFiles
import Mathlib.Data.Int.Notation

/-!
# The withdrawal audit log

The log keeps its entries in memory with a cursor behind the last one that was flushed, and appends
the entries after the cursor to a file of JSON lines. A flush opens the file, sets its permissions,
writes all pending entries from one buffer and syncs; each of these can fail, and a failing write
leaves any prefix of the buffer behind, cut between bytes. The cursor moves when all have
succeeded. JSON is a parameter (`Serde`), and so is what goes wrong in a flush (`FlushFault`).
-/

set_option autoImplicit false
set_option relaxedAutoImplicit false

namespace OrbitChain.Tools.AuditLog

open Foundations

/-- A single admin action on a creator withdrawal. -/
inductive WithdrawalAction
  | requested
  | approved
  | submitted
  | rejected
  deriving DecidableEq

/-- One immutable audit record. -/
structure WithdrawalLogEntry where
  campaignId : ℕ
  recipient : String
  amount : ℤ
  action : WithdrawalAction
  actor : String
  timestamp : ℤ
  ledgerTimestamp : Option ℕ
  txHash : Option String
  deriving DecidableEq

/-- The JSON functions that the log uses. -/
structure Serde where
  toString : WithdrawalLogEntry → List Char
  fromStr : List Char → Option WithdrawalLogEntry

/-- The entry is written as an object on one line and reads back. -/
structure Serde.RoundTrips (serde : Serde) (entry : WithdrawalLogEntry) : Prop where
  fromStr_toString : serde.fromStr (serde.toString entry) = some entry
  newline_notMem : '\n' ∉ serde.toString entry
  opens : (serde.toString entry).head? = some '\x7b'
  closes : (serde.toString entry).getLast? = some '\x7d'

/-! ### The log -/

/-- The log in memory. -/
structure WithdrawalAuditLog where
  entries : List WithdrawalLogEntry
  /-- Index of the first entry that is not flushed. -/
  flushed : ℕ

namespace WithdrawalAuditLog

def new : WithdrawalAuditLog := ⟨[], 0⟩

variable (log : WithdrawalAuditLog)

/-- The entries that are not flushed. -/
def pending : List WithdrawalLogEntry := log.entries.drop log.flushed

def pendingFlush : ℕ := log.entries.length - log.flushed

/-- Append an entry. -/
def push (entry : WithdrawalLogEntry) : WithdrawalAuditLog :=
  { log with entries := log.entries ++ [entry] }

end WithdrawalAuditLog

/-- The step of a flush that fails. -/
inductive FlushFault
  | openFile
  | metadata
  | setPermissions
  /-- The write leaves the first bytes of the buffer in the file. -/
  | writeAll (written : ℕ)
  | syncAll
  deriving DecidableEq

inductive FlushError
  | openFile
  | metadata
  | setPermissions
  | append
  | fsync
  deriving DecidableEq

section Serde

variable (serde : Serde)

/-- The buffer of a flush. -/
def buffer (pending : List WithdrawalLogEntry) : List Char :=
  unlines '\n' (pending.map serde.toString)

/-- Append the pending entries to the file. -/
def flushToDisk (fault : Option FlushFault) (log : WithdrawalAuditLog) (file : Option ByteArray) :
    Except FlushError Unit × Option ByteArray × WithdrawalAuditLog :=
  if log.pending = [] then (.ok (), file, log)
  else
    let buf := toUtf8 (buffer serde log.pending)
    -- Opening creates the file if it is not there.
    let opened := file.getD .empty
    match fault with
    | some .openFile => (.error .openFile, file, log)
    | some .metadata => (.error .metadata, some opened, log)
    | some .setPermissions => (.error .setPermissions, some opened, log)
    | some (.writeAll written) =>
      (.error .append, some (opened ++ buf.extract 0 written), log)
    | some .syncAll => (.error .fsync, some (opened ++ buf), log)
    | none => (.ok (), some (opened ++ buf), { log with flushed := log.entries.length })

inductive LoadError
  | read
  | malformed (lineno : ℕ)
  deriving DecidableEq

/-- Read the entries of the lines from a line number on. -/
def readEntries : ℕ → List (List Char) → Except LoadError (List WithdrawalLogEntry)
  | _, [] => .ok []
  | lineno, line :: rest =>
    if isBlank line then readEntries (lineno + 1) rest
    else do
      let entry ← orFail (serde.fromStr line) (.malformed (lineno + 1))
      let entries ← readEntries (lineno + 1) rest
      pure (entry :: entries)

/-- Read a file back into memory, with the cursor past all its entries. -/
def loadFromDisk (file : Option ByteArray) : Except LoadError WithdrawalAuditLog :=
  match file with
  | none => .ok .new
  | some bytes => do
    let content ← orFail (readToString bytes) .read
    let entries ← readEntries serde 0 (lines '\n' '\r' content)
    pure ⟨entries, entries.length⟩

end Serde

/-! ### A process with its file -/

/-- A file, the process that logs to it, if one is running, and for the record everything that was
ever logged and everything that a flush has acknowledged. -/
structure AuditState where
  file : Option ByteArray
  process : Option WithdrawalAuditLog
  logged : List WithdrawalLogEntry
  acknowledged : List WithdrawalLogEntry

/-- A process with a new log and no file. -/
def AuditState.start : AuditState := ⟨none, some .new, [], []⟩

inductive Step
  | log (entry : WithdrawalLogEntry)
  | flush (fault : Option FlushFault)
  | crash
  | reload

/-- Why a step cannot be taken. -/
inductive Failure
  | notRunning
  | load (error : LoadError)

/-- The log over time: entries are logged and flushed while a process runs, it can crash at any
time, and the file can be loaded at any time, in place of what is in memory. -/
def auditSystem (serde : Serde) : System Step AuditState Failure where
  exec step s :=
    match step with
    | .log entry => do
      let log ← orFail s.process .notRunning
      pure { s with process := some (log.push entry), logged := s.logged ++ [entry] }
    | .flush fault => do
      let log ← orFail s.process .notRunning
      match flushToDisk serde fault log s.file with
      | (.ok (), file, flushed) =>
        pure ⟨file, some flushed, s.logged, s.acknowledged ++ log.pending⟩
      | (.error _, file, flushed) => pure ⟨file, some flushed, s.logged, s.acknowledged⟩
    | .crash => pure { s with process := none }
    | .reload => do
      let log ← (loadFromDisk serde s.file).mapError .load
      pure { s with process := some log }

end OrbitChain.Tools.AuditLog
