import OrbitChain.Tools.AuditLog

/-!
# What survives in the audit file

A file is intact when its lines are those of entries that were logged, each at most once and in
order, with everything that was acknowledged among them, and loading it gives just these. The
cursor stays where it was when a flush fails after it has written, so the next flush writes the
same entries again, or writes behind a torn line. Files stay intact as long as every flush that
writes finds what its log counts as flushed, and stops between two entries if it fails.
-/

set_option autoImplicit false
set_option relaxedAutoImplicit false

namespace OrbitChain.Tools.AuditLog

open Foundations

/-- The lines of a file. -/
def fileLines (file : Option ByteArray) : Option (List (List Char)) :=
  match file with
  | none => some []
  | some bytes => (readToString bytes).map (lines '\n' '\r')

/-- The file holds entries that were logged, each at most once and in the order logged, and all
that were acknowledged; loading it succeeds with these entries and nothing pending. -/
def Intact (serde : Serde) (s : AuditState) : Prop :=
  ∃ present log, fileLines s.file = some (present.map serde.toString) ∧
    present.Sublist s.logged ∧ s.acknowledged.Sublist present ∧
    loadFromDisk serde s.file = .ok log ∧ log.entries = present ∧ log.pendingFlush = 0

/-- The bytes of a file, none where there is no file. -/
def content (file : Option ByteArray) : ByteArray := file.getD .empty

/-- The bytes of entries written to a file. -/
def render (serde : Serde) (entries : List WithdrawalLogEntry) : ByteArray :=
  toUtf8 (buffer serde entries)

/-- What a flush adds to the file. -/
def written (serde : Serde) (fault : Option FlushFault) (log : WithdrawalAuditLog) : ByteArray :=
  match fault with
  | some .openFile | some .metadata | some .setPermissions => .empty
  | some (.writeAll bytes) => (render serde log.pending).extract 0 bytes
  | some .syncAll | none => render serde log.pending

/-- A flush that adds anything finds the entries that its log counts as flushed, and stops between
two entries. -/
def AppendsCleanly (serde : Serde) (r : Receipt Step AuditState) : Prop :=
  match r.label with
  | .flush fault => ∀ log, r.before.process = some log →
      written serde fault log = .empty ∨
        (content r.before.file = render serde (log.entries.take log.flushed) ∧
          ∃ k, written serde fault log = render serde (log.pending.take k))
  | _ => True

/-! ### Reading back -/

section Reading

variable {serde : Serde} {entries entries' : List WithdrawalLogEntry}

theorem Serde.RoundTrips.isLine {entry : WithdrawalLogEntry} (h : serde.RoundTrips entry) :
    IsLine '\n' '\r' (serde.toString entry) :=
  ⟨h.newline_notMem, by rw [h.closes]; decide⟩

theorem Serde.RoundTrips.not_blank {entry : WithdrawalLogEntry} (h : serde.RoundTrips entry) :
    isBlank (serde.toString entry) = false := by
  obtain ⟨rest, hrest⟩ := List.head?_eq_some_iff.mp h.opens
  rw [isBlank, hrest, List.all_cons]
  exact Bool.and_eq_false_imp.mpr fun hspace ↦ absurd hspace (by decide)

theorem render_append : render serde (entries ++ entries') =
    render serde entries ++ render serde entries' := by
  rw [render, buffer, List.map_append, unlines_append, toUtf8_append]
  rfl

theorem render_nil : render serde [] = .empty := rfl

/-- Lines written of entries read back as the entries. -/
theorem readEntries_toString (h : ∀ entry ∈ entries, serde.RoundTrips entry) (lineno : ℕ) :
    readEntries serde lineno (entries.map serde.toString) = .ok entries := by
  induction entries generalizing lineno with
  | nil => rfl
  | cons entry rest ih =>
    obtain ⟨hentry, hrest⟩ := List.forall_mem_cons.mp h
    rw [List.map_cons, readEntries, if_neg (by simp [hentry.not_blank]), hentry.fromStr_toString,
      ih hrest]
    rfl

theorem lines_buffer (h : ∀ entry ∈ entries, serde.RoundTrips entry) :
    lines '\n' '\r' (buffer serde entries) = entries.map serde.toString := by
  refine lines_unlines fun line hline ↦ ?_
  obtain ⟨entry, hentry, rfl⟩ := List.mem_map.mp hline
  exact (h entry hentry).isLine

/-- Entries that are written alike are the same. -/
theorem render_injective (h : ∀ entry ∈ entries, serde.RoundTrips entry)
    (h' : ∀ entry ∈ entries', serde.RoundTrips entry)
    (heq : render serde entries = render serde entries') : entries = entries' := by
  have htext := congrArg readToString heq
  rw [render, render, readToString_toUtf8, readToString_toUtf8, Option.some.injEq] at htext
  have hlines := congrArg (lines '\n' '\r') htext
  rw [lines_buffer h, lines_buffer h'] at hlines
  have hread := readEntries_toString h 0
  rw [hlines, readEntries_toString h' 0] at hread
  exact (Except.ok.inj hread).symm

/-- A file that holds written entries has their lines and loads them. -/
theorem load_of_content {file : Option ByteArray} (h : ∀ entry ∈ entries, serde.RoundTrips entry)
    (hcontent : content file = render serde entries) :
    fileLines file = some (entries.map serde.toString) ∧
      loadFromDisk serde file = .ok ⟨entries, entries.length⟩ := by
  cases file with
  | none =>
    have hnil : [] = entries := render_injective (by simp) h hcontent
    subst hnil
    exact ⟨rfl, rfl⟩
  | some bytes =>
    obtain rfl : bytes = render serde entries := hcontent
    constructor
    · rw [fileLines, render, readToString_toUtf8, Option.map_some, lines_buffer h]
    · simp only [loadFromDisk, render, readToString_toUtf8, orFail, ok_bind, lines_buffer h,
        readEntries_toString h]
      rfl

end Reading

/-! ### Flushing -/

section Flushing

variable {serde : Serde} {fault : Option FlushFault} {log log' : WithdrawalAuditLog}
  {file file' : Option ByteArray} {outcome : Except FlushError Unit}

theorem written_of_nil (h : log.pending = []) : written serde fault log = .empty := by
  unfold written
  rw [h]
  cases fault with
  | none => rfl
  | some fault => cases fault <;> simp [render_nil]

/-- A flush appends what it writes, keeps the entries in memory and moves the cursor at most to
their end; a flush that succeeds has written all that was pending. -/
theorem flushToDisk_spec (h : flushToDisk serde fault log file = (outcome, file', log')) :
    content file' = content file ++ written serde fault log ∧ log'.entries = log.entries ∧
      (log' = log ∨ log'.flushed = log.entries.length) ∧
      (outcome = .ok () → written serde fault log = render serde log.pending) := by
  unfold flushToDisk at h
  split_ifs at h with hpending
  · cases h
    rw [written_of_nil hpending, hpending]
    exact ⟨by simp, rfl, .inl rfl, fun _ ↦ rfl⟩
  · cases fault with
    | none =>
      cases h
      exact ⟨rfl, rfl, .inr rfl, fun _ ↦ rfl⟩
    | some fault =>
      cases fault <;> cases h
      all_goals refine ⟨?_, rfl, .inl rfl, by simp⟩
      all_goals simp [content, written, render]

end Flushing

/-! ### Runs -/

/-- The file holds entries in the order logged, with everything acknowledged among them, and what is
in memory was logged in that order. -/
structure Orderly (serde : Serde) (s : AuditState) (present : List WithdrawalLogEntry) : Prop where
  held : content s.file = render serde present
  present_logged : present.Sublist s.logged
  acknowledged_present : s.acknowledged.Sublist present
  memory_logged : ∀ log, s.process = some log → log.entries.Sublist s.logged
  flushed_le : ∀ log, s.process = some log → log.flushed ≤ log.entries.length

section Runs

variable {serde : Serde} {s next : AuditState} {present : List WithdrawalLogEntry} {label : Step}
  {history : List (Receipt Step AuditState)}

theorem orderly_start : Orderly serde .start [] where
  held := rfl
  present_logged := .slnil
  acknowledged_present := .slnil
  memory_logged _ h := by
    cases h
    exact .slnil
  flushed_le _ h := by
    cases h
    exact Nat.le_refl _

/-- What a clean flush leaves in the file: a part of the memory, and all that was pending if it was
all written. -/
theorem Orderly.flushed (h : Orderly serde s present)
    (hserde : ∀ entry ∈ s.logged, serde.RoundTrips entry) {fault : Option FlushFault}
    {log : WithdrawalAuditLog} (hlog : s.process = some log)
    (hclean : written serde fault log = .empty ∨
      (content s.file = render serde (log.entries.take log.flushed) ∧
        ∃ k, written serde fault log = render serde (log.pending.take k))) :
    ∃ present', content s.file ++ written serde fault log = render serde present' ∧
      present'.Sublist s.logged ∧ present.Sublist present' ∧
      (written serde fault log = render serde log.pending →
        (s.acknowledged ++ log.pending).Sublist present') := by
  have hmemory := h.memory_logged log hlog
  have hpending : ∀ entry ∈ log.pending, serde.RoundTrips entry := fun entry hentry ↦
    hserde entry (hmemory.subset (List.mem_of_mem_drop hentry))
  rcases hclean with hnone | ⟨hheld, k, hpart⟩
  · refine ⟨present, ?_, h.present_logged, List.Sublist.refl _, fun hall ↦ ?_⟩
    · rw [hnone, ByteArray.append_empty, h.held]
    · rw [hnone, ← render_nil] at hall
      rw [← render_injective (by simp) hpending hall, List.append_nil]
      exact h.acknowledged_present
  · have hpresent : present = log.entries.take log.flushed := by
      refine render_injective (fun entry hentry ↦ hserde entry (h.present_logged.subset hentry))
        (fun entry hentry ↦ hserde entry (hmemory.subset (List.mem_of_mem_take hentry))) ?_
      rw [← h.held, hheld]
    refine ⟨present ++ log.pending.take k, ?_, ?_, List.sublist_append_left _ _, fun hall ↦ ?_⟩
    · rw [render_append, h.held, hpart]
    · refine List.Sublist.trans ?_ hmemory
      rw [hpresent]
      conv_rhs => rw [← List.take_append_drop log.flushed log.entries]
      exact (List.take_sublist k _).append_left _
    · have htake : log.pending = log.pending.take k :=
        render_injective hpending (fun entry hentry ↦ hpending entry (List.mem_of_mem_take hentry))
          (hall.symm.trans hpart)
      rw [← htake]
      exact h.acknowledged_present.append_right _

theorem orderly_of_process {log : WithdrawalAuditLog} (hprocess : s.process = some log)
    (held : content s.file = render serde present) (hlogged : present.Sublist s.logged)
    (hacknowledged : s.acknowledged.Sublist present) (hmemory : log.entries.Sublist s.logged)
    (hle : log.flushed ≤ log.entries.length) : Orderly serde s present := by
  refine ⟨held, hlogged, hacknowledged, ?_, ?_⟩ <;> intro log' hlog' <;>
    obtain rfl : log = log' := Option.some.inj (hprocess.symm.trans hlog')
  · exact hmemory
  · exact hle

/-- Logging leaves the file as it is. -/
theorem Orderly.log (h : Orderly serde s present) {log : WithdrawalAuditLog}
    (hlog : s.process = some log) (entry : WithdrawalLogEntry) :
    Orderly serde { s with process := some (log.push entry), logged := s.logged ++ [entry] }
      present := by
  refine orderly_of_process rfl h.held (h.present_logged.trans (List.sublist_append_left _ _))
    h.acknowledged_present ((h.memory_logged log hlog).append_right _) ?_
  exact Nat.le_trans (h.flushed_le log hlog) (by simp [WithdrawalAuditLog.push])

/-- A clean flush leaves a longer file, with what was pending in it if it succeeds. -/
theorem Orderly.flush (h : Orderly serde s present)
    (hserde : ∀ entry ∈ s.logged, serde.RoundTrips entry) {fault : Option FlushFault}
    {log log' : WithdrawalAuditLog} (hlog : s.process = some log)
    (hclean : AppendsCleanly serde ⟨.flush fault, s, next⟩) {outcome : Except FlushError Unit}
    {file' : Option ByteArray}
    (hflush : flushToDisk serde fault log s.file = (outcome, file', log')) :
    ∃ present', Orderly serde ⟨file', some log', s.logged, s.acknowledged⟩ present' ∧
      (outcome = .ok () →
        Orderly serde ⟨file', some log', s.logged, s.acknowledged ++ log.pending⟩ present') := by
  obtain ⟨present', hheld, hlogged, hkept, hacknowledged⟩ :=
    h.flushed hserde hlog (hclean log hlog)
  obtain ⟨hcontent, hentries, hcursor, hall⟩ := flushToDisk_spec hflush
  rw [← hcontent] at hheld
  have hmemory : log'.entries.Sublist s.logged := hentries ▸ h.memory_logged log hlog
  have hle : log'.flushed ≤ log'.entries.length := by
    rw [hentries]
    rcases hcursor with rfl | hend
    · exact h.flushed_le _ hlog
    · exact Nat.le_of_eq hend
  refine ⟨present', ?_, fun hok ↦ ?_⟩
  · exact orderly_of_process rfl hheld hlogged (h.acknowledged_present.trans hkept) hmemory hle
  · exact orderly_of_process rfl hheld hlogged (hacknowledged (hall hok)) hmemory hle

/-- Loading an orderly file puts its entries in memory. -/
theorem Orderly.reload (h : Orderly serde s present)
    (hserde : ∀ entry ∈ s.logged, serde.RoundTrips entry) {log : WithdrawalAuditLog}
    (hload : (loadFromDisk serde s.file).mapError Failure.load = .ok log) :
    Orderly serde { s with process := some log } present := by
  have hpresent := fun entry hentry ↦ hserde entry (h.present_logged.subset hentry)
  rw [(load_of_content hpresent h.held).2] at hload
  obtain rfl : (⟨present, present.length⟩ : WithdrawalAuditLog) = log := Except.ok.inj hload
  exact orderly_of_process rfl h.held h.present_logged h.acknowledged_present h.present_logged
    (Nat.le_refl _)

/-- A step that appends cleanly leaves an orderly state. -/
theorem Orderly.step (h : Orderly serde s present)
    (hserde : ∀ entry ∈ s.logged, serde.RoundTrips entry)
    (hexec : (auditSystem serde).exec label s = .ok next)
    (hclean : AppendsCleanly serde ⟨label, s, next⟩) : ∃ present', Orderly serde next present' := by
  cases label with
  | log entry =>
    obtain ⟨log, hlog, hnext⟩ := bind_eq_ok_iff.mp hexec
    obtain rfl := pure_eq_ok_iff.mp hnext
    exact ⟨present, h.log (orFail_eq_ok_iff.mp hlog) entry⟩
  | flush fault =>
    obtain ⟨log, hlog, hnext⟩ := bind_eq_ok_iff.mp hexec
    rcases hflush : flushToDisk serde fault log s.file with ⟨outcome, file', log'⟩
    obtain ⟨present', hfailed, hdone⟩ :=
      h.flush hserde (orFail_eq_ok_iff.mp hlog) hclean hflush
    rw [hflush] at hnext
    cases outcome with
    | ok =>
      obtain rfl := pure_eq_ok_iff.mp hnext
      exact ⟨present', hdone rfl⟩
    | error =>
      obtain rfl := pure_eq_ok_iff.mp hnext
      exact ⟨present', hfailed⟩
  | crash =>
    obtain rfl := pure_eq_ok_iff.mp hexec
    exact ⟨present, h.held, h.present_logged, h.acknowledged_present, by simp, by simp⟩
  | reload =>
    obtain ⟨log, hload, hnext⟩ := bind_eq_ok_iff.mp hexec
    obtain rfl := pure_eq_ok_iff.mp hnext
    exact ⟨present, h.reload hserde hload⟩

/-- What was logged stays logged. -/
theorem logged_subset (hexec : (auditSystem serde).exec label s = .ok next) :
    s.logged ⊆ next.logged := by
  cases label with
  | log entry =>
    obtain ⟨log, -, hnext⟩ := bind_eq_ok_iff.mp hexec
    obtain rfl := pure_eq_ok_iff.mp hnext
    exact List.subset_append_left _ _
  | flush fault =>
    obtain ⟨log, -, hnext⟩ := bind_eq_ok_iff.mp hexec
    rcases hflush : flushToDisk serde fault log s.file with ⟨outcome, file', log'⟩
    rw [hflush] at hnext
    cases outcome with
    | ok | error =>
      obtain rfl := pure_eq_ok_iff.mp hnext
      exact List.Subset.refl _
  | crash =>
    obtain rfl := pure_eq_ok_iff.mp hexec
    exact List.Subset.refl _
  | reload =>
    obtain ⟨log, -, hnext⟩ := bind_eq_ok_iff.mp hexec
    obtain rfl := pure_eq_ok_iff.mp hnext
    exact List.Subset.refl _

/-- In a run whose flushes append cleanly every state is orderly. -/
theorem orderly_of_run (run : Run (auditSystem serde) .start history s)
    (hserde : ∀ entry ∈ s.logged, serde.RoundTrips entry)
    (hclean : ∀ r ∈ history, AppendsCleanly serde r) : ∃ present, Orderly serde s present := by
  induction run with
  | start => exact ⟨[], orderly_start⟩
  | accept _ hexec ih =>
    have hearlier := fun entry hentry ↦ hserde entry (logged_subset hexec hentry)
    obtain ⟨present, horderly⟩ :=
      ih hearlier fun r hr ↦ hclean r (List.mem_cons_of_mem _ hr)
    exact horderly.step hearlier hexec (hclean _ List.mem_cons_self)
  | reject _ _ ih => exact ih hserde hclean

end Runs

/-! ### A sync that fails -/

namespace Sample

def entry : WithdrawalLogEntry where
  campaignId := 7
  recipient := "GA"
  amount := 500
  action := .requested
  actor := "GA"
  timestamp := 1700000000
  ledgerTimestamp := none
  txHash := none

def line : List Char :=
  ("\x7b\"campaign_id\":7,\"recipient\":\"GA\",\"amount\":500,\"action\":\"requested\"," ++
    "\"actor\":\"GA\",\"timestamp\":1700000000\x7d").toList

/-- JSON as far as the sample entry goes. -/
def serde : Serde where
  toString _ := line
  fromStr text := if text = line then some entry else none

theorem roundTrips : serde.RoundTrips entry where
  fromStr_toString := by simp [serde]
  newline_notMem := by decide +kernel
  opens := by decide +kernel
  closes := by decide +kernel

/-- An entry is logged. -/
def logged : AuditState := ⟨none, some ⟨[entry], 0⟩, [entry], []⟩

/-- The sync of its flush failed. -/
def unsynced : AuditState :=
  ⟨some (.empty ++ render serde [entry]), some ⟨[entry], 0⟩, [entry], []⟩

/-- The next flush succeeded. -/
def synced : AuditState :=
  ⟨some (.empty ++ render serde [entry] ++ render serde [entry]), some ⟨[entry], 1⟩, [entry],
    [entry]⟩

/-- The process crashed instead, and another one loaded the file. -/
def restarted : AuditState :=
  ⟨some (.empty ++ render serde [entry]), some ⟨[entry], 1⟩, [entry], []⟩

theorem unsynced_run : Run (auditSystem serde) .start
    [⟨.flush (some .syncAll), logged, unsynced⟩, ⟨.log entry, .start, logged⟩] unsynced :=
  .accept (.accept .start rfl) rfl

theorem synced_run : Run (auditSystem serde) .start
    [⟨.flush none, unsynced, synced⟩, ⟨.flush (some .syncAll), logged, unsynced⟩,
      ⟨.log entry, .start, logged⟩] synced :=
  .accept unsynced_run rfl

theorem restarted_run : Run (auditSystem serde) .start
    [⟨.reload, { unsynced with process := none }, restarted⟩,
      ⟨.crash, unsynced, { unsynced with process := none }⟩,
      ⟨.flush (some .syncAll), logged, unsynced⟩, ⟨.log entry, .start, logged⟩] restarted := by
  refine .accept (.accept unsynced_run rfl) ?_
  have hload : loadFromDisk serde unsynced.file = .ok ⟨[entry], 1⟩ :=
    (load_of_content (by simp [roundTrips]) (by simp [content, unsynced])).2
  simp only [auditSystem, hload]
  rfl

end Sample

/-! ### Intact files -/

/-- In a run whose flushes append cleanly the file is intact at every moment. -/
theorem intact_of_run {serde : Serde} {history : List (Receipt Step AuditState)} {s : AuditState}
    (run : Run (auditSystem serde) .start history s)
    (hserde : ∀ entry ∈ s.logged, serde.RoundTrips entry)
    (hclean : ∀ r ∈ history, AppendsCleanly serde r) : Intact serde s := by
  obtain ⟨present, horderly⟩ := orderly_of_run run hserde hclean
  have hpresent := fun entry hentry ↦ hserde entry (horderly.present_logged.subset hentry)
  obtain ⟨hlines, hload⟩ := load_of_content hpresent horderly.held
  exact ⟨present, _, hlines, horderly.present_logged, horderly.acknowledged_present, hload, rfl,
    Nat.sub_self _⟩

/-- A process that crashes after a sync that failed leaves an entry that loads. -/
theorem intact_of_run_restarted : Intact Sample.serde Sample.restarted := by
  refine intact_of_run Sample.restarted_run (by simp [Sample.restarted, Sample.roundTrips]) ?_
  intro r hr
  obtain rfl | rfl | rfl | rfl : _ ∨ _ ∨ _ ∨ _ := by simpa using hr
  · trivial
  · trivial
  · rintro _ ⟨rfl⟩
    exact .inr ⟨rfl, 1, rfl⟩
  · trivial

/-- A flush after one whose sync failed writes the same entries again. -/
theorem audit_duplicates : ¬ ∀ (serde : Serde) (history : List (Receipt Step AuditState))
    (s : AuditState), Run (auditSystem serde) .start history s →
      (∀ entry ∈ s.logged, serde.RoundTrips entry) → Intact serde s := by
  intro hclaim
  have hserde : ∀ entry ∈ Sample.synced.logged, Sample.serde.RoundTrips entry := by
    simp [Sample.synced, Sample.roundTrips]
  obtain ⟨present, log, -, hsub, -, hload, hentries, -⟩ := hclaim _ _ _ Sample.synced_run hserde
  have hcontent : content Sample.synced.file =
      render Sample.serde [Sample.entry, Sample.entry] := by
    simp only [content, Sample.synced, Option.getD_some, ByteArray.empty_append]
    exact (@render_append Sample.serde [Sample.entry] [Sample.entry]).symm
  rw [(load_of_content (by simp [Sample.roundTrips]) hcontent).2, Except.ok.injEq] at hload
  rw [← hentries, ← hload] at hsub
  exact absurd hsub.length_le (by decide)

end OrbitChain.Tools.AuditLog
