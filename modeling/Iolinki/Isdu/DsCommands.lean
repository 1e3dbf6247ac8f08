import Iolinki.Isdu.Execute

/-!
# Data Storage commands

Seven system commands stand for a call of a function of `data_storage.c`
(`dsDirect`). `handle_system_command` makes the call if the pointer `ds_ctx` of
the engine is set; otherwise it answers with success and calls nothing. Only
`iolink_ds_handle_command` looks at the access locks: the commands `0x05` and
`0x06` go through it, the older command `0x96` does not.

* `isduProcess_ds`: the Data Storage context after a call of the engine.
* `ds_lock_effective_iff`: exactly when the lock keeps downloads away along a
  run.
-/

namespace Iolinki

open Iolinki.Lib

/-! ## The function behind a command -/

/-- The commands that stand for a function of `data_storage.c`. -/
def dsCommands : List UInt8 :=
  [cmdParamDownloadStart, cmdParamDownloadEnd, cmdParamUploadStart, cmdParamUploadEnd,
    cmdParamUpload, cmdParamDownload, cmdParamBreak]

/-- The call that one of these commands stands for: the context and the return
    value. -/
def dsDirect (ds : DsCtx) (locks : UInt16) (cmd : UInt8) : DsCtx × Int :=
  if cmd = cmdParamUpload then dsStartUpload ds
  else if cmd = cmdParamDownload then dsStartDownload ds
  else if cmd = cmdParamBreak then dsAbort ds
  else dsHandleCommand ds cmd locks

/-- The engine is about to execute the system command `cmd`. -/
structure IsduCtx.Commands (c : IsduCtx) (cmd : UInt8) : Prop where
  state : c.state = .serviceExecute
  type : c.header.type = .write
  index : c.header.index = idxSystemCommand
  nonempty : c.bufferIdx > 0
  cmd : c.buffer 0 = cmd

theorem handleSystemCommand_ds (h : Host) (c : IsduCtx) (cmd : UInt8) :
    (handleSystemCommand h c cmd).1.ds =
      if c.dsCtx = true ∧ cmd ∈ dsCommands then
        (dsDirect h.ds (deviceInfoGetAccessLocks h.store).1 cmd).1
      else h.ds := by
  by_cases hcmd : cmd ∈ dsCommands
  · simp only [hcmd, and_true]
    simp only [dsCommands, List.mem_cons, List.not_mem_nil, or_false] at hcmd
    cases hds : c.dsCtx with
    | true => rcases hcmd with rfl | rfl | rfl | rfl | rfl | rfl | rfl <;>
        simp only [handleSystemCommand, hds] <;> rfl
    | false => rcases hcmd with rfl | rfl | rfl | rfl | rfl | rfl | rfl <;>
        simp only [handleSystemCommand, hds] <;> rfl
  · rw [if_neg fun hc => hcmd hc.2]
    simp only [dsCommands, List.mem_cons, List.not_mem_nil, or_false, not_or] at hcmd
    obtain ⟨h1, h2, h3, h4, h5, h6, h7⟩ := hcmd
    simp only [handleSystemCommand, h1, h2, h3, h4, h5, h6, h7, or_self, if_false]
    split_ifs <;> rfl

/-! ## The other handlers -/

/-- `r` has changed nothing around the engine but the parameters. -/
def OnlyStore (h : Host) (r : Host × IsduCtx) : Prop := r.1 = { h with store := r.1.store }

theorem onlyStore_ite {h : Host} {p : Prop} [Decidable p] {a b : Host × IsduCtx}
    (ha : OnlyStore h a) (hb : OnlyStore h b) : OnlyStore h (if p then a else b) := by
  split_ifs
  · exact ha
  · exact hb

theorem onlyStore_handleTag (cfg : BuildConfig) (h : Host) (c : IsduCtx) (index : UInt16)
    (finish : IsduCtx → IsduCtx) : OnlyStore h (handleTag cfg h c index finish) := by
  unfold handleTag
  exact onlyStore_ite rfl rfl

theorem onlyStore_handleIndex (cfg : BuildConfig) (h : Host) (info : DeviceInfo) (c : IsduCtx) :
    OnlyStore h (handleIndex cfg h info c) := by
  have htag := onlyStore_handleTag cfg h c
  unfold handleIndex
  dsimp only
  refine onlyStore_ite rfl (onlyStore_ite rfl (onlyStore_ite rfl ?_))
  cases stringOfIndex info c.header.index with
  | some str => rfl
  | none =>
    refine onlyStore_ite (htag _ _) (onlyStore_ite (htag _ _) (onlyStore_ite (htag _ _) ?_))
    refine onlyStore_ite (onlyStore_ite rfl rfl) (onlyStore_ite rfl (onlyStore_ite rfl ?_))
    exact onlyStore_ite rfl (onlyStore_ite rfl rfl)

/-- Away from index 2 the handlers change nothing but the parameters. -/
theorem onlyStore_handleStandardCommands (cfg : BuildConfig) (h : Host) {c : IsduCtx}
    (hi : c.header.index ≠ idxSystemCommand) : OnlyStore h (handleStandardCommands cfg h c) := by
  have hlocks : OnlyStore h (handleAccessLocks h c) := by
    unfold handleAccessLocks
    refine onlyStore_ite rfl ?_
    show OnlyStore h (if c.bufferIdx ≥ 2 then _ else h, _)
    split_ifs <;> rfl
  unfold handleStandardCommands
  rw [if_neg hi]
  refine onlyStore_ite hlocks (onlyStore_ite rfl (onlyStore_ite rfl ?_))
  unfold handleMandatoryIndices
  exact onlyStore_handleIndex cfg { h with store := (deviceInfoGet h.store).2 } _ c

/-- A read of index 2 takes an event from the queue. -/
theorem host_handleEventRead (cfg : BuildConfig) (h : Host) (c : IsduCtx) :
    ∃ events, (handleEventRead cfg h c).1 = { h with events := events } := by
  unfold handleEventRead
  split_ifs
  · split <;> exact ⟨_, rfl⟩
  · exact ⟨h.events, rfl⟩

theorem isduProcess_fst (cfg : BuildConfig) (h : Host) {c : IsduCtx}
    (hs : c.state = .serviceExecute) :
    (isduProcess cfg h c).1 = (handleStandardCommands cfg h c).1 := by
  rw [isduProcess_execute cfg h hs]
  split_ifs <;> rfl

/-- The Data Storage context after a command. -/
theorem isduProcess_ds (cfg : BuildConfig) (h : Host) {c : IsduCtx} {cmd : UInt8}
    (hc : c.Commands cmd) :
    (isduProcess cfg h c).1.ds =
      if c.dsCtx = true ∧ cmd ∈ dsCommands then
        (dsDirect h.ds (deviceInfoGetAccessLocks h.store).1 cmd).1
      else h.ds := by
  rw [isduProcess_fst cfg h hc.state, ← handleSystemCommand_ds, handleStandardCommands,
    if_pos hc.index, if_pos hc.type, if_pos hc.nonempty, hc.cmd]

/-- Without a command the call leaves the Data Storage context alone. -/
theorem isduProcess_ds_of_not (cfg : BuildConfig) (h : Host) {c : IsduCtx}
    (hc : ∀ cmd, ¬c.Commands cmd) : (isduProcess cfg h c).1.ds = h.ds := by
  by_cases hs : c.state = .serviceExecute
  · rw [isduProcess_fst cfg h hs]
    by_cases hi : c.header.index = idxSystemCommand
    · unfold handleStandardCommands
      rw [if_pos hi]
      by_cases hw : c.header.type = .write
      · rw [if_pos hw]
        by_cases hpos : c.bufferIdx > 0
        · exact absurd ⟨hs, hw, hi, hpos, rfl⟩ (hc (c.buffer 0))
        · rw [if_neg hpos]
      · obtain ⟨_, hevent⟩ := host_handleEventRead cfg h c
        rw [if_neg hw, hevent]
    · rw [onlyStore_handleStandardCommands cfg h hi]
  · rw [isduProcess_of_ne cfg h hs]

/-! ## The lock along a run -/

/-- A call of the engine or of the Data Storage state machine. -/
inductive DsOp
  | isdu (op : IsduOp)
  | dsProcess
  deriving DecidableEq, Repr

/-- One call on an engine whose `ds_ctx` is the context `ds` of the host. -/
def dsStep (cfg : BuildConfig) (s : IsduCtx × Host) : DsOp → (IsduCtx × Host) × Option IsduOut
  | .isdu op => ((isduStep cfg s op).1, some (isduStep cfg s op).2)
  | .dsProcess => ((s.1, { s.2 with ds := dsProcess s.2.ds }), none)

/-- ISDU requests interleaved with `iolink_ds_process`. -/
def dsMachine (cfg : BuildConfig) : Machine (IsduCtx × Host) DsOp (Option IsduOut) := ⟨dsStep cfg⟩

/-- `IOLINK_LOCK_DS` is set in the access locks. -/
def DsLocked (s : IsduCtx × Host) : Prop :=
  (deviceInfoGetAccessLocks s.2.store).1 &&& lockDs ≠ 0

/-- No download has been requested or is in progress, and the parameters of the
    device are those of the checksum `k`. -/
structure NoDownload (k : UInt16) (ds : DsCtx) : Prop where
  notRequested : ds.state ≠ .downloadReq
  notDownloading : ds.state ≠ .downloading
  checksum : ds.currentChecksum = k

/-- The call executes the command `0x96` while Data Storage is idle. -/
def StartsDownload (s : IsduCtx × Host) (op : DsOp) : Prop :=
  op = .isdu .process ∧ s.1.Commands cmdParamDownload ∧ s.2.ds.state = .idle

section Lock

variable {k : UInt16} {ds : DsCtx}

theorem noDownload_setState (h : NoDownload k ds) {state : DsState} (h1 : state ≠ .downloadReq)
    (h2 : state ≠ .downloading) : NoDownload k { ds with state := state } :=
  ⟨h1, h2, h.checksum⟩

theorem noDownload_dsProcess (h : NoDownload k ds) : NoDownload k (dsProcess ds) := by
  unfold dsProcess
  cases hs : ds.state with
  | downloadReq => exact absurd hs h.notRequested
  | downloading => exact absurd hs h.notDownloading
  | idle | uploadReq | uploading | locked => exact noDownload_setState h (by decide) (by decide)

/-- `iolink_ds_handle_command` sees the locks. -/
theorem noDownload_dsHandleCommand (h : NoDownload k ds) {locks : UInt16}
    (hl : locks &&& lockDs ≠ 0) (cmd : UInt8) : NoDownload k (dsHandleCommand ds cmd locks).1 := by
  unfold dsHandleCommand
  split_ifs with h1 h2 h3 h4 h5 h6 h7 h8 h9 h10
  · exact h
  · exact h
  · exact noDownload_setState h (by decide) (by decide)
  · exact noDownload_setState h (by decide) (by decide)
  · exact h
  · exact absurd ⟨.inl h6, hl⟩ h1
  · exact absurd ⟨.inl h6, hl⟩ h1
  · exact absurd ⟨.inr h8, hl⟩ h1
  · exact absurd ⟨.inr h8, hl⟩ h1
  · exact noDownload_setState h (by decide) (by decide)
  · exact h

theorem noDownload_dsDirect (h : NoDownload k ds) {locks : UInt16} (hl : locks &&& lockDs ≠ 0)
    {cmd : UInt8} (hcmd : ¬(cmd = cmdParamDownload ∧ ds.state = .idle)) :
    NoDownload k (dsDirect ds locks cmd).1 := by
  unfold dsDirect dsStartUpload dsStartDownload dsAbort
  split_ifs with h1 h2 h3 h4
  · exact h
  · exact noDownload_setState h (by decide) (by decide)
  · exact h
  · exact absurd ⟨h3, not_not.mp h4⟩ hcmd
  · exact noDownload_setState h (by decide) (by decide)
  · exact noDownload_dsHandleCommand h hl cmd

end Lock

section Run

variable (cfg : BuildConfig)

/-- One call under the lock. -/
theorem noDownload_dsStep {k : UInt16} {s : IsduCtx × Host} (h : NoDownload k s.2.ds)
    (hl : DsLocked s) {op : DsOp} (hop : ¬StartsDownload s op) :
    NoDownload k (dsStep cfg s op).1.2.ds := by
  cases op with
  | dsProcess => exact noDownload_dsProcess h
  | isdu op =>
    cases op with
    | collect b => exact h
    | getResponse => exact h
    | process =>
      show NoDownload k (isduProcess cfg s.2 s.1).1.ds
      by_cases hc : ∃ cmd, s.1.Commands cmd
      · obtain ⟨cmd, hc⟩ := hc
        rw [isduProcess_ds cfg s.2 hc]
        split_ifs
        · refine noDownload_dsDirect h hl ?_
          rintro ⟨rfl, hidle⟩
          exact hop ⟨rfl, hc, hidle⟩
        · exact h
      · rw [isduProcess_ds_of_not cfg s.2 (not_exists.mp hc)]
        exact h

theorem pointers_dsStep (s : IsduCtx × Host) (op : DsOp) :
    (dsStep cfg s op).1.1.pointers = s.1.pointers := by
  cases op with
  | dsProcess => rfl
  | isdu op =>
    cases op with
    | collect b => exact pointers_collectByte s.1 b
    | process => exact pointers_isduProcess cfg s.2 s.1
    | getResponse => exact pointers_getResponseByte s.1

/-- The command `0x96` starts the download, locked or not. -/
theorem dsStep_startsDownload {s : IsduCtx × Host} (hds : s.1.dsCtx = true) {op : DsOp}
    (h : StartsDownload s op) : (dsStep cfg s op).1.2.ds.state = .downloadReq := by
  obtain ⟨rfl, hc, hidle⟩ := h
  show (isduProcess cfg s.2 s.1).1.ds.state = _
  rw [isduProcess_ds cfg s.2 hc, if_pos ⟨hds, by decide⟩]
  show (dsStartDownload s.2.ds).1.state = _
  rw [dsStartDownload, if_neg (not_not.mpr hidle)]

/-- **The Data Storage lock.** Along every run that starts with Data Storage
    idle and keeps the lock set, no download starts and the checksum stays,
    exactly if the command `0x96` is never executed while Data Storage is idle. -/
theorem ds_lock_effective_iff (c : IsduCtx) (h : Host) (hds : c.dsCtx = true)
    (hidle : h.ds.state = .idle) (ops : List DsOp)
    (hlock : ∀ pre, pre <+: ops → DsLocked ((dsMachine cfg).final (c, h) pre)) :
    (∀ pre, pre <+: ops →
        NoDownload h.ds.currentChecksum ((dsMachine cfg).final (c, h) pre).2.ds) ↔
      ∀ pre op, pre ++ [op] <+: ops → ¬StartsDownload ((dsMachine cfg).final (c, h) pre) op := by
  have hptr : ∀ pre, ((dsMachine cfg).final (c, h) pre).1.dsCtx = true := by
    intro pre
    have hkeep : ((dsMachine cfg).final (c, h) pre).1.pointers = c.pointers :=
      (dsMachine cfg).final_invariant (P := fun s => s.1.pointers = c.pointers)
        (fun s op hs => (pointers_dsStep cfg s op).trans hs) rfl pre
    exact (congrArg (fun p => p.2.1) hkeep).trans hds
  constructor
  · intro hsafe pre op hpre hstart
    have hnext := (hsafe (pre ++ [op]) hpre).notRequested
    rw [Machine.final_append] at hnext
    exact hnext (dsStep_startsDownload cfg (hptr pre) hstart)
  · intro hno pre hpre
    refine (dsMachine cfg).final_of_steps (P := fun s => NoDownload h.ds.currentChecksum s.2.ds)
      (Q := fun s op => DsLocked s ∧ ¬StartsDownload s op)
      (fun s op hs hq => noDownload_dsStep cfg hs hq.1 hq.2) ?_ ?_
    · exact ⟨by rw [hidle]; decide, by rw [hidle]; decide, rfl⟩
    · intro pre' op hpre'
      have hle := hpre'.trans hpre
      exact ⟨hlock pre' ((List.prefix_append pre' [op]).trans hle), hno pre' op hle⟩

end Run

/-- An engine with all its pointers, and parameters with `IOLINK_LOCK_DS` set. -/
def lockedEngine : IsduCtx × Host :=
  ({ isduInit with eventCtx := true, dsCtx := true, dllCtx := true },
    { hostInit with store := { storeInit with accessLocks := 0x0002 } })

/-- The bytes of a write of the system command `cmd`, and the call that executes it. -/
def commandOps (cmd : UInt8) : List DsOp :=
  ([0x80, 0x91, 0x01, 0x00, 0x02, 0x02, 0x03, 0x00, 0x44, cmd].map fun b => .isdu (.collect b)) ++
    [.isdu .process]

instance (s : IsduCtx × Host) : Decidable (DsLocked s) := inferInstanceAs (Decidable (_ ≠ _))

/-- The command `0x05` is refused. -/
theorem ds_lock_effective_iff_refused :
    NoDownload 0 ((dsMachine {}).final lockedEngine (commandOps 0x05)).2.ds := by
  have hlock : ∀ pre ∈ (commandOps 0x05).inits,
      DsLocked ((dsMachine {}).final lockedEngine pre) := by
    decide +kernel
  refine (ds_lock_effective_iff {} lockedEngine.1 lockedEngine.2 rfl rfl (commandOps 0x05)
    fun pre hpre => hlock pre ((List.mem_inits _ _).mpr hpre)).mpr ?_ _ (List.prefix_refl _)
  rintro pre op hpre ⟨rfl, hc, -⟩
  -- the only call that executes a command is the last one
  have hbuf : ∀ pre ∈ (commandOps 0x05).inits,
      ((dsMachine {}).final lockedEngine pre).1.buffer 0 ≠ cmdParamDownload := by
    decide +kernel
  exact hbuf pre ((List.mem_inits _ _).mpr ((List.prefix_append pre _).trans hpre)) hc.cmd

/-- The command `0x96` requests a download although the lock is set all the
    time, and the checksum is replaced after two calls of `iolink_ds_process`. -/
theorem ds_lock_bypassed :
    let ops := commandOps 0x96 ++ [.dsProcess, .dsProcess]
    let run := (dsMachine {}).final
      (lockedEngine.1, { lockedEngine.2 with ds := ⟨.idle, 0x1234, 0⟩ })
    (∀ pre ∈ ops.inits, DsLocked (run pre)) ∧
      (run (commandOps 0x96)).2.ds.state = .downloadReq ∧
      (run ops).2.ds.currentChecksum = 0 := by
  decide +kernel

end Iolinki
