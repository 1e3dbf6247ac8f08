import Iolinki.Dll.Engine
import Iolinki.Isdu.DsCommands
import Iolinki.Isdu.Tags

/-!
# Data Storage commands through the stack

`iolink_dll_init` sets the pointers of the ISDU engine to the event queue and to
the link, but not the one to the Data Storage context that `iolink_get_ds_ctx`
returns. The engine of a stack therefore answers every Data Storage command with
success and calls no function of `data_storage.c`.

* `ds_commands_reach_iff`: exactly when this is what the call would have done.
-/

namespace Iolinki

open Iolinki.Lib

/-- The Data Storage context after a call of `iolink_process` is the one that the
    ISDU engine has left. -/
theorem ds_iolinkProcess (cfg : BuildConfig) (d : Device) (env : CallEnv) :
    (iolinkProcess cfg d env).1.dll.ds = (isduProcess cfg d.host d.dll.isdu).1.ds := by
  obtain ⟨_, _, hp⟩ := polled_eq cfg d env
  refine (kept_dllReceive cfg _ env).ds.trans ?_
  rw [hp]

/-! ## Commands -/

/-- When the function behind a command returns `0` and leaves the context as it
    is. -/
theorem dsDirect_idle_iff {ds : DsCtx} {locks : UInt16} {cmd : UInt8} (hcmd : cmd ∈ dsCommands) :
    ((dsDirect ds locks cmd).1 = ds ∧ (dsDirect ds locks cmd).2 = 0) ↔
      (cmd = cmdParamDownloadEnd ∧ locks &&& lockDs = 0 ∧ ds.state ≠ .downloading) ∨
        (cmd = cmdParamUploadEnd ∧ ds.state ≠ .uploading) ∨
        (cmd = cmdParamBreak ∧ ds.state = .idle) := by
  obtain ⟨state, current, master⟩ := ds
  simp only [dsCommands, List.mem_cons, List.not_mem_nil, or_false] at hcmd
  rcases hcmd with rfl | rfl | rfl | rfl | rfl | rfl | rfl
  all_goals by_cases hl : locks &&& lockDs = 0
  all_goals cases state
  all_goals simp [dsDirect, dsHandleCommand, dsStartUpload, dsStartDownload, dsAbort, hl,
    cmdParamDownloadStart, cmdParamDownloadEnd, cmdParamUploadStart, cmdParamUploadEnd,
    cmdParamUpload, cmdParamDownload, cmdParamBreak]

/-- The engine of a stack answers every Data Storage command with success. -/
theorem answerData_dsCommand (cfg : BuildConfig) (h : Host) {c : IsduCtx} (hw : c.Wired)
    {cmd : UInt8} (hc : c.Commands cmd) (hcmd : cmd ∈ dsCommands) :
    answerData (isduProcess cfg h c).2 = some [] := by
  have hsys : ∀ cmd ∈ dsCommands, cmd ∈ systemCommands := by decide +kernel
  have hout := handleSystemCommand_outcome h hw cmd
  rw [if_pos (hsys cmd hcmd)] at hout
  obtain ⟨⟨hstate, -, hlen⟩, -⟩ := hout
  rw [answerData_isduProcess cfg h hc.state, handleStandardCommands, if_pos hc.index,
    if_pos hc.type, if_pos hc.nonempty, hc.cmd, answerData, if_pos hstate, hlen]
  rfl

/-- **Data Storage commands through the stack.** For a stack that `iolink_init`
    has set up and a command that the master has written, the Data Storage context
    after the call that executes it is the one that the function behind the command
    leaves, and the answer tells whether that function returned `0`, exactly for
    the commands that would have changed nothing anyhow. -/
theorem ds_commands_reach_iff {cfg : BuildConfig} {config : Config} {hasSend : Bool}
    {calls : List Call} {d : Device} (hd : Reaches cfg config hasSend calls d) {cmd : UInt8}
    (hc : d.dll.isdu.Commands cmd) (hcmd : cmd ∈ dsCommands) (env : CallEnv) :
    let locks := (deviceInfoGetAccessLocks d.store).1
    ((iolinkProcess cfg d env).1.dll.ds = (dsDirect d.dll.ds locks cmd).1 ∧
        (answerData (isduProcess cfg d.host d.dll.isdu).2 = some [] ↔
          (dsDirect d.dll.ds locks cmd).2 = 0)) ↔
      (cmd = cmdParamDownloadEnd ∧ locks &&& lockDs = 0 ∧ d.dll.ds.state ≠ .downloading) ∨
        (cmd = cmdParamUploadEnd ∧ d.dll.ds.state ≠ .uploading) ∨
        (cmd = cmdParamBreak ∧ d.dll.ds.state = .idle) := by
  intro locks
  have hwired := reaches_wired hd
  have hsame : (isduProcess cfg d.host d.dll.isdu).1.ds = d.dll.ds := by
    rw [isduProcess_ds cfg d.host hc, if_neg]
    · rfl
    · rw [hwired.2.1]
      simp
  rw [ds_iolinkProcess, hsame, ← dsDirect_idle_iff hcmd,
    answerData_dsCommand cfg d.host hwired hc hcmd]
  simp only [true_iff]
  exact and_congr_left fun _ => eq_comm

/-- Wake-up, and a write of the system command `cmd` in Type 0 frames. -/
def commandCalls (cmd : UInt8) : List Call :=
  [.process (callWith true []),
    .process (callWith false ([0x80, 0x91, 0x01, 0x00, 0x02, 0x02, 0x03, 0x00, 0x44, cmd].flatMap
      fun b => [b, checksumCk b 0]))]

/-- The device after these calls: the command is about to be executed. -/
def commandedDevice (cmd : UInt8) : Device :=
  (deviceMachine {}).final (iolinkInit {} (sampleConfig .type0) true 0 none storeInit)
    (commandCalls cmd)

theorem commands_commandedDevice_uploadEnd :
    (commandedDevice cmdParamUploadEnd).dll.isdu.Commands cmdParamUploadEnd :=
  ⟨by decide +kernel, by decide +kernel, by decide +kernel, by decide +kernel, by decide +kernel⟩

theorem reaches_commandedDevice (cmd : UInt8) :
    Reaches {} (sampleConfig .type0) true (commandCalls cmd) (commandedDevice cmd) :=
  ⟨0, none, storeInit, rfl⟩

/-- The end of an upload that has not begun. -/
theorem ds_commands_reach_iff_uploadEnd :
    let d := commandedDevice cmdParamUploadEnd
    (iolinkProcess {} d (callWith false [])).1.dll.ds =
      (dsDirect d.dll.ds (deviceInfoGetAccessLocks d.store).1 cmdParamUploadEnd).1 := by
  have hstate : (commandedDevice cmdParamUploadEnd).dll.ds.state ≠ .uploading := by decide +kernel
  exact ((ds_commands_reach_iff (reaches_commandedDevice cmdParamUploadEnd)
    commands_commandedDevice_uploadEnd (by decide +kernel) (callWith false [])).mpr
    (.inr (.inl ⟨rfl, hstate⟩))).1

/-- A download is requested over the stack: the answer is success, and Data
    Storage stays idle. -/
theorem ds_download_never_arrives :
    let d := commandedDevice cmdParamDownloadStart
    d.dll.isdu.Commands cmdParamDownloadStart ∧
      answerData (isduProcess {} d.host d.dll.isdu).2 = some [] ∧
      (iolinkProcess {} d (callWith false [])).1.dll.ds.state = .idle ∧
      dsDirect d.dll.ds (deviceInfoGetAccessLocks d.store).1 cmdParamDownloadStart =
        (⟨.downloadReq, 0, 0⟩, 0) := by
  refine ⟨⟨?_, ?_, ?_, ?_, ?_⟩, ?_, ?_, ?_⟩
  all_goals decide +kernel

end Iolinki
