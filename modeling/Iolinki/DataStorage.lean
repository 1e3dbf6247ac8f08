import Iolinki.Protocol

/-!
# Data Storage

Model of `src/data_storage.c`: the state machine and the parameter checksum. The
storage hooks are never called by this code and are left out.
-/

namespace Iolinki

/-- `iolink_ds_state_t` -/
inductive DsState
  | idle | uploadReq | uploading | downloadReq | downloading | locked
  deriving DecidableEq, Repr

/-- `iolink_ds_ctx_t` -/
structure DsCtx where
  state : DsState
  currentChecksum : UInt16
  masterChecksum : UInt16
  deriving DecidableEq, Repr

/-- `iolink_ds_init` (lines 12–19). -/
def dsInit : DsCtx := ⟨.idle, 0, 0⟩

/-- One iteration of the loop of `iolink_ds_calc_checksum` (lines 29–32): `sum1` and
    `sum2`. The operands are promoted to `int`, the remainders are cast back. -/
def dsChecksumStep (s : UInt16 × UInt16) (byte : UInt8) : UInt16 × UInt16 :=
  let sum1 := UInt16.ofNat ((s.1.toNat + byte.toNat) % 255)
  let sum2 := UInt16.ofNat ((s.2.toNat + sum1.toNat) % 255)
  (sum1, sum2)

/-- `iolink_ds_calc_checksum(data, len)` (lines 21–34) on the `len` bytes at `data`. -/
def dsCalcChecksum (data : List UInt8) : UInt16 :=
  let s := data.foldl dsChecksumStep (0, 0)
  UInt16.ofNat ((s.2.toNat <<< 8) ||| s.1.toNat)

/-- `iolink_ds_check` (lines 36–56). -/
def dsCheck (c : DsCtx) (masterChecksum : UInt16) : DsCtx :=
  let c := { c with masterChecksum := masterChecksum }
  if c.state ≠ .idle then c
  else if masterChecksum = 0 then { c with state := .uploadReq }
  else if masterChecksum ≠ c.currentChecksum then { c with state := .downloadReq }
  else c

/-- `iolink_ds_process` (lines 58–91). -/
def dsProcess (c : DsCtx) : DsCtx :=
  match c.state with
  | .uploadReq => { c with state := .uploading }
  | .uploading => { c with state := .idle }
  | .downloadReq => { c with state := .downloading }
  | .downloading => { c with currentChecksum := c.masterChecksum, state := .idle }
  | _ => { c with state := .idle }

/-- `iolink_ds_start_upload` (lines 93–105): the context and the return value. -/
def dsStartUpload (c : DsCtx) : DsCtx × Int :=
  if c.state ≠ .idle then (c, -1) else ({ c with state := .uploadReq }, 0)

/-- `iolink_ds_start_download` (lines 107–119). -/
def dsStartDownload (c : DsCtx) : DsCtx × Int :=
  if c.state ≠ .idle then (c, -1) else ({ c with state := .downloadReq }, 0)

/-- `iolink_ds_abort` (lines 121–130). -/
def dsAbort (c : DsCtx) : DsCtx × Int := ({ c with state := .idle }, 0)

/-- `iolink_ds_handle_command` (lines 132–182). -/
def dsHandleCommand (c : DsCtx) (cmd : UInt8) (accessLocks : UInt16) : DsCtx × Int :=
  if (cmd = cmdParamDownloadStart ∨ cmd = cmdParamDownloadEnd) ∧ accessLocks &&& lockDs ≠ 0 then
    (c, -2)
  else if cmd = cmdParamUploadStart then
    if c.state ≠ .idle then (c, -1) else ({ c with state := .uploadReq }, 0)
  else if cmd = cmdParamUploadEnd then
    (if c.state = .uploading then { c with state := .idle } else c, 0)
  else if cmd = cmdParamDownloadStart then
    if c.state ≠ .idle then (c, -1) else ({ c with state := .downloadReq }, 0)
  else if cmd = cmdParamDownloadEnd then
    (if c.state = .downloading then { c with currentChecksum := c.masterChecksum, state := .idle }
     else c, 0)
  else if cmd = cmdParamBreak then dsAbort c
  else (c, -3)

end Iolinki
