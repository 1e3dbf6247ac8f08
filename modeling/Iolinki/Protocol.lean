import Mathlib.Data.FinEnum
import Mathlib.Tactic.Ring

/-!
# Protocol constants and shared data types

The constants of `include/iolinki/protocol.h` and `config.h`, the enumerations
of `iolink.h`, `phy.h`, `dll.h` and `isdu.h`, and the ISDU control byte.

`uint8_t`, `uint16_t`, `uint32_t` and `uint64_t` data is modelled by the Lean
type of the same width. Lengths and buffer positions are natural numbers; a
cast of the source that can cut such a number is written as `% 256`.

* `startBit_ctrlByte`, `lastBit_ctrlByte`, `seqBits_ctrlByte`: the three fields
  of a control byte are recovered from it.
* `nextSeq_toNat`: the successor of a sequence number is taken modulo 64.
-/

namespace Iolinki

/-- The compile-time sizes of `config.h` that a build may override. -/
structure BuildConfig where
  /-- `IOLINK_ISDU_BUFFER_SIZE` -/
  isduBufferSize : ℕ := 256
  /-- `IOLINK_EVENT_QUEUE_SIZE` -/
  eventQueueSize : ℕ := 4
  /-- `IOLINK_TIMING_ENFORCE_DEFAULT != 0U` -/
  timingEnforceDefault : Bool := false

/-- `IOLINK_PD_IN_MAX_SIZE` -/
def pdInMaxSize : ℕ := 32

/-- `IOLINK_PD_OUT_MAX_SIZE` -/
def pdOutMaxSize : ℕ := 32

/-- `IOLINK_T_DWU_US` -/
def tDwuUs : UInt64 := 80

/-- `IOLINK_M_SEQ_HEADER_LEN`: MC and CKT. -/
def mSeqHeaderLen : ℕ := 2

/-- `IOLINK_MC_TRANSITION_COMMAND` -/
def mcTransitionCommand : UInt8 := 0x0F

/-! ## Enumerations -/

/-- `iolink_m_seq_type_t` -/
inductive MSeqType
  | type0 | type11 | type12 | type1V | type21 | type22 | type2V
  deriving DecidableEq, Repr

/-- The M-sequence types with process data and one OD byte. -/
def MSeqType.IsType1 (t : MSeqType) : Prop := t = .type11 ∨ t = .type12 ∨ t = .type1V

/-- The M-sequence types with process data and two OD bytes. -/
def MSeqType.IsType2 (t : MSeqType) : Prop := t = .type21 ∨ t = .type22 ∨ t = .type2V

instance (t : MSeqType) : Decidable t.IsType1 := inferInstanceAs (Decidable (_ ∨ _))

instance (t : MSeqType) : Decidable t.IsType2 := inferInstanceAs (Decidable (_ ∨ _))

/-- `iolink_phy_mode_t` -/
inductive PhyMode
  | inactive | sio | sdci
  deriving DecidableEq, Repr

/-- `iolink_baudrate_t` -/
inductive Baudrate
  | com1 | com2 | com3
  deriving DecidableEq, Repr

/-- `iolink_dll_state_t` -/
inductive DllState
  | startup | awaitingComm | preoperate | estabCom | operate | fallback
  deriving DecidableEq, Repr

/-- `isdu_state_t` -/
inductive IsduState
  | idle | headerInitial | headerExtLen | headerIndexHigh | headerIndexLow | headerSubindex
  | dataCollect | segmentCollect | serviceExecute | responseReady | busy
  deriving DecidableEq, Repr

/-- `iolink_isdu_service_type_t` -/
inductive ServiceType
  | read | write
  deriving DecidableEq, Repr

/-- `iolink_dll_stats_t`: the counters of the data link layer. -/
structure DllStats where
  crcErrors : UInt32 := 0
  timeoutErrors : UInt32 := 0
  framingErrors : UInt32 := 0
  timingErrors : UInt32 := 0
  tRenViolations : UInt32 := 0
  tCycleViolations : UInt32 := 0
  tByteViolations : UInt32 := 0
  tPdViolations : UInt32 := 0
  totalRetries : UInt32 := 0
  voltageFaults : UInt32 := 0
  shortCircuits : UInt32 := 0

/-! ## Indices, system commands and error codes -/

@[simp] def idxSystemCommand : UInt16 := 0x0002
@[simp] def idxVendorId : UInt16 := 0x000A
@[simp] def idxDeviceId : UInt16 := 0x000B
@[simp] def idxDeviceAccessLocks : UInt16 := 0x000C
@[simp] def idxProfileCharacteristic : UInt16 := 0x000D
@[simp] def idxVendorName : UInt16 := 0x0010
@[simp] def idxVendorText : UInt16 := 0x0011
@[simp] def idxProductName : UInt16 := 0x0012
@[simp] def idxProductId : UInt16 := 0x0013
@[simp] def idxProductText : UInt16 := 0x0014
@[simp] def idxSerialNumber : UInt16 := 0x0015
@[simp] def idxHardwareRevision : UInt16 := 0x0016
@[simp] def idxFirmwareRevision : UInt16 := 0x0017
@[simp] def idxApplicationTag : UInt16 := 0x0018
@[simp] def idxFunctionTag : UInt16 := 0x0019
@[simp] def idxLocationTag : UInt16 := 0x001A
@[simp] def idxDeviceStatus : UInt16 := 0x001B
@[simp] def idxDetailedDeviceStatus : UInt16 := 0x001C
@[simp] def idxPdinDescriptor : UInt16 := 0x001D
@[simp] def idxRevisionId : UInt16 := 0x001E
@[simp] def idxMinCycleTime : UInt16 := 0x0024
@[simp] def idxErrorStats : UInt16 := 0x0025

def cmdParamDownloadStart : UInt8 := 0x05
def cmdParamDownloadEnd : UInt8 := 0x06
def cmdParamUploadStart : UInt8 := 0x07
def cmdParamUploadEnd : UInt8 := 0x08
def cmdDeviceReset : UInt8 := 0x80
def cmdApplicationReset : UInt8 := 0x81
def cmdRestoreFactorySettings : UInt8 := 0x82
def cmdRestoreAppDefaults : UInt8 := 0x83
def cmdSetCommMode : UInt8 := 0x84
def cmdParamUpload : UInt8 := 0x95
def cmdParamDownload : UInt8 := 0x96
def cmdParamBreak : UInt8 := 0x97

/-- `IOLINK_LOCK_PARAM` -/
def lockParam : UInt16 := 0x01

/-- `IOLINK_LOCK_DS` -/
def lockDs : UInt16 := 0x02

def isduErrorNone : UInt8 := 0x00
def isduErrorServiceNotAvail : UInt8 := 0x11
def isduErrorSubindexNotAvail : UInt8 := 0x12
def isduErrorBusy : UInt8 := 0x30
def isduErrorWriteProtected : UInt8 := 0x33
def isduErrorSegmentation : UInt8 := 0x81

def eventCodeCommErrFraming : UInt16 := 0x1801
def eventCommTiming : UInt16 := 0x1804
def eventPhyVoltageFault : UInt16 := 0x1805
def eventPhyShortCircuit : UInt16 := 0x1806

def odStatusEvent : UInt8 := 0x80
def odStatusPdToggle : UInt8 := 0x40
def odStatusPdValid : UInt8 := 0x20

/-! ## The ISDU control byte -/

def isduCtrlStart : UInt8 := 0x80
def isduCtrlLast : UInt8 := 0x40
def isduCtrlSeqMask : UInt8 := 0x3F

/-- `(byte & IOLINK_ISDU_CTRL_START) != 0U` -/
def startBit (byte : UInt8) : Bool := byte &&& isduCtrlStart != 0

/-- `(byte & IOLINK_ISDU_CTRL_LAST) != 0U` -/
def lastBit (byte : UInt8) : Bool := byte &&& isduCtrlLast != 0

/-- `byte & IOLINK_ISDU_CTRL_SEQ_MASK` -/
def seqBits (byte : UInt8) : UInt8 := byte &&& isduCtrlSeqMask

/-- The sequence number that must follow `seq`: `(seq + 1) & 0x3F`. -/
def nextSeq (seq : UInt8) : UInt8 := (seq + 1) &&& isduCtrlSeqMask

/-- The control byte with the given flags and sequence number. -/
def ctrlByte (start last : Bool) (seq : UInt8) : UInt8 :=
  (if start then isduCtrlStart else 0) ||| (if last then isduCtrlLast else 0) ||| seqBits seq

@[simp] theorem startBit_ctrlByte (start last : Bool) (seq : UInt8) :
    startBit (ctrlByte start last seq) = start := by
  revert start last seq; decide +kernel

@[simp] theorem lastBit_ctrlByte (start last : Bool) (seq : UInt8) :
    lastBit (ctrlByte start last seq) = last := by
  revert start last seq; decide +kernel

@[simp] theorem seqBits_ctrlByte (start last : Bool) (seq : UInt8) :
    seqBits (ctrlByte start last seq) = seqBits seq := by
  revert start last seq; decide +kernel

@[simp] theorem ctrlByte_seqBits (start last : Bool) (seq : UInt8) :
    ctrlByte start last (seqBits seq) = ctrlByte start last seq := by
  revert start last seq; decide +kernel

/-- A control byte is determined by its flags and its sequence number. -/
theorem ctrlByte_startBit_lastBit_seqBits (b : UInt8) :
    ctrlByte (startBit b) (lastBit b) (seqBits b) = b := by
  revert b; decide +kernel

@[simp] theorem seqBits_nextSeq (seq : UInt8) : seqBits (nextSeq seq) = nextSeq seq := by
  revert seq; decide +kernel

@[simp] theorem nextSeq_seqBits (seq : UInt8) : nextSeq (seqBits seq) = nextSeq seq := by
  revert seq; decide +kernel

/-- Sequence numbers are counted modulo 64. -/
theorem nextSeq_toNat (seq : UInt8) : (nextSeq seq).toNat = (seq.toNat + 1) % 64 := by
  revert seq; decide +kernel

/-- The sequence number of the `i`-th segment of a transfer that starts at `s`. -/
def seqAt (s : UInt8) (i : ℕ) : UInt8 := UInt8.ofNat ((s.toNat + i) % 64)

theorem seqBits_toNat (b : UInt8) : (seqBits b).toNat = b.toNat % 64 := by
  revert b; decide +kernel

theorem seqAt_zero (s : UInt8) : seqAt s 0 = seqBits s := by
  apply UInt8.toNat_inj.mp
  rw [seqBits_toNat, seqAt, UInt8.toNat_ofNat']
  omega

theorem seqAt_succ (s : UInt8) (i : ℕ) : seqAt s (i + 1) = nextSeq (seqAt s i) := by
  apply UInt8.toNat_inj.mp
  rw [nextSeq_toNat, seqAt, seqAt, UInt8.toNat_ofNat', UInt8.toNat_ofNat']
  omega

theorem seqAt_succ' (s : UInt8) (i : ℕ) : seqAt s (i + 1) = seqAt (nextSeq s) i := by
  apply UInt8.toNat_inj.mp
  rw [seqAt, seqAt, nextSeq_toNat, UInt8.toNat_ofNat', UInt8.toNat_ofNat']
  omega

/-! ## The two bytes of an index -/

theorem toNat_index_of_bytes (hi lo : UInt8) :
    (hi.toUInt16 <<< 8 ||| lo.toUInt16).toNat = 256 * hi.toNat + lo.toNat := by
  have h1 := hi.toNat_lt
  have h2 := lo.toNat_lt
  simp only [UInt16.toNat_or, UInt16.toNat_shiftLeft, UInt8.toNat_toUInt16]
  rw [show (8 : UInt16).toNat % 16 = 8 from rfl, Nat.mod_eq_of_lt (by rw [Nat.shiftLeft_eq]; omega),
    ← Nat.shiftLeft_add_eq_or_of_lt h2, Nat.shiftLeft_eq]
  ring

/-- An index is recovered from its high and its low byte. -/
theorem index_of_bytes (index : UInt16) :
    (index >>> 8).toUInt8.toUInt16 <<< 8 ||| index.toUInt8.toUInt16 = index := by
  apply UInt16.toNat_inj.mp
  rw [toNat_index_of_bytes]
  have := index.toNat_lt
  simp only [UInt16.toNat_toUInt8, UInt16.toNat_shiftRight]
  rw [show (8 : UInt16).toNat % 16 = 8 from rfl, Nat.shiftRight_eq_div_pow]
  omega

end Iolinki
