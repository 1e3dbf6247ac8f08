import Mathlib.Data.FinEnum
import Mathlib.Logic.Function.Iterate

/-!
# The frame checksum

Models of `src/crc.c` (`iolink_crc6`, `iolink_checksum_ck`) and of the Python
master's `crc.py` (`calculate_crc6`, `calculate_checksum_type0`,
`verify_checksum`). The C code works on `uint8_t`; the Python code works on
unbounded integers and masks the register after every shift.

* `calculateCrc6_eq`: both implementations compute the same value.
-/

namespace Iolinki

/-! ## `src/crc.c` -/

/-- One iteration of the bit loop of `iolink_crc6` (lines 28–35). -/
def crcShift (crc : UInt8) : UInt8 :=
  if crc &&& 0x80 ≠ 0 then (crc <<< 1) ^^^ ((0x1D : UInt8) <<< 2) else crc <<< 1

/-- One iteration of the byte loop of `iolink_crc6` (lines 26–36). -/
def crcByte (crc byte : UInt8) : UInt8 := crcShift^[8] (crc ^^^ byte)

/-- `iolink_crc6(data, len)` (lines 18–39) on the `len` bytes at `data`. -/
def crc6 (data : List UInt8) : UInt8 := ((data.foldl crcByte 0x15) >>> 2) &&& 0x3F

/-- `iolink_checksum_ck(mc, ckt)` (lines 41–48). -/
def checksumCk (mc ckt : UInt8) : UInt8 := crc6 [mc, ckt]

/-! ## `virtual_master/crc.py` -/

/-- One iteration of the bit loop of `calculate_crc6` (lines 35–40). -/
def pyCrcShift (crc : ℕ) : ℕ :=
  (if crc &&& 0x80 ≠ 0 then (crc <<< 1) ^^^ (0x1D <<< 2) else crc <<< 1) &&& 0xFF

/-- One iteration of the byte loop of `calculate_crc6` (lines 33–40). -/
def pyCrcByte (crc : ℕ) (byte : UInt8) : ℕ := pyCrcShift^[8] (crc ^^^ byte.toNat)

/-- `calculate_crc6(data)` (lines 17–42). -/
def calculateCrc6 (data : List UInt8) : ℕ := ((data.foldl pyCrcByte 0x15) >>> 2) &&& 0x3F

/-- `calculate_checksum_type0(mc, ckt)` (lines 45–56). -/
def calculateChecksumType0 (mc ckt : UInt8) : ℕ := calculateCrc6 [mc, ckt]

/-- `calculate_checksum_type1(mc, ckt, pd, od, od2)` (lines 59–79); `od` holds
    the one or two OD bytes. -/
def calculateChecksumType1 (mc ckt : UInt8) (pd od : List UInt8) : ℕ :=
  calculateCrc6 ([mc, ckt] ++ pd ++ od)

/-- `verify_checksum(frame, expected_ck)` (lines 82–94). -/
def verifyChecksum (frame : List UInt8) (expectedCk : UInt8) : Bool :=
  calculateCrc6 frame == expectedCk.toNat

/-! ## Agreement -/

theorem pyCrcShift_toNat (crc : UInt8) : pyCrcShift crc.toNat = (crcShift crc).toNat := by
  revert crc; decide +kernel

theorem pyCrcShift_iterate (n : ℕ) (crc : UInt8) :
    pyCrcShift^[n] crc.toNat = (crcShift^[n] crc).toNat := by
  induction n generalizing crc with
  | zero => rfl
  | succ n ih => rw [Function.iterate_succ_apply, pyCrcShift_toNat, ih, Function.iterate_succ_apply]

theorem pyCrcByte_toNat (crc byte : UInt8) :
    pyCrcByte crc.toNat byte = (crcByte crc byte).toNat := by
  rw [pyCrcByte, ← UInt8.toNat_xor, pyCrcShift_iterate, crcByte]

theorem pyCrcByte_foldl (data : List UInt8) (crc : UInt8) :
    data.foldl pyCrcByte crc.toNat = (data.foldl crcByte crc).toNat := by
  induction data generalizing crc with
  | nil => rfl
  | cons b data ih => rw [List.foldl_cons, List.foldl_cons, pyCrcByte_toNat, ih]

/-- **The master and the device compute the same checksum.** -/
theorem calculateCrc6_eq (data : List UInt8) : calculateCrc6 data = (crc6 data).toNat := by
  have h := pyCrcByte_foldl data 0x15
  rw [show (0x15 : UInt8).toNat = 0x15 from rfl] at h
  have hout : ∀ b : UInt8, (b.toNat >>> 2) &&& 0x3F = ((b >>> 2) &&& 0x3F).toNat := by
    decide +kernel
  rw [calculateCrc6, h, hout, crc6]

/-- The checksum the device appends passes the master's check. -/
theorem verifyChecksum_crc6 (data : List UInt8) : verifyChecksum data (crc6 data) = true := by
  simp [verifyChecksum, calculateCrc6_eq]

end Iolinki
