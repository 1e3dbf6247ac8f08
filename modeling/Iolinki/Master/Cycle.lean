import Iolinki.Dll.Invariant
import Iolinki.Master.Model

/-!
# The cyclic exchange of master and device

The frame layout and the checksum are implemented twice, in C and in Python.
This module shows that they agree in both directions: the device finds process
data and OD bytes where the master put them, and the master finds them where the
device put them.

* `generateType1_eq`: the master's frame is the one the device expects.
* `deviceResponse_cyclicReply`: the master's parser inverts the device's
  response.
* `cyclic_exchange`: one cycle of a reachable device in OPERATE.
-/

namespace Iolinki

open Iolinki.Lib

/-! ## Frames -/

theorem getOdLen_eq (t : MSeqType) : getOdLen t = odLenOf t := by
  cases t <;> rfl

/-- The OD bytes of a frame with `odLen` of them. -/
def odBytes (odLen : ℕ) (od od2 : UInt8) : List UInt8 := if odLen = 2 then [od, od2] else [od]

theorem length_odBytes (t : MSeqType) (od od2 : UInt8) :
    (odBytes (odLenOf t) od od2).length = odLenOf t := by
  cases t <;> rfl

theorem ckByte_calculateCrc6 (data : List UInt8) : ckByte (calculateCrc6 data) = [crc6 data] := by
  simp [ckByte, calculateCrc6_eq]

/-- The master's frame with the device's checksum. -/
theorem generateType1_eq (odLen : ℕ) (mc ckt : UInt8) (pd : List UInt8) (od od2 : UInt8) :
    generateType1 odLen mc ckt pd od od2 = cyclicFrame mc ckt pd (odBytes odLen od od2) := by
  simp only [generateType1, cyclicFrame, odBytes, calculateChecksumType1, ckByte_calculateCrc6]
  split_ifs <;> rfl

/-- The master's parser finds what the device has sent. -/
theorem deviceResponse_cyclicReply (status : UInt8) (pd : List UInt8) {od : List UInt8} {odLen : ℕ}
    (hlen : od.length = odLen) (hpos : 1 ≤ odLen) (hmax : odLen ≤ 2) :
    deviceResponse (cyclicReply status pd od) odLen =
      { valid := true
        status := some status
        payload := some pd
        od := od[0]?
        od2 := od[1]?
        checksum := some (crc6 (status :: (pd ++ od)))
        checksumOk := some true
        pdValid := status &&& 0x20 != 0 } := by
  have hsize : (cyclicReply status pd od).length = pd.length + odLen + 2 := by
    simp [cyclicReply, hlen]
    omega
  have hck := verifyChecksum_crc6 (status :: (pd ++ od))
  have hdrop : (cyclicReply status pd od).dropLast = status :: (pd ++ od) :=
    List.dropLast_concat
  have hlast : (cyclicReply status pd od).getD (pd.length + odLen + 1) 0 =
      crc6 (status :: (pd ++ od)) := by
    rw [cyclicReply, List.getD_eq_getElem?_getD, List.getElem?_append_right (by simp [hlen])]
    simp [hlen]
  rw [deviceResponse, if_neg (by omega), if_neg (by omega), hsize]
  have h1 : pd.length + odLen + 2 - odLen - 1 = pd.length + 1 := by omega
  have h2 : pd.length + odLen + 2 - 1 = pd.length + odLen + 1 := by omega
  rw [h1, h2, hdrop, hlast]
  simp only [hck]
  obtain rfl | rfl : odLen = 1 ∨ odLen = 2 := by omega
  · obtain ⟨a, rfl⟩ := List.length_eq_one_iff.mp hlen
    simp [cyclicReply]
  · obtain ⟨a, b, rfl⟩ := List.length_eq_two.mp hlen
    simp [cyclicReply]

/-! ## The status byte -/

theorem statusByte_bits (a b c : Bool) :
    let s := (if a then odStatusEvent else 0) ||| (if b then odStatusPdToggle else 0) |||
      (if c then odStatusPdValid else 0)
    (s &&& 0x80 ≠ 0 ↔ a = true) ∧ (s &&& 0x40 ≠ 0 ↔ b = true) ∧ (s &&& 0x20 ≠ 0 ↔ c = true) := by
  revert a b c; decide

/-! ## One cycle -/

/-- **One cycle of a reachable device in OPERATE.** The whole frame of the master is delivered to
    one call of `iolink_process`. `isdu` is the ISDU engine after the `iolink_isdu_process` of that
    call; it is fed the OD bytes in order, and asked for a response byte after each of them. -/
theorem cyclic_exchange (cfg : BuildConfig) (config : Config)
    (htype : config.mSeqType.IsType1 ∨ config.mSeqType.IsType2) (hout : config.pdOutLen ≤ 32)
    (calls : List Call) (d : Device)
    (hreach : Reaches cfg config true calls d) (hstate : d.dll.state = .operate)
    (hidx : d.dll.frameIndex = 0) (henf : d.dll.enforceTiming = false) (env : CallEnv)
    (hms : env.nowMs - d.dll.lastActivityMs ≤ 1000)
    (hclock : ∀ e, Call.process e ∈ calls → e.tPdUs ≤ env.tPdUs) (ckt od od2 : UInt8)
    (pd : List UInt8) (hpd : pd.length = config.pdOutLen)
    (hrx : env.rx.map RxByte.byte =
      generateType1 (getOdLen config.mSeqType) 0x00 ckt pd od od2) :
    let isdu := (isduProcess cfg d.host d.dll.isdu).2
    let ods := odBytes (getOdLen config.mSeqType) od od2
    let after := iolinkProcess cfg d env
    after.1.dll.state = .operate ∧ slice after.1.dll.pdOut 0 config.pdOutLen = pd ∧
    after.1.dll.isdu = odMachine.final isdu ods ∧
    ∃ reply, after.2.sent = [reply] ∧
      let resp := deviceResponse reply (getOdLen config.mSeqType)
      resp.valid = true ∧ resp.checksumOk = some true ∧
      resp.payload = some (slice d.dll.pdIn 0 d.dll.pdInLenCurrent) ∧
      resp.od = (odMachine.outputs isdu ods)[0]? ∧ resp.od2 = (odMachine.outputs isdu ods)[1]? ∧
      ∃ status, resp.status = some status ∧
        (status &&& 0x80 ≠ 0 ↔ eventsPending after.1.dll.events = true) ∧
        (status &&& 0x40 ≠ 0 ↔ d.dll.pdInToggle = true) ∧
        (status &&& 0x20 ≠ 0 ↔ d.dll.pdValid = true) := by
  have hop := reaches_operating hreach hstate hidx
  have hodl := getOdLen_eq config.mSeqType
  have hne : config.mSeqType ≠ .type0 := by
    rintro h
    rw [h] at htype
    revert htype
    decide
  have hpowered := reaches_not_tPdActive hreach (by rw [hstate]; decide) hclock
  have ht : Timely d.dll env := ⟨.inr hms, hpowered, gapFree_of_not_enforced henf env.rx⟩
  rw [hodl, generateType1_eq] at hrx
  obtain ⟨status, hcyc, hsent, -⟩ := process_cycled cfg hop hne hout ht (by decide) (by decide) hpd
    (length_odBytes config.mSeqType od od2) hrx
  intro isdu ods after
  have hods : ods = odBytes (odLenOf config.mSeqType) od od2 := by simp only [ods, hodl]
  rw [← hods] at hcyc hsent
  refine ⟨hcyc.operating.state, hcyc.pdOut, hcyc.isdu, _, hsent, ?_⟩
  have hlen : (odMachine.outputs isdu ods).length = getOdLen config.mSeqType := by
    rw [hodl, ← length_odBytes config.mSeqType od od2, ← hods]
    simp
  have hresp := deviceResponse_cyclicReply status (slice d.dll.pdIn 0 config.pdInLen) hlen
    (by rw [hodl]; exact odLenOf_pos _) (by rw [hodl]; exact odLenOf_le _)
  simp only [isdu] at hresp
  rw [hresp]
  refine ⟨rfl, rfl, by rw [hop.pdInLen], rfl, rfl, status, rfl, ?_⟩
  have hbits := statusByte_bits (eventsPending after.1.dll.events) after.1.dll.pdInToggle
    after.1.dll.pdValid
  have hstatus : status = statusByte after.1.dll := hcyc.status henf
  rw [hstatus, ← hcyc.pdFlags.1, ← hcyc.pdFlags.2]
  exact hbits

/-- A Type 1 device after its start-up gets the process data byte 0x5A and the OD byte 0x80. -/
theorem cyclic_exchange_type11 :
    slice (iolinkProcess {} (startedDevice .type11)
      (callWith false (generateType1 1 0x00 0x3C [0x5A] 0x80 0x00))).1.dll.pdOut 0 1 = [0x5A] := by
  have h := cyclic_exchange {} (sampleConfig .type11) (.inl (by decide)) (by decide)
    (startupCalls .type11) (startedDevice .type11) (reaches_startedDevice .type11)
    (by decide +kernel) (by decide +kernel) (by decide +kernel)
    (callWith false (generateType1 1 0x00 0x3C [0x5A] 0x80 0x00)) (by decide +kernel)
    (by simp [startupCalls, callWith]) 0x3C 0x80 0x00 [0x5A] rfl (by decide +kernel)
  exact h.2.1

end Iolinki
