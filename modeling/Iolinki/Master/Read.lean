import Iolinki.Isdu.Dispatch
import Iolinki.Master.Link

/-!
# The master's reads

`read_isdu` sends the request byte by byte, polls for the first control byte of
the response and then collects one data byte for each control byte, until a
control byte has the LAST bit. A response without data is one control byte with
both START and LAST; the master takes the idle byte after it for data.

* `readIsdu_answered`: what `read_isdu` returns for a response of the device.
* `readIsdu_returns_iff`: on a Type 1 device `read_isdu` returns the response of
  the device exactly when that response is not empty.
* `readIsdu_functionTag`: the read of an empty function tag.
-/

namespace Iolinki

open Iolinki.Lib

section Read

variable (cfg : BuildConfig) {config : Config} {clocks : Clocks} {l : Link}

/-! ## The whole read -/

/-- The link when the request bytes of `read_isdu` have been sent. -/
def askedLink (cfg : BuildConfig) (clocks : Clocks) (m : Master) (l : Link) (index : UInt16)
    (subindex : UInt8) : Link :=
  (sendRequest cfg clocks m l (generateIsduReadV11 index subindex 0x80)).2

/-- The ISDU engine after the `iolink_isdu_process` of the next call. -/
def preparedIsdu (cfg : BuildConfig) (l : Link) : IsduCtx :=
  (isduProcess cfg l.device.host l.device.dll.isdu).2

/-- What `read_isdu` returns for a response of the device: its data bytes, or
    one zero byte if there are none. -/
theorem readIsdu_answered (hcyc : HasCycles config) (htype : config.mSeqType.IsType1)
    {index : UInt16} {subindex : UInt8} {asked : Link}
    (hreq : sendRequest cfg clocks (masterOf config) l (generateIsduReadV11 index subindex 0x80) =
      (true, asked)) (h : Ready config clocks asked) (hw : asked.device.dll.isdu.Wired) {n : ℕ}
    (hprep : Prepared (preparedIsdu cfg asked) n) (hn : n ≤ 255) :
    ∃ l', ReadReturns cfg clocks (masterOf config) l index subindex
      (some (if n = 0 then [0] else slice (preparedIsdu cfg asked).responseBuf 0 n)) l' := by
  obtain ⟨l', -, hret⟩ :=
    readIsduOn_answered cfg (transports_type1 cfg clocks hcyc htype) hreq h.onLink hw rfl hprep hn
  exact ⟨l', 256, hret⟩

theorem ReadReturns.unique {cfg : BuildConfig} {m : Master} {index : UInt16} {subindex : UInt8}
    {r r' : Option (List UInt8)} {l₁ l₂ : Link}
    (h : ReadReturns cfg clocks m l index subindex r l₁)
    (h' : ReadReturns cfg clocks m l index subindex r' l₂) : r = r' ∧ l₁ = l₂ := by
  obtain ⟨f, hf⟩ := h
  obtain ⟨f', hf'⟩ := h'
  have heq := (hf (max f f') (le_max_left _ _)).symm.trans (hf' (max f f') (le_max_right _ _))
  exact Prod.ext_iff.mp (Option.some.inj heq)

theorem askedLink_decoded (hcyc : HasCycles config) (htype : config.mSeqType.IsType1)
    (h : Ready config clocks l)
    (hfree : l.device.dll.isdu.state = .idle ∨ l.device.dll.isdu.state = .responseReady ∨
      l.device.dll.isdu.state = .serviceExecute) (index : UInt16) (subindex : UInt8) :
    (askedLink cfg clocks (masterOf config) l index subindex).device.dll.isdu.Decoded
      (.read index subindex) :=
  (sendRequest_decoded cfg hcyc htype h (awaitsStart_isduProcess cfg _ hfree) (.read index subindex)
    rfl).2.2.1

/-- The read of the master on a ready link. -/
theorem readIsdu_ready (hcyc : HasCycles config) (htype : config.mSeqType.IsType1)
    (h : Ready config clocks l) (hw : l.device.dll.isdu.Wired) {index : UInt16} {subindex : UInt8}
    {asked : Link} (hasked : askedLink cfg clocks (masterOf config) l index subindex = asked)
    (hdec : asked.device.dll.isdu.Decoded (.read index subindex))
    (hs : (preparedIsdu cfg asked).state = .responseReady)
    (hlen : (preparedIsdu cfg asked).responseLen ≤ 255) :
    ∃ l', ReadReturns cfg clocks (masterOf config) l index subindex (some
      (if (preparedIsdu cfg asked).responseLen = 0 then [0]
        else slice (preparedIsdu cfg asked).responseBuf 0 (preparedIsdu cfg asked).responseLen))
      l' := by
  obtain ⟨hu, hr, hwired⟩ :=
    sendRequest_ready cfg hcyc h (generateIsduReadV11 index subindex 0x80)
  have hread : asked.device.dll.isdu.header.type = .read := hdec.type
  rcases isduProcess_prepared cfg asked.device.host hdec.state
    (fun hw => by rw [hread] at hw; cases hw) with hidle | ⟨-, hi, hctrl, -⟩
  · rw [preparedIsdu, hidle] at hs
    cases hs
  · exact readIsdu_answered cfg hcyc htype (Prod.ext hu hasked) (hasked ▸ hr)
      (hasked ▸ hwired hw) ⟨hs, hi, hctrl, rfl⟩ hlen

/-- An empty response is taken for one zero byte. -/
theorem readIsdu_empty (hcyc : HasCycles config) (htype : config.mSeqType.IsType1)
    (h : Ready config clocks l) (hw : l.device.dll.isdu.Wired) {index : UInt16} {subindex : UInt8}
    {asked : Link} (hasked : askedLink cfg clocks (masterOf config) l index subindex = asked)
    (hdec : asked.device.dll.isdu.Decoded (.read index subindex))
    (hs : (preparedIsdu cfg asked).state = .responseReady)
    (hz : (preparedIsdu cfg asked).responseLen = 0) :
    (∃ l', ReadReturns cfg clocks (masterOf config) l index subindex (some [0x00]) l') ∧
      ¬ ∃ l', ReadReturns cfg clocks (masterOf config) l index subindex (some []) l' := by
  obtain ⟨l', hret⟩ := readIsdu_ready cfg hcyc htype h hw hasked hdec hs (by omega)
  rw [if_pos hz] at hret
  refine ⟨⟨l', hret⟩, ?_⟩
  rintro ⟨l₂, hret₂⟩
  exact absurd (hret.unique hret₂).1 (by decide)

end Read

/-- A link with nothing in transit, before the `k`-th call. -/
def quietLink (d : Device) (k : ℕ) : Link := ⟨d, [], [], k⟩

/-- **The read of a Type 1 device in OPERATE.** The device collects the read if its engine is not in
    the middle of another request. For the response of `n` bytes that `iolink_isdu_process` prepares
    for it, `read_isdu` returns exactly these bytes if and only if there is at least one. -/
theorem readIsdu_returns_iff (cfg : BuildConfig) (config : Config)
    (htype : config.mSeqType.IsType1) (hout : config.pdOutLen ≤ 32) (calls : List Call) (d : Device)
    (hreach : Reaches cfg config true calls d) (hstate : d.dll.state = .operate)
    (hidx : d.dll.frameIndex = 0) (clocks : Clocks) (k : ℕ) (hpaced : Paced clocks d.dll k)
    (index : UInt16) (subindex : UInt8) :
    let asked := askedLink cfg clocks (masterOf config) (quietLink d k) index subindex
    ((d.dll.isdu.state = .idle ∨ d.dll.isdu.state = .responseReady ∨
        d.dll.isdu.state = .serviceExecute) →
      asked.device.dll.isdu.Decoded (.read index subindex)) ∧
    (asked.device.dll.isdu.Decoded (.read index subindex) →
      (preparedIsdu cfg asked).state = .responseReady →
      ∀ n ≤ 255, (preparedIsdu cfg asked).responseLen = n →
        ((∃ l', ReadReturns cfg clocks (masterOf config) (quietLink d k) index subindex
          (some (slice (preparedIsdu cfg asked).responseBuf 0 n)) l') ↔ n ≠ 0)) := by
  intro asked
  have hcyc : HasCycles config := .of_type1 htype hout
  have hready : Ready config clocks (quietLink d k) :=
    ⟨reaches_operating hreach hstate hidx, rfl, rfl, hpaced⟩
  have hw : d.dll.isdu.Wired := reaches_wired hreach
  refine ⟨fun hfree => ?_, fun hdec hs n hn hlen => ?_⟩
  · exact askedLink_decoded cfg hcyc htype hready hfree index subindex
  · subst hlen
    constructor
    · intro hret hz
      rw [hz, slice_zero] at hret
      exact (readIsdu_empty cfg hcyc htype hready hw rfl hdec hs hz).2 hret
    · intro hz
      obtain ⟨l', hret⟩ := readIsdu_ready cfg hcyc htype hready hw rfl hdec hs hn
      rw [if_neg hz] at hret
      exact ⟨l', hret⟩

/-! ## Two reads -/

theorem paced_startedDevice : Paced stillClocks (startedDevice .type11).dll 0 :=
  paced_stillClocks (by decide +kernel) (by decide +kernel) (by decide +kernel) 0

theorem ready_startedDevice :
    Ready (sampleConfig .type11) stillClocks (quietLink (startedDevice .type11) 0) :=
  ⟨reaches_operating (reaches_startedDevice .type11) (by decide +kernel) (by decide +kernel), rfl,
    rfl, paced_startedDevice⟩

theorem cyclic_sampleConfig : Cyclic (sampleConfig .type11) :=
  ⟨⟨by decide, by decide⟩, by decide⟩

/-- A Type 1 device after its start-up has been asked for `index`. -/
def askedStarted (index : UInt16) : Link :=
  askedLink {} stillClocks (masterOf (sampleConfig .type11)) (quietLink (startedDevice .type11) 0)
    index 0

theorem askedStarted_eq (index : UInt16) :
    askedStarted index = askedLink {} stillClocks (masterOf (sampleConfig .type11))
      (quietLink (startedDevice .type11) 0) index 0 := rfl

theorem askedStarted_decoded (index : UInt16) :
    (askedStarted index).device.dll.isdu.Decoded (.read index 0) := by
  have hidle : (quietLink (startedDevice .type11) 0).device.dll.isdu.state = .idle := by
    decide +kernel
  have h := askedLink_decoded {} cyclic_sampleConfig.hasCycles (by decide) ready_startedDevice
    (.inl hidle) index 0
  rwa [← askedStarted_eq] at h

/-- The vendor name of a device with the default device information. -/
theorem readIsdu_vendorName :
    slice (preparedIsdu {} (askedStarted 0x0010)).responseBuf 0 7 = (CString.lit "iolinki").bytes ∧
      ∃ l', ReadReturns {} stillClocks (masterOf (sampleConfig .type11))
        (quietLink (startedDevice .type11) 0) 0x0010 0
        (some (slice (preparedIsdu {} (askedStarted 0x0010)).responseBuf 0 7)) l' := by
  refine ⟨by decide +kernel, ?_⟩
  obtain ⟨-, hret⟩ := readIsdu_returns_iff {} (sampleConfig .type11) (by decide) (by decide)
    (startupCalls .type11) (startedDevice .type11) (reaches_startedDevice .type11)
    (by decide +kernel) (by decide +kernel) stillClocks 0 paced_startedDevice 0x0010 0
  rw [← askedStarted_eq] at hret
  exact (hret (askedStarted_decoded 0x0010) (by decide +kernel) 7 (by decide)
    (by decide +kernel)).mpr (by decide)

/-- The function tag of a fresh device is empty. The device answers the read with an empty response,
    and `read_isdu` returns one zero byte instead of none. -/
theorem readIsdu_functionTag :
    (askedStarted 0x0019).device.dll.isdu.Decoded (.read 0x0019 0) ∧
      (preparedIsdu {} (askedStarted 0x0019)).state = .responseReady ∧
      (preparedIsdu {} (askedStarted 0x0019)).responseLen = 0 ∧
      (∃ l', ReadReturns {} stillClocks (masterOf (sampleConfig .type11))
        (quietLink (startedDevice .type11) 0) 0x0019 0 (some [0x00]) l') ∧
      ¬ ∃ l', ReadReturns {} stillClocks (masterOf (sampleConfig .type11))
        (quietLink (startedDevice .type11) 0) 0x0019 0 (some []) l' := by
  have hs : (preparedIsdu {} (askedStarted 0x0019)).state = .responseReady := by decide +kernel
  have hz : (preparedIsdu {} (askedStarted 0x0019)).responseLen = 0 := by decide +kernel
  have hdec := askedStarted_decoded 0x0019
  have hempty := readIsdu_empty {} cyclic_sampleConfig.hasCycles (by decide) ready_startedDevice
    (reaches_wired (reaches_startedDevice .type11)) (askedStarted_eq 0x0019).symm hdec hs hz
  exact ⟨hdec, hs, hz, hempty⟩

end Iolinki
