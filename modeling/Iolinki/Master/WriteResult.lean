import Iolinki.Dll.Engine
import Iolinki.Dll.Reboot
import Iolinki.Master.Missed
import Iolinki.Master.Read

/-!
# The result of the master's writes

`write_isdu` returns `True` as soon as a control byte arrives and does not read the
response behind it, so that an error and the data of an index that is answered as if
it were read count as success. It returns `False` if nothing arrives.

If the engine is in the middle of another request, it takes the bytes of the write for
something else.

* `writeIsdu_collecting`, `writeIsdu_free`: the two kinds of engine states.
* `write_result_iff`: when the master learns whether its write was accepted.
-/

namespace Iolinki

open Iolinki.Lib

/-! ## A write in the middle of another request -/

/-- The link when the request bytes of `write_isdu` have been sent. -/
def askedWrite (cfg : BuildConfig) (clocks : Clocks) (m : Master) (l : Link) (index : UInt16)
    (subindex : UInt8) (data : List UInt8) : Link :=
  (sendRequest cfg clocks m l (writeInterleaved index subindex data)).2

section Collecting

variable (cfg : BuildConfig) {config : Config} {clocks : Clocks} {l : Link}

/-- **A write in the middle of another request** is not taken for a request. It is
    reported as successful if one of its last two bytes has the START bit. -/
theorem writeIsdu_collecting (hcyc : HasCycles config) (htype : config.mSeqType.IsType1)
    (h : Ready config clocks l) (hinv : IsduInv l.device.dll.isdu)
    (hc : l.device.dll.isdu.state.Collecting) (index : UInt16) (subindex : UInt8)
    {data : List UInt8} (hpos : 1 ≤ data.length) :
    ((writeIsdu cfg clocks (masterOf config) l index subindex data).1 = true ↔
        ∃ b ∈ (subindex :: data).drop (data.length - 1), startBit b = true) ∧
      (askedWrite cfg clocks (masterOf config) l index subindex data).device.dll.isdu.state ≠
        .serviceExecute := by
  have hsend := transports_type1 cfg clocks hcyc htype
  obtain ⟨hret, -⟩ := writeIsduOn_collecting cfg hsend h.onLink hinv hc index subindex hpos
  obtain ⟨_, _, ⟨-, rfl, -⟩, hne⟩ :=
    sendRequestOn_collecting cfg hsend h.onLink hinv hc index subindex data
  exact ⟨hret, hne⟩

end Collecting

/-! ## A write that is collected -/

/-- `iolink_isdu_process` answers the collected write with the success response. -/
def WriteAccepted (cfg : BuildConfig) (asked : Link) (index : UInt16) (subindex : UInt8)
    (d : Payload) : Prop :=
  asked.device.dll.isdu.Decoded (.write index subindex d) ∧
    (preparedIsdu cfg asked).state = .responseReady ∧ (preparedIsdu cfg asked).responseLen = 0

/-- The writes that are answered with the success response or not at all. -/
def WriteReported (cfg : BuildConfig) (s : Store) (index : UInt16) (data : List UInt8) : Prop :=
  match stringOfIndex (deviceInfoGet s).1 index with
  | some str => ∀ string ∈ str, (string.bytes.take cfg.isduBufferSize).length % 256 = 0
  | none => index ∈ [idxDetailedDeviceStatus, idxApplicationTag, idxFunctionTag, idxLocationTag,
      idxDeviceAccessLocks] ∨ (index = idxSystemCommand ∧ data.headD 0 ∈ systemCommands)

theorem writeReported_iff (cfg : BuildConfig) (s : Store) (index : UInt16) (data : List UInt8) :
    WriteReported cfg s index data ↔
      writeAnswer cfg s index data = none ∨ writeAnswer cfg s index data = some 0 := by
  unfold WriteReported writeAnswer
  cases stringOfIndex (deviceInfoGet s).1 index with
  | some str =>
    cases str with
    | none => simp
    | some string => simp
  | none =>
    dsimp only
    by_cases h1 : index = idxDetailedDeviceStatus
    · rw [if_pos h1]
      exact iff_of_true (.inl (by simp [h1])) (.inl rfl)
    rw [if_neg h1]
    by_cases h2 : index = idxApplicationTag
    · rw [if_pos h2]
      refine iff_of_true (.inl (by simp [h2])) ?_
      split_ifs
      · exact .inr rfl
      · exact .inl rfl
    rw [if_neg h2]
    by_cases h3 : index = idxSystemCommand
    · rw [if_pos h3, h3]
      by_cases hcmd : data.headD 0 ∈ systemCommands
      · rw [if_pos hcmd]
        exact iff_of_true (.inr ⟨rfl, hcmd⟩) (.inr rfl)
      · rw [if_neg hcmd]
        refine iff_of_false ?_ (by simp)
        rintro (hmem | hknown)
        · exact absurd hmem (by decide)
        · exact hcmd hknown.2
    rw [if_neg h3]
    by_cases h4 : index = idxDeviceAccessLocks ∨ index = idxFunctionTag ∨ index = idxLocationTag
    · rw [if_pos h4]
      refine iff_of_true (.inl ?_) (.inr rfl)
      rcases h4 with rfl | rfl | rfl <;> decide
    rw [if_neg h4]
    refine iff_of_false ?_ ?_
    · simp only [List.mem_cons, List.not_mem_nil, or_false]
      tauto
    · split_ifs <;> simp

/-- Both stores use the same device information; the default record may have been
    selected in between. -/
def SameInfo (s s' : Store) : Prop :=
  s'.deviceInfo = s.deviceInfo ∨ (s.deviceInfo = .null ∧ s'.deviceInfo = .default)

theorem SameInfo.keep {s s' s'' : Store} (h : SameInfo s s') (he : s''.deviceInfo = s'.deviceInfo) :
    SameInfo s s'' := by
  unfold SameInfo
  rw [he]
  exact h

theorem storeClosed_sameInfo (s : Store) : StoreClosed (SameInfo s) where
  get s' h := by
    unfold deviceInfoGet
    cases hinfo : s'.deviceInfo with
    | null =>
      rcases h with hsame | ⟨-, hdef⟩
      · exact .inr ⟨hsame.symm.trans hinfo, rfl⟩
      · exact absurd (hinfo.symm.trans hdef) InfoPtr.noConfusion
    | default => exact h
    | user info => exact h
  locks s' locks h := by
    refine h.keep ?_
    unfold deviceInfoSetAccessLocks
    cases hinfo : s'.deviceInfo with
    | null => exact hinfo
    | default => rfl
    | user info => exact hinfo
  set s' index data h := by
    have hinfo := (deviceInfo_deviceInfoSetApplicationTag s' data (data.length % 256)).1
    refine h.keep ?_
    simp only [paramsSet, ↓reduceIte]
    split_ifs <;> first | exact hinfo | rfl
  reset s' h := h.keep (deviceInfo_deviceInfoSetApplicationTag _ [] 0).1

/-- The identification strings are the same. -/
theorem SameInfo.stringOfIndex {s s' : Store} (h : SameInfo s s') (index : UInt16) :
    stringOfIndex (deviceInfoGet s').1 index = stringOfIndex (deviceInfoGet s).1 index := by
  unfold deviceInfoGet
  rcases h with hsame | ⟨hnull, hdef⟩
  · rw [hsame]
    cases s.deviceInfo <;> rfl
  · rw [hnull, hdef]
    rfl

theorem SameInfo.writeReported_iff {s s' : Store} (h : SameInfo s s') (cfg : BuildConfig)
    (index : UInt16) (data : List UInt8) :
    WriteReported cfg s' index data ↔ WriteReported cfg s index data := by
  unfold WriteReported
  rw [h.stringOfIndex]

section Free

variable (cfg : BuildConfig) {config : Config} {clocks : Clocks} {l : Link}

/-- **A write that is collected**: it is reported as successful if it is answered, and
    accepted if the answer is empty. -/
theorem writeIsdu_free (hcyc : HasCycles config) (htype : config.mSeqType.IsType1)
    (h : Ready config clocks l) (hw : l.device.dll.isdu.Wired)
    (hfree : l.device.dll.isdu.state = .idle ∨ l.device.dll.isdu.state = .responseReady ∨
      l.device.dll.isdu.state = .serviceExecute) (index : UInt16) (subindex : UInt8) (d : Payload)
    (hlen : d.1.length ≤ 14) :
    let asked := askedWrite cfg clocks (masterOf config) l index subindex d.1
    SameInfo l.device.store asked.device.store ∧
      ((writeIsdu cfg clocks (masterOf config) l index subindex d.1).1 = true ↔
        writeAnswer cfg asked.device.store index d.1 ≠ none) ∧
      (WriteAccepted cfg asked index subindex d ↔
        writeAnswer cfg asked.device.store index d.1 = some 0) := by
  intro asked
  obtain ⟨hu, hr, hdec, hst⟩ := sendRequest_decoded cfg hcyc htype h
    (awaitsStart_isduProcess cfg _ hfree) (.write index subindex d)
    (writeRequestData_eq index subindex d (by omega))
  have hr : Ready config clocks asked := hr
  have hdec : asked.device.dll.isdu.Decoded (.write index subindex d) := hdec
  have hwired : asked.device.dll.isdu.Wired := (sendRequest_ready cfg hcyc h _).2.2 hw
  have hbuf : slice asked.device.dll.isdu.buffer 0 asked.device.dll.isdu.bufferIdx = d.1 :=
    hdec.buffer
  have hsize : asked.device.dll.isdu.bufferIdx = d.1.length := by
    rw [← hbuf, length_slice]
  have hans := (isduProcess_write cfg asked.device.host hwired hdec.state hdec.type
    (by rw [hsize]; exact d.2.1) (by rw [hsize]; exact d.2.2)).1
  rw [hbuf, show asked.device.dll.isdu.header.index = index from hdec.index,
    show asked.device.host.store = asked.device.store from rfl] at hans
  refine ⟨?_, ?_⟩
  · rw [show asked.device.store = _ from hst]
    exact storeClosed_isduProcess (storeClosed_sameInfo l.device.store) cfg (.inl rfl) _
  have hreq : sendRequest cfg clocks (masterOf config) l (writeInterleaved index subindex d.1) =
      (true, asked) := Prod.ext hu rfl
  have hsend := transports_type1 cfg clocks hcyc htype
  cases hcase : writeAnswer cfg asked.device.store index d.1 with
  | none =>
    rw [hcase] at hans
    obtain ⟨l', -, hret⟩ := writeIsduOn_unanswered cfg hsend hreq hr.onLink hwired hans
    rw [show writeIsdu cfg clocks (masterOf config) l index subindex d.1 = _ from hret]
    refine ⟨by simp, iff_of_false ?_ (by simp)⟩
    rintro ⟨-, hready, -⟩
    exact absurd (hans.symm.trans hready) (by decide)
  | some n =>
    rw [hcase] at hans
    have hfits : n ≤ 255 := length_prepared_le cfg asked.device.host hdec.state
      (by rw [hsize]; exact d.2.2) hans
    obtain ⟨l', -, hret⟩ := writeIsduOn_answered cfg hsend hreq hr.onLink hwired hans hfits
    rw [show writeIsdu cfg clocks (masterOf config) l index subindex d.1 = _ from hret]
    refine ⟨by simp, ?_⟩
    constructor
    · rintro ⟨-, -, hzero⟩
      exact congrArg some (hans.responseLen.symm.trans hzero)
    · intro hzero
      exact ⟨hdec, hans.state, hans.responseLen.trans (Option.some.inj hzero)⟩

end Free

/-- **The master learns whether its write was accepted** if and only if, with an engine
    that is in the middle of another request, the last two bytes of the request have no
    START bit, and otherwise the write is one that is never answered with an error or
    with data. -/
theorem write_result_iff (cfg : BuildConfig) (config : Config) (htype : config.mSeqType.IsType1)
    (hout : config.pdOutLen ≤ 32) (calls : List Call) (d : Device)
    (hreach : Reaches cfg config true calls d) (hstate : d.dll.state = .operate)
    (hidx : d.dll.frameIndex = 0) (clocks : Clocks) (k : ℕ) (hpaced : Paced clocks d.dll k)
    (index : UInt16) (subindex : UInt8) (data : Payload) (hlen : data.1.length ≤ 14) :
    let l := quietLink d k
    let asked := askedWrite cfg clocks (masterOf config) l index subindex data.1
    (((writeIsdu cfg clocks (masterOf config) l index subindex data.1).1 = true ↔
        WriteAccepted cfg asked index subindex data) ↔
      if d.dll.isdu.state.Collecting then
        ∀ b ∈ (subindex :: data.1).drop (data.1.length - 1), startBit b = false
      else WriteReported cfg d.store index data.1) := by
  intro l asked
  have hcyc : HasCycles config := .of_type1 htype hout
  have hready : Ready config clocks l := ⟨reaches_operating hreach hstate hidx, rfl, rfl, hpaced⟩
  by_cases hcol : d.dll.isdu.state.Collecting
  · obtain ⟨hret, hexec⟩ := writeIsdu_collecting cfg hcyc htype hready (reaches_isduInv hreach)
      hcol index subindex data.2.1
    have hno : ¬ WriteAccepted cfg asked index subindex data := fun hacc => hexec hacc.1.state
    rw [if_pos hcol, iff_false_right hno, hret]
    simp
  · have hfree := (reaches_isduInv hreach).free hcol
    obtain ⟨hinfo, hret, hacc⟩ := writeIsdu_free cfg hcyc htype hready (reaches_wired hreach) hfree
      index subindex data hlen
    have hreported : WriteReported cfg d.store index data.1 ↔
        WriteReported cfg asked.device.store index data.1 :=
      (hinfo.writeReported_iff cfg index data.1).symm
    rw [if_neg hcol, hreported, writeReported_iff, hret, hacc]
    cases writeAnswer cfg asked.device.store index data.1 with
    | none => simp
    | some n => simp

/-- The location tag of a device after its start-up. -/
theorem write_result_locationTag :
    let l := quietLink (startedDevice .type11) 0
    let asked := askedWrite {} stillClocks (masterOf (sampleConfig .type11)) l 0x001A 0 [0x41]
    WriteAccepted {} asked 0x001A 0 ⟨[0x41], by decide⟩ ∧
      (writeIsdu {} stillClocks (masterOf (sampleConfig .type11)) l 0x001A 0 [0x41]).1 = true := by
  intro l asked
  have hret : (writeIsdu {} stillClocks (masterOf (sampleConfig .type11)) l 0x001A 0 [0x41]).1 =
      true := by decide +kernel
  refine ⟨?_, hret⟩
  refine ((write_result_iff {} (sampleConfig .type11) (by decide) (by decide)
    (startupCalls .type11) (startedDevice .type11) (reaches_startedDevice .type11)
    (by decide +kernel) (by decide +kernel) stillClocks 0 paced_startedDevice 0x001A 0
    ⟨[0x41], by decide⟩ (by decide)).mpr ?_).mp hret
  rw [if_neg (by decide +kernel)]
  exact .inl (by decide)

/-- The unknown system command 0xFF is answered with an error, and the master reports
    success. -/
theorem unknown_command_reported :
    let l := quietLink (startedDevice .type11) 0
    let asked := askedWrite {} stillClocks (masterOf (sampleConfig .type11)) l 0x0002 0 [0xFF]
    (writeIsdu {} stillClocks (masterOf (sampleConfig .type11)) l 0x0002 0 [0xFF]).1 = true ∧
      (preparedIsdu {} asked).state = .responseReady ∧
      slice (preparedIsdu {} asked).responseBuf 0 (preparedIsdu {} asked).responseLen =
        [0x80, isduErrorServiceNotAvail] ∧
      ¬ WriteAccepted {} asked 0x0002 0 ⟨[0xFF], by decide⟩ := by
  intro l asked
  have hlen : (preparedIsdu {} asked).responseLen = 2 := by decide +kernel
  refine ⟨by decide +kernel, by decide +kernel, by decide +kernel, ?_⟩
  rintro ⟨-, -, hzero⟩
  rw [hlen] at hzero
  cases hzero

end Iolinki
