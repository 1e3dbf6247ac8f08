import Iolinki.Isdu.Reads

/-!
# Write protection

A write to an index that is not one of the five writable ones should be refused
and change nothing. It changes nothing, but only some handlers refuse it: the
identification parameters and the device status are answered as if they were
read, and a write of the detailed device status is not answered.

The bit `IOLINK_LOCK_PARAM` of the access locks stands for the write access to
parameters. No handler looks at it.

* `readOnly_write_iff`: exactly when a write to a read-only index is answered with
  an error.
* `param_lock_effective_iff`: the lock protects the tags along a run exactly if
  none of them is written.
-/

namespace Iolinki

open Iolinki.Lib

/-- The indices that a master may write. -/
def writableIndices : List UInt16 :=
  [idxSystemCommand, idxDeviceAccessLocks, idxApplicationTag, idxFunctionTag, idxLocationTag]

/-- The indices with an identification parameter. -/
def identificationIndices : List UInt16 :=
  [idxVendorId, idxDeviceId, idxProfileCharacteristic, idxRevisionId, idxMinCycleTime,
    idxVendorName, idxVendorText, idxProductName, idxProductId, idxProductText, idxSerialNumber,
    idxHardwareRevision, idxFirmwareRevision]

/-- An error answer stands ready: `0x80` and an error code. -/
def ErrorAnswer (c : IsduCtx) : Prop := ∃ code ∈ isduErrors, answerData c = some [0x80, code]

/-- What a refused write leaves alone. -/
structure HostKept (h h' : Host) : Prop where
  info : (deviceInfoGet h'.store).1 = (deviceInfoGet h.store).1
  tags : ∀ t, tagValue h'.store t = tagValue h.store t
  shadow : h'.store.shadow = h.store.shadow
  nvm : h'.store.nvm = h.store.nvm
  events : h'.events = h.events
  ds : h'.ds = h.ds

theorem HostKept.refl (h : Host) : HostKept h h := ⟨rfl, fun _ => rfl, rfl, rfl, rfl, rfl⟩

/-- Fetching the device information changes nothing that can be read. -/
theorem hostKept_deviceInfoGet (h : Host) :
    HostKept h { h with store := (deviceInfoGet h.store).2 } where
  info := deviceInfoGet_idem h.store
  tags := tagValue_deviceInfoGet h.store
  shadow := shadow_deviceInfoGet h.store
  nvm := by
    show (deviceInfoGet h.store).2.nvm = h.store.nvm
    unfold deviceInfoGet
    cases h.store.deviceInfo <;> rfl
  events := rfl
  ds := rfl

theorem ite_some_eq_none_iff {α : Type*} {p : Prop} [Decidable p] {a : α} {o : Option α} :
    (if p then some a else o) = none ↔ ¬p ∧ o = none := by
  by_cases hp : p <;> simp [hp]

theorem identification_eq_none_iff (cfg : BuildConfig) (info : DeviceInfo) (index : UInt16) :
    identification cfg info index = none ↔ index ∉ identificationIndices := by
  simp only [identification, stringOfIndex, ite_some_eq_none_iff, Option.map_eq_none_iff,
    identificationIndices, List.mem_cons, List.not_mem_nil, or_false, not_or, and_true]

theorem answerData_error (c : IsduCtx) (code : UInt8) :
    answerData (responseReady (putError c code)) = some [0x80, code] := by
  simp [answerData, responseReady, putError, slice, List.range_succ]

/-! ## Read-only parameters -/

section ReadOnly

variable (cfg : BuildConfig) (h : Host) {c : IsduCtx}

/-- An index that no handler knows. -/
theorem handleIndex_unknown {info : DeviceInfo}
    (hid : c.header.index ∉ identificationIndices) (hw : c.header.index ∉ writableIndices)
    (h1 : c.header.index ≠ idxPdinDescriptor) (h2 : c.header.index ≠ idxDeviceStatus)
    (h3 : c.header.index ≠ idxDetailedDeviceStatus) :
    handleIndex cfg h info c = (h, responseReady (putError c isduErrorServiceNotAvail)) := by
  have hnone := (identification_eq_none_iff cfg info c.header.index).mpr hid
  simp only [identification, ite_some_eq_none_iff, Option.map_eq_none_iff] at hnone
  obtain ⟨i1, i2, i3, i4, i5, hstr⟩ := hnone
  simp only [writableIndices, List.mem_cons, List.not_mem_nil, or_false, not_or] at hw
  obtain ⟨-, -, t1, t2, t3⟩ := hw
  simp only [handleIndex, hstr, i1, i2, i3, i4, i5, t1, t2, t3, h1, h2, h3, if_false]

/-- What a write to a read-only index leads to: no answer, the device status, the
    value of an identification parameter, or an error. -/
theorem readOnly_write_cases (hs : c.state = .serviceExecute) (hw : c.header.type = .write)
    (hi : c.header.index ∉ writableIndices) :
    HostKept h (isduProcess cfg h c).1 ∧
      ((c.header.index = idxDetailedDeviceStatus ∧ answerData (isduProcess cfg h c).2 = none) ∨
        (c.header.index = idxDeviceStatus ∧
          answerData (isduProcess cfg h c).2 = some [deviceStatus cfg h c]) ∨
        (∃ value, identification cfg (deviceInfoGet h.store).1 c.header.index = some value ∧
          answerData (isduProcess cfg h c).2 = value.map sentBytes) ∨
        (c.header.index ∉ identificationIndices ∧ c.header.index ≠ idxDeviceStatus ∧
          c.header.index ≠ idxDetailedDeviceStatus ∧ ErrorAnswer (isduProcess cfg h c).2)) := by
  cases hid : identification cfg (deviceInfoGet h.store).1 c.header.index with
  | some value =>
    obtain ⟨hhost, hans⟩ := answerData_identification cfg h hs hid
    rw [hhost]
    exact ⟨hostKept_deviceInfoGet h, .inr (.inr (.inl ⟨value, rfl, hans⟩))⟩
  | none =>
    rw [identification_eq_none_iff] at hid
    have hread : ¬c.header.type = .read := by rw [hw]; decide
    rw [isduProcess_fst cfg h hs, answerData_isduProcess cfg h hs, ErrorAnswer,
      answerData_isduProcess cfg h hs]
    have hne : ∀ i ∈ writableIndices, c.header.index ≠ i := fun i hmem heq => hi (heq ▸ hmem)
    by_cases h1 : c.header.index = idxDetailedDeviceStatus
    · rw [handleStandardCommands, if_neg (hne _ (by decide)), if_neg (hne _ (by decide)), if_pos h1]
      refine ⟨.refl h, .inl ⟨h1, ?_⟩⟩
      simp [handleDetailedDeviceStatus, hread, answerData, putError, hs]
    by_cases h2 : c.header.index = idxErrorStats
    · rw [handleStandardCommands, if_neg (hne _ (by decide)), if_neg (hne _ (by decide)), if_neg h1,
        if_pos h2, handleErrorStats, if_pos hread]
      refine ⟨.refl h, .inr (.inr (.inr ⟨hid, by rw [h2]; decide, h1, _, by decide,
        answerData_error c _⟩))⟩
    rw [handleStandardCommands_mandatory cfg h (hne _ (by decide)) (hne _ (by decide)) h1 h2]
    by_cases h3 : c.header.index = idxDeviceStatus
    · rw [handleMandatoryIndices_deviceStatus cfg h h3]
      exact ⟨hostKept_deviceInfoGet h, .inr (.inl ⟨h3, answerData_data c _⟩)⟩
    by_cases h4 : c.header.index = idxPdinDescriptor
    · rw [handleMandatoryIndices_pdinDescriptor cfg h h4, if_pos hw]
      exact ⟨hostKept_deviceInfoGet h, .inr (.inr (.inr ⟨hid, h3, h1, _, by decide,
        answerData_error c _⟩))⟩
    · rw [handleMandatoryIndices, handleIndex_unknown cfg _ hid hi h4 h3 h1]
      exact ⟨hostKept_deviceInfoGet h, .inr (.inr (.inr ⟨hid, h3, h1, _, by decide,
        answerData_error c _⟩))⟩

/-- **Read-only parameters.** A write to an index that is not writable is answered
    with an error and changes nothing, exactly if the index is neither an
    identification parameter nor the device status nor the detailed device status,
    or the value of the identification parameter looks like an error answer. -/
theorem readOnly_write_iff {index : UInt16} {subindex : UInt8} {d : Payload}
    (hc : c.Decoded (.write index subindex d)) (hi : index ∉ writableIndices) :
    (ErrorAnswer (isduProcess cfg h c).2 ∧ HostKept h (isduProcess cfg h c).1) ↔
      (index ∉ identificationIndices ∧ index ≠ idxDeviceStatus ∧ index ≠ idxDetailedDeviceStatus) ∨
        ∃ code ∈ isduErrors, ∃ value,
          identification cfg (deviceInfoGet h.store).1 index = some (some value) ∧
            sentBytes value = [0x80, code] := by
  have hindex : c.header.index = index := hc.index
  obtain ⟨hkept, hcases⟩ := readOnly_write_cases cfg h hc.state hc.type (by rw [hindex]; exact hi)
  rw [hindex] at hcases
  have hnone := identification_eq_none_iff cfg (deviceInfoGet h.store).1 index
  simp only [hkept, and_true]
  rcases hcases with ⟨rfl, hans⟩ | ⟨rfl, hans⟩ | ⟨value, hid, hans⟩ | ⟨h1, h2, h3, herr⟩
  · refine ⟨fun ⟨_, _, herr⟩ => ?_, ?_⟩
    · rw [hans] at herr
      cases herr
    · rintro (⟨-, -, hne⟩ | ⟨_, _, _, hid, _⟩)
      · exact absurd rfl hne
      · rw [hnone.mpr (by decide)] at hid
        cases hid
  · refine ⟨fun ⟨_, _, herr⟩ => ?_, ?_⟩
    · rw [hans] at herr
      simp at herr
    · rintro (⟨-, hne, -⟩ | ⟨_, _, _, hid, _⟩)
      · exact absurd rfl hne
      · rw [hnone.mpr (by decide)] at hid
        cases hid
  · constructor
    · rintro ⟨code, hcode, herr⟩
      rw [hans, Option.map_eq_some_iff] at herr
      obtain ⟨bytes, rfl, hbytes⟩ := herr
      exact .inr ⟨code, hcode, bytes, hid, hbytes⟩
    · rintro (⟨hmem, -, -⟩ | ⟨code, hcode, bytes, hid', hbytes⟩)
      · rw [hnone.mpr hmem] at hid
        cases hid
      · rw [hid] at hid'
        cases hid'
        exact ⟨code, hcode, by rw [hans, Option.map_some, hbytes]⟩
  · exact ⟨fun _ => .inl ⟨h1, h2, h3⟩, fun _ => herr⟩

end ReadOnly

/-- The index of the error statistics refuses a write. -/
theorem readOnly_write_iff_errorStats :
    ErrorAnswer (isduProcess {} hostInit (collected (.write 0x0025 0 ⟨[0x00], by decide⟩))).2 :=
  ((readOnly_write_iff {} hostInit (decoded_collected (.write 0x0025 0 ⟨[0x00], by decide⟩))
    (by decide)).mpr (.inl ⟨by decide, by decide, by decide⟩)).1

/-- A write of the vendor name is answered with the vendor name. -/
theorem vendorName_write_answered :
    let c := collected (.write 0x0010 0 ⟨[0x41], by decide⟩)
    answerData (isduProcess {} hostInit c).2 = some (CString.lit "iolinki").bytes ∧
      ¬ErrorAnswer (isduProcess {} hostInit c).2 := by
  intro c
  have hans : answerData (isduProcess {} hostInit c).2 = some (CString.lit "iolinki").bytes := by
    decide +kernel
  refine ⟨hans, ?_⟩
  rintro ⟨code, -, herr⟩
  rw [hans] at herr
  have hlen : some (CString.lit "iolinki").bytes.length = some 2 :=
    congrArg (Option.map List.length) herr
  exact absurd hlen (by decide)

/-! ## The parameter lock -/

/-- `IOLINK_LOCK_PARAM` is set in the access locks. -/
def ParamLocked (s : IsduCtx × Host) : Prop :=
  (deviceInfoGetAccessLocks s.2.store).1 &&& lockParam ≠ 0

/-- The call executes a write of the tag `t`. -/
structure WritesTag (s : IsduCtx × Host) (op : IsduOp) (t : Tag) : Prop where
  op : op = .process
  state : s.1.state = .serviceExecute
  type : s.1.header.type = .write
  index : s.1.header.index = t.index

/-- The call is answered with an error and leaves the tags, the shadow and the
    image in the NVM alone. -/
structure WriteRefused (cfg : BuildConfig) (s : IsduCtx × Host) (op : IsduOp) : Prop where
  tags : ∀ t, tagValue (isduStep cfg s op).1.2.store t = tagValue s.2.store t
  shadow : (isduStep cfg s op).1.2.store.shadow = s.2.store.shadow
  nvm : (isduStep cfg s op).1.2.store.nvm = s.2.store.nvm
  error : ErrorAnswer (isduStep cfg s op).1.1

section Lock

variable (cfg : BuildConfig)

/-- A write of a tag is answered without data or not at all. -/
theorem answerData_tag_write (h : Host) {c : IsduCtx} {t : Tag} (hs : c.state = .serviceExecute)
    (hw : c.header.type = .write) (hi : c.header.index = t.index) :
    answerData (isduProcess cfg h c).2 = some [] ∨ answerData (isduProcess cfg h c).2 = none := by
  rw [answerData_isduProcess cfg h hs, handleStandardCommands_tag cfg h hi, handleTag, if_pos hw]
  dsimp only
  split_ifs
  · exact .inl (answerData_finish t _)
  · exact .inr (by simp [answerData, hs])

/-- No write of a tag is refused. -/
theorem not_refused_of_writesTag {s : IsduCtx × Host} {op : IsduOp} {t : Tag}
    (h : WritesTag s op t) : ¬WriteRefused cfg s op := by
  obtain ⟨rfl, hs, hw, hi⟩ := h
  rintro ⟨-, -, -, code, -, herr⟩
  replace herr : answerData (isduProcess cfg s.2 s.1).2 = some [0x80, code] := herr
  rcases answerData_tag_write cfg s.2 hs hw hi with hans | hans
  · rw [hans] at herr
    cases herr
  · rw [hans] at herr
    cases herr

/-- **The parameter lock.** In a run every write of a tag under the lock is
    refused, exactly if there is no such write: the handlers of the tags do not look
    at the lock. -/
theorem param_lock_effective_iff (c : IsduCtx) (h : Host) (ops : List IsduOp) :
    (∀ pre op t, pre ++ [op] <+: ops → ParamLocked ((isduMachine cfg).final (c, h) pre) →
        WritesTag ((isduMachine cfg).final (c, h) pre) op t →
        WriteRefused cfg ((isduMachine cfg).final (c, h) pre) op) ↔
      ∀ pre op t, pre ++ [op] <+: ops → ParamLocked ((isduMachine cfg).final (c, h) pre) →
        ¬WritesTag ((isduMachine cfg).final (c, h) pre) op t := by
  constructor
  · intro hrefused pre op t hpre hlock hw
    exact not_refused_of_writesTag cfg hw (hrefused pre op t hpre hlock hw)
  · intro hno pre op t hpre hlock hw
    exact absurd hw (hno pre op t hpre hlock)

end Lock

instance (s : IsduCtx × Host) : Decidable (ParamLocked s) := inferInstanceAs (Decidable (_ ≠ _))

/-- The bytes of a request and the call that executes it. -/
def requestOps (req : Request) : List IsduOp :=
  ((segments true 0 (req.dataBytes.map fun b => (true, b))).map .collect) ++ [.process]

/-- A read and a write of the access locks set `IOLINK_LOCK_PARAM`. The function tag
    is written all the same. -/
theorem param_lock_ignored :
    let lock := requestOps (.read 0x000C 0) ++
      requestOps (.write 0x000C 0 ⟨[0x00, 0x01], by decide⟩)
    let write := requestOps (.write 0x0019 0 ⟨[0x41, 0x42], by decide⟩)
    let locked := (isduMachine {}).final (isduWired, hostInit) lock
    let after := (isduMachine {}).final locked write
    (∀ pre ∈ write.inits, ParamLocked ((isduMachine {}).final locked pre)) ∧
      tagValue locked.2.store .function = some [] ∧
      tagValue after.2.store .function = some [0x41, 0x42] ∧
      answerData after.1 = some [] := by
  decide +kernel

end Iolinki
