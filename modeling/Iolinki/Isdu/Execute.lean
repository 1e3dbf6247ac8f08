import Iolinki.Isdu.Dispatch

/-!
# What a collected request does

The answer to a write, if there is one, and its effect on the parameters depend
only on the parameters, the index and the payload. `writeAnswer` and
`writeStore` say how, for an engine wired as `iolink_dll_init` wires it. A read
is answered unless a string it asks for is NULL (`ReadSilent`), and a read that
is not answered leaves the parameters alone.

* `isduProcess_write`: what `iolink_isdu_process` makes of a collected write.
* `isduProcess_read`: whether it answers a collected read.
* `wired_collectByte`, `wired_isduProcess`, `wired_getResponseByte`: no call
  changes the wiring.
-/

namespace Iolinki

open Iolinki.Lib

/-! ## The wiring -/

/-- Which of the pointers to other modules are set. -/
def IsduCtx.pointers (c : IsduCtx) : Bool × Bool × Bool := (c.eventCtx, c.dsCtx, c.dllCtx)

theorem pointers_handleIdle (c : IsduCtx) (b : UInt8) :
    (isduHandleIdle c b).1.pointers = c.pointers := by
  unfold isduHandleIdle
  split_ifs <;> rfl

theorem pointers_collectData (c : IsduCtx) (b : UInt8) (control : Bool) :
    (isduCollectData c b control).1.pointers = c.pointers := by
  unfold isduCollectData
  cases c.state with
  | headerInitial =>
    simp only [isduHeaderInitial]
    split_ifs <;> rfl
  | headerSubindex | dataCollect =>
    dsimp only
    split_ifs <;> rfl
  | responseReady =>
    dsimp only
    split_ifs
    · exact pointers_handleIdle { c with state := .idle } b
    · rfl
  | _ => rfl

theorem pointers_collectByte (c : IsduCtx) (b : UInt8) :
    (isduCollectByte c b).1.pointers = c.pointers := by
  by_cases hidle : c.state = .idle
  · rw [collectByte_idle hidle]
    exact pointers_handleIdle c b
  by_cases hseg : c.state = .segmentCollect
  · cases hb : startBit b with
    | true =>
      rw [collectByte_segmentCollect_start hseg hb]
      rfl
    | false =>
      rw [collectByte_segmentCollect hseg hb, isduSegmentControl]
      split_ifs <;> rfl
  by_cases hready : c.state = .responseReady
  · cases hb : startBit b with
    | true =>
      rw [collectByte_responseReady_start hready hb, pointers_handleIdle]
      rfl
    | false => rw [collectByte_responseReady hready hb]
  rw [collectByte_data hidle hseg hready]
  exact pointers_collectData c b false

theorem pointers_getResponseByte (c : IsduCtx) :
    (isduGetResponseByte c).1.pointers = c.pointers := by
  unfold isduGetResponseByte
  dsimp only
  split_ifs <;> rfl

theorem handlerClosed_pointers (p : Bool × Bool × Bool) :
    HandlerClosed fun c => c.pointers = p where
  putError _ hc := hc
  putData _ hc := hc
  noData hc := hc
  responseReady hc := hc
  resetSeq hc := hc
  resetPending hc := hc
  appResetPending hc := hc

theorem pointers_isduProcess (cfg : BuildConfig) (h : Host) (c : IsduCtx) :
    (isduProcess cfg h c).2.pointers = c.pointers := by
  have hstd := (handlerClosed_pointers c.pointers).handleStandardCommands rfl cfg h
  unfold isduProcess
  dsimp only
  split_ifs
  · rfl
  · exact hstd
  · exact hstd
  · rfl

theorem wired_iff_pointers (c : IsduCtx) : c.Wired ↔ c.pointers = (true, false, true) := by
  simp [IsduCtx.Wired, IsduCtx.pointers]

theorem wired_collectByte {c : IsduCtx} (h : c.Wired) (b : UInt8) :
    (isduCollectByte c b).1.Wired := by
  rw [wired_iff_pointers] at h ⊢
  rw [pointers_collectByte, h]

theorem wired_getResponseByte {c : IsduCtx} (h : c.Wired) : (isduGetResponseByte c).1.Wired := by
  rw [wired_iff_pointers] at h ⊢
  rw [pointers_getResponseByte, h]

theorem wired_isduProcess (cfg : BuildConfig) (h : Host) {c : IsduCtx} (hc : c.Wired) :
    (isduProcess cfg h c).2.Wired := by
  rw [wired_iff_pointers] at hc ⊢
  rw [pointers_isduProcess, hc]

/-! ## Writes -/

/-- The system commands that `handle_system_command` knows. -/
def systemCommands : List UInt8 :=
  [cmdDeviceReset, cmdApplicationReset, cmdRestoreFactorySettings, cmdRestoreAppDefaults,
    cmdSetCommMode, cmdParamDownloadStart, cmdParamDownloadEnd, cmdParamUploadStart,
    cmdParamUploadEnd, cmdParamUpload, cmdParamDownload, cmdParamBreak]

/-- `g_device_info` points to a record of the application. -/
def InfoPtr.isUser : InfoPtr → Bool
  | .user _ => true
  | _ => false

/-- The length of the answer to a write of `data`; `none` if there is none. The
    string indices and the identifiers are answered as if they were read. -/
def writeAnswer (cfg : BuildConfig) (s : Store) (index : UInt16) (data : List UInt8) : Option ℕ :=
  match stringOfIndex (deviceInfoGet s).1 index with
  | some str => str.map fun str => (str.bytes.take cfg.isduBufferSize).length % 256
  | none =>
    if index = idxDetailedDeviceStatus then none
    else if index = idxApplicationTag then
      if data.length ≤ 32 ∧ s.deviceInfo.isUser = false then some 0 else none
    else if index = idxSystemCommand then if data.headD 0 ∈ systemCommands then some 0 else some 2
    else if index = idxDeviceAccessLocks ∨ index = idxFunctionTag ∨ index = idxLocationTag then
      some 0
    else if index = idxDeviceStatus ∨ index = idxMinCycleTime then some 1
    else if index = idxDeviceId then some 4
    else some 2

/-- The parameters after a write of `data`. -/
def writeStore (s : Store) (index : UInt16) (data : List UInt8) : Store :=
  if index = idxSystemCommand then
    if data.headD 0 = cmdRestoreFactorySettings ∨ data.headD 0 = cmdRestoreAppDefaults then
      paramsFactoryReset s
    else s
  else if index = idxDeviceAccessLocks then
    if data.length ≥ 2 then
      deviceInfoSetAccessLocks s ((data.getD 0 0).toUInt16 <<< 8 ||| (data.getD 1 0).toUInt16)
    else s
  else if index = idxDetailedDeviceStatus ∨ index = idxErrorStats then s
  else if index = idxApplicationTag ∨ index = idxFunctionTag ∨ index = idxLocationTag then
    (paramsSet (deviceInfoGet s).2 index 0 data true).1
  else (deviceInfoGet s).2

/-- A handler has left an answer of the given length, or none, and `store`. -/
def Outcome (r : Host × IsduCtx) (answer : Option ℕ) (store : Store) : Prop :=
  (match answer with
    | some n => r.2.state = .responseReady ∧ r.2.responseIdx = 0 ∧ r.2.responseLen = n
    | none => r.2.state ≠ .responseReady) ∧ r.1.store = store

theorem outcome_ite {p : Prop} [Decidable p] {a b : Host × IsduCtx} {answer : Option ℕ}
    {store : Store} (ha : p → Outcome a answer store) (hb : ¬ p → Outcome b answer store) :
    Outcome (if p then a else b) answer store := by
  split_ifs with hp
  · exact ha hp
  · exact hb hp

section Write

variable (cfg : BuildConfig) (h : Host) {c : IsduCtx} (hc : c.Wired)
  (hs : c.state = .serviceExecute) (hw : c.header.type = .write)

include hc in
theorem handleSystemCommand_outcome (cmd : UInt8) :
    Outcome (handleSystemCommand h c cmd) (if cmd ∈ systemCommands then some 0 else some 2)
      (if cmd = cmdRestoreFactorySettings ∨ cmd = cmdRestoreAppDefaults then
        paramsFactoryReset h.store else h.store) := by
  have hds : ¬ c.dsCtx = true := by rw [hc.2.1]; decide
  unfold handleSystemCommand
  refine outcome_ite (by rintro rfl; exact ⟨⟨rfl, rfl, rfl⟩, rfl⟩) fun h1 => ?_
  refine outcome_ite (by rintro rfl; exact ⟨⟨rfl, rfl, rfl⟩, rfl⟩) fun h2 => ?_
  refine outcome_ite (by rintro (rfl | rfl) <;> exact ⟨⟨rfl, rfl, rfl⟩, rfl⟩) fun h3 => ?_
  refine outcome_ite (by rintro rfl; exact ⟨⟨rfl, rfl, rfl⟩, rfl⟩) fun h4 => ?_
  refine outcome_ite (fun h5 => outcome_ite (absurd · hds) fun _ => ?_) fun h5 => ?_
  · rcases h5 with rfl | rfl | rfl | rfl <;> exact ⟨⟨rfl, rfl, rfl⟩, rfl⟩
  refine outcome_ite (fun h6 => outcome_ite (absurd · hds) fun _ => ?_) fun h6 => ?_
  · subst h6; exact ⟨⟨rfl, rfl, rfl⟩, rfl⟩
  refine outcome_ite (fun h7 => outcome_ite (absurd · hds) fun _ => ?_) fun h7 => ?_
  · subst h7; exact ⟨⟨rfl, rfl, rfl⟩, rfl⟩
  refine outcome_ite (fun h8 => ?_) fun h8 => ?_
  · subst h8
    rw [if_neg hds]
    exact ⟨⟨rfl, rfl, rfl⟩, rfl⟩
  · rw [if_neg h3,
      if_neg (by simp only [systemCommands, List.mem_cons, List.not_mem_nil, or_false]; tauto)]
    exact ⟨⟨rfl, rfl, rfl⟩, rfl⟩

include hw in
theorem handleAccessLocks_outcome :
    Outcome (handleAccessLocks h c) (some 0)
      (let data := slice c.buffer 0 c.bufferIdx
       if data.length ≥ 2 then
         deviceInfoSetAccessLocks h.store
           ((data.getD 0 0).toUInt16 <<< 8 ||| (data.getD 1 0).toUInt16)
       else h.store) := by
  unfold handleAccessLocks
  rw [if_neg (by rw [hw]; decide)]
  refine ⟨⟨rfl, rfl, rfl⟩, ?_⟩
  simp only [length_slice]
  split_ifs with hlen
  · rw [getD_slice _ _ (by omega), getD_slice _ _ (by omega)]
  · rfl

include hw in
/-- A tag is written by `iolink_params_set`; a refused write is not answered. -/
theorem handleTag_outcome (hs : c.state ≠ .responseReady) (index : UInt16)
    {finish : IsduCtx → IsduCtx}
    (hfin : ∀ c, (finish c).state = c.state ∧ (finish c).responseIdx = c.responseIdx ∧
      (finish c).responseLen = c.responseLen) {accepted : Prop} [Decidable accepted]
    (hset : (paramsSet h.store index 0 (slice c.buffer 0 c.bufferIdx) true).2 = 0 ↔ accepted) :
    Outcome (handleTag cfg h c index finish) (if accepted then some 0 else none)
      (paramsSet h.store index 0 (slice c.buffer 0 c.bufferIdx) true).1 := by
  unfold handleTag
  rw [if_pos hw]
  refine ⟨?_, rfl⟩
  by_cases ha : accepted
  · simp only [if_pos ha, if_pos (hset.mpr ha)]
    exact hfin (answerEmpty c)
  · simp only [if_neg ha, if_neg (mt hset.mp ha)]
    exact hs

theorem deviceInfoGet_default_iff (s : Store) :
    (deviceInfoGet s).2.deviceInfo = .default ↔ s.deviceInfo.isUser = false := by
  unfold deviceInfoGet
  cases hs : s.deviceInfo <;> simp [InfoPtr.isUser, hs]

theorem index_ne_of_string {info : DeviceInfo} {i j : UInt16} {str : Option CString}
    (hi : stringOfIndex info i = some str) (hj : stringOfIndex info j = none) : i ≠ j := by
  rintro rfl
  rw [hi] at hj
  cases hj

theorem outcome_string {s : Store} {str : Option CString} (hs : c.state ≠ .responseReady)
    (hst : h.store = (deviceInfoGet s).2)
    (hstr : stringOfIndex (deviceInfoGet s).1 c.header.index = some str) (data : List UInt8) :
    Outcome (h, copyString cfg c str) (writeAnswer cfg s c.header.index data)
      (writeStore s c.header.index data) := by
  have hne : ∀ {j : UInt16}, stringOfIndex (deviceInfoGet s).1 j = none → c.header.index ≠ j :=
    index_ne_of_string hstr
  have hstore : writeStore s c.header.index data = (deviceInfoGet s).2 := by
    rw [writeStore, if_neg (hne rfl), if_neg (hne rfl), if_neg, if_neg]
    · rintro (h | h | h) <;> exact hne rfl h
    · rintro (h | h) <;> exact hne rfl h
  rw [hstore, writeAnswer, hstr]
  cases str with
  | none => exact ⟨hs, hst⟩
  | some str => exact ⟨⟨rfl, rfl, rfl⟩, hst⟩

include hw in
/-- The indices of `handle_mandatory_indices` that are not strings. -/
theorem handleIndex_outcome {s : Store} (hs : c.state ≠ .responseReady) (hlen : c.bufferIdx ≤ 255)
    (hst : h.store = (deviceInfoGet s).2)
    (hstr : stringOfIndex (deviceInfoGet s).1 c.header.index = none)
    (h1 : c.header.index ≠ idxSystemCommand) (h2 : c.header.index ≠ idxDeviceAccessLocks)
    (h3 : c.header.index ≠ idxDetailedDeviceStatus) (h4 : c.header.index ≠ idxErrorStats) :
    Outcome (handleIndex cfg h (deviceInfoGet s).1 c)
      (writeAnswer cfg s c.header.index (slice c.buffer 0 c.bufferIdx))
      (writeStore s c.header.index (slice c.buffer 0 c.bufferIdx)) := by
  set data := slice c.buffer 0 c.bufferIdx with hdata
  have hdlen : data.length ≤ 255 := by rw [hdata, length_slice]; exact hlen
  have hans : writeAnswer cfg s c.header.index data =
      if c.header.index = idxApplicationTag then
        if data.length ≤ 32 ∧ s.deviceInfo.isUser = false then some 0 else none
      else if c.header.index = idxFunctionTag ∨ c.header.index = idxLocationTag then some 0
      else if c.header.index = idxDeviceStatus ∨ c.header.index = idxMinCycleTime then some 1
      else if c.header.index = idxDeviceId then some 4
      else some 2 := by
    simp only [writeAnswer, hstr, if_neg h3, if_neg h1, h2, false_or]
  have hstore : writeStore s c.header.index data =
      if c.header.index = idxApplicationTag ∨ c.header.index = idxFunctionTag ∨
        c.header.index = idxLocationTag then (paramsSet h.store c.header.index 0 data true).1
      else h.store := by
    simp only [writeStore, if_neg h1, if_neg h2, h3, h4, or_self, if_false, hst]
  have hreset : ∀ c, (resetSeq c).state = c.state ∧ (resetSeq c).responseIdx = c.responseIdx ∧
      (resetSeq c).responseLen = c.responseLen := fun _ => ⟨rfl, rfl, rfl⟩
  rw [hans, hstore]
  unfold handleIndex
  simp only [hstr]
  refine outcome_ite (fun hi => ?_) fun i1 => ?_
  · rw [hi]; exact ⟨⟨rfl, rfl, rfl⟩, rfl⟩
  refine outcome_ite (fun hi => ?_) fun i2 => ?_
  · rw [hi]; exact ⟨⟨rfl, rfl, rfl⟩, rfl⟩
  refine outcome_ite (fun hi => ?_) fun i3 => ?_
  · rw [hi]; exact ⟨⟨rfl, rfl, rfl⟩, rfl⟩
  refine outcome_ite (fun hi => ?_) fun i4 => ?_
  · have haccept : (paramsSet h.store idxApplicationTag 0 data true).2 = 0 ↔
        data.length ≤ 32 ∧ s.deviceInfo.isUser = false := by
      rw [hst, paramsSet_applicationTag _ _ hdlen, deviceInfoGet_default_iff]
    have htag := handleTag_outcome cfg h hw hs _ hreset haccept
    rw [hi]
    exact htag
  refine outcome_ite (fun hi => ?_) fun i5 => ?_
  · have htag := handleTag_outcome cfg h hw hs idxFunctionTag hreset (iff_true_intro rfl)
    rw [hi]
    exact htag
  refine outcome_ite (fun hi => ?_) fun i6 => ?_
  · have hid : ∀ c : IsduCtx, (id c).state = c.state ∧ (id c).responseIdx = c.responseIdx ∧
        (id c).responseLen = c.responseLen := fun _ => ⟨rfl, rfl, rfl⟩
    have htag := handleTag_outcome cfg h hw hs idxLocationTag hid (iff_true_intro rfl)
    rw [hi]
    exact htag
  refine outcome_ite (fun hi => ?_) fun i7 => ?_
  · rw [hi, if_pos hw]; exact ⟨⟨rfl, rfl, rfl⟩, rfl⟩
  refine outcome_ite (fun hi => ?_) fun i8 => ?_
  · rw [hi]; exact ⟨⟨rfl, rfl, rfl⟩, rfl⟩
  refine outcome_ite (fun hi => absurd hi h3) fun _ => ?_
  refine outcome_ite (fun hi => ?_) fun i9 => ?_
  · rw [hi]; exact ⟨⟨rfl, rfl, rfl⟩, rfl⟩
  refine outcome_ite (fun hi => ?_) fun i10 => ?_
  · rw [hi]; exact ⟨⟨rfl, rfl, rfl⟩, rfl⟩
  simp only [i2, i4, i5, i6, i8, i10, or_self, if_false]
  exact ⟨⟨rfl, rfl, rfl⟩, rfl⟩

include hc hw in
theorem handleStandardCommands_outcome (hs : c.state ≠ .responseReady) (hpos : 1 ≤ c.bufferIdx)
    (hlen : c.bufferIdx ≤ 255) :
    Outcome (handleStandardCommands cfg h c)
      (writeAnswer cfg h.store c.header.index (slice c.buffer 0 c.bufferIdx))
      (writeStore h.store c.header.index (slice c.buffer 0 c.bufferIdx)) := by
  unfold handleStandardCommands
  refine outcome_ite (fun hi => ?_) fun h1 => ?_
  · rw [if_pos hw, if_pos (show c.bufferIdx > 0 from hpos), hi]
    have hhead : (slice c.buffer 0 c.bufferIdx).headD 0 = c.buffer 0 := by
      obtain ⟨n, hn⟩ := Nat.exists_eq_add_of_le' hpos
      rw [hn, slice_succ_left]
      rfl
    have hcmd := handleSystemCommand_outcome h hc (c.buffer 0)
    rw [← hhead] at hcmd ⊢
    exact hcmd
  refine outcome_ite (fun hi => ?_) fun h2 => ?_
  · rw [hi]
    exact handleAccessLocks_outcome h hw
  refine outcome_ite (fun hi => ?_) fun h3 => ?_
  · rw [hi, handleDetailedDeviceStatus, if_pos (by rw [hw]; decide)]
    exact ⟨hs, rfl⟩
  refine outcome_ite (fun hi => ?_) fun h4 => ?_
  · rw [hi, handleErrorStats, if_pos (by rw [hw]; decide)]
    exact ⟨⟨rfl, rfl, rfl⟩, rfl⟩
  unfold handleMandatoryIndices
  cases hstr : stringOfIndex (deviceInfoGet h.store).1 c.header.index with
  | some str =>
    simp only [handleIndex_string cfg _ hstr]
    exact outcome_string cfg _ hs rfl hstr _
  | none => exact handleIndex_outcome cfg _ hw hs hlen rfl hstr h1 h2 h3 h4

/-- The bytes of an answer of the given length are all pending. -/
structure Prepared (c : IsduCtx) (n : ℕ) : Prop where
  state : c.state = .responseReady
  responseIdx : c.responseIdx = 0
  isResponseControlSent : c.isResponseControlSent = false
  responseLen : c.responseLen = n

include hc hs hw in
/-- **What `iolink_isdu_process` makes of a collected write.** -/
theorem isduProcess_write (hpos : 1 ≤ c.bufferIdx) (hlen : c.bufferIdx ≤ 255) :
    let data := slice c.buffer 0 c.bufferIdx
    (match writeAnswer cfg h.store c.header.index data with
      | some n => Prepared (isduProcess cfg h c).2 n
      | none => (isduProcess cfg h c).2.state = .idle) ∧
      (isduProcess cfg h c).1.store = writeStore h.store c.header.index data := by
  have hout := handleStandardCommands_outcome cfg h hc hw (by rw [hs]; decide) hpos hlen
  intro data
  rw [isduProcess_execute cfg h hs]
  cases hans : writeAnswer cfg h.store c.header.index data with
  | some n =>
    rw [hans] at hout
    obtain ⟨⟨hst, hidx, hn⟩, hstore⟩ := hout
    rw [if_neg (not_not.mpr hst)]
    exact ⟨⟨hst, hidx, rfl, hn⟩, hstore⟩
  | none =>
    rw [hans] at hout
    rw [if_pos hout.1]
    exact ⟨rfl, hout.2⟩

end Write

/-- An answer has at most 255 bytes. -/
theorem length_prepared_le (cfg : BuildConfig) (h : Host) {c : IsduCtx}
    (hs : c.state = .serviceExecute) (hlen : c.bufferIdx ≤ 255) {n : ℕ}
    (hp : Prepared (isduProcess cfg h c).2 n) : n ≤ 255 := by
  rw [← hp.responseLen]
  rcases isduProcess_prepared cfg h hs fun _ => hlen with hidle | ⟨-, -, -, hle⟩
  · exact absurd (hidle.symm.trans hp.state) (by decide)
  · exact hle

/-! ## Reads -/

/-- The reads that no handler answers: a string pointer is NULL. -/
def ReadSilent (s : Store) (index : UInt16) : Prop :=
  stringOfIndex (deviceInfoGet s).1 index = some none ∨
    (index = idxApplicationTag ∧ (deviceInfoGet s).1.applicationTag = none)

theorem unanswered_read_iff {h : Host} {c : IsduCtx} (hr : c.header.type = .read) :
    Unanswered h c ↔ ReadSilent h.store c.header.index := by
  simp [Unanswered, ReadSilent, hr]

/-- The default record has no NULL pointer. -/
theorem ReadSilent.isUser {s : Store} {index : UInt16} (h : ReadSilent s index) :
    s.deviceInfo.isUser = true := by
  have hdefault : ¬ (stringOfIndex (defaultInfo s) index = some none ∨
      (index = idxApplicationTag ∧ (defaultInfo s).applicationTag = none)) := by
    rintro (h | ⟨-, h⟩)
    · unfold stringOfIndex at h
      split_ifs at h <;> simp [defaultInfo] at h
    · cases h
  unfold ReadSilent deviceInfoGet at h
  cases hs : s.deviceInfo with
  | null | default =>
    rw [hs] at h
    exact absurd h hdefault
  | user info => rfl

theorem ReadSilent.user {s : Store} {index : UInt16} (h : ReadSilent s index) :
    (deviceInfoGet s).2 = s := by
  have huser := h.isUser
  unfold deviceInfoGet
  cases hs : s.deviceInfo with
  | null =>
    rw [hs] at huser
    cases huser
  | default | user info => rfl

section Read

variable (cfg : BuildConfig) (h : Host) {c : IsduCtx} (hs : c.state = .serviceExecute)
  (hr : c.header.type = .read)

include hr in
/-- A read that is not answered leaves the parameters alone. -/
theorem handleStandardCommands_silent (hsil : ReadSilent h.store c.header.index) :
    (handleStandardCommands cfg h c).1.store = h.store := by
  have huser := hsil.user
  have hne : ∀ {j : UInt16}, stringOfIndex (deviceInfoGet h.store).1 j = none →
      j ≠ idxApplicationTag → c.header.index ≠ j := by
    intro j hj hja
    rcases hsil with hstr | ⟨ha, -⟩
    · exact index_ne_of_string hstr hj
    · rw [ha]; exact hja.symm
  unfold handleStandardCommands
  rw [if_neg (hne rfl (by decide)), if_neg (hne rfl (by decide)), if_neg (hne rfl (by decide)),
    if_neg (hne rfl (by decide))]
  unfold handleMandatoryIndices
  simp only [huser]
  rcases hsil with hstr | ⟨ha, -⟩
  · rw [handleIndex_string cfg _ hstr]
  · rw [handleIndex_applicationTag cfg _ _ ha, handleTag, if_neg (by rw [hr]; decide)]
    exact huser

include hs hr in
/-- **Whether `iolink_isdu_process` answers a collected read.** -/
theorem isduProcess_read (hc : c.Wired) :
    (ReadSilent h.store c.header.index ∧ (isduProcess cfg h c).2.state = .idle ∧
        (isduProcess cfg h c).1.store = h.store) ∨
      (¬ ReadSilent h.store c.header.index ∧
        ∃ n ≤ 255, Prepared (isduProcess cfg h c).2 n) := by
  rw [isduProcess_execute cfg h hs, ← unanswered_read_iff hr]
  rcases handleStandardCommands_answered le_rfl cfg h c (fun _ _ => hc.1)
    (fun hw => by rw [hr] at hw; cases hw) with ⟨hu, ha⟩ | ⟨hu, hst⟩
  · rw [if_neg (not_not.mpr ha.1)]
    exact .inr ⟨hu, _, ha.2.2, ha.1, ha.2.1, rfl, rfl⟩
  · rw [if_pos (by rw [hst, hs]; decide)]
    exact .inl ⟨hu, rfl, handleStandardCommands_silent cfg h hr ((unanswered_read_iff hr).mp hu)⟩

end Read

end Iolinki
