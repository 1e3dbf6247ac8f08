import Iolinki.Isdu.DsCommands
import Iolinki.Isdu.Tags
import Iolinki.Isdu.Response

/-!
# What a read returns

`readValue` is the value that a successful read of an index delivers. The
identification parameters (`identification`) are delivered by handlers that do
not look at the service, so a write is answered in the same way.

An answer carries its data and nothing else: the error answer `0x80, code` and
the data of a read go out in the same form.

* `answerData_identification`: the answer to any request for an identification
  parameter.
* `answerData_readValue`: the answer to a read.
* `error_stream_eq_iff`: exactly when the answer to a read cannot be told from an
  error answer, and for which indices this can be so.
-/

namespace Iolinki

open Iolinki.Lib

/-! ## The values -/

/-- The bytes that are sent of a value in the response buffer: its length is cast
    to `uint8_t`. -/
def sentBytes (value : List UInt8) : List UInt8 := value.take (value.length % 256)

/-- The value of an identification parameter. The outer `none` stands for the
    other indices, the inner one for a NULL pointer. -/
def identification (cfg : BuildConfig) (info : DeviceInfo) (index : UInt16) :
    Option (Option (List UInt8)) :=
  if index = idxVendorId then some (some (be16 info.vendorId))
  else if index = idxDeviceId then some (some (be32 info.deviceId))
  else if index = idxProfileCharacteristic then some (some (be16 info.profileCharacteristic))
  else if index = idxRevisionId then some (some (be16 info.revisionId))
  else if index = idxMinCycleTime then some (some [info.minCycleTime])
  else (stringOfIndex info index).map fun str =>
    str.map fun s => s.bytes.take cfg.isduBufferSize

/-- The code of the oldest pending event, which a read of index 2 takes out of
    the queue. -/
def eventCode (cfg : BuildConfig) (h : Host) (c : IsduCtx) : List UInt8 :=
  if c.eventCtx then
    ((eventsPop cfg.eventQueueSize h.events).1.map fun e => be16 e.code).getD [0, 0]
  else [0, 0]

/-- The highest severity among the pending events. -/
def deviceStatus (cfg : BuildConfig) (h : Host) (c : IsduCtx) : UInt8 :=
  if c.eventCtx then eventsGetHighestSeverity cfg.eventQueueSize h.events else 0

/-- The value that a successful read delivers; `none` if the read is answered with
    an error or not at all. -/
def readValue (cfg : BuildConfig) (h : Host) (c : IsduCtx) : Option (List UInt8) :=
  let info := (deviceInfoGet h.store).1
  let index := c.header.index
  if index = idxSystemCommand then some (eventCode cfg h c)
  else if index = idxDeviceAccessLocks then some (be16 info.accessLocks)
  else if index = idxDetailedDeviceStatus then
    if c.eventCtx then
      some ((eventsGetAll cfg.eventQueueSize h.events 8).flatMap detailedStatusTriple)
    else none
  else if index = idxErrorStats then
    if c.header.subindex = 0 ∧ c.dllCtx = true then
      some (be32 h.stats.crcErrors ++ be32 h.stats.timeoutErrors ++ be32 h.stats.framingErrors ++
        be32 h.stats.timingErrors)
    else none
  else if index = Tag.application.index then
    (tagValue h.store .application).map (List.take cfg.isduBufferSize)
  else if index = Tag.function.index then
    (tagValue h.store .function).map (List.take cfg.isduBufferSize)
  else if index = Tag.location.index then
    (tagValue h.store .location).map (List.take cfg.isduBufferSize)
  else if index = idxPdinDescriptor then some [2]
  else if index = idxDeviceStatus then some [deviceStatus cfg h c]
  else (identification cfg info index).join

/-! ## Identification parameters -/

section Answers

variable (cfg : BuildConfig) (h : Host) {c : IsduCtx}

theorem answerData_data (c : IsduCtx) (value : List UInt8) :
    answerData (responseReady (putData c value)) = some (sentBytes value) :=
  answerData_putData c value

/-- `handle_mandatory_indices` on an identification parameter, whatever the service. -/
theorem handleIndex_identification {info : DeviceInfo} {value : Option (List UInt8)}
    (hid : identification cfg info c.header.index = some value) (hs : c.state ≠ .responseReady) :
    (handleIndex cfg h info c).1 = h ∧
      answerData (handleIndex cfg h info c).2 = value.map sentBytes := by
  -- a value that is always there; `finish` is what follows the answer
  have hfixed : ∀ (finish : IsduCtx → IsduCtx) {v : List UInt8}, some (some v) = some value →
      handleIndex cfg h info c = (h, finish (responseReady (putData c v))) →
      (∀ c, answerData (finish c) = answerData c) →
      (handleIndex cfg h info c).1 = h ∧
        answerData (handleIndex cfg h info c).2 = value.map sentBytes := by
    intro finish v hv hidx hfin
    obtain rfl := Option.some.inj hv
    rw [hidx]
    exact ⟨rfl, (hfin _).trans (answerData_data c v)⟩
  unfold identification at hid
  split_ifs at hid with h1 h2 h3 h4 h5
  · exact hfixed resetSeq hid (by simp [handleIndex, h1]) fun _ => rfl
  · exact hfixed resetSeq hid (by simp [handleIndex, h2]) fun _ => rfl
  · exact hfixed resetSeq hid (by simp [handleIndex, h3]) fun _ => rfl
  · exact hfixed id hid (by simp [handleIndex, stringOfIndex, h4]) fun _ => rfl
  · exact hfixed id hid (by simp [handleIndex, stringOfIndex, h5]) fun _ => rfl
  · obtain ⟨str, hstr, rfl⟩ := Option.map_eq_some_iff.mp hid
    rw [handleIndex_string cfg h hstr]
    refine ⟨rfl, ?_⟩
    cases str with
    | none => simp [copyString, answerData, hs]
    | some s => exact answerData_data c _

/-- The indices that `handle_standard_commands` leaves to `handle_mandatory_indices`. -/
theorem handleStandardCommands_mandatory (h1 : c.header.index ≠ idxSystemCommand)
    (h2 : c.header.index ≠ idxDeviceAccessLocks) (h3 : c.header.index ≠ idxDetailedDeviceStatus)
    (h4 : c.header.index ≠ idxErrorStats) :
    handleStandardCommands cfg h c = handleMandatoryIndices cfg h c := by
  rw [handleStandardCommands, if_neg h1, if_neg h2, if_neg h3, if_neg h4]

/-- The identification parameters are handled by `handle_mandatory_indices`. -/
theorem handleStandardCommands_identification {value : Option (List UInt8)}
    (hid : identification cfg (deviceInfoGet h.store).1 c.header.index = some value) :
    handleStandardCommands cfg h c = handleMandatoryIndices cfg h c := by
  have hne : ∀ i : UInt16, identification cfg (deviceInfoGet h.store).1 i = none →
      c.header.index ≠ i := by
    rintro i hi rfl
    rw [hid] at hi
    cases hi
  exact handleStandardCommands_mandatory cfg h (hne _ rfl) (hne _ rfl) (hne _ rfl) (hne _ rfl)

/-- **A request for an identification parameter**, whether read or write, is
    answered with its value. -/
theorem answerData_identification (hs : c.state = .serviceExecute) {value : Option (List UInt8)}
    (hid : identification cfg (deviceInfoGet h.store).1 c.header.index = some value) :
    (isduProcess cfg h c).1 = { h with store := (deviceInfoGet h.store).2 } ∧
      answerData (isduProcess cfg h c).2 = value.map sentBytes := by
  have hidx := handleIndex_identification cfg { h with store := (deviceInfoGet h.store).2 } hid
    (by rw [hs]; decide)
  rw [isduProcess_fst cfg h hs, answerData_isduProcess cfg h hs,
    handleStandardCommands_identification cfg h hid]
  exact hidx

/-! ## Reads -/

/-- **What a read can deliver**, index by index. -/
theorem readValue_cases {value : List UInt8} (hv : readValue cfg h c = some value) :
    (c.header.index = idxSystemCommand ∧ value = eventCode cfg h c) ∨
    (c.header.index = idxDeviceAccessLocks ∧ value = be16 (deviceInfoGet h.store).1.accessLocks) ∨
    (c.header.index = idxDetailedDeviceStatus ∧ c.eventCtx = true ∧
      value = (eventsGetAll cfg.eventQueueSize h.events 8).flatMap detailedStatusTriple) ∨
    (c.header.index = idxErrorStats ∧ c.header.subindex = 0 ∧ c.dllCtx = true ∧
      value = be32 h.stats.crcErrors ++ be32 h.stats.timeoutErrors ++ be32 h.stats.framingErrors ++
        be32 h.stats.timingErrors) ∨
    (∃ t : Tag, c.header.index = t.index ∧
      (tagValue h.store t).map (List.take cfg.isduBufferSize) = some value) ∨
    (c.header.index = idxPdinDescriptor ∧ value = [2]) ∨
    (c.header.index = idxDeviceStatus ∧ value = [deviceStatus cfg h c]) ∨
    (identification cfg (deviceInfoGet h.store).1 c.header.index).join = some value := by
  unfold readValue at hv
  dsimp only at hv
  by_cases h1 : c.header.index = idxSystemCommand
  · rw [if_pos h1] at hv
    exact .inl ⟨h1, (Option.some.inj hv).symm⟩
  rw [if_neg h1] at hv
  refine .inr ?_
  by_cases h2 : c.header.index = idxDeviceAccessLocks
  · rw [if_pos h2] at hv
    exact .inl ⟨h2, (Option.some.inj hv).symm⟩
  rw [if_neg h2] at hv
  refine .inr ?_
  by_cases h3 : c.header.index = idxDetailedDeviceStatus
  · rw [if_pos h3] at hv
    obtain ⟨hctx, hval⟩ := Option.ite_none_right_eq_some.mp hv
    exact .inl ⟨h3, hctx, (Option.some.inj hval).symm⟩
  rw [if_neg h3] at hv
  refine .inr ?_
  by_cases h4 : c.header.index = idxErrorStats
  · rw [if_pos h4] at hv
    obtain ⟨⟨hsub, hctx⟩, hval⟩ := Option.ite_none_right_eq_some.mp hv
    exact .inl ⟨h4, hsub, hctx, (Option.some.inj hval).symm⟩
  rw [if_neg h4] at hv
  refine .inr ?_
  by_cases h5 : c.header.index = Tag.application.index
  · rw [if_pos h5] at hv
    exact .inl ⟨_, h5, hv⟩
  rw [if_neg h5] at hv
  by_cases h6 : c.header.index = Tag.function.index
  · rw [if_pos h6] at hv
    exact .inl ⟨_, h6, hv⟩
  rw [if_neg h6] at hv
  by_cases h7 : c.header.index = Tag.location.index
  · rw [if_pos h7] at hv
    exact .inl ⟨_, h7, hv⟩
  rw [if_neg h7] at hv
  refine .inr ?_
  by_cases h8 : c.header.index = idxPdinDescriptor
  · rw [if_pos h8] at hv
    exact .inl ⟨h8, (Option.some.inj hv).symm⟩
  rw [if_neg h8] at hv
  refine .inr ?_
  by_cases h9 : c.header.index = idxDeviceStatus
  · rw [if_pos h9] at hv
    exact .inl ⟨h9, (Option.some.inj hv).symm⟩
  rw [if_neg h9] at hv
  exact .inr hv

theorem handleMandatoryIndices_deviceStatus (hi : c.header.index = idxDeviceStatus) :
    handleMandatoryIndices cfg h c = ({ h with store := (deviceInfoGet h.store).2 },
      responseReady (putData c [deviceStatus cfg h c])) := by
  simp only [handleMandatoryIndices, handleIndex, hi]
  rfl

theorem handleMandatoryIndices_pdinDescriptor (hi : c.header.index = idxPdinDescriptor) :
    handleMandatoryIndices cfg h c = ({ h with store := (deviceInfoGet h.store).2 },
      if c.header.type = .write then responseReady (putError c isduErrorWriteProtected)
      else responseReady (putData c [2])) := by
  by_cases hw : c.header.type = .write
  · simp only [handleMandatoryIndices, handleIndex, hi, hw, if_true]
    rfl
  · simp only [handleMandatoryIndices, handleIndex, hi, hw, if_false]
    rfl

theorem answerData_handleEventRead :
    answerData (handleEventRead cfg h c).2 = some (sentBytes (eventCode cfg h c)) := by
  unfold handleEventRead eventCode
  by_cases hev : c.eventCtx = true
  · rw [if_pos hev, if_pos hev]
    cases hpop : eventsPop cfg.eventQueueSize h.events with
    | mk ev events =>
      cases ev with
      | none => exact answerData_data c _
      | some ev => exact answerData_data c _
  · rw [if_neg hev, if_neg hev]
    exact answerData_data c _

theorem answerData_handleTag {t : Tag} (hr : c.header.type = .read) {value : List UInt8}
    (hv : (tagValue h.store t).map (List.take cfg.isduBufferSize) = some value) :
    answerData (handleTag cfg h c t.index t.finish).2 = some (sentBytes value) := by
  rw [handleTag, if_neg (by rw [hr]; decide)]
  dsimp only
  rw [paramsGet_tag, hv]
  exact (answerData_finish t _).trans (answerData_data c value)

/-- **A read is answered with its value.** -/
theorem answerData_readValue (hs : c.state = .serviceExecute) (hr : c.header.type = .read)
    {value : List UInt8} (hv : readValue cfg h c = some value) :
    answerData (isduProcess cfg h c).2 = some (sentBytes value) := by
  have htag : ∀ {t : Tag}, c.header.index = t.index →
      (tagValue h.store t).map (List.take cfg.isduBufferSize) = some value →
      answerData (isduProcess cfg h c).2 = some (sentBytes value) := by
    intro t ht hval
    rw [answerData_isduProcess cfg h hs, handleStandardCommands_tag cfg h ht]
    exact answerData_handleTag cfg _ hr (by rw [tagValue_deviceInfoGet]; exact hval)
  have hw : ¬c.header.type = .write := by rw [hr]; decide
  rw [answerData_isduProcess cfg h hs] at htag ⊢
  rcases readValue_cases cfg h hv with ⟨hi, rfl⟩ | ⟨hi, rfl⟩ | ⟨hi, hctx, rfl⟩
    | ⟨hi, hsub, hctx, rfl⟩ | ⟨t, ht, hval⟩ | ⟨hi, rfl⟩ | ⟨hi, rfl⟩ | hid
  · rw [handleStandardCommands, if_pos hi, if_neg hw]
    exact answerData_handleEventRead cfg h
  · rw [handleStandardCommands, if_neg (by rw [hi]; decide), if_pos hi, handleAccessLocks,
      if_pos hr]
    exact answerData_data c _
  · rw [handleStandardCommands, if_neg (by rw [hi]; decide), if_neg (by rw [hi]; decide), if_pos hi,
      handleDetailedDeviceStatus, if_neg (not_not.mpr hr), if_neg (by simp [hctx])]
    exact answerData_data c _
  · rw [handleStandardCommands, if_neg (by rw [hi]; decide), if_neg (by rw [hi]; decide),
      if_neg (by rw [hi]; decide), if_pos hi, handleErrorStats, if_neg (not_not.mpr hr),
      if_neg (not_not.mpr hsub), if_neg (by simp [hctx])]
    exact answerData_data c _
  · exact htag ht hval
  · rw [handleStandardCommands_mandatory cfg h (by rw [hi]; decide) (by rw [hi]; decide)
      (by rw [hi]; decide) (by rw [hi]; decide), handleMandatoryIndices_pdinDescriptor cfg h hi,
      if_neg hw]
    exact answerData_data c _
  · rw [handleStandardCommands_mandatory cfg h (by rw [hi]; decide) (by rw [hi]; decide)
      (by rw [hi]; decide) (by rw [hi]; decide), handleMandatoryIndices_deviceStatus cfg h hi]
    exact answerData_data c _
  · rw [← answerData_isduProcess cfg h hs]
    exact (answerData_identification cfg h hs (Option.join_eq_some_iff.mp hid)).2

/-! ## The bytes on the wire -/

omit h in
/-- An answer that stands ready is sent from its beginning. -/
theorem handlerClosed_fromStart :
    HandlerClosed fun c => c.state = .responseReady → c.responseIdx = 0 where
  putError _ hc := hc
  putData _ hc := hc
  noData hc := hc
  responseReady _ _ := rfl
  resetSeq hc := hc
  resetPending hc := hc
  appResetPending hc := hc

end Answers

/-- What the call number `k` of `iolink_isdu_get_response_byte` delivers. -/
def responseOf (c : IsduCtx) (k : ℕ) : Option UInt8 := (isduGetResponseByte (afterGet^[k] c)).2

theorem responseOf_eq {c : IsduCtx} (h : Emits c) : responseOf c = fun k => (pending c)[k]? := by
  funext k
  obtain ⟨hp, he⟩ := pending_iterate h k
  rw [responseOf, (getResponseByte_pending he).1, hp, List.head?_drop]

/-- The bytes of an answer with the data `data`. -/
def answerStream (data : List UInt8) : List UInt8 :=
  if data = [] then [ctrlByte true true 0] else segments true 0 (markLast data)

/-- The data can be read off from the segments. -/
theorem segments_inj {start start' : Bool} {seq seq' : UInt8} {segs segs' : List (Bool × UInt8)}
    (h : segments start seq segs = segments start' seq' segs') :
    segs.map Prod.snd = segs'.map Prod.snd := by
  induction segs generalizing start start' seq seq' segs' with
  | nil =>
    cases segs' with
    | nil => rfl
    | cons seg' segs' =>
      obtain ⟨last', b'⟩ := seg'
      simp at h
  | cons seg segs ih =>
    obtain ⟨last, b⟩ := seg
    cases segs' with
    | nil => simp at h
    | cons seg' segs' =>
      obtain ⟨last', b'⟩ := seg'
      simp only [segments_cons, List.cons.injEq] at h
      rw [List.map_cons, List.map_cons, h.2.1, ih h.2.2]

theorem answerStream_inj {data data' : List UInt8} :
    answerStream data = answerStream data' ↔ data = data' := by
  refine ⟨fun h => ?_, fun h => by rw [h]⟩
  -- the control byte of an empty answer stands alone, other answers have an even length
  have hlen : ∀ l : List UInt8, (segments true 0 (markLast l)).length = 2 * (markLast l).length :=
    fun l => length_segments _ _ _
  unfold answerStream at h
  split_ifs at h with h1 h2 h2
  · rw [h1, h2]
  · have := congrArg List.length h
    rw [hlen, List.length_singleton] at this
    omega
  · have := congrArg List.length h
    rw [hlen, List.length_singleton] at this
    omega
  · rw [← map_snd_markLast data, segments_inj h, map_snd_markLast]

theorem responseStream_eq (buf : ℕ → UInt8) (n : ℕ) :
    responseStream 0 buf n = answerStream (slice buf 0 n) := by
  unfold responseStream answerStream
  by_cases hn : n = 0
  · rw [if_pos hn, if_pos (by rw [hn]; rfl)]
  · have hne : slice buf 0 n ≠ [] := by
      intro hnil
      have := congrArg List.length hnil
      rw [length_slice] at this
      exact hn this
    rw [if_neg hn, if_neg hne, segments_markLast]
    simp

/-- An answer that has just been prepared. -/
theorem responseOf_prepared {c : IsduCtx} {n : ℕ} (h : Prepared c n) (hseq : c.segmentSeq = 0)
    (hn : n ≤ 255) : responseOf c = fun k => (answerStream (slice c.responseBuf 0 n))[k]? := by
  have hlen := h.responseLen
  have hidx := h.responseIdx
  have hem : Emits c := .inr ⟨h.state, by omega, by omega⟩
  rw [responseOf_eq hem, pending_ready h.state hidx h.isResponseControlSent (by omega), hseq, hlen,
    responseStream_eq]

/-- **What is sent after an executed request** is determined by the data of the
    answer. -/
theorem responseOf_isduProcess (cfg : BuildConfig) (h : Host) {c : IsduCtx}
    (hs : c.state = .serviceExecute) {data : List UInt8}
    (ha : answerData (isduProcess cfg h c).2 = some data) (hlen : data.length ≤ 255) :
    responseOf (isduProcess cfg h c).2 = fun k => (answerStream data)[k]? := by
  have hstart := handlerClosed_fromStart.handleStandardCommands (c := c)
    (fun hc => by rw [hs] at hc; cases hc) cfg h
  rw [isduProcess_execute cfg h hs] at ha ⊢
  split_ifs at ha ⊢ with hready
  · simp [answerData] at ha
  · rw [not_not] at hready
    rw [answerData, if_pos (by exact hready)] at ha
    obtain rfl := Option.some.inj ha
    rw [length_slice] at hlen
    exact responseOf_prepared ⟨hready, hstart hready, rfl, rfl⟩ rfl hlen

/-! ## Errors and values -/

/-- The codes of the error answers. -/
def isduErrors : List UInt8 :=
  [isduErrorServiceNotAvail, isduErrorSubindexNotAvail, isduErrorBusy, isduErrorWriteProtected,
    isduErrorSegmentation]

/-- The indices whose value can consist of two bytes. -/
def twoByteIndices : List UInt16 :=
  [idxSystemCommand, idxVendorId, idxDeviceAccessLocks, idxProfileCharacteristic, idxVendorName,
    idxVendorText, idxProductName, idxProductId, idxProductText, idxSerialNumber,
    idxHardwareRevision, idxFirmwareRevision, idxApplicationTag, idxFunctionTag, idxLocationTag,
    idxRevisionId]

theorem length_sentBytes_le (value : List UInt8) : (sentBytes value).length ≤ 255 := by
  have := List.length_take_le (value.length % 256) value
  unfold sentBytes
  omega

theorem length_sentBytes (value : List UInt8) : (sentBytes value).length = value.length % 256 := by
  rw [sentBytes, List.length_take]
  exact Nat.min_eq_left (Nat.mod_le _ _)

theorem length_flatMap_detailedStatusTriple (l : List Event) :
    (l.flatMap detailedStatusTriple).length = 3 * l.length := by
  induction l with
  | nil => rfl
  | cons e l ih =>
    rw [List.flatMap_cons, List.length_append, ih, List.length_cons]
    have : (detailedStatusTriple e).length = 3 := rfl
    omega

/-- The identification parameters that can have a value of two bytes. -/
theorem identification_two_bytes {cfg : BuildConfig} {info : DeviceInfo} {index : UInt16}
    {value : List UInt8} (hid : (identification cfg info index).join = some value)
    (hlen : value.length % 256 = 2) : index ∈ twoByteIndices := by
  unfold identification at hid
  split_ifs at hid with h1 h2 h3 h4 h5
  · rw [h1]; decide
  · obtain rfl := Option.some.inj hid
    cases hlen
  · rw [h3]; decide
  · rw [h4]; decide
  · obtain rfl := Option.some.inj hid
    cases hlen
  · -- no other index has a string
    by_contra hno
    simp only [twoByteIndices, List.mem_cons, not_or] at hno
    simp only [stringOfIndex, hno, if_false] at hid
    cases hid

/-- The reads that can return two bytes. -/
theorem readValue_two_bytes {cfg : BuildConfig} {h : Host} {c : IsduCtx} {value : List UInt8}
    (hv : readValue cfg h c = some value) (hlen : (sentBytes value).length = 2) :
    c.header.index ∈ twoByteIndices := by
  rw [length_sentBytes] at hlen
  rcases readValue_cases cfg h hv with ⟨hi, -⟩ | ⟨hi, -⟩ | ⟨-, -, rfl⟩ | ⟨-, -, -, rfl⟩ | ⟨t, ht, -⟩
    | ⟨-, rfl⟩ | ⟨-, rfl⟩ | hid
  · rw [hi]; decide
  · rw [hi]; decide
  · have hcount : (eventsGetAll cfg.eventQueueSize h.events 8).length ≤ 8 := by
      simp [eventsGetAll]
    rw [length_flatMap_detailedStatusTriple] at hlen
    omega
  · cases hlen
  · rw [ht]
    cases t <;> decide
  · cases hlen
  · cases hlen
  · exact identification_two_bytes hid hlen

/-- **Errors and values on the wire.** Two requests are executed, possibly on
    different devices. One is answered with the error `0x80, code`, the other is a
    read with the value `value`. Their response bytes are the same exactly if the
    two bytes that are sent of `value` are `0x80` and `code`, and only the values of
    some indices can be like that. -/
theorem error_stream_eq_iff (cfg cfg' : BuildConfig) (h h' : Host) {c c' : IsduCtx}
    (hs : c.state = .serviceExecute) {code : UInt8}
    (he : answerData (isduProcess cfg h c).2 = some [0x80, code])
    (hs' : c'.state = .serviceExecute) (hr : c'.header.type = .read) {value : List UInt8}
    (hv : readValue cfg' h' c' = some value) :
    (responseOf (isduProcess cfg h c).2 = responseOf (isduProcess cfg' h' c').2 ↔
        sentBytes value = [0x80, code]) ∧
      (sentBytes value = [0x80, code] → c'.header.index ∈ twoByteIndices) := by
  have hread := answerData_readValue cfg' h' hs' hr hv
  rw [responseOf_isduProcess cfg h hs he (show 2 ≤ 255 by decide),
    responseOf_isduProcess cfg' h' hs' hread (length_sentBytes_le value)]
  refine ⟨⟨fun hstream => ?_, fun heq => by rw [heq]⟩, fun heq => ?_⟩
  · have hlists := List.ext_getElem? fun k => congrFun hstream k
    exact (answerStream_inj.mp hlists).symm
  · exact readValue_two_bytes hv (by rw [heq]; rfl)

/-- The device access locks `0x1234` against an index that does not exist. -/
theorem error_stream_eq_iff_locks :
    let h : Host := { hostInit with store := { storeInit with accessLocks := 0x1234 } }
    responseOf (isduProcess {} hostInit (collected (.read 0x00FF 0))).2 ≠
      responseOf (isduProcess {} h (collected (.read 0x000C 0))).2 := by
  intro h heq
  have hvalue : sentBytes (be16 0x1234) = [0x80, isduErrorServiceNotAvail] :=
    (error_stream_eq_iff {} {} hostInit h rfl (by decide +kernel) rfl rfl rfl).1.mp heq
  exact absurd hvalue (by decide)

/-- With the access locks `0x8011` a read of them is answered like a read of an index
    that does not exist. -/
theorem locks_read_like_error :
    let h : Host := { hostInit with store := { storeInit with accessLocks := 0x8011 } }
    answerData (isduProcess {} hostInit (collected (.read 0x00FF 0))).2 =
        some [0x80, isduErrorServiceNotAvail] ∧
      readValue {} h (collected (.read 0x000C 0)) = some [0x80, 0x11] ∧
      responseOf (isduProcess {} hostInit (collected (.read 0x00FF 0))).2 =
        responseOf (isduProcess {} h (collected (.read 0x000C 0))).2 := by
  intro h
  have herr : answerData (isduProcess {} hostInit (collected (.read 0x00FF 0))).2 =
      some [0x80, isduErrorServiceNotAvail] := by decide +kernel
  have hval : answerData (isduProcess {} h (collected (.read 0x000C 0))).2 = some [0x80, 0x11] := by
    decide +kernel
  refine ⟨herr, by decide +kernel, ?_⟩
  rw [responseOf_isduProcess {} hostInit rfl herr (by decide),
    responseOf_isduProcess {} h rfl hval (by decide)]
  rfl

end Iolinki
