import Iolinki.Isdu.Protection
import Iolinki.Isdu.Execute

/-!
# The engine as a server

What the handlers of `src/isdu.c` do to a request, without the transport: a function of the
objects around the engine and the request. `serve` says which object an index shows, what a
write changes, and which requests are refused or not answered at all. A request for an
identification parameter is answered with its value even if it is a write.

* `handleStandardCommands_serves_read`, `handleStandardCommands_serves_write`: the
  handlers, index by index.
* `isduProcess_serves`: `iolink_isdu_process` on a collected request.
-/

namespace Iolinki

open Iolinki.Lib

/-! ## The server -/

/-- The answer to a request; `none` if there is none. -/
abbrev Answer := Option (List UInt8)

/-- The two bytes of an error. -/
def errorAnswer (code : UInt8) : List UInt8 := [0x80, code]

/-- The counters under index `0x0025`. -/
def statsBytes (s : DllStats) : List UInt8 :=
  be32 s.crcErrors ++ be32 s.timeoutErrors ++ be32 s.framingErrors ++ be32 s.timingErrors

/-- The tag with this index. -/
def tagOf (index : UInt16) : Option Tag :=
  if index = idxApplicationTag then some .application
  else if index = idxFunctionTag then some .function
  else if index = idxLocationTag then some .location
  else none

/-- What is shown under an index to reads and writes alike. -/
def commonAnswer (cfg : BuildConfig) (h : Host) (index : UInt16) : Answer :=
  if index = idxDeviceStatus then some [eventsGetHighestSeverity cfg.eventQueueSize h.events]
  else
    match identification cfg (deviceInfoGet h.store).1 index with
    | some value => value
    | none => some (errorAnswer isduErrorServiceNotAvail)

/-- A read. A read of index 2 takes the oldest event from the queue. -/
def serveRead (cfg : BuildConfig) (h : Host) (index : UInt16) (subindex : UInt8) : Host × Answer :=
  if index = idxSystemCommand then
    let r := eventsPop cfg.eventQueueSize h.events
    ({ h with events := r.2 }, some ((r.1.map fun e => be16 e.code).getD [0, 0]))
  else if index = idxDetailedDeviceStatus then
    (h, some ((eventsGetAll cfg.eventQueueSize h.events 8).flatMap detailedStatusTriple))
  else if index = idxErrorStats then
    (h, some (if subindex = 0 then statsBytes h.stats else errorAnswer isduErrorSubindexNotAvail))
  else
    ({ h with store := (deviceInfoGet h.store).2 },
      if index = idxDeviceAccessLocks then some (be16 (deviceInfoGet h.store).1.accessLocks)
      else
        match tagOf index with
        | some t => (tagValue h.store t).map (List.take cfg.isduBufferSize)
        | none => if index = idxPdinDescriptor then some [2] else commonAnswer cfg h index)

/-- A system command. -/
def serveCommand (h : Host) (cmd : UInt8) : Host × Answer :=
  (if cmd = cmdRestoreFactorySettings ∨ cmd = cmdRestoreAppDefaults then
      { h with store := paramsFactoryReset h.store }
    else h,
    some (if cmd ∈ systemCommands then [] else errorAnswer isduErrorServiceNotAvail))

/-- A write. -/
def serveWrite (cfg : BuildConfig) (h : Host) (index : UInt16) (data : List UInt8) :
    Host × Answer :=
  if index = idxSystemCommand then serveCommand h (data.headD 0)
  else if index = idxDeviceAccessLocks then
    let newLocks := (data.getD 0 0).toUInt16 <<< 8 ||| (data.getD 1 0).toUInt16
    (if data.length ≥ 2 then { h with store := deviceInfoSetAccessLocks h.store newLocks } else h,
      some [])
  else if index = idxDetailedDeviceStatus then (h, none)
  else if index = idxErrorStats then (h, some (errorAnswer isduErrorWriteProtected))
  else
    match tagOf index with
    | some t =>
      let r := paramsSet (deviceInfoGet h.store).2 t.index 0 data true
      ({ h with store := r.1 }, if r.2 = 0 then some [] else none)
    | none =>
      ({ h with store := (deviceInfoGet h.store).2 },
        if index = idxPdinDescriptor then some (errorAnswer isduErrorWriteProtected)
        else commonAnswer cfg h index)

/-- The server. -/
def serve (cfg : BuildConfig) (h : Host) : Request → Host × Answer
  | .read index subindex => serveRead cfg h index subindex
  | .write index _ payload => serveWrite cfg h index payload.1

/-! ## The handlers -/

/-- The handler `r` does what the server does. -/
def Serves (r : Host × IsduCtx) (s : Host × Answer) : Prop :=
  r.1 = s.1 ∧ answerData r.2 = s.2.map sentBytes

section Handlers

variable (cfg : BuildConfig) (h : Host) {c : IsduCtx}

theorem serves_data (h : Host) (c : IsduCtx) (value : List UInt8) :
    Serves (h, responseReady (putData c value)) (h, some value) :=
  ⟨rfl, answerData_data c value⟩

theorem serves_error (h : Host) (c : IsduCtx) (code : UInt8) :
    Serves (h, responseReady (putError c code)) (h, some (errorAnswer code)) :=
  ⟨rfl, answerData_error c code⟩

theorem serves_empty (h : Host) (c : IsduCtx) : Serves (h, answerEmpty c) (h, some []) :=
  ⟨rfl, rfl⟩

theorem serves_eventRead (hc : c.Wired) :
    Serves (handleEventRead cfg h c)
      ({ h with events := (eventsPop cfg.eventQueueSize h.events).2 },
        some (((eventsPop cfg.eventQueueSize h.events).1.map
          fun e => be16 e.code).getD [0, 0])) := by
  unfold handleEventRead
  rw [if_pos hc.1]
  cases hpop : eventsPop cfg.eventQueueSize h.events with
  | mk ev events =>
    cases ev with
    | none => exact serves_data _ c [0, 0]
    | some ev => exact serves_data _ c (be16 ev.code)

theorem serves_systemCommand (hc : c.Wired) (cmd : UInt8) :
    Serves (handleSystemCommand h c cmd) (serveCommand h cmd) := by
  have hds : ¬c.dsCtx = true := by rw [hc.2.1]; decide
  by_cases hmem : cmd ∈ systemCommands
  · rw [serveCommand, if_pos hmem]
    simp only [systemCommands, List.mem_cons, List.not_mem_nil, or_false] at hmem
    -- no Data Storage is attached to the engine, so its commands are acknowledged only
    unfold handleSystemCommand
    rw [if_neg hds, if_neg hds, if_neg hds, if_neg hds]
    rcases hmem with rfl | rfl | rfl | rfl | rfl | rfl | rfl | rfl | rfl | rfl | rfl | rfl <;>
      exact serves_empty _ _
  · rw [serveCommand, if_neg hmem]
    simp only [systemCommands, List.mem_cons, List.not_mem_nil, or_false, not_or] at hmem
    obtain ⟨h1, h2, h3, h4, h5, h6, h7, h8, h9, h10, h11, h12⟩ := hmem
    simp only [handleSystemCommand, h1, h2, h3, h4, h5, h6, h7, h8, h9, h10, h11, h12, or_self,
      if_false]
    exact serves_error h c _

theorem serves_accessLocks_write (hw : c.header.type = .write) :
    Serves (handleAccessLocks h c)
      (let data := slice c.buffer 0 c.bufferIdx
       let newLocks := (data.getD 0 0).toUInt16 <<< 8 ||| (data.getD 1 0).toUInt16
       (if data.length ≥ 2 then { h with store := deviceInfoSetAccessLocks h.store newLocks }
        else h,
        some [])) := by
  unfold handleAccessLocks
  rw [if_neg (by rw [hw]; decide)]
  refine ⟨?_, rfl⟩
  dsimp only
  rw [length_slice]
  split_ifs with hlen
  · rw [getD_slice _ _ (by omega), getD_slice _ _ (by omega)]
  · rfl

theorem serves_tag_read (hs : c.state = .serviceExecute) (hr : c.header.type = .read) (t : Tag) :
    Serves (handleTag cfg { h with store := (deviceInfoGet h.store).2 } c t.index t.finish)
      ({ h with store := (deviceInfoGet h.store).2 },
        (tagValue h.store t).map (List.take cfg.isduBufferSize)) := by
  unfold handleTag
  rw [if_neg (by rw [hr]; decide)]
  dsimp only
  have hstore : (paramsGet (deviceInfoGet h.store).2 t.index 0 cfg.isduBufferSize).2 =
      (deviceInfoGet h.store).2 := by
    have hidem : (deviceInfoGet (deviceInfoGet h.store).2).2 = (deviceInfoGet h.store).2 := by
      cases hd : h.store.deviceInfo <;> simp [deviceInfoGet, hd]
    cases t <;> first | exact hidem | rfl
  rw [paramsGet_tag, tagValue_deviceInfoGet, hstore]
  refine ⟨rfl, ?_⟩
  cases tagValue h.store t with
  | none => simp [answerData, hs]
  | some v => exact (answerData_finish t _).trans (answerData_data c _)

theorem serves_tag_write (hs : c.state = .serviceExecute) (hw : c.header.type = .write) (t : Tag) :
    let r := paramsSet (deviceInfoGet h.store).2 t.index 0 (slice c.buffer 0 c.bufferIdx) true
    Serves (handleTag cfg { h with store := (deviceInfoGet h.store).2 } c t.index t.finish)
      ({ h with store := r.1 }, if r.2 = 0 then some [] else none) := by
  intro r
  unfold handleTag
  rw [if_pos hw]
  refine ⟨rfl, ?_⟩
  show answerData (if r.2 = 0 then t.finish (answerEmpty c) else c) = _
  split_ifs with hok
  · exact answerData_finish t _
  · simp [answerData, hs]

theorem tagOf_some {index : UInt16} {t : Tag} (h : tagOf index = some t) : index = t.index := by
  unfold tagOf at h
  split_ifs at h with h1 h2 h3 <;> cases h <;> assumption

theorem tagOf_none {index : UInt16} (h : tagOf index = none) :
    index ≠ idxApplicationTag ∧ index ≠ idxFunctionTag ∧ index ≠ idxLocationTag := by
  unfold tagOf at h
  split_ifs at h with h1 h2 h3
  exact ⟨h1, h2, h3⟩

/-- The indices of `handle_mandatory_indices` that are neither tags nor the descriptor. -/
theorem serves_mandatory (hc : c.Wired) (hs : c.state = .serviceExecute)
    (htag : tagOf c.header.index = none) (h1 : c.header.index ≠ idxSystemCommand)
    (h2 : c.header.index ≠ idxDeviceAccessLocks) (h3 : c.header.index ≠ idxDetailedDeviceStatus)
    (hpd : c.header.index ≠ idxPdinDescriptor) :
    Serves (handleMandatoryIndices cfg h c)
      ({ h with store := (deviceInfoGet h.store).2 }, commonAnswer cfg h c.header.index) := by
  unfold commonAnswer
  by_cases hstatus : c.header.index = idxDeviceStatus
  · have hsev : deviceStatus cfg h c = eventsGetHighestSeverity cfg.eventQueueSize h.events :=
      if_pos hc.1
    rw [handleMandatoryIndices_deviceStatus cfg h hstatus, if_pos hstatus, hsev]
    exact serves_data _ c _
  · rw [if_neg hstatus]
    unfold handleMandatoryIndices
    cases hid : identification cfg (deviceInfoGet h.store).1 c.header.index with
    | some value => exact handleIndex_identification cfg _ hid (by rw [hs]; decide)
    | none =>
      obtain ⟨t1, t2, t3⟩ := tagOf_none htag
      rw [identification_eq_none_iff] at hid
      have hw : c.header.index ∉ writableIndices := by
        simp only [writableIndices, List.mem_cons, List.not_mem_nil, or_false, not_or]
        exact ⟨h1, h2, t1, t2, t3⟩
      dsimp only
      rw [handleIndex_unknown cfg _ hid hw hpd hstatus h3]
      exact serves_error _ c _

/-- **The handlers serve a read.** -/
theorem handleStandardCommands_serves_read (hc : c.Wired) (hs : c.state = .serviceExecute)
    (hr : c.header.type = .read) :
    Serves (handleStandardCommands cfg h c) (serveRead cfg h c.header.index c.header.subindex) := by
  have hw : ¬c.header.type = .write := by rw [hr]; decide
  unfold serveRead
  by_cases h1 : c.header.index = idxSystemCommand
  · rw [handleStandardCommands, if_pos h1, if_neg hw, if_pos h1]
    exact serves_eventRead cfg h hc
  rw [if_neg h1]
  by_cases h2 : c.header.index = idxDeviceAccessLocks
  · rw [handleStandardCommands, if_neg h1, if_pos h2, handleAccessLocks, if_pos hr,
      if_neg (by rw [h2]; decide), if_neg (by rw [h2]; decide), if_pos h2]
    exact serves_data _ c _
  by_cases h3 : c.header.index = idxDetailedDeviceStatus
  · rw [handleStandardCommands, if_neg h1, if_neg h2, if_pos h3, if_pos h3,
      handleDetailedDeviceStatus, if_neg (not_not.mpr hr), if_neg (by simp [hc.1])]
    exact serves_data h c _
  rw [if_neg h3]
  by_cases h4 : c.header.index = idxErrorStats
  · rw [handleStandardCommands, if_neg h1, if_neg h2, if_neg h3, if_pos h4, if_pos h4,
      handleErrorStats, if_neg (not_not.mpr hr)]
    by_cases hsub : c.header.subindex = 0
    · rw [if_neg (not_not.mpr hsub), if_neg (by simp [hc.2.2]), if_pos hsub]
      exact serves_data h c _
    · rw [if_pos hsub, if_neg hsub]
      exact serves_error h c _
  rw [if_neg h4, if_neg h2]
  cases htag : tagOf c.header.index with
  | some t =>
    rw [handleStandardCommands_tag cfg h (tagOf_some htag)]
    exact serves_tag_read cfg h hs hr t
  | none =>
    rw [handleStandardCommands_mandatory cfg h h1 h2 h3 h4]
    dsimp only
    by_cases hpd : c.header.index = idxPdinDescriptor
    · rw [handleMandatoryIndices_pdinDescriptor cfg h hpd, if_neg hw, if_pos hpd]
      exact serves_data _ c _
    · rw [if_neg hpd]
      exact serves_mandatory cfg h hc hs htag h1 h2 h3 hpd

/-- **The handlers serve a write.** -/
theorem handleStandardCommands_serves_write (hc : c.Wired) (hs : c.state = .serviceExecute)
    (hw : c.header.type = .write) (hpos : 1 ≤ c.bufferIdx) :
    Serves (handleStandardCommands cfg h c)
      (serveWrite cfg h c.header.index (slice c.buffer 0 c.bufferIdx)) := by
  have hr : c.header.type ≠ .read := by rw [hw]; decide
  unfold serveWrite
  by_cases h1 : c.header.index = idxSystemCommand
  · have hhead : (slice c.buffer 0 c.bufferIdx).headD 0 = c.buffer 0 := by
      obtain ⟨n, hn⟩ := Nat.exists_eq_add_of_le' hpos
      rw [hn, slice_succ_left]
      rfl
    rw [handleStandardCommands, if_pos h1, if_pos hw,
      if_pos (show c.bufferIdx > 0 from hpos), if_pos h1, hhead]
    exact serves_systemCommand h hc _
  rw [if_neg h1]
  by_cases h2 : c.header.index = idxDeviceAccessLocks
  · rw [handleStandardCommands, if_neg h1, if_pos h2, if_pos h2]
    exact serves_accessLocks_write h hw
  rw [if_neg h2]
  by_cases h3 : c.header.index = idxDetailedDeviceStatus
  · rw [handleStandardCommands, if_neg h1, if_neg h2, if_pos h3, if_pos h3,
      handleDetailedDeviceStatus, if_pos hr]
    refine ⟨rfl, ?_⟩
    simp [answerData, putError, hs]
  rw [if_neg h3]
  by_cases h4 : c.header.index = idxErrorStats
  · rw [handleStandardCommands, if_neg h1, if_neg h2, if_neg h3, if_pos h4, if_pos h4,
      handleErrorStats, if_pos hr]
    exact serves_error h c _
  rw [if_neg h4]
  cases htag : tagOf c.header.index with
  | some t =>
    rw [handleStandardCommands_tag cfg h (tagOf_some htag)]
    exact serves_tag_write cfg h hs hw t
  | none =>
    rw [handleStandardCommands_mandatory cfg h h1 h2 h3 h4]
    dsimp only
    by_cases hpd : c.header.index = idxPdinDescriptor
    · rw [handleMandatoryIndices_pdinDescriptor cfg h hpd, if_pos hw, if_pos hpd]
      exact serves_error _ c _
    · rw [if_neg hpd]
      exact serves_mandatory cfg h hc hs htag h1 h2 h3 hpd

/-- **`iolink_isdu_process` is the server.** -/
theorem isduProcess_serves (hc : c.Wired) {req : Request} (hd : c.Decoded req) :
    Serves (isduProcess cfg h c) (serve cfg h req) := by
  have hstd : Serves (handleStandardCommands cfg h c) (serve cfg h req) := by
    cases req with
    | read index subindex =>
      have hread := handleStandardCommands_serves_read cfg h hc hd.state hd.type
      rw [hd.index, hd.subindex] at hread
      exact hread
    | write index subindex payload =>
      have hlen : c.bufferIdx = payload.1.length := by
        rw [← length_slice c.buffer 0 c.bufferIdx, hd.buffer]
        rfl
      have hwrite := handleStandardCommands_serves_write cfg h hc hd.state hd.type
        (by rw [hlen]; exact payload.2.1)
      rw [hd.index, hd.buffer] at hwrite
      exact hwrite
  refine ⟨?_, ?_⟩
  · rw [isduProcess_fst cfg h hd.state]
    exact hstd.1
  · rw [answerData_isduProcess cfg h hd.state]
    exact hstd.2

end Handlers

/-! ## The parameters -/

/-- What a read does to the parameters depends on nothing but them. -/
theorem store_serveRead_congr (cfg : BuildConfig) {h h' : Host} (hst : h'.store = h.store)
    (index : UInt16) (subindex : UInt8) :
    (serveRead cfg h' index subindex).1.store = (serveRead cfg h index subindex).1.store := by
  unfold serveRead
  by_cases h1 : index = idxSystemCommand
  · rw [if_pos h1, if_pos h1]
    exact hst
  by_cases h2 : index = idxDetailedDeviceStatus
  · rw [if_neg h1, if_neg h1, if_pos h2, if_pos h2]
    exact hst
  by_cases h3 : index = idxErrorStats
  · rw [if_neg h1, if_neg h1, if_neg h2, if_neg h2, if_pos h3, if_pos h3]
    exact hst
  rw [if_neg h1, if_neg h1, if_neg h2, if_neg h2, if_neg h3, if_neg h3]
  exact congrArg (fun s => (deviceInfoGet s).2) hst

/-- What `iolink_isdu_process` does to the parameters depends on nothing but them. -/
theorem store_isduProcess_congr (cfg : BuildConfig) {h h' : Host} (hst : h'.store = h.store)
    {c : IsduCtx} (hc : c.Wired) (hfill : c.state = .serviceExecute → c.header.type = .write →
      1 ≤ c.bufferIdx ∧ c.bufferIdx ≤ 255) :
    (isduProcess cfg h' c).1.store = (isduProcess cfg h c).1.store := by
  by_cases hs : c.state = .serviceExecute
  · cases ht : c.header.type with
    | read =>
      rw [isduProcess_fst cfg h' hs, isduProcess_fst cfg h hs,
        (handleStandardCommands_serves_read cfg h' hc hs ht).1,
        (handleStandardCommands_serves_read cfg h hc hs ht).1]
      exact store_serveRead_congr cfg hst _ _
    | write =>
      obtain ⟨hpos, hle⟩ := hfill hs ht
      rw [(isduProcess_write cfg h' hc hs ht hpos hle).2,
        (isduProcess_write cfg h hc hs ht hpos hle).2, hst]
  · rw [isduProcess_of_ne cfg h' hs, isduProcess_of_ne cfg h hs]
    exact hst

end Iolinki
