import Iolinki.Events
import Iolinki.DataStorage
import Iolinki.Params
import Iolinki.Lib.Machine

/-!
# The ISDU engine

Model of `src/isdu.c`: the request parser (`iolink_isdu_collect_byte`), the
service dispatcher (`iolink_isdu_process` and its handlers) and the response
emitter (`iolink_isdu_get_response_byte`).

The context holds three pointers, to the event engine, to the Data Storage
engine and to the data link layer. A pointer is a `Bool` here (`true` if it is
not NULL); the objects they point to are the fields of `Host`, together with
the static variables the handlers reach. `response_len` and the buffer indices
are `size_t` and are natural numbers.

`isduMachine` is the engine as seen by its callers: a machine whose inputs are
calls of the three functions.
-/

namespace Iolinki

open Iolinki.Lib

/-- `iolink_isdu_header_t` -/
structure IsduHeader where
  type : ServiceType
  length : UInt8
  index : UInt16
  subindex : UInt8
  deriving DecidableEq, Repr

/-- `iolink_isdu_ctx_t` -/
structure IsduCtx where
  state : IsduState
  buffer : ℕ → UInt8
  bufferIdx : ℕ
  header : IsduHeader
  responseBuf : ℕ → UInt8
  responseIdx : ℕ
  responseLen : ℕ
  nextState : IsduState
  segmentSeq : UInt8
  isSegmented : Bool
  isResponseControlSent : Bool
  errorCode : UInt8
  /-- `event_ctx != NULL` -/
  eventCtx : Bool
  /-- `ds_ctx != NULL` -/
  dsCtx : Bool
  /-- `dll_ctx != NULL` -/
  dllCtx : Bool
  resetPending : Bool
  appResetPending : Bool

/-- What the handlers reach through the pointers of the context and through
    static variables. -/
structure Host where
  events : EventsCtx
  ds : DsCtx
  stats : DllStats
  store : Store

/-- `iolink_isdu_init` (lines 37–44). -/
def isduInit : IsduCtx where
  state := .idle
  buffer := fun _ => 0
  bufferIdx := 0
  header := ⟨.read, 0, 0, 0⟩
  responseBuf := fun _ => 0
  responseIdx := 0
  responseLen := 0
  nextState := .idle
  segmentSeq := 0
  isSegmented := false
  isResponseControlSent := false
  errorCode := 0
  eventCtx := false
  dsCtx := false
  dllCtx := false
  resetPending := false
  appResetPending := false

/-- The objects around the engine at power-on. -/
def hostInit : Host := ⟨eventsInit, dsInit, {}, storeInit⟩

/-- `iolink_isdu_init` followed by the wiring of `iolink_dll_init`
    (`src/dll.c`, lines 246–251): `ds_ctx` stays NULL. -/
def isduWired : IsduCtx := { isduInit with eventCtx := true, dllCtx := true }

/-! ## The request parser -/

/-- `isdu_handle_idle` (lines 46–65): the context and the return value. -/
def isduHandleIdle (c : IsduCtx) (byte : UInt8) : IsduCtx × Int :=
  if !startBit byte then (c, -1)
  else
    ({ c with
        isSegmented := !lastBit byte
        segmentSeq := seqBits byte
        errorCode := isduErrorNone
        isResponseControlSent := false
        bufferIdx := 0
        responseLen := 0
        responseIdx := 0
        state := .headerInitial }, 0)

/-- The two-byte error answer `0x80, code` in the response buffer. -/
def putError (c : IsduCtx) (code : UInt8) : IsduCtx :=
  { c with
    responseBuf := Function.update (Function.update c.responseBuf 0 0x80) 1 code
    responseLen := 2 }

/-- `ctx->response_idx = 0U; ctx->state = ISDU_STATE_RESPONSE_READY;` -/
def responseReady (c : IsduCtx) : IsduCtx := { c with responseIdx := 0, state := .responseReady }

/-- `ctx->segment_seq = 0U; ctx->is_response_control_sent = false;` -/
def restartSegments (c : IsduCtx) : IsduCtx :=
  { c with segmentSeq := 0, isResponseControlSent := false }

/-- A START bit in the middle of a segmented transfer (lines 85–94). -/
def isduCollision (c : IsduCtx) : IsduCtx × Int :=
  (responseReady { putError c isduErrorBusy with isResponseControlSent := false }, 1)

/-- The control byte of a further segment (lines 108–126). -/
def isduSegmentControl (c : IsduCtx) (byte : UInt8) : IsduCtx × Int :=
  if seqBits byte ≠ nextSeq c.segmentSeq then
    (restartSegments (responseReady (putError c isduErrorSegmentation)), -1)
  else
    ({ c with
        segmentSeq := seqBits byte
        isSegmented := !lastBit byte
        state := c.nextState }, 0)

/-- The service byte (lines 131–160). -/
def isduHeaderInitial (c : IsduCtx) (byte : UInt8) : IsduCtx × Int :=
  let service := (byte >>> 4) &&& 0x0F
  let length := byte &&& 0x0F
  if service = 0x08 then
    ({ c with
        header := { c.header with type := .read, length := 0 }
        nextState := .headerIndexHigh
        bufferIdx := 0
        state := .segmentCollect }, 0)
  else if service = 0x09 then
    if length = 15 then
      ({ c with
          header := { c.header with type := .write }
          nextState := .headerExtLen
          bufferIdx := 0
          state := .segmentCollect }, 0)
    else
      ({ c with
          header := { c.header with type := .write, length := length }
          nextState := .headerIndexHigh
          bufferIdx := 0
          state := .segmentCollect }, 0)
  else (responseReady (putError c isduErrorServiceNotAvail), -1)

/-- The `switch` of `iolink_isdu_collect_byte` (lines 130–223). -/
def isduCollectData (c : IsduCtx) (byte : UInt8) (isControlPhase : Bool) : IsduCtx × Int :=
  match c.state with
  | .headerInitial => isduHeaderInitial c byte
  | .headerExtLen =>
    ({ c with
        header := { c.header with length := byte }
        nextState := .headerIndexHigh
        state := .segmentCollect }, 0)
  | .headerIndexHigh =>
    ({ c with
        header := { c.header with index := byte.toUInt16 <<< 8 }
        nextState := .headerIndexLow
        state := .segmentCollect }, 0)
  | .headerIndexLow =>
    ({ c with
        header := { c.header with index := c.header.index ||| byte.toUInt16 }
        nextState := .headerSubindex
        state := .segmentCollect }, 0)
  | .headerSubindex =>
    let c := { c with header := { c.header with subindex := byte } }
    if c.header.type = .write then
      ({ c with nextState := .dataCollect, state := .segmentCollect }, 0)
    else ({ c with state := .serviceExecute }, 1)
  | .dataCollect =>
    let c := { c with
      buffer := Function.update c.buffer c.bufferIdx byte
      bufferIdx := c.bufferIdx + 1 }
    if c.bufferIdx ≥ c.header.length.toNat then ({ c with state := .serviceExecute }, 1)
    else ({ c with nextState := .dataCollect, state := .segmentCollect }, 0)
  | .serviceExecute => (c, 0)
  | .busy => (c, 0)
  | .responseReady =>
    if isControlPhase && startBit byte then isduHandleIdle { c with state := .idle } byte
    else (c, 0)
  | _ => ({ c with state := .idle }, 0)

/-- `iolink_isdu_collect_byte` (lines 67–224): the context and the return
    value. -/
def isduCollectByte (c : IsduCtx) (byte : UInt8) : IsduCtx × Int :=
  let isControlPhase := c.state = .idle || c.state = .segmentCollect || c.state = .responseReady
  if isControlPhase then
    if startBit byte && c.state ≠ .idle && c.state ≠ .responseReady then isduCollision c
    else
      let c := if startBit byte && c.state = .responseReady then
          { c with responseIdx := 0, responseLen := 0, state := .idle }
        else c
      if c.state = .idle then isduHandleIdle c byte
      else if c.state = .segmentCollect then isduSegmentControl c byte
      else isduCollectData c byte isControlPhase
  else isduCollectData c byte isControlPhase

/-! ## The response emitter -/

/-- The control byte of the next response segment (lines 782–795). -/
def responseControl (c : IsduCtx) : UInt8 :=
  ctrlByte (c.responseIdx = 0) ((c.responseIdx + 1) % 256 ≥ c.responseLen) c.segmentSeq

/-- `iolink_isdu_get_response_byte` (lines 772–817): the context, and the byte
    delivered when it returns `1`. -/
def isduGetResponseByte (c : IsduCtx) : IsduCtx × Option UInt8 :=
  if c.state ≠ .responseReady then (c, none)
  else if !c.isResponseControlSent then
    ({ c with isResponseControlSent := true }, some (responseControl c))
  else if c.responseIdx < c.responseLen then
    let byte := c.responseBuf c.responseIdx
    let c := { c with responseIdx := c.responseIdx + 1 }
    if c.responseIdx ≥ c.responseLen then ({ c with state := .idle }, some byte)
    else
      ({ c with isResponseControlSent := false, segmentSeq := nextSeq c.segmentSeq }, some byte)
  else ({ c with state := .idle }, none)

/-! ## The service handlers -/

/-- Copy `data` to the response buffer; `response_len` is a cast to `uint8_t`
    of its length. -/
def putData (c : IsduCtx) (data : List UInt8) : IsduCtx :=
  { c with responseBuf := blit c.responseBuf 0 data, responseLen := data.length % 256 }

/-- The empty answer of a successful command or write:
    `ctx->response_len = 0U;` with `response_idx` and `state` set. -/
def answerEmpty (c : IsduCtx) : IsduCtx := responseReady { c with responseLen := 0 }

/-- `ctx->segment_seq = 0U;` -/
def resetSeq (c : IsduCtx) : IsduCtx := { c with segmentSeq := 0 }

/-- `(uint8_t)(v >> 8), (uint8_t)(v & 0xFF)` -/
def be16 (v : UInt16) : List UInt8 := [(v >>> 8).toUInt8, v.toUInt8]

/-- The four bytes of `v`, most significant first. -/
def be32 (v : UInt32) : List UInt8 :=
  [(v >>> 24).toUInt8, (v >>> 16).toUInt8, (v >>> 8).toUInt8, v.toUInt8]

/-- The string that indices `0x0010` to `0x0017` select (lines 271–294); the
    inner `none` is a NULL pointer. -/
def stringOfIndex (info : DeviceInfo) (index : UInt16) : Option (Option CString) :=
  if index = idxVendorName then some info.vendorName
  else if index = idxVendorText then some info.vendorText
  else if index = idxProductName then some info.productName
  else if index = idxProductId then some info.productId
  else if index = idxProductText then some info.productText
  else if index = idxSerialNumber then some info.serialNumber
  else if index = idxHardwareRevision then some info.hardwareRevision
  else if index = idxFirmwareRevision then some info.firmwareRevision
  else none

/-- The tail of `handle_mandatory_indices` (lines 456–465). -/
def copyString (cfg : BuildConfig) (c : IsduCtx) (str : Option CString) : IsduCtx :=
  match str with
  | some s => responseReady (putData c (s.bytes.take cfg.isduBufferSize))
  | none => c

/-- The cases of the three tags (lines 296–364). `finish` is what follows the
    answer: only the first two tags reset `segment_seq`. A refused write or
    read leaves the context alone. -/
def handleTag (cfg : BuildConfig) (h : Host) (c : IsduCtx) (index : UInt16)
    (finish : IsduCtx → IsduCtx) : Host × IsduCtx :=
  if c.header.type = .write then
    let r := paramsSet h.store index 0 (slice c.buffer 0 c.bufferIdx) true
    ({ h with store := r.1 }, if r.2 = 0 then finish (answerEmpty c) else c)
  else
    let r := paramsGet h.store index 0 cfg.isduBufferSize
    ({ h with store := r.2 }, match r.1 with
      | some data => finish (responseReady (putData c data))
      | none => c)

/-- The event triples of the inner case for `0x001C` (lines 404–427). -/
def eventTriple (e : Event) : List UInt8 :=
  (match e.type with
    | .notification => 0x40
    | .warning => 0x80
    | .error => 0xC0) :: be16 e.code

/-- The `switch` of `handle_mandatory_indices` (lines 240–454), after the
    device information has been fetched. -/
def handleIndex (cfg : BuildConfig) (h : Host) (info : DeviceInfo) (c : IsduCtx) : Host × IsduCtx :=
  let index := c.header.index
  if index = idxVendorId then
    (h, resetSeq (responseReady (putData c (be16 info.vendorId))))
  else if index = idxDeviceId then
    (h, resetSeq (responseReady (putData c (be32 info.deviceId))))
  else if index = idxProfileCharacteristic then
    (h, resetSeq (responseReady (putData c (be16 info.profileCharacteristic))))
  else
    match stringOfIndex info index with
    | some str => (h, copyString cfg c str)
    | none =>
      if index = idxApplicationTag then handleTag cfg h c idxApplicationTag resetSeq
      else if index = idxFunctionTag then handleTag cfg h c idxFunctionTag resetSeq
      else if index = idxLocationTag then handleTag cfg h c idxLocationTag id
      else if index = idxPdinDescriptor then
        if c.header.type = .write then (h, responseReady (putError c isduErrorWriteProtected))
        else (h, responseReady (putData c [2]))
      else if index = idxDeviceStatus then
        let severity :=
          if c.eventCtx then eventsGetHighestSeverity cfg.eventQueueSize h.events else 0
        (h, responseReady (putData c [severity]))
      else if index = idxDetailedDeviceStatus then
        let events := if c.eventCtx then eventsGetAll cfg.eventQueueSize h.events 8 else []
        (h, responseReady (putData c (events.flatMap eventTriple)))
      else if index = idxRevisionId then (h, responseReady (putData c (be16 info.revisionId)))
      else if index = idxMinCycleTime then (h, responseReady (putData c [info.minCycleTime]))
      else (h, responseReady (putError c isduErrorServiceNotAvail))

/-- `handle_mandatory_indices` (lines 226–466). -/
def handleMandatoryIndices (cfg : BuildConfig) (h : Host) (c : IsduCtx) : Host × IsduCtx :=
  let r := deviceInfoGet h.store
  handleIndex cfg { h with store := r.2 } r.1 c

/-- The answer of `handle_system_command` to the return value of a Data Storage
    function (lines 504–521). -/
def dsAnswer (c : IsduCtx) (ret : Int) : IsduCtx :=
  if ret ≠ 0 then
    responseReady (putError c
      (if ret = -1 then isduErrorBusy
       else if ret = -2 then isduErrorWriteProtected
       else isduErrorServiceNotAvail))
  else answerEmpty c

/-- The answer to the return value of a legacy Data Storage command
    (lines 526–534 and 539–548). -/
def dsLegacyAnswer (c : IsduCtx) (ret : Int) : IsduCtx :=
  if ret ≠ 0 then responseReady (putError c isduErrorBusy) else answerEmpty c

/-- `handle_system_command` (lines 468–573). -/
def handleSystemCommand (h : Host) (c : IsduCtx) (cmd : UInt8) : Host × IsduCtx :=
  if cmd = cmdDeviceReset then (h, answerEmpty { c with resetPending := true })
  else if cmd = cmdApplicationReset then (h, answerEmpty { c with appResetPending := true })
  else if cmd = cmdRestoreFactorySettings ∨ cmd = cmdRestoreAppDefaults then
    ({ h with store := paramsFactoryReset h.store }, answerEmpty c)
  else if cmd = cmdSetCommMode then (h, answerEmpty c)
  else if cmd = cmdParamDownloadStart ∨ cmd = cmdParamDownloadEnd ∨ cmd = cmdParamUploadStart ∨
      cmd = cmdParamUploadEnd then
    if c.dsCtx then
      let l := deviceInfoGetAccessLocks h.store
      let r := dsHandleCommand h.ds cmd l.1
      ({ h with ds := r.1, store := l.2 }, dsAnswer c r.2)
    else (h, answerEmpty c)
  else if cmd = cmdParamUpload then
    if c.dsCtx then
      let r := dsStartUpload h.ds
      ({ h with ds := r.1 }, dsLegacyAnswer c r.2)
    else (h, answerEmpty c)
  else if cmd = cmdParamDownload then
    if c.dsCtx then
      let r := dsStartDownload h.ds
      ({ h with ds := r.1 }, dsLegacyAnswer c r.2)
    else (h, answerEmpty c)
  else if cmd = cmdParamBreak then
    (if c.dsCtx then { h with ds := (dsAbort h.ds).1 } else h, answerEmpty c)
  else (h, responseReady (putError c isduErrorServiceNotAvail))

/-- `handle_access_locks` (lines 575–593). -/
def handleAccessLocks (h : Host) (c : IsduCtx) : Host × IsduCtx :=
  if c.header.type = .read then
    let l := deviceInfoGetAccessLocks h.store
    ({ h with store := l.2 }, responseReady (putData c (be16 l.1)))
  else
    let newLocks := (c.buffer 0).toUInt16 <<< 8 ||| (c.buffer 1).toUInt16
    let h := if c.bufferIdx ≥ 2 then { h with store := deviceInfoSetAccessLocks h.store newLocks }
      else h
    (h, answerEmpty c)

/-- One triple of `handle_detailed_device_status` (lines 619–642). -/
def detailedStatusTriple (e : Event) : List UInt8 :=
  (0x80 ||| (match e.type with
      | .notification => (0x01 : UInt8) <<< 3
      | .warning => (0x02 : UInt8) <<< 3
      | .error => (0x03 : UInt8) <<< 3) ||| 0x02) :: be16 e.code

/-- `handle_detailed_device_status` (lines 595–648). The first two branches
    return without touching `state` and `response_idx`. -/
def handleDetailedDeviceStatus (cfg : BuildConfig) (h : Host) (c : IsduCtx) : IsduCtx :=
  if c.header.type ≠ .read then putError c isduErrorWriteProtected
  else if !c.eventCtx then { c with responseLen := 0 }
  else
    let events := (List.range (min h.events.count 8)).map (eventAt cfg.eventQueueSize h.events)
    responseReady (putData c (events.flatMap detailedStatusTriple))

/-- `handle_error_stats` (lines 658–692). -/
def handleErrorStats (h : Host) (c : IsduCtx) : IsduCtx :=
  if c.header.type ≠ .read then putError c isduErrorWriteProtected
  else if c.header.subindex ≠ 0 then putError c isduErrorSubindexNotAvail
  else if !c.dllCtx then putError c isduErrorServiceNotAvail
  else
    responseReady (putData c (be32 h.stats.crcErrors ++ be32 h.stats.timeoutErrors ++
      be32 h.stats.framingErrors ++ be32 h.stats.timingErrors))

/-- The read of index 2: the code of the oldest pending event
    (lines 713–736). -/
def handleEventRead (cfg : BuildConfig) (h : Host) (c : IsduCtx) : Host × IsduCtx :=
  if c.eventCtx then
    match eventsPop cfg.eventQueueSize h.events with
    | (some ev, events) => ({ h with events := events }, responseReady (putData c (be16 ev.code)))
    | (none, events) => ({ h with events := events }, responseReady (putData c [0, 0]))
  else (h, responseReady (putData c [0, 0]))

/-- `handle_standard_commands` (lines 694–745). -/
def handleStandardCommands (cfg : BuildConfig) (h : Host) (c : IsduCtx) : Host × IsduCtx :=
  if c.header.index = idxSystemCommand then
    if c.header.type = .write then
      if c.bufferIdx > 0 then handleSystemCommand h c (c.buffer 0)
      else (h, responseReady (putError c isduErrorServiceNotAvail))
    else handleEventRead cfg h c
  else if c.header.index = idxDeviceAccessLocks then handleAccessLocks h c
  else if c.header.index = idxDetailedDeviceStatus then (h, handleDetailedDeviceStatus cfg h c)
  else if c.header.index = idxErrorStats then (h, responseReady (handleErrorStats h c))
  else handleMandatoryIndices cfg h c

/-- `iolink_isdu_process` (lines 747–770). -/
def isduProcess (cfg : BuildConfig) (h : Host) (c : IsduCtx) : Host × IsduCtx :=
  if c.state = .busy then (h, c)
  else if c.state = .serviceExecute then
    let r := handleStandardCommands cfg h c
    if r.2.state ≠ .responseReady then (r.1, { r.2 with state := .idle })
    else (r.1, restartSegments r.2)
  else (h, c)

/-! ## The engine as a machine -/

/-- A call of one of the three functions of the engine. -/
inductive IsduOp
  | collect (byte : UInt8)
  | process
  | getResponse
  deriving DecidableEq, Repr

/-- What a call returns. -/
inductive IsduOut
  | collected (ret : Int)
  | processed
  | response (byte : Option UInt8)
  deriving DecidableEq, Repr

/-- One call on a context and the objects around it. -/
def isduStep (cfg : BuildConfig) (s : IsduCtx × Host) (op : IsduOp) : (IsduCtx × Host) × IsduOut :=
  match op with
  | .collect byte =>
    let r := isduCollectByte s.1 byte
    ((r.1, s.2), .collected r.2)
  | .process =>
    let r := isduProcess cfg s.2 s.1
    ((r.2, r.1), .processed)
  | .getResponse =>
    let r := isduGetResponseByte s.1
    ((r.1, s.2), .response r.2)

/-- The engine driven by its callers. -/
def isduMachine (cfg : BuildConfig) : Machine (IsduCtx × Host) IsduOp IsduOut := ⟨isduStep cfg⟩

/-! ## The parser state by state -/

theorem collectByte_idle {c : IsduCtx} (h : c.state = .idle) (byte : UInt8) :
    isduCollectByte c byte = isduHandleIdle c byte := by
  simp [isduCollectByte, h]

theorem collectByte_segmentCollect_start {c : IsduCtx} (h : c.state = .segmentCollect)
    {byte : UInt8} (hb : startBit byte = true) : isduCollectByte c byte = isduCollision c := by
  simp [isduCollectByte, h, hb]

theorem collectByte_segmentCollect {c : IsduCtx} (h : c.state = .segmentCollect) {byte : UInt8}
    (hb : startBit byte = false) : isduCollectByte c byte = isduSegmentControl c byte := by
  simp [isduCollectByte, h, hb]

theorem collectByte_responseReady_start {c : IsduCtx} (h : c.state = .responseReady) {byte : UInt8}
    (hb : startBit byte = true) :
    isduCollectByte c byte =
      isduHandleIdle { c with responseIdx := 0, responseLen := 0, state := .idle } byte := by
  simp [isduCollectByte, h, hb]

theorem collectByte_responseReady {c : IsduCtx} (h : c.state = .responseReady) {byte : UInt8}
    (hb : startBit byte = false) : isduCollectByte c byte = (c, 0) := by
  simp [isduCollectByte, isduCollectData, h, hb]

/-- In the states that expect a data byte the control bits are not looked at. -/
theorem collectByte_data {c : IsduCtx} (h1 : c.state ≠ .idle) (h2 : c.state ≠ .segmentCollect)
    (h3 : c.state ≠ .responseReady) (byte : UInt8) :
    isduCollectByte c byte = isduCollectData c byte false := by
  simp [isduCollectByte, h1, h2, h3]

/-! ## Calls that do nothing -/

theorem getResponseByte_of_ne {c : IsduCtx} (h : c.state ≠ .responseReady) :
    isduGetResponseByte c = (c, none) := by
  simp [isduGetResponseByte, h]

theorem isduProcess_of_ne (cfg : BuildConfig) (h : Host) {c : IsduCtx}
    (hc : c.state ≠ .serviceExecute) : isduProcess cfg h c = (h, c) := by
  unfold isduProcess
  split_ifs <;> rfl

/-- The call that executes a request. -/
theorem isduProcess_execute (cfg : BuildConfig) (h : Host) {c : IsduCtx}
    (hc : c.state = .serviceExecute) :
    isduProcess cfg h c =
      if (handleStandardCommands cfg h c).2.state ≠ .responseReady then
        ((handleStandardCommands cfg h c).1,
          { (handleStandardCommands cfg h c).2 with state := .idle })
      else ((handleStandardCommands cfg h c).1,
        restartSegments (handleStandardCommands cfg h c).2) := by
  simp [isduProcess, hc]

end Iolinki
