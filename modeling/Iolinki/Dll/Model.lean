import Iolinki.Crc
import Iolinki.Isdu.Model

/-!
# The data link layer

Model of `src/dll.c` and of the application interface `src/iolink_core.c`.

A call of `iolink_dll_process` reads clocks and the functions of the PHY. What
they return in one call is a `CallEnv`: one field for each place in the code
that reads them, so that nothing is assumed about how the readings relate. The
bytes that `recv_byte` delivers come with the readings made while they are
handled (`RxByte`). What the call sends, and the bytes it has not read, are part
of the result.

The receive loop is a machine on received bytes (`rxMachine`), the device is a
machine on calls of the application (`deviceMachine`).

The arrays are functions of the index, and lengths are numbers. `iolink_init` takes
over any lengths, but the code keeps inside of its arrays only as long as the process
data have at most 32 bytes each way (`PdFits`): beyond that `pd_in`, `pd_out`,
`frame_buf` and the reply buffer overflow and the casts of lengths to `uint8_t` cut
them off, which is not modelled.

Fields of `iolink_dll_ctx_t` that no function reads or writes after the
initialisation (`pd_in_len_max`, `pd_out_len_max`, `retry_count`,
`max_retries`) are left out. The error counters are one record.
-/

namespace Iolinki

open Iolinki.Lib

/-- `iolink_dll_ctx_t` -/
structure DllCtx where
  state : DllState
  /-- `phy->send != NULL` -/
  hasSend : Bool
  lastActivityMs : UInt32
  wakeupSeen : Bool
  mSeqType : MSeqType
  pdInLen : ℕ
  pdOutLen : ℕ
  odLen : ℕ
  pdValid : Bool
  pdInToggle : Bool
  minCycleTimeUs : UInt32
  enforceTiming : Bool
  tRenLimitUs : UInt32
  tRenOverride : Bool
  tPdDelayUs : UInt32
  pdInLenCurrent : ℕ
  pdOutLenCurrent : ℕ
  phyMode : PhyMode
  baudrate : Baudrate
  frameBuf : ℕ → UInt8
  frameIndex : ℕ
  reqLen : ℕ
  lastFrameUs : UInt64
  lastByteUs : UInt64
  lastCycleStartUs : UInt64
  tByteLimitUs : UInt32
  wakeupDeadlineUs : UInt64
  tPdDeadlineUs : UInt64
  pdIn : ℕ → UInt8
  pdOut : ℕ → UInt8
  stats : DllStats
  fallbackCount : ℕ
  sioFallbackThreshold : ℕ
  lastResponseUs : UInt64
  responseTimeUs : UInt32
  events : EventsCtx
  isdu : IsduCtx
  ds : DsCtx

/-- `sizeof(ctx->frame_buf)` -/
def frameBufSize : ℕ := 48

/-! ## Limits, modes and counters -/

/-- `dll_get_t_ren_limit_us` (lines 20–39). -/
def dllGetTRenLimitUs (c : DllCtx) : UInt32 :=
  if c.tRenOverride then c.tRenLimitUs
  else match c.baudrate with
    | .com1 => 5000
    | .com2 => 1200
    | .com3 => 230

/-- `dll_get_t_byte_limit_us` (lines 41–62). -/
def dllGetTByteLimitUs (c : DllCtx) : UInt32 :=
  (match c.baudrate with
    | .com1 => 208
    | .com2 => 26
    | .com3 => 4) * 16

/-- `iolink_dll_set_baudrate` (lines 474–482). -/
def dllSetBaudrate (c : DllCtx) (baudrate : Baudrate) : DllCtx :=
  let c := { c with baudrate := baudrate }
  { c with tRenLimitUs := dllGetTRenLimitUs c, tByteLimitUs := dllGetTByteLimitUs c }

/-- `iolink_dll_set_sio_mode` (lines 501–507). -/
def dllSetSioMode (c : DllCtx) : DllCtx := { c with phyMode := .sio }

/-- `iolink_dll_set_sdci_mode` (lines 509–515). -/
def dllSetSdciMode (c : DllCtx) : DllCtx := { c with phyMode := .sdci }

/-- `iolink_event_trigger(&ctx->events, code, type)` -/
def trigger (cfg : BuildConfig) (c : DllCtx) (code : UInt16) (type : EventType) : DllCtx :=
  { c with events := eventTrigger cfg.eventQueueSize c.events code type }

/-- `ctx->timing_errors++;` together with the counter of the violated limit,
    and the timing event. -/
def timingViolation (cfg : BuildConfig) (c : DllCtx) (count : DllStats → DllStats) : DllCtx :=
  trigger cfg { c with stats := count { c.stats with timingErrors := c.stats.timingErrors + 1 } }
    eventCommTiming .warning

/-- `ctx->framing_errors++;` -/
def framingError (c : DllCtx) : DllCtx :=
  { c with stats := { c.stats with framingErrors := c.stats.framingErrors + 1 } }

/-- `dll_enter_fallback` (lines 85–107). -/
def dllEnterFallback (cfg : BuildConfig) (c : DllCtx) : DllCtx :=
  let c := { c with
    fallbackCount := (c.fallbackCount + 1) % 256
    stats := { c.stats with totalRetries := c.stats.totalRetries + 1 } }
  if c.fallbackCount ≥ c.sioFallbackThreshold then
    let c := dllSetBaudrate (dllSetSioMode c) .com1
    trigger cfg { c with state := .startup, fallbackCount := 0, frameIndex := 0 }
      eventCodeCommErrFraming .warning
  else if c.state ≠ .operate ∧ c.state ≠ .estabCom then
    { dllSetBaudrate c .com1 with state := .startup }
  else c

/-! ## Frame handlers -/

/-- A received byte and the clock readings while it is handled. -/
structure RxByte where
  byte : UInt8
  /-- `now_us` (line 325) -/
  nowUs : UInt64
  /-- `iolink_time_get_ms()` (line 326) -/
  nowMs : UInt32
  /-- `now_us_proc` (line 378) -/
  procUs : UInt64
  /-- `end_tx_us` (line 178) -/
  txUs : UInt64
  /-- `iolink_time_get_us()` (line 191) -/
  lastUs : UInt64

/-- `dll_handle_preoperate` (lines 109–117). -/
def dllHandlePreoperate (c : DllCtx) (mc : UInt8) : DllCtx :=
  if mc = mcTransitionCommand then { c with state := .estabCom, fallbackCount := 0 } else c

/-- One OD byte is collected and one response byte fetched, `0` if there is
    none (lines 123–126 and 151–154). -/
def odExchange (isdu : IsduCtx) (od : UInt8) : IsduCtx × UInt8 :=
  let r := isduGetResponseByte (isduCollectByte isdu od).1
  (r.1, r.2.getD 0)

/-- The OD loop (lines 150–155). -/
def odMachine : Machine IsduCtx UInt8 UInt8 := ⟨odExchange⟩

/-- `dll_handle_operate_type0` (lines 119–134): the context and what is sent. -/
def dllHandleOperateType0 (c : DllCtx) (mc : UInt8) : DllCtx × Option (List UInt8) :=
  let r := odExchange c.isdu mc
  ({ c with isdu := r.1 }, if c.hasSend then some [r.2, checksumCk r.2 0] else none)

/-- The status byte of a Type 1 or Type 2 response (lines 158–161). -/
def statusByte (c : DllCtx) : UInt8 :=
  (if eventsPending c.events then odStatusEvent else 0) |||
    (if c.pdInToggle then odStatusPdToggle else 0) ||| (if c.pdValid then odStatusPdValid else 0)

/-- The PD bytes of the frame in the buffer. -/
def pdField (c : DllCtx) : List UInt8 := slice c.frameBuf mSeqHeaderLen c.pdOutLenCurrent

/-- The OD bytes of the frame in the buffer. -/
def odField (c : DllCtx) : List UInt8 :=
  slice c.frameBuf (mSeqHeaderLen + c.pdOutLenCurrent) c.odLen

/-- The response of a Type 1 or Type 2 frame without its checksum
    (lines 163–170), for input data of at most 32 bytes: the code reads them from
    `pd_in[32]` and puts them into `resp[37]`. -/
def responseBody (c : DllCtx) (odOut : List UInt8) : List UInt8 :=
  statusByte c :: (slice c.pdIn 0 c.pdInLenCurrent ++ odOut)

/-- What follows `phy->send` (lines 177–189). -/
def afterSend (cfg : BuildConfig) (c : DllCtx) (txUs : UInt64) : DllCtx :=
  let c := { c with
    fallbackCount := 0
    responseTimeUs := txUs.toUInt32 - c.lastCycleStartUs.toUInt32 }
  let limit := dllGetTRenLimitUs c
  if c.enforceTiming ∧ limit > 0 ∧ c.responseTimeUs > limit then
    timingViolation cfg c fun s => { s with tRenViolations := s.tRenViolations + 1 }
  else c

/-- `dll_handle_operate_type1_2` (lines 136–192), for process data of at most 32 bytes
    each way: `pd_out`, `pd_in` and `resp` have no room for more, and the length that the
    checksum is computed over is cast to `uint8_t`. -/
def dllHandleOperateType12 (cfg : BuildConfig) (c : DllCtx) (rx : RxByte) :
    DllCtx × Option (List UInt8) :=
  let od := odField c
  let c := { c with pdOut := if c.pdOutLenCurrent > 0 then blit c.pdOut 0 (pdField c) else c.pdOut }
  let odOut := odMachine.outputs c.isdu od
  let c := { c with isdu := odMachine.final c.isdu od }
  let resp := responseBody c odOut
  let sent := resp ++ [crc6 resp]
  let c' := if c.hasSend then afterSend cfg c rx.txUs else c
  ({ c' with lastResponseUs := rx.lastUs }, if c.hasSend then some sent else none)

/-- `channel == 0x20U || channel == 0x60U` for the MC byte (lines 415–416 and
    433–437). -/
def forbiddenChannel (mc : UInt8) : Bool := mc &&& 0x60 = 0x20 || mc &&& 0x60 = 0x60

/-- The checksum test of a complete frame (lines 390–397). `req_len` is at least 2 as long
    as there are at most 32 bytes of output data; a length that wraps around to 0 would
    become `(uint8_t) -1`. -/
def frameCrcOk (c : DllCtx) : Bool :=
  if c.reqLen = 2 then checksumCk (c.frameBuf 0) 0 = c.frameBuf 1
  else crc6 (slice c.frameBuf 0 (c.reqLen - 1)) = c.frameBuf (c.reqLen - 1)

/-- A frame whose checksum is right (lines 400–447). -/
def dllAcceptFrame (cfg : BuildConfig) (c : DllCtx) (rx : RxByte) : DllCtx × Option (List UInt8) :=
  let c :=
    if c.state = .awaitingComm ∨ c.state = .startup then { c with state := .preoperate } else c
  let mc := c.frameBuf 0
  match c.state with
  | .preoperate =>
    if c.reqLen = 2 then
      if mc = mcTransitionCommand then (dllHandlePreoperate c mc, none)
      else dllHandleOperateType0 c mc
    else (c, none)
  | .estabCom =>
    if c.reqLen > 2 then
      if forbiddenChannel mc then (dllEnterFallback cfg (framingError c), none)
      else dllHandleOperateType12 cfg { c with state := .operate } rx
    else if mc = mcTransitionCommand then (dllHandlePreoperate c mc, none)
    else dllHandleOperateType0 c mc
  | .operate =>
    if mc = mcTransitionCommand ∨ forbiddenChannel mc then
      (dllEnterFallback cfg (framingError c), none)
    else if c.reqLen = 2 then dllHandleOperateType0 c mc
    else dllHandleOperateType12 cfg c rx
  | _ => (c, none)

/-- A frame whose checksum is wrong (lines 450–452). -/
def dllRejectFrame (cfg : BuildConfig) (c : DllCtx) : DllCtx :=
  dllEnterFallback cfg
    (framingError { c with stats := { c.stats with crcErrors := c.stats.crcErrors + 1 } })

/-! ## The receive loop -/

/-- The inter-byte timeout (lines 327–337): the bytes collected so far are
    dropped. -/
def byteGap (cfg : BuildConfig) (c : DllCtx) (nowUs : UInt64) : DllCtx :=
  if c.frameIndex > 0 ∧ c.enforceTiming ∧ c.tByteLimitUs > 0 ∧ c.lastByteUs ≠ 0 ∧
      nowUs - c.lastByteUs > c.tByteLimitUs.toUInt64 then
    { framingError (timingViolation cfg c fun s =>
        { s with tByteViolations := s.tByteViolations + 1 }) with frameIndex := 0 }
  else c

/-- `req_len` from the first byte of a frame (lines 346–365). -/
def dllReqLen (c : DllCtx) (byte : UInt8) : ℕ :=
  let multi := (mSeqHeaderLen + c.pdOutLenCurrent + c.odLen + 1) % 256
  if c.baudrate = .com1 then 2
  else if c.mSeqType ≠ .type0 ∧ c.state = .operate then multi
  else if c.mSeqType ≠ .type0 ∧ c.state = .estabCom ∧ byte ≠ mcTransitionCommand then multi
  else 2

/-- The byte is put into the frame buffer (lines 341–375). -/
def assemble (c : DllCtx) (byte : UInt8) (nowUs : UInt64) : DllCtx :=
  if c.frameIndex = 0 then
    { c with
      frameBuf := Function.update c.frameBuf 0 byte
      frameIndex := 1
      lastFrameUs := nowUs
      reqLen := dllReqLen c byte }
  else if c.frameIndex < frameBufSize then
    { c with
      frameBuf := Function.update c.frameBuf c.frameIndex byte
      frameIndex := c.frameIndex + 1 }
  else framingError { c with frameIndex := 0 }

/-- The minimum cycle time check and the start of the cycle (lines 378–388). -/
def cycleStart (cfg : BuildConfig) (c : DllCtx) (procUs : UInt64) : DllCtx :=
  let c' :=
    if c.enforceTiming ∧ c.minCycleTimeUs > 0 ∧ c.lastCycleStartUs ≠ 0 ∧
        procUs - c.lastCycleStartUs < c.minCycleTimeUs.toUInt64 then
      timingViolation cfg c fun s => { s with tCycleViolations := s.tCycleViolations + 1 }
    else c
  { c' with lastCycleStartUs := procUs }

/-- A complete frame (lines 378–453). -/
def dllHandleFrame (cfg : BuildConfig) (c : DllCtx) (rx : RxByte) : DllCtx × Option (List UInt8) :=
  let c := cycleStart cfg c rx.procUs
  if frameCrcOk c then dllAcceptFrame cfg c rx else (dllRejectFrame cfg c, none)

/-- The bytes collected so far, up to the test for completeness
    (lines 325–375). -/
def rxAssemble (cfg : BuildConfig) (c : DllCtx) (rx : RxByte) : DllCtx :=
  let c := byteGap cfg { c with lastActivityMs := rx.nowMs } rx.nowUs
  assemble { c with lastByteUs := rx.nowUs } rx.byte rx.nowUs

/-- `(ctx->frame_index > 0U) && (ctx->frame_index >= ctx->req_len)` -/
def frameComplete (c : DllCtx) : Bool := c.frameIndex > 0 && c.frameIndex ≥ c.reqLen

/-- One iteration of the receive loop (lines 324–456): the context, and the
    frame that is sent, if any. -/
def rxByte (cfg : BuildConfig) (c : DllCtx) (rx : RxByte) : DllCtx × Option (List UInt8) :=
  let c := rxAssemble cfg c rx
  if frameComplete c then
    let r := dllHandleFrame cfg c rx
    ({ r.1 with frameIndex := 0 }, r.2)
  else (c, none)

/-- The receive loop as a machine on received bytes. -/
def rxMachine (cfg : BuildConfig) : Machine DllCtx RxByte (Option (List UInt8)) := ⟨rxByte cfg⟩

/-! ## `iolink_dll_process` -/

/-- What the clocks and the PHY return during one call. -/
structure CallEnv where
  /-- `get_voltage_mv()`; `none` if the function pointer is NULL. -/
  voltageMv : Option Int
  /-- `is_short_circuit != NULL && is_short_circuit()` -/
  shortCircuit : Bool
  /-- `now_ms` (line 270) -/
  nowMs : UInt32
  /-- `iolink_time_get_us()` in `dll_t_pd_active` (line 69) -/
  tPdUs : UInt64
  /-- `detect_wakeup != NULL && detect_wakeup() > 0` -/
  wakeup : Bool
  /-- `iolink_time_get_us()` (line 295) -/
  wakeupUs : UInt64
  /-- `now_us` (line 304) -/
  gapUs : UInt64
  /-- `iolink_time_get_us()` (line 318) -/
  awaitUs : UInt64
  /-- What `recv_byte` delivers until it returns `0`. -/
  rx : List RxByte

/-- `dll_poll_diagnostics` (lines 194–216). -/
def dllPollDiagnostics (cfg : BuildConfig) (c : DllCtx) (env : CallEnv) : DllCtx :=
  let c := match env.voltageMv with
    | some voltage =>
      if voltage < 18000 ∨ voltage > 30000 then
        trigger cfg { c with stats := { c.stats with voltageFaults := c.stats.voltageFaults + 1 } }
          eventPhyVoltageFault .warning
      else c
    | none => c
  if env.shortCircuit then
    trigger cfg { c with stats := { c.stats with shortCircuits := c.stats.shortCircuits + 1 } }
      eventPhyShortCircuit .error
  else c

/-- The reset after a second without a byte (lines 271–279). -/
def inactivityReset (c : DllCtx) (nowMs : UInt32) : DllCtx :=
  if c.lastActivityMs ≠ 0 ∧ nowMs - c.lastActivityMs > 1000 then
    let c := { c with lastActivityMs := 0 }
    let c := if c.phyMode ≠ .sio then dllSetSioMode (dllSetBaudrate c .com1) else c
    { c with state := .startup, frameIndex := 0 }
  else c

/-- `dll_t_pd_active` (lines 64–70). -/
def dllTPdActive (c : DllCtx) (nowUs : UInt64) : Bool :=
  c.tPdDeadlineUs ≠ 0 && nowUs < c.tPdDeadlineUs

/-- Bytes that arrive during the power-on delay are drained and counted
    (lines 282–286). -/
def drainRx (cfg : BuildConfig) (c : DllCtx) (rx : List RxByte) : DllCtx :=
  if rx.isEmpty then c
  else timingViolation cfg c fun s => { s with tPdViolations := s.tPdViolations + 1 }

/-- The wake-up detection in SIO mode (lines 291–298). -/
def detectWakeup (c : DllCtx) (env : CallEnv) : DllCtx :=
  if c.frameIndex = 0 ∧ env.wakeup then
    dllSetSdciMode { c with
      wakeupSeen := true
      state := .awaitingComm
      wakeupDeadlineUs := env.wakeupUs + tDwuUs }
  else c

/-- The timeout of an incomplete frame between two calls (lines 302–315). -/
def callGap (cfg : BuildConfig) (c : DllCtx) (nowUs : UInt64) : DllCtx :=
  if c.frameIndex > 0 ∧ c.enforceTiming ∧ c.tByteLimitUs > 0 ∧ c.lastByteUs ≠ 0 ∧
      nowUs - c.lastByteUs > c.tByteLimitUs.toUInt64 then
    dllEnterFallback cfg { framingError (timingViolation cfg c fun s =>
      { s with tByteViolations := s.tByteViolations + 1 }) with frameIndex := 0 }
  else c

/-- The delay after a wake-up (lines 317–321). -/
def awaitingDelay (c : DllCtx) (nowUs : UInt64) : Bool :=
  c.state = .awaitingComm && c.enforceTiming && c.wakeupDeadlineUs ≠ 0 && nowUs < c.wakeupDeadlineUs

/-- The result of a call of `iolink_dll_process`. -/
structure Processed where
  ctx : DllCtx
  /-- The frames given to `phy->send`. -/
  sent : List (List UInt8)
  /-- The bytes that have not been read. -/
  unread : List RxByte

/-- `iolink_dll_process` after the polls of the ISDU engine and of the
    diagnostics (lines 270–456). -/
def dllReceive (cfg : BuildConfig) (c : DllCtx) (env : CallEnv) : Processed :=
  let c := inactivityReset c env.nowMs
  if dllTPdActive c env.tPdUs then ⟨drainRx cfg c env.rx, [], []⟩
  else if c.phyMode = .sio then ⟨detectWakeup c env, [], env.rx⟩
  else
    let c := callGap cfg c env.gapUs
    if awaitingDelay c env.awaitUs then ⟨c, [], env.rx⟩
    else
      ⟨(rxMachine cfg).final c env.rx, ((rxMachine cfg).outputs c env.rx).filterMap id, []⟩

/-! ## The device -/

/-- The stack and the static variables of the parameter manager. -/
structure Device where
  dll : DllCtx
  store : Store

/-- What the ISDU engine of the device reaches. -/
def Device.host (d : Device) : Host := ⟨d.dll.events, d.dll.ds, d.dll.stats, d.store⟩

/-- `iolink_isdu_process(&ctx->isdu)` (line 266). -/
def deviceIsduProcess (cfg : BuildConfig) (d : Device) : Device :=
  let r := isduProcess cfg d.host d.dll.isdu
  { dll := { d.dll with
      events := r.1.events
      ds := r.1.ds
      stats := r.1.stats
      isdu := r.2 }
    store := r.1.store }

/-- `iolink_process`, that is `iolink_dll_process(&g_dll_ctx)`. -/
def iolinkProcess (cfg : BuildConfig) (d : Device) (env : CallEnv) : Device × Processed :=
  let d := deviceIsduProcess cfg d
  let p := dllReceive cfg (dllPollDiagnostics cfg d.dll env) env
  ({ d with dll := p.ctx }, p)

/-! ## Initialisation and application calls -/

/-- `iolink_config_t` -/
structure Config where
  mSeqType : MSeqType
  minCycleTime : UInt8
  pdInLen : ℕ
  pdOutLen : ℕ
  tPdUs : UInt32

/-- The process data fit `pd_in[32]` and `pd_out[32]`. -/
structure PdFits (config : Config) : Prop where
  pdIn : config.pdInLen ≤ 32
  pdOut : config.pdOutLen ≤ 32

/-- A configuration with cyclic frames. -/
structure Cyclic (config : Config) : Prop extends PdFits config where
  type : config.mSeqType ≠ .type0

/-- The configuration that `iolink_init` uses for a NULL pointer
    (`src/iolink_core.c`, lines 32–34). -/
def defaultConfig : Config := ⟨.type0, 0, 0, 0, 0⟩

/-- `od_len` of an M-sequence type (`src/iolink_core.c`, lines 59–66). -/
def odLenOf (t : MSeqType) : ℕ := if t = .type21 ∨ t = .type22 ∨ t = .type2V then 2 else 1

/-- `iolink_dll_init` (lines 218–257). The configuration fields are still zero
    there, so that `m_seq_type` is Type 0. -/
def dllInit (cfg : BuildConfig) (hasSend : Bool) : DllCtx where
  state := .startup
  hasSend := hasSend
  lastActivityMs := 0
  wakeupSeen := false
  mSeqType := .type0
  pdInLen := 0
  pdOutLen := 0
  odLen := odLenOf .type0
  pdValid := true
  pdInToggle := false
  minCycleTimeUs := 0
  enforceTiming := cfg.timingEnforceDefault
  tRenLimitUs := 1200
  tRenOverride := false
  tPdDelayUs := 0
  pdInLenCurrent := 0
  pdOutLenCurrent := 0
  phyMode := .sio
  baudrate := .com2
  frameBuf := fun _ => 0
  frameIndex := 0
  reqLen := 0
  lastFrameUs := 0
  lastByteUs := 0
  lastCycleStartUs := 0
  tByteLimitUs := 26 * 16
  wakeupDeadlineUs := 0
  tPdDeadlineUs := 0
  pdIn := fun _ => 0
  pdOut := fun _ => 0
  stats := {}
  fallbackCount := 0
  sioFallbackThreshold := 3
  lastResponseUs := 0
  responseTimeUs := 0
  events := eventsInit
  isdu := isduWired
  ds := dsInit

/-- `iolink_init` (`src/iolink_core.c`, lines 21–83) when it returns `0`.
    `nowUs` is the clock reading of line 52 and `image` what the NVM holds. -/
def iolinkInit (cfg : BuildConfig) (config : Config) (hasSend : Bool) (nowUs : UInt64)
    (image : Option ParamsNvm) (store : Store) : Device where
  dll := { dllInit cfg hasSend with
    mSeqType := config.mSeqType
    pdInLen := config.pdInLen
    pdOutLen := config.pdOutLen
    minCycleTimeUs := config.minCycleTime.toUInt32 * 100
    tPdDelayUs := config.tPdUs
    tPdDeadlineUs := if config.tPdUs > 0 then nowUs + config.tPdUs.toUInt64 else 0
    odLen := odLenOf config.mSeqType
    pdInLenCurrent := config.pdInLen
    pdOutLenCurrent := config.pdOutLen }
  store := paramsInit store image

/-- A call of the application. -/
inductive Call
  | process (env : CallEnv)
  | pdInputUpdate (data : List UInt8) (valid : Bool)
  | pdOutputRead (len : ℕ)
  | setTimingEnforcement (enable : Bool)
  | setTRenLimitUs (limitUs : UInt32)
  | eventTrigger (code : UInt16) (type : EventType)
  | eventsPop
  | dsCheck (masterChecksum : UInt16)
  | dsProcess
  | dsStartUpload
  | dsStartDownload
  | dsAbort
  | dsHandleCommand (cmd : UInt8) (accessLocks : UInt16)
  | deviceInfoInit (info : Option DeviceInfo)
  | deviceInfoGet
  | deviceInfoSetApplicationTag (tag : List UInt8) (len : ℕ)
  | deviceInfoSetAccessLocks (locks : UInt16)
  | paramsInit (image : Option ParamsNvm)
  | paramsGet (index : UInt16) (subindex : UInt8) (maxLen : ℕ)
  | paramsSet (index : UInt16) (subindex : UInt8) (data : List UInt8) (persist : Bool)
  | paramsFactoryReset

/-- What a call returns to the application or, for `iolink_process`, does on
    the line. -/
inductive CallOut
  | processed (p : Processed)
  | ret (code : Int)
  | data (bytes : Option (List UInt8))
  | event (e : Option Event)
  | info (i : DeviceInfo)

/-- `iolink_pd_input_update` (`src/iolink_core.c`, lines 90–107). -/
def pdInputUpdate (c : DllCtx) (data : List UInt8) (valid : Bool) : DllCtx × Int :=
  if data.length > pdInMaxSize then (c, -1)
  else
    ({ c with
        pdIn := blit c.pdIn 0 data
        pdInLen := data.length
        pdValid := valid
        pdInToggle := !c.pdInToggle }, 0)

/-- `iolink_pd_output_read` (`src/iolink_core.c`, lines 109–121). -/
def pdOutputRead (c : DllCtx) (len : ℕ) : List UInt8 := slice c.pdOut 0 (min len c.pdOutLen)

/-- `iolink_dll_set_t_ren_limit_us` (lines 538–543). -/
def dllSetTRenLimitUs (c : DllCtx) (limitUs : UInt32) : DllCtx :=
  { c with tRenLimitUs := limitUs, tRenOverride := limitUs ≠ 0 }

/-- One call. -/
def deviceStep (cfg : BuildConfig) (d : Device) : Call → Device × CallOut
  | .process env => let r := iolinkProcess cfg d env; (r.1, .processed r.2)
  | .pdInputUpdate data valid =>
    let r := pdInputUpdate d.dll data valid
    ({ d with dll := r.1 }, .ret r.2)
  | .pdOutputRead len => (d, .data (some (pdOutputRead d.dll len)))
  | .setTimingEnforcement enable =>
    ({ d with dll := { d.dll with enforceTiming := enable } }, .ret 0)
  | .setTRenLimitUs limitUs => ({ d with dll := dllSetTRenLimitUs d.dll limitUs }, .ret 0)
  | .eventTrigger code type => ({ d with dll := trigger cfg d.dll code type }, .ret 0)
  | .eventsPop =>
    let r := Iolinki.eventsPop cfg.eventQueueSize d.dll.events
    ({ d with dll := { d.dll with events := r.2 } }, .event r.1)
  | .dsCheck checksum => ({ d with dll := { d.dll with ds := dsCheck d.dll.ds checksum } }, .ret 0)
  | .dsProcess => ({ d with dll := { d.dll with ds := dsProcess d.dll.ds } }, .ret 0)
  | .dsStartUpload =>
    let r := dsStartUpload d.dll.ds
    ({ d with dll := { d.dll with ds := r.1 } }, .ret r.2)
  | .dsStartDownload =>
    let r := dsStartDownload d.dll.ds
    ({ d with dll := { d.dll with ds := r.1 } }, .ret r.2)
  | .dsAbort =>
    let r := dsAbort d.dll.ds
    ({ d with dll := { d.dll with ds := r.1 } }, .ret r.2)
  | .dsHandleCommand cmd accessLocks =>
    let r := dsHandleCommand d.dll.ds cmd accessLocks
    ({ d with dll := { d.dll with ds := r.1 } }, .ret r.2)
  | .deviceInfoInit info => ({ d with store := deviceInfoInit d.store info }, .ret 0)
  | .deviceInfoGet =>
    let r := deviceInfoGet d.store
    ({ d with store := r.2 }, .info r.1)
  | .deviceInfoSetApplicationTag tag len =>
    let r := deviceInfoSetApplicationTag d.store tag len
    ({ d with store := r.1 }, .ret r.2)
  | .deviceInfoSetAccessLocks locks =>
    ({ d with store := deviceInfoSetAccessLocks d.store locks }, .ret 0)
  | .paramsInit image => ({ d with store := paramsInit d.store image }, .ret 0)
  | .paramsGet index subindex maxLen =>
    let r := paramsGet d.store index subindex maxLen
    ({ d with store := r.2 }, .data r.1)
  | .paramsSet index subindex data persist =>
    let r := paramsSet d.store index subindex data persist
    ({ d with store := r.1 }, .ret r.2)
  | .paramsFactoryReset => ({ d with store := paramsFactoryReset d.store }, .ret 0)

/-- The device as a machine on calls of the application. -/
def deviceMachine (cfg : BuildConfig) : Machine Device Call CallOut := ⟨deviceStep cfg⟩

/-- The devices that `iolink_init` and later calls can lead to. -/
def Reaches (cfg : BuildConfig) (config : Config) (hasSend : Bool) (calls : List Call)
    (d : Device) : Prop :=
  ∃ (nowUs : UInt64) (image : Option ParamsNvm) (store : Store),
    (deviceMachine cfg).final (iolinkInit cfg config hasSend nowUs image store) calls = d

end Iolinki
