import Iolinki.Lib.Simulation
import Iolinki.Lib.Streak
import Iolinki.Dll.Bounds
import Iolinki.Dll.Tolerance
import Iolinki.Dll.Prompt

/-!
# The device as a machine on frames

With the timing checks off, what the device does depends on the frames it receives
and not on when their bytes arrive or how they are spread over calls of
`iolink_process`. `frameMachine` handles a whole frame in one step and knows neither
bytes nor clocks; the device refines it.

A call polls the ISDU engine before it reads, so that a finished request is executed
by the next call whether or not it brings a byte. Devices are therefore compared
after the poll (`Device.settled`).

* `iolinkProcess_timeless`: a call without its clock readings.
* `polls_of_frame`: the calls in which one frame arrives.
* `polls_refine_frames`: any frames, in any schedule.
-/

namespace Iolinki

open Iolinki.Lib

/-! ## Contexts without clock readings -/

/-- The context without the clock readings it stores. -/
def DllCtx.timeless (c : DllCtx) : DllCtx :=
  { c with
    lastActivityMs := 0
    lastFrameUs := 0
    lastByteUs := 0
    lastCycleStartUs := 0
    wakeupDeadlineUs := 0
    lastResponseUs := 0
    responseTimeUs := 0 }

@[simp] theorem DllCtx.timeless_enforceTiming (c : DllCtx) :
    c.timeless.enforceTiming = c.enforceTiming := rfl

@[simp] theorem DllCtx.timeless_hasSend (c : DllCtx) : c.timeless.hasSend = c.hasSend := rfl

def Device.timeless (d : Device) : Device := { d with dll := d.dll.timeless }

/-- A byte without clock readings. -/
def timelessByte (b : UInt8) : RxByte := ⟨b, 0, 0, 0, 0, 0⟩

section Timeless

variable (cfg : BuildConfig) {c : DllCtx}

theorem dllEnterFallback_timeless (c : DllCtx) :
    dllEnterFallback cfg c.timeless = (dllEnterFallback cfg c).timeless := by
  unfold dllEnterFallback
  simp only [apply_ite DllCtx.timeless]
  rfl

theorem byteGap_off (henf : c.enforceTiming = false) (nowUs : UInt64) : byteGap cfg c nowUs = c :=
  if_neg fun h => Bool.false_ne_true (henf ▸ h.2.1)

theorem cycleStart_off (henf : c.enforceTiming = false) (procUs : UInt64) :
    cycleStart cfg c procUs = { c with lastCycleStartUs := procUs } := by
  unfold cycleStart
  rw [if_neg fun h => Bool.false_ne_true (henf ▸ h.1)]

theorem afterSend_off (henf : c.enforceTiming = false) (txUs : UInt64) :
    afterSend cfg c txUs = { c with
      fallbackCount := 0
      responseTimeUs := txUs.toUInt32 - c.lastCycleStartUs.toUInt32 } :=
  if_neg fun h => Bool.false_ne_true (henf ▸ h.1)

theorem rxAssemble_timeless (henf : c.enforceTiming = false) (rx : RxByte) :
    rxAssemble cfg c.timeless (timelessByte rx.byte) = (rxAssemble cfg c rx).timeless := by
  unfold rxAssemble
  simp (disch := simpa using henf) only [byteGap_off]
  unfold assemble
  simp only [apply_ite DllCtx.timeless]
  rfl

theorem cycleStart_timeless (henf : c.enforceTiming = false) (procUs : UInt64) :
    cycleStart cfg c.timeless 0 = (cycleStart cfg c procUs).timeless := by
  simp (disch := simpa using henf) only [cycleStart_off]
  rfl

theorem dllHandleOperateType12_timeless (henf : c.enforceTiming = false) (rx : RxByte) :
    dllHandleOperateType12 cfg c.timeless (timelessByte rx.byte) =
      ((dllHandleOperateType12 cfg c rx).1.timeless, (dllHandleOperateType12 cfg c rx).2) := by
  unfold dllHandleOperateType12
  simp (disch := simpa using henf) only [afterSend_off]
  have hzero : (timelessByte rx.byte).txUs.toUInt32 - c.timeless.lastCycleStartUs.toUInt32 = 0 := by
    show (0 : UInt64).toUInt32 - (0 : UInt64).toUInt32 = 0
    decide
  rw [DllCtx.timeless_hasSend, hzero]
  cases c.hasSend <;> rfl

theorem dllAcceptFrame_timeless (henf : c.enforceTiming = false) (rx : RxByte) :
    dllAcceptFrame cfg c.timeless (timelessByte rx.byte) =
      ((dllAcceptFrame cfg c rx).1.timeless, (dllAcceptFrame cfg c rx).2) := by
  rw [dllAcceptFrame_eq, dllAcceptFrame_eq]
  have hkind : frameKind c.timeless.state c.timeless.reqLen (c.timeless.frameBuf 0) =
      frameKind c.state c.reqLen (c.frameBuf 0) := rfl
  rw [hkind]
  cases frameKind c.state c.reqLen (c.frameBuf 0) with
  | ignored => rfl
  | transition => rfl
  | type0 => rfl
  | type12 => exact dllHandleOperateType12_timeless cfg (c := { c with state := .operate }) henf rx
  | refused => exact congrArg (·, none) (dllEnterFallback_timeless cfg (framingError c))

/-- A complete frame. -/
theorem dllHandleFrame_timeless (henf : c.enforceTiming = false) (rx : RxByte) :
    dllHandleFrame cfg c.timeless (timelessByte rx.byte) =
      ((dllHandleFrame cfg c rx).1.timeless, (dllHandleFrame cfg c rx).2) := by
  have hstart := cycleStart_timeless cfg henf rx.procUs
  have hoff : (cycleStart cfg c rx.procUs).enforceTiming = false :=
    by
    rw [cycleStart_off cfg henf]
    exact henf
  have hcrc : frameCrcOk (cycleStart cfg c rx.procUs).timeless =
      frameCrcOk (cycleStart cfg c rx.procUs) := rfl
  simp only [dllHandleFrame]
  rw [show (timelessByte rx.byte).procUs = 0 from rfl, hstart, hcrc]
  split_ifs
  · exact dllAcceptFrame_timeless cfg hoff rx
  · refine congrArg (·, none) (dllEnterFallback_timeless cfg (framingError
      { cycleStart cfg c rx.procUs with
        stats := { (cycleStart cfg c rx.procUs).stats with
          crcErrors := (cycleStart cfg c rx.procUs).stats.crcErrors + 1 } }))

/-- One iteration of the receive loop. -/
theorem rxByte_timeless (henf : c.enforceTiming = false) (rx : RxByte) :
    rxByte cfg c.timeless (timelessByte rx.byte) =
      ((rxByte cfg c rx).1.timeless, (rxByte cfg c rx).2) := by
  have hoff : (rxAssemble cfg c rx).enforceTiming = false :=
    (kept_rxAssemble cfg c rx).enforceTiming.trans henf
  have hdone : frameComplete (rxAssemble cfg c rx).timeless = frameComplete (rxAssemble cfg c rx) :=
    rfl
  simp only [rxByte]
  rw [rxAssemble_timeless cfg henf, hdone]
  split_ifs
  · rw [dllHandleFrame_timeless cfg hoff]
    rfl
  · rfl

/-- A burst. -/
theorem rxs_timeless (henf : c.enforceTiming = false) (rxs : List RxByte) :
    (rxMachine cfg).final c.timeless (rxs.map fun rx => timelessByte rx.byte) =
        ((rxMachine cfg).final c rxs).timeless ∧
      (rxMachine cfg).outputs c.timeless (rxs.map fun rx => timelessByte rx.byte) =
        (rxMachine cfg).outputs c rxs := by
  have hrun := (rxMachine cfg).run_map (rxMachine cfg) (f := DllCtx.timeless) (h := id)
    (P := fun c => c.enforceTiming = false) (Q := fun _ => True)
    (fun c rx h _ => (kept_rxByte cfg c rx).enforceTiming.trans h)
    (fun c rx h _ => rxByte_timeless cfg h rx) henf fun rx (_ : rx ∈ rxs) => trivial
  rw [List.map_id] at hrun
  exact hrun

end Timeless

/-! ## Calls without clock readings -/

/-- A call in which the diagnostics of the PHY find nothing and no wake-up is seen, unless
    in the bytes it brings. -/
structure QuietCall (env : CallEnv) : Prop where
  voltage : ∀ mv ∈ env.voltageMv, 18000 ≤ mv ∧ mv ≤ 30000
  noShort : env.shortCircuit = false
  noWakeup : env.rx = [] → env.wakeup = false

theorem dllPollDiagnostics_quiet (cfg : BuildConfig) (c : DllCtx) {env : CallEnv}
    (hq : QuietCall env) : dllPollDiagnostics cfg c env = c := by
  unfold dllPollDiagnostics
  rw [hq.noShort]
  cases hv : env.voltageMv with
  | none => rfl
  | some mv =>
    have hrange := hq.voltage mv hv
    have hok : ¬ (mv < 18000 ∨ mv > 30000) := by omega
    dsimp only
    rw [if_neg hok]
    rfl

/-- The bytes are read one by one, without clock readings. -/
def receiveBytes (cfg : BuildConfig) (d : Device) (bytes : List UInt8) : Device :=
  { d with dll := (rxMachine cfg).final d.dll (bytes.map timelessByte) }

/-- What is sent while the bytes are read. -/
def repliesTo (cfg : BuildConfig) (d : Device) (bytes : List UInt8) : List (List UInt8) :=
  ((rxMachine cfg).outputs d.dll (bytes.map timelessByte)).filterMap id

theorem receiveBytes_append (cfg : BuildConfig) (d : Device) (bytes more : List UInt8) :
    receiveBytes cfg d (bytes ++ more) = receiveBytes cfg (receiveBytes cfg d bytes) more := by
  simp only [receiveBytes, List.map_append, Machine.final_append]

theorem repliesTo_append (cfg : BuildConfig) (d : Device) (bytes more : List UInt8) :
    repliesTo cfg d (bytes ++ more) =
      repliesTo cfg d bytes ++ repliesTo cfg (receiveBytes cfg d bytes) more := by
  simp only [repliesTo, receiveBytes, List.map_append, Machine.outputs_append,
    List.filterMap_append]

/-- The time of a call: the power-on delay is over and the last byte, if there was one,
    is at most a second ago. -/
structure OnTimeCall (c : DllCtx) (env : CallEnv) : Prop where
  powered : dllTPdActive c env.tPdUs = false
  heard : c.lastActivityMs = 0 ∨ env.nowMs - c.lastActivityMs ≤ 1000

theorem inactivityReset_onTime {c : DllCtx} {env : CallEnv} (ht : OnTimeCall c env) :
    inactivityReset c env.nowMs = c := by
  refine if_neg fun h => ?_
  rcases ht.heard with h0 | hms
  · exact h.1 h0
  · exact absurd h.2 (UInt32.not_lt.mpr hms)

section Calls

variable (cfg : BuildConfig) {d : Device} {env : CallEnv}

/-- A call in SDCI mode reads all bytes that have arrived. -/
theorem iolinkProcess_sdci (henf : d.dll.enforceTiming = false) (hm : d.dll.phyMode ≠ .sio)
    (hq : QuietCall env) (ht : OnTimeCall d.dll env) :
    iolinkProcess cfg d env =
      ({ deviceIsduProcess cfg d with dll := (rxMachine cfg).final (polledCtx cfg d) env.rx },
        ⟨(rxMachine cfg).final (polledCtx cfg d) env.rx,
          ((rxMachine cfg).outputs (polledCtx cfg d) env.rx).filterMap id, []⟩) := by
  have hreset : inactivityReset (polledCtx cfg d) env.nowMs = polledCtx cfg d :=
    inactivityReset_onTime ⟨ht.powered, ht.heard⟩
  have hgap : callGap cfg (polledCtx cfg d) env.gapUs = polledCtx cfg d :=
    if_neg fun h => Bool.false_ne_true (henf.symm.trans h.2.1)
  have hpow : dllTPdActive (polledCtx cfg d) env.tPdUs = false := ht.powered
  have hawait : awaitingDelay (polledCtx cfg d) env.awaitUs = false := by
    have hoff : (polledCtx cfg d).enforceTiming = false := henf
    simp [awaitingDelay, hoff]
  have hstart : loopStart cfg (polledCtx cfg d) env = some (polledCtx cfg d) := by
    rw [loopStart_of_gapOk cfg hreset hgap, hpow, hawait]
    exact if_neg hm
  unfold iolinkProcess
  dsimp only
  rw [dllPollDiagnostics_quiet cfg _ hq,
    show (deviceIsduProcess cfg d).dll = polledCtx cfg d from rfl,
    dllReceive_of_loopStart cfg hstart]

/-- **A call of `iolink_process` in SDCI mode, without its clock readings.** -/
theorem iolinkProcess_timeless (henf : d.dll.enforceTiming = false) (hm : d.dll.phyMode ≠ .sio)
    (hq : QuietCall env) (ht : OnTimeCall d.dll env) :
    (iolinkProcess cfg d env).1.timeless =
        receiveBytes cfg (deviceIsduProcess cfg d).timeless (Call.process env).bytes ∧
      (iolinkProcess cfg d env).2.sent =
        repliesTo cfg (deviceIsduProcess cfg d).timeless (Call.process env).bytes ∧
      (iolinkProcess cfg d env).2.unread = [] := by
  obtain ⟨hfinal, houts⟩ := rxs_timeless cfg (c := polledCtx cfg d) henf env.rx
  have hbytes : (Call.process env).bytes.map timelessByte =
      env.rx.map fun rx => timelessByte rx.byte := by
    rw [Call.bytes, List.map_map]
    rfl
  rw [iolinkProcess_sdci cfg henf hm hq ht, receiveBytes, repliesTo, hbytes]
  exact ⟨congrArg (fun c => Device.mk c (deviceIsduProcess cfg d).store) hfinal.symm,
    congrArg (List.filterMap id) houts.symm, rfl⟩

/-- A call in SIO mode that brings no byte. -/
theorem iolinkProcess_sio (hm : d.dll.phyMode = .sio) (hq : QuietCall env)
    (ht : OnTimeCall d.dll env) (hrx : env.rx = []) :
    (iolinkProcess cfg d env).1 = deviceIsduProcess cfg d ∧
      (iolinkProcess cfg d env).2.sent = [] ∧ (iolinkProcess cfg d env).2.unread = [] := by
  have hreset : inactivityReset (polledCtx cfg d) env.nowMs = polledCtx cfg d :=
    inactivityReset_onTime ⟨ht.powered, ht.heard⟩
  have hpow : ¬ (dllTPdActive (polledCtx cfg d) env.tPdUs = true) := by
    rw [show dllTPdActive (polledCtx cfg d) env.tPdUs = false from ht.powered]
    exact Bool.false_ne_true
  have hwake : detectWakeup (polledCtx cfg d) env = polledCtx cfg d :=
    if_neg fun h => Bool.false_ne_true ((hq.noWakeup hrx).symm.trans h.2)
  have hproc : dllReceive cfg (polledCtx cfg d) env = ⟨polledCtx cfg d, [], env.rx⟩ := by
    unfold dllReceive
    dsimp only
    rw [hreset, if_neg hpow, if_pos (show (polledCtx cfg d).phyMode = .sio from hm), hwake]
  unfold iolinkProcess
  dsimp only
  rw [dllPollDiagnostics_quiet cfg _ hq,
    show (deviceIsduProcess cfg d).dll = polledCtx cfg d from rfl, hproc]
  exact ⟨rfl, rfl, hrx⟩

end Calls

/-! ## The poll of the ISDU engine -/

/-- After `iolink_isdu_process` nothing is left to do. -/
theorem isduProcess_idem (cfg : BuildConfig) (h : Host) (c : IsduCtx) :
    isduProcess cfg (isduProcess cfg h c).1 (isduProcess cfg h c).2 = isduProcess cfg h c := by
  by_cases hexec : c.state = .serviceExecute
  · have hdone : (isduProcess cfg h c).2.state ≠ .serviceExecute := by
      rw [isduProcess_execute cfg h hexec]
      split_ifs with hbetween
      · exact fun hs => nomatch hs
      · intro hs
        have hr : (handleStandardCommands cfg h c).2.state = .responseReady := not_not.mp hbetween
        have hs' : (restartSegments (handleStandardCommands cfg h c).2).state = .responseReady := hr
        rw [hs'] at hs
        cases hs
    exact isduProcess_of_ne cfg _ hdone
  · rw [isduProcess_of_ne cfg h hexec, isduProcess_of_ne cfg h hexec]

theorem deviceIsduProcess_idem (cfg : BuildConfig) (d : Device) :
    deviceIsduProcess cfg (deviceIsduProcess cfg d) = deviceIsduProcess cfg d := by
  have h := isduProcess_idem cfg d.host d.dll.isdu
  unfold deviceIsduProcess
  dsimp only
  rw [show Device.host _ = (isduProcess cfg d.host d.dll.isdu).1 from rfl, h]

theorem deviceIsduProcess_timeless (cfg : BuildConfig) (d : Device) :
    (deviceIsduProcess cfg d).timeless = deviceIsduProcess cfg d.timeless := rfl

/-! ## The machine on frames -/

/-- The context in which a frame is handled: the whole frame stands in the buffer. -/
def DllCtx.loaded (c : DllCtx) (frame : List UInt8) : DllCtx :=
  { c with
    frameBuf := blit c.frameBuf 0 frame
    frameIndex := frame.length
    reqLen := frame.length }

/-- One frame: the ISDU engine is polled, then the frame is handled. -/
def frameStep (cfg : BuildConfig) (d : Device) (frame : List UInt8) :
    Device × Option (List UInt8) :=
  let d := deviceIsduProcess cfg d
  let r := dllHandleFrame cfg (d.dll.loaded frame) (timelessByte 0)
  ({ d with dll := { r.1 with frameIndex := 0 } }, r.2)

/-- The device as a machine on frames. -/
def frameMachine (cfg : BuildConfig) : Machine Device (List UInt8) (Option (List UInt8)) :=
  ⟨frameStep cfg⟩

/-- The device takes `frame` for one frame. -/
structure FrameFits (d : Device) (frame : List UInt8) : Prop where
  phyMode : d.dll.phyMode ≠ .sio
  size : 2 ≤ frame.length ∧ frame.length ≤ frameBufSize
  length : frame.length = dllReqLen d.dll (frame.getD 0 0)

instance (d : Device) (frame : List UInt8) : Decidable (FrameFits d frame) :=
  decidable_of_iff (d.dll.phyMode ≠ .sio ∧ (2 ≤ frame.length ∧ frame.length ≤ frameBufSize) ∧
    frame.length = dllReqLen d.dll (frame.getD 0 0)) ⟨fun h => ⟨h.1, h.2.1, h.2.2⟩,
    fun h => ⟨h.phyMode, h.size, h.length⟩⟩

section Frame

variable (cfg : BuildConfig) {s : Device} {frame : List UInt8}

theorem withFrame_timeless (c : DllCtx) (first : UInt8) (rest : List UInt8)
    (hlen : (first :: rest).length = dllReqLen c first) :
    c.timeless.withFrame (timelessByte first) (rest.map timelessByte) =
      c.timeless.loaded (first :: rest) := by
  have hlast : (rest.map timelessByte).getLastD (timelessByte first) =
      timelessByte (rest.getLastD first) := by
    cases rest using List.reverseRecOn with
    | nil => rfl
    | append_singleton rest b => simp
  have hbytes : (timelessByte first :: rest.map timelessByte).map RxByte.byte = first :: rest := by
    rw [List.map_cons, List.map_map]
    exact congrArg (first :: ·) (List.map_id' rest)
  have hreq : dllReqLen c.timeless (timelessByte first).byte = (first :: rest).length := hlen.symm
  simp only [DllCtx.withFrame, DllCtx.loaded, hlast, hbytes, hreq, List.length_map]
  rfl

/-- The bytes of a frame at once. -/
theorem receiveBytes_frame (henf : s.dll.enforceTiming = false) (hidx : s.dll.frameIndex = 0)
    (htime : s.timeless = s) (hset : deviceIsduProcess cfg s = s) (hfit : FrameFits s frame) :
    receiveBytes cfg s frame = (frameStep cfg s frame).1 ∧
      repliesTo cfg s frame = (frameStep cfg s frame).2.toList := by
  obtain ⟨first, mid, last, rfl⟩ := exists_first_mid_last hfit.size.1
  have hlen : (mid.map timelessByte).length + 2 = dllReqLen s.dll (timelessByte first).byte := by
    rw [List.length_map]
    have h := hfit.length
    simp only [List.length_cons, List.length_append, List.length_nil, List.getD_cons_zero] at h
    exact h
  have hmax : dllReqLen s.dll (timelessByte first).byte ≤ frameBufSize := by
    rw [← hlen, List.length_map]
    have h := hfit.size.2
    simp only [List.length_cons, List.length_append, List.length_nil] at h
    exact h
  obtain ⟨hfinal, houts⟩ := rx_frame cfg hidx (timelessByte first) (mid.map timelessByte)
    (timelessByte last) (gapFree_of_not_enforced henf _) hlen hmax
  have hbytes : timelessByte first :: (mid.map timelessByte ++ [timelessByte last]) =
      (first :: (mid ++ [last])).map timelessByte := by
    rw [List.map_cons, List.map_append]
    rfl
  have htimeless : s.dll.timeless = s.dll := congrArg Device.dll htime
  have hload := withFrame_timeless s.dll first (mid ++ [last]) hfit.length
  rw [htimeless, List.map_append] at hload
  rw [hbytes] at hfinal houts
  rw [show mid.map timelessByte ++ [timelessByte last] =
    mid.map timelessByte ++ [last].map timelessByte from rfl, hload] at hfinal houts
  rw [receiveBytes, repliesTo, hfinal, houts, frameStep, hset]
  exact ⟨rfl, rfl⟩

/-- A part of a frame is only stored. -/
theorem receiveBytes_part (henf : s.dll.enforceTiming = false) (hidx : s.dll.frameIndex = 0)
    (hfit : FrameFits s frame) {part rest : List UInt8} (hframe : part ++ rest = frame)
    (hrest : rest ≠ []) :
    (receiveBytes cfg s part = s ∨ ∃ first done, receiveBytes cfg s part =
        { s with dll := s.dll.withFrame first done }) ∧ repliesTo cfg s part = [] := by
  cases part with
  | nil => exact ⟨.inl rfl, rfl⟩
  | cons b bs =>
    have hpos : 0 < rest.length := List.length_pos_iff.mpr hrest
    have hlen : frame.length = dllReqLen s.dll b := by
      have h := hfit.length
      rw [← hframe] at h ⊢
      exact h
    have hshort : bs.length + 1 < dllReqLen s.dll b := by
      rw [← hlen, ← hframe]
      simp only [List.length_append, List.length_cons]
      omega
    have hmax : dllReqLen s.dll b ≤ frameBufSize := hlen ▸ hfit.size.2
    have hfirst : rxByte cfg s.dll (timelessByte b) =
        (s.dll.withFrame (timelessByte b) [], none) := by
      have hmore : ([] : List RxByte).length + 1 < dllReqLen s.dll b := by
        rw [List.length_nil]
        omega
      simp only [rxByte, rxAssemble_first cfg hidx]
      rw [if_neg]
      rw [not_frameComplete_withFrame hmore]
      exact Bool.false_ne_true
    obtain ⟨hfinal, houts⟩ := rx_partial cfg s.dll (timelessByte b) [] (bs.map timelessByte)
      (gapFree_of_not_enforced henf _)
      (by
        rw [List.length_nil, List.length_map, Nat.zero_add, Nat.add_comm]
        exact hshort) hmax
    refine ⟨.inr ⟨timelessByte b, bs.map timelessByte, ?_⟩, ?_⟩
    · rw [receiveBytes, List.map_cons, Machine.final_cons]
      show Device.mk ((rxMachine cfg).final (rxByte cfg s.dll (timelessByte b)).1 _) s.store = _
      rw [hfirst, hfinal]
      rfl
    · rw [repliesTo, List.map_cons, Machine.outputs_cons]
      show (_ :: (rxMachine cfg).outputs (rxByte cfg s.dll (timelessByte b)).1 _).filterMap id = []
      rw [hfirst, houts, List.filterMap_cons]
      show List.filterMap id ((rxByte cfg s.dll (timelessByte b)).2 :: _) = []
      rw [hfirst]
      simp

end Frame

/-! ## The calls in which a frame arrives -/

/-- The device as a machine on calls of `iolink_process`: what is sent and what is left
    unread. -/
def pollMachine (cfg : BuildConfig) : Machine Device CallEnv (List (List UInt8) × List RxByte) where
  step d env := ((iolinkProcess cfg d env).1,
    ((iolinkProcess cfg d env).2.sent, (iolinkProcess cfg d env).2.unread))

/-- What is sent in these calls, and what is left unread in any of them. -/
def pollOutputs (cfg : BuildConfig) (d : Device) (polls : List CallEnv) :
    List (List UInt8) × List RxByte :=
  (((pollMachine cfg).outputs d polls).flatMap Prod.fst,
    ((pollMachine cfg).outputs d polls).flatMap Prod.snd)

/-- The device as a machine on frames, each with the calls in which it arrives. -/
def arrivalMachine (cfg : BuildConfig) :
    Machine Device (List CallEnv) (List (List UInt8) × List RxByte) where
  step d polls := ((pollMachine cfg).final d polls, pollOutputs cfg d polls)

theorem pollOutputs_cons (cfg : BuildConfig) (d : Device) (env : CallEnv) (polls : List CallEnv)
    {sent rest : List (List UInt8)} (hsent : (iolinkProcess cfg d env).2.sent = sent)
    (hread : (iolinkProcess cfg d env).2.unread = [])
    (hrest : pollOutputs cfg (iolinkProcess cfg d env).1 polls = (rest, [])) :
    pollOutputs cfg d (env :: polls) = (sent ++ rest, []) := by
  obtain ⟨hrest₁, hrest₂⟩ := Prod.mk.inj hrest
  exact Prod.ext (congrArg₂ (· ++ ·) hsent hrest₁) (List.append_eq_nil_iff.mpr ⟨hread, hrest₂⟩)

/-- The frame arrives in these calls, however its bytes are spread over them. -/
structure Arrives (frame : List UInt8) (polls : List CallEnv) : Prop where
  bytes : polls.flatMap (fun env => (Call.process env).bytes) = frame
  quiet : ∀ env ∈ polls, QuietCall env

/-- No call comes more than a second after the last byte before it. -/
def HeardRun : UInt32 → List CallEnv → Prop
  | _, [] => True
  | ms, env :: polls =>
    (ms = 0 ∨ env.nowMs - ms ≤ 1000) ∧ HeardRun ((Call.process env).lastMs ms) polls

/-- The power-on delay is over, and the line is never silent for more than a second. -/
structure OnTimeRun (c : DllCtx) (polls : List CallEnv) : Prop where
  powered : ∀ env ∈ polls, dllTPdActive c env.tPdUs = false
  heard : HeardRun c.lastActivityMs polls

theorem OnTimeRun.call {c : DllCtx} {env : CallEnv} {polls : List CallEnv}
    (h : OnTimeRun c (env :: polls)) : OnTimeCall c env :=
  ⟨h.powered env List.mem_cons_self, h.heard.1⟩

/-- What is left of a timely run after its first call. -/
theorem OnTimeRun.next {d : Device} {env : CallEnv} {polls : List CallEnv}
    (h : OnTimeRun d.dll (env :: polls)) (cfg : BuildConfig)
    (hms : (iolinkProcess cfg d env).1.dll.lastActivityMs =
      (Call.process env).lastMs d.dll.lastActivityMs) :
    OnTimeRun (iolinkProcess cfg d env).1.dll polls := by
  have hdead : (iolinkProcess cfg d env).1.dll.tPdDeadlineUs = d.dll.tPdDeadlineUs :=
    (sameConfig_deviceStep cfg d (.process env)).tPdDeadlineUs
  refine ⟨fun e he => ?_, ?_⟩
  · have hpow := h.powered e (List.mem_cons_of_mem _ he)
    unfold dllTPdActive at hpow ⊢
    rw [hdead]
    exact hpow
  · rw [hms]
    exact h.heard.2

section Arrival

variable (cfg : BuildConfig) {s d : Device} {frame : List UInt8}

/-- `s` stands at the boundary between two frames, its request executed, if it has
    one. -/
structure BetweenFrames (s : Device) : Prop where
  enforceTiming : s.dll.enforceTiming = false
  frameIndex : s.dll.frameIndex = 0
  timeless : s.timeless = s
  settled : deviceIsduProcess cfg s = s

/-- The device has received `part` of a frame that began in `s`. -/
def Receiving (s : Device) (part : List UInt8) (d : Device) : Prop :=
  (deviceIsduProcess cfg d).timeless = receiveBytes cfg s part

/-- But for its clock readings `d` is `a`, before or after the next poll of the ISDU
    engine. -/
def Matches (a d : Device) : Prop := d.timeless = a ∨ d.timeless = deviceIsduProcess cfg a

variable {cfg} in
theorem Matches.polled {a d : Device} (h : Matches cfg a d) :
    (deviceIsduProcess cfg d).timeless = deviceIsduProcess cfg a := by
  rw [deviceIsduProcess_timeless]
  rcases h with h | h
  · rw [h]
  · rw [h, deviceIsduProcess_idem]

theorem enforceTiming_frameStep (hs : BetweenFrames cfg s) (frame : List UInt8) :
    (frameStep cfg s frame).1.dll.enforceTiming = false :=
  (kept_dllHandleFrame cfg ((deviceIsduProcess cfg s).dll.loaded frame)
    (timelessByte 0)).enforceTiming.trans hs.enforceTiming

/-- While a frame is collected the device stays settled and in its mode. -/
theorem receiveBytes_settled (hs : BetweenFrames cfg s) (hfit : FrameFits s frame)
    {part rest : List UInt8} (hframe : part ++ rest = frame) (hrest : rest ≠ []) :
    deviceIsduProcess cfg (receiveBytes cfg s part) = receiveBytes cfg s part ∧
      (receiveBytes cfg s part).dll.enforceTiming = false ∧
      (receiveBytes cfg s part).dll.phyMode ≠ .sio := by
  rcases (receiveBytes_part cfg hs.enforceTiming hs.frameIndex hfit hframe hrest).1 with
    h | ⟨first, done, h⟩
  · rw [h]
    exact ⟨hs.settled, hs.enforceTiming, hfit.phyMode⟩
  · rw [h]
    have hsettled : deviceIsduProcess cfg { s with dll := s.dll.withFrame first done } =
        { deviceIsduProcess cfg s with
          dll := (deviceIsduProcess cfg s).dll.withFrame first done } := rfl
    rw [hsettled, hs.settled]
    exact ⟨rfl, hs.enforceTiming, hfit.phyMode⟩

/-- What a call in the middle of a frame does. -/
theorem process_of_receiving (hs : BetweenFrames cfg s) (hfit : FrameFits s frame) {env : CallEnv}
    {part rest : List UInt8} (h : Receiving cfg s part d) (hframe : part ++ rest = frame)
    (hrest : rest ≠ []) (hq : QuietCall env) (ht : OnTimeCall d.dll env) :
    (iolinkProcess cfg d env).1.timeless =
        receiveBytes cfg s (part ++ (Call.process env).bytes) ∧
      repliesTo cfg s (part ++ (Call.process env).bytes) = (iolinkProcess cfg d env).2.sent ∧
      (iolinkProcess cfg d env).2.unread = [] ∧
      (iolinkProcess cfg d env).1.dll.lastActivityMs =
        (Call.process env).lastMs d.dll.lastActivityMs := by
  obtain ⟨-, henf, hmode⟩ := receiveBytes_settled cfg hs hfit hframe hrest
  rw [← show _ = _ from h] at henf hmode
  obtain ⟨hfinal, hsent, hread⟩ := iolinkProcess_timeless cfg (d := d) henf hmode hq ht
  refine ⟨?_, ?_, hread, ?_⟩
  · rw [hfinal, show (deviceIsduProcess cfg d).timeless = _ from h, receiveBytes_append]
  · rw [hsent, repliesTo_append, show (deviceIsduProcess cfg d).timeless = _ from h,
      (receiveBytes_part cfg hs.enforceTiming hs.frameIndex hfit hframe hrest).2, List.nil_append]
  · rw [iolinkProcess_sdci cfg (d := d) henf hmode hq ht]
    exact lastActivityMs_rxs cfg (polledCtx cfg d) env.rx

/-- A call that does not complete the frame. -/
theorem receiving_process (hs : BetweenFrames cfg s) (hfit : FrameFits s frame) {env : CallEnv}
    {part rest : List UInt8} (h : Receiving cfg s part d)
    (hframe : part ++ ((Call.process env).bytes ++ rest) = frame) (hrest : rest ≠ [])
    (hq : QuietCall env) (ht : OnTimeCall d.dll env) :
    Receiving cfg s (part ++ (Call.process env).bytes) (iolinkProcess cfg d env).1 ∧
      (iolinkProcess cfg d env).2.sent = [] := by
  have hmore : (Call.process env).bytes ++ rest ≠ [] :=
    fun he => hrest (List.append_eq_nil_iff.mp he).2
  obtain ⟨hfinal, hsent, -, -⟩ := process_of_receiving cfg hs hfit h hframe hmore hq ht
  rw [← List.append_assoc] at hframe
  refine ⟨?_, ?_⟩
  · show (deviceIsduProcess cfg (iolinkProcess cfg d env).1).timeless = _
    rw [deviceIsduProcess_timeless, hfinal]
    exact (receiveBytes_settled cfg hs hfit hframe hrest).1
  · rw [← hsent]
    exact (receiveBytes_part cfg hs.enforceTiming hs.frameIndex hfit hframe hrest).2

/-- The call that completes the frame. -/
theorem handled_process (hs : BetweenFrames cfg s) (hfit : FrameFits s frame) {env : CallEnv}
    {part : List UInt8} (h : Receiving cfg s part d)
    (hframe : part ++ (Call.process env).bytes = frame) (hbytes : (Call.process env).bytes ≠ [])
    (hq : QuietCall env) (ht : OnTimeCall d.dll env) :
    Matches cfg (frameStep cfg s frame).1 (iolinkProcess cfg d env).1 ∧
      (iolinkProcess cfg d env).2.sent = (frameStep cfg s frame).2.toList := by
  obtain ⟨hfinal, hsent, -⟩ := process_of_receiving cfg hs hfit h hframe hbytes hq ht
  obtain ⟨hstep, hreply⟩ :=
    receiveBytes_frame cfg hs.enforceTiming hs.frameIndex hs.timeless hs.settled hfit
  rw [hframe] at hfinal hsent
  exact ⟨.inl (hfinal.trans hstep), hsent.symm.trans hreply⟩

/-- A call without a byte. -/
theorem matches_process_empty {a : Device} (henf : a.dll.enforceTiming = false) {env : CallEnv}
    (h : Matches cfg a d) (hbytes : (Call.process env).bytes = []) (hq : QuietCall env)
    (ht : OnTimeCall d.dll env) :
    Matches cfg a (iolinkProcess cfg d env).1 ∧
      ((iolinkProcess cfg d env).2.sent = [] ∧ (iolinkProcess cfg d env).2.unread = []) ∧
      (iolinkProcess cfg d env).1.dll.lastActivityMs =
        (Call.process env).lastMs d.dll.lastActivityMs := by
  have hrx : env.rx = [] := List.map_eq_nil_iff.mp hbytes
  have hlast : (Call.process env).lastMs d.dll.lastActivityMs = d.dll.lastActivityMs := by
    rw [Call.lastMs, hrx]
    rfl
  have hoff : d.dll.enforceTiming = false :=
    (congrArg (fun e : Device => e.dll.enforceTiming) h.polled).trans henf
  by_cases hm : d.dll.phyMode = .sio
  · obtain ⟨hproc, hsent, hread⟩ := iolinkProcess_sio cfg hm hq ht hrx
    refine ⟨.inr ?_, ⟨hsent, hread⟩, ?_⟩
    · rw [hproc]
      exact h.polled
    · rw [hproc, hlast]
      rfl
  · obtain ⟨hfinal, hsent, hread⟩ := iolinkProcess_timeless cfg hoff hm hq ht
    rw [hbytes] at hfinal hsent
    refine ⟨.inr ?_, ⟨hsent, hread⟩, ?_⟩
    · rw [hfinal]
      exact h.polled
    · rw [iolinkProcess_sdci cfg hoff hm hq ht]
      exact lastActivityMs_rxs cfg (polledCtx cfg d) env.rx

/-- Calls without a byte. -/
theorem matches_polls {a : Device} (henf : a.dll.enforceTiming = false)
    {polls more : List CallEnv} (h : Matches cfg a d) (hq : ∀ env ∈ polls, QuietCall env)
    (hbytes : polls.flatMap (fun env => (Call.process env).bytes) = [])
    (ht : OnTimeRun d.dll (polls ++ more)) :
    Matches cfg a ((pollMachine cfg).final d polls) ∧
      pollOutputs cfg d polls = ([], []) ∧
      OnTimeRun ((pollMachine cfg).final d polls).dll more := by
  induction polls generalizing d with
  | nil => exact ⟨h, rfl, ht⟩
  | cons env polls ih =>
    obtain ⟨hnow, hlater⟩ := List.append_eq_nil_iff.mp hbytes
    obtain ⟨hnext, hsent, hms⟩ := matches_process_empty cfg henf h hnow
      (hq env List.mem_cons_self) ht.call
    obtain ⟨hfinal, houts, hmore⟩ := ih hnext (fun e he => hq e (List.mem_cons_of_mem _ he)) hlater
      (ht.next cfg hms)
    exact ⟨hfinal, pollOutputs_cons cfg d env polls hsent.1 hsent.2 houts, hmore⟩

/-- **The calls in which one frame arrives.** -/
theorem polls_of_frame (hs : BetweenFrames cfg s) (hfit : FrameFits s frame) {part : List UInt8}
    {polls more : List CallEnv} (h : Receiving cfg s part d) (hq : ∀ env ∈ polls, QuietCall env)
    (hframe : part ++ polls.flatMap (fun env => (Call.process env).bytes) = frame)
    (hpart : part.length < frame.length) (ht : OnTimeRun d.dll (polls ++ more)) :
    Matches cfg (frameStep cfg s frame).1 ((pollMachine cfg).final d polls) ∧
      pollOutputs cfg d polls = ((frameStep cfg s frame).2.toList, []) ∧
      OnTimeRun ((pollMachine cfg).final d polls).dll more := by
  induction polls generalizing d part with
  | nil =>
    rw [List.flatMap_nil, List.append_nil] at hframe
    exact absurd (congrArg List.length hframe) (Nat.ne_of_lt hpart)
  | cons env polls ih =>
    rw [List.flatMap_cons] at hframe
    have hquiet := hq env List.mem_cons_self
    have hlater : ∀ e ∈ polls, QuietCall e := fun e he => hq e (List.mem_cons_of_mem _ he)
    have hmore : (Call.process env).bytes ++
        polls.flatMap (fun env => (Call.process env).bytes) ≠ [] := by
      intro hnil
      rw [hnil, List.append_nil] at hframe
      exact absurd (congrArg List.length hframe) (Nat.ne_of_lt hpart)
    obtain ⟨-, -, hread, hms⟩ := process_of_receiving cfg hs hfit h hframe hmore hquiet ht.call
    by_cases hrest : polls.flatMap (fun env => (Call.process env).bytes) = []
    · -- the frame is complete
      rw [hrest, List.append_nil] at hframe hmore
      obtain ⟨hdone, hsent⟩ := handled_process cfg hs hfit h hframe hmore hquiet ht.call
      have henf := enforceTiming_frameStep cfg hs frame
      obtain ⟨hfinal, houts, hnext⟩ := matches_polls cfg henf hdone hlater hrest (ht.next cfg hms)
      refine ⟨hfinal, ?_, hnext⟩
      rw [pollOutputs_cons cfg d env polls hsent hread houts, List.append_nil]
    · obtain ⟨hreceiving, hsent⟩ := receiving_process cfg hs hfit h hframe hrest hquiet ht.call
      rw [← List.append_assoc] at hframe
      have hshort : (part ++ (Call.process env).bytes).length < frame.length := by
        have hlen := congrArg List.length hframe
        rw [List.length_append] at hlen
        rw [← hlen]
        exact Nat.lt_add_of_pos_right (List.length_pos_iff.mpr hrest)
      obtain ⟨hfinal, houts, hnext⟩ := ih hreceiving hlater hframe hshort (ht.next cfg hms)
      exact ⟨hfinal, pollOutputs_cons cfg d env polls hsent hread houts, hnext⟩

end Arrival

/-! ## Any number of frames -/

/-- The device takes each frame for one frame when it comes. -/
def FramesFit (cfg : BuildConfig) (d : Device) (frames : List (List UInt8)) : Prop :=
  ∀ pre frame, pre ++ [frame] <+: frames → FrameFits ((frameMachine cfg).final d pre) frame

/-- The device `d` and the state `a` of the machine on frames agree. -/
structure Agrees (cfg : BuildConfig) (a d : Device) : Prop where
  enforceTiming : a.dll.enforceTiming = false
  frameIndex : a.dll.frameIndex = 0
  timeless : a.timeless = a
  matched : Matches cfg a d

theorem Agrees.same {cfg : BuildConfig} {a d : Device} (h : Agrees cfg a d) :
    (deviceIsduProcess cfg d).timeless = deviceIsduProcess cfg a := h.matched.polled

section Frames

variable (cfg : BuildConfig) {a d : Device}

theorem frameStep_settled (a : Device) (frame : List UInt8) :
    frameStep cfg (deviceIsduProcess cfg a) frame = frameStep cfg a frame := by
  unfold frameStep
  rw [deviceIsduProcess_idem]

theorem Agrees.betweenFrames {cfg : BuildConfig} (h : Agrees cfg a d) :
    BetweenFrames cfg (deviceIsduProcess cfg a) where
  enforceTiming := h.enforceTiming
  frameIndex := h.frameIndex
  timeless := by rw [deviceIsduProcess_timeless, h.timeless]
  settled := deviceIsduProcess_idem cfg a

/-- What a frame leaves has no clock readings. -/
theorem frameStep_timeless (hs : BetweenFrames cfg a) (frame : List UInt8) :
    (frameStep cfg a frame).1.timeless = (frameStep cfg a frame).1 := by
  have htime : (a.dll.loaded frame).timeless = a.dll.loaded frame :=
    congrArg (DllCtx.loaded · frame) (congrArg Device.dll hs.timeless)
  have h := dllHandleFrame_timeless cfg (c := a.dll.loaded frame) hs.enforceTiming (timelessByte 0)
  rw [htime] at h
  have hdll := congrArg Prod.fst h
  unfold frameStep
  rw [hs.settled]
  exact congrArg (fun c : DllCtx => Device.mk { c with frameIndex := 0 } a.store) hdll.symm

/-- One frame. -/
theorem Agrees.arrival {cfg : BuildConfig} (h : Agrees cfg a d) {frame : List UInt8}
    (hfit : FrameFits a frame) {polls more : List CallEnv} (harrive : Arrives frame polls)
    (ht : OnTimeRun d.dll (polls ++ more)) :
    Agrees cfg (frameStep cfg a frame).1 ((pollMachine cfg).final d polls) ∧
      pollOutputs cfg d polls = ((frameStep cfg a frame).2.toList, []) ∧
      OnTimeRun ((pollMachine cfg).final d polls).dll more := by
  have hbetween := h.betweenFrames
  have hfit' : FrameFits (deviceIsduProcess cfg a) frame := ⟨hfit.phyMode, hfit.size, hfit.length⟩
  have hnone : Receiving cfg (deviceIsduProcess cfg a) [] d := h.same
  obtain ⟨hfinal, houts, hnext⟩ := polls_of_frame cfg hbetween hfit' hnone
    harrive.quiet harrive.bytes (Nat.lt_of_lt_of_le Nat.two_pos hfit.size.1) ht
  have henf := enforceTiming_frameStep cfg hbetween frame
  have htime := frameStep_timeless cfg hbetween frame
  rw [frameStep_settled] at hfinal
  rw [frameStep_settled] at houts henf htime
  exact ⟨⟨henf, rfl, htime, hfinal⟩, houts, hnext⟩

/-- **The device refines the machine on frames.** With the timing checks off, what a
    device replies and becomes depends on the frames only: not on how their bytes are
    spread over calls of `iolink_process`, not on further calls in between, and not on
    the clocks. No byte is left unread, and no access is outside of its array. -/
theorem polls_refine_frames (hfits : Fits d) (henf : d.dll.enforceTiming = false)
    (hidx : d.dll.frameIndex = 0) {frames : List (List UInt8)}
    (hfit : FramesFit cfg d.timeless frames) {arrivals : List (List CallEnv)}
    (harrive : List.Forall₂ Arrives frames arrivals) (htime : OnTimeRun d.dll arrivals.flatten) :
    (arrivalMachine cfg).outputs d arrivals =
        ((frameMachine cfg).outputs d.timeless frames).map (fun reply => (reply.toList, [])) ∧
      (deviceIsduProcess cfg ((arrivalMachine cfg).final d arrivals)).timeless =
        deviceIsduProcess cfg ((frameMachine cfg).final d.timeless frames) ∧
      ∀ op ∈ memOps cfg d (arrivals.flatten.map Call.process), op.Ok := by
  rw [← and_assoc]
  refine ⟨?_, ok_memOps cfg hfits _⟩
  have hagree : Agrees cfg d.timeless d := ⟨henf, hidx, rfl, .inl rfl⟩
  generalize d.timeless = a at hfit hagree ⊢
  clear henf hidx hfits
  induction harrive generalizing a d with
  | nil => exact ⟨rfl, hagree.same⟩
  | @cons frame polls frames arrivals hfirst _ ih =>
    have hnow : FrameFits a frame := hfit [] frame ⟨frames, rfl⟩
    obtain ⟨hnext, houts, hmore⟩ := hagree.arrival hnow hfirst htime
    obtain ⟨hrest, hfinal⟩ := ih hmore _
      (fun pre f hpre => hfit (frame :: pre) f (List.cons_prefix_cons.mpr ⟨rfl, hpre⟩)) hnext
    refine ⟨?_, hfinal⟩
    rw [Machine.outputs_cons, Machine.outputs_cons, List.map_cons]
    exact congrArg₂ List.cons houts hrest

end Frames

theorem framesFit_singleton {cfg : BuildConfig} {d : Device} {frame : List UInt8}
    (h : FrameFits d frame) : FramesFit cfg d [frame] :=
  forall_concat_cons h forall_concat_nil

/-- A cyclic frame in three calls, one of them without a byte. -/
def splitArrival : List CallEnv :=
  [callWith false [0x00, 0x00], callWith false [],
    callWith false ((cyclicFrame 0x00 0x00 [0x11] [0x00]).drop 2)]

theorem polls_refine_frames_split :
    (arrivalMachine {}).outputs (startedDevice .type11) [splitArrival] =
        ((frameMachine {}).outputs (startedDevice .type11).timeless
          [cyclicFrame 0x00 0x00 [0x11] [0x00]]).map (fun reply => (reply.toList, [])) ∧
      (deviceIsduProcess {}
          ((arrivalMachine {}).final (startedDevice .type11) [splitArrival])).timeless =
        deviceIsduProcess {} ((frameMachine {}).final (startedDevice .type11).timeless
          [cyclicFrame 0x00 0x00 [0x11] [0x00]]) ∧
      ∀ op ∈ memOps {} (startedDevice .type11) (splitArrival.map Call.process), op.Ok := by
  have hfits : Fits (startedDevice .type11) :=
    reaches_fits ⟨by decide, by decide⟩ (reaches_startedDevice .type11)
  refine polls_refine_frames {} hfits (by decide +kernel) (by decide +kernel)
    (framesFit_singleton (by decide +kernel)) (.cons ⟨by decide +kernel, ?_⟩ .nil) ⟨?_, ?_⟩
  · simp only [splitArrival, List.forall_mem_cons]
    have hquiet : ∀ bytes, QuietCall (callWith false bytes) :=
      fun bytes => ⟨by simp [callWith], rfl, fun _ => rfl⟩
    exact ⟨hquiet _, hquiet _, hquiet _, by simp⟩
  · decide +kernel
  · simp [splitArrival, HeardRun, callWith, Call.lastMs]
    decide +kernel

end Iolinki
