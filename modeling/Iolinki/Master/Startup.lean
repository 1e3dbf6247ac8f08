import Iolinki.Lib.Streak
import Iolinki.Platform.VirtualPhy
import Iolinki.Master.Replies
import Iolinki.Master.Link

/-!
# The start-up of the link

The start-up and the cycles of `tools/virtual_master/virtual_master/master.py` against a
device that runs over the virtual PHY. The master writes bytes to the pseudo terminal and
waits; while it waits the device makes any number of calls of `iolink_process`, at each
of which some of the bytes have arrived (`Schedule`).

* `send_frame`: a wait in which one frame arrives.
* `wakeup_polls`: the wait in which the wake-up arrives.
* `cycles_upTo`: any number of cycles.
* `startup_end_to_end`: from `iolink_init` to cyclic operation, in any schedule.
-/

namespace Iolinki

open Iolinki.Lib

/-! ## The link -/

/-- A call of `iolink_process` while the master waits: its clocks and the bytes that have
    arrived since the last one. -/
structure Poll where
  clocks : CallClocks
  bytes : List UInt8

/-- The calls that the device makes in the `k`-th wait of the master, for which the
    master has written these bytes. -/
structure Schedule where
  polls : ℕ → List UInt8 → List Poll
  delivers : ∀ k bytes, (polls k bytes).flatMap Poll.bytes = bytes

/-- The device, the bytes on their way to it and from it, and the number of waits so
    far. -/
structure VirtualLink where
  device : Device
  toDevice : List UInt8
  toMaster : List UInt8
  waits : ℕ

section Link

variable (cfg : BuildConfig) (sched : Schedule)

/-- One call of `iolink_process`. -/
def VirtualLink.poll (l : VirtualLink) (p : Poll) : VirtualLink :=
  let r := virtualProcess cfg p.clocks l.device (l.toDevice ++ p.bytes)
  { l with device := r.1, toDevice := r.2.2, toMaster := l.toMaster ++ r.2.1.flatten }

/-- `uart.send_bytes(bytes)`, and what the device does before the master goes on. -/
def VirtualLink.send (l : VirtualLink) (bytes : List UInt8) : VirtualLink :=
  { (sched.polls l.waits bytes).foldl (VirtualLink.poll cfg) l with waits := l.waits + 1 }

/-- `uart.send_bytes(frame)` and `uart.recv_bytes(count)`. -/
def VirtualLink.exchange (l : VirtualLink) (frame : List UInt8) (count : ℕ) :
    Option (List UInt8) × VirtualLink :=
  let l := l.send cfg sched frame
  let got := recvBytes count l.toMaster
  (got.1, { l with toMaster := got.2 })

end Link

/-! ## `master.py` -/

/-- `MasterState` (lines 20–26). -/
inductive MasterState
  | startup
  | estabCom
  | preoperate
  | operate
  deriving DecidableEq, Repr

/-- The state of the master, and the link. -/
structure Session where
  state : MasterState
  link : VirtualLink

section Master

variable (cfg : BuildConfig) (sched : Schedule) (m : Master)

/-- `VirtualMaster.send_wakeup` (lines 146–149). -/
def Session.sendWakeup (s : Session) : Session :=
  { s with link := s.link.send cfg sched [0x55] }

/-- `VirtualMaster.send_idle` (lines 151–169). -/
def Session.sendIdle (s : Session) : DeviceResponse × Session :=
  let r := s.link.exchange cfg sched (generateType0 0x00 0x00) 2
  (deviceResponse (r.1.getD []) 1, { s with link := r.2 })

/-- The attempts of `run_startup_sequence` (lines 293–299). -/
def Session.attempts (s : Session) : ℕ → Bool × Session
  | 0 => (false, s)
  | n + 1 =>
    let r := s.sendIdle cfg sched
    if r.1.valid then (true, { r.2 with state := .preoperate }) else Session.attempts r.2 n

/-- `VirtualMaster.run_startup_sequence` (lines 281–302). -/
def Session.runStartupSequence (s : Session) : Bool × Session :=
  (s.sendWakeup cfg sched).attempts cfg sched 10

/-- `VirtualMaster.go_to_operate` (lines 304–311). -/
def Session.goToOperate (s : Session) : Session :=
  ⟨.operate, s.link.send cfg sched (generateType0 0x0F 0x00)⟩

/-- The arguments of a call of `run_cycle`. -/
structure CycleRequest where
  pdOut : Option (List UInt8)
  odReq : UInt8
  odReq2 : UInt8
  ckt : UInt8

/-- The frame of a cycle (lines 333–339). -/
def CycleRequest.frame (r : CycleRequest) : List UInt8 :=
  generateType1 m.odLen 0x00 r.ckt (cyclePdOut m r.pdOut) r.odReq r.odReq2

/-- `VirtualMaster.run_cycle` (lines 313–349). -/
def Session.runCycle (s : Session) (r : CycleRequest) : DeviceResponse × Session :=
  if m.mSeqType = .type0 then s.sendIdle cfg sched
  else
    let e := s.link.exchange cfg sched (r.frame m) (1 + m.pdInLen + m.odLen + 1)
    (deviceResponse (e.1.getD []) m.odLen, { s with link := e.2 })

/-- The cycles of a session one after the other. -/
def cycleMachine : Machine Session CycleRequest DeviceResponse where
  step s r := let out := s.runCycle cfg sched m r; (out.2, out.1)

end Master

/-! ## A wait in which one frame arrives -/

/-- What the device reads in a call if its queue was empty. -/
def Poll.env (p : Poll) : CallEnv := virtualEnv p.clocks p.bytes

theorem Poll.bytes_env (p : Poll) : (Call.process p.env).bytes = p.bytes :=
  bytes_virtualEnv p.clocks p.bytes

section Send

variable (cfg : BuildConfig) (sched : Schedule)

/-- Calls that leave no byte unread. -/
theorem poll_foldl {l : VirtualLink} (hqueue : l.toDevice = []) {polls : List Poll}
    {sent : List (List UInt8)}
    (houts : pollOutputs cfg l.device (polls.map Poll.env) = (sent, [])) :
    polls.foldl (VirtualLink.poll cfg) l =
      { l with
        device := (pollMachine cfg).final l.device (polls.map Poll.env)
        toMaster := l.toMaster ++ sent.flatten } := by
  induction polls generalizing l sent with
  | nil =>
    obtain rfl : sent = [] := (Prod.mk.inj houts).1.symm
    rw [List.foldl_nil, List.flatten_nil, List.append_nil]
    rfl
  | cons p polls ih =>
    obtain ⟨hsent, hread⟩ := Prod.mk.inj houts
    obtain ⟨hnow, hlater⟩ := List.append_eq_nil_iff.mp hread
    have hstep : VirtualLink.poll cfg l p =
        { l with
          device := (iolinkProcess cfg l.device p.env).1
          toMaster := l.toMaster ++ (iolinkProcess cfg l.device p.env).2.sent.flatten } := by
      have hleft := queue_of_unread cfg p.clocks l.device p.bytes hnow
      unfold VirtualLink.poll
      dsimp only
      rw [hqueue, List.nil_append, hleft]
      rfl
    have hrest : pollOutputs cfg (iolinkProcess cfg l.device p.env).1 (polls.map Poll.env) =
        ((pollOutputs cfg (iolinkProcess cfg l.device p.env).1 (polls.map Poll.env)).1, []) :=
      Prod.ext rfl hlater
    have hnext := ih (l := { l with
      device := (iolinkProcess cfg l.device p.env).1
      toMaster := l.toMaster ++ (iolinkProcess cfg l.device p.env).2.sent.flatten }) hqueue hrest
    have hbytes : sent.flatten = (iolinkProcess cfg l.device p.env).2.sent.flatten ++
        (pollOutputs cfg (iolinkProcess cfg l.device p.env).1 (polls.map Poll.env)).1.flatten := by
      rw [← hsent, ← List.flatten_append]
      rfl
    rw [List.foldl_cons, hstep, hnext, hbytes]
    exact congrArg (fun bytes => VirtualLink.mk _ l.toDevice bytes l.waits)
      (List.append_assoc l.toMaster _ _)

/-- The calls of the waits from the `k`-th on, in which these frames are sent. -/
def waitEnvs : ℕ → List (List UInt8) → List CallEnv
  | _, [] => []
  | k, frame :: frames => (sched.polls k frame).map Poll.env ++ waitEnvs (k + 1) frames

theorem Poll.quiet (p : Poll) : QuietCall p.env := by
  refine ⟨fun _ hmv => (nomatch hmv), rfl, fun hrx => ?_⟩
  have hnil : p.bytes = [] := by
    rw [← p.bytes_env, Call.bytes, hrx]
    rfl
  show (virtualDetectWakeup p.bytes).1 = false
  rw [hnil]
  rfl

theorem arrives_polls (k : ℕ) (frame : List UInt8) :
    Arrives frame ((sched.polls k frame).map Poll.env) := by
  refine ⟨?_, fun env hmem => ?_⟩
  · rw [List.flatMap_map]
    refine Eq.trans ?_ (sched.delivers k frame)
    exact List.flatMap_congr fun p _ => p.bytes_env
  · obtain ⟨p, -, rfl⟩ := List.mem_map.mp hmem
    exact p.quiet

/-- **A wait in which one frame arrives.** -/
theorem send_frame {a : Device} {l : VirtualLink} {frame : List UInt8} {more : List CallEnv}
    (h : Agrees cfg a l.device) (hqueue : l.toDevice = []) (hfit : FrameFits a frame)
    (ht : OnTimeRun l.device.dll ((sched.polls l.waits frame).map Poll.env ++ more)) :
    let l' := l.send cfg sched frame
    Agrees cfg (frameStep cfg a frame).1 l'.device ∧ l'.toDevice = [] ∧
      l'.toMaster = l.toMaster ++ (frameStep cfg a frame).2.getD [] ∧ l'.waits = l.waits + 1 ∧
      OnTimeRun l'.device.dll more := by
  intro l'
  obtain ⟨hagree, houts, hmore⟩ := h.arrival hfit (arrives_polls sched l.waits frame) ht
  have hsend : l' = _ := congrArg (fun k : VirtualLink => { k with waits := l.waits + 1 })
    (poll_foldl cfg hqueue houts)
  rw [hsend]
  refine ⟨hagree, hqueue, ?_, rfl, hmore⟩
  cases (frameStep cfg a frame).2 with
  | none => rfl
  | some reply => exact congrArg (l.toMaster ++ ·) (List.append_nil reply)

/-! ## The wake-up -/

/-- The device is asleep: in SIO mode, before its first byte, with nothing to execute. -/
structure Asleep (d : Device) : Prop where
  phyMode : d.dll.phyMode = .sio
  frameIndex : d.dll.frameIndex = 0
  lastActivityMs : d.dll.lastActivityMs = 0
  enforceTiming : d.dll.enforceTiming = false
  settled : deviceIsduProcess cfg d = d

/-- The device after the wake-up. -/
def Device.woken (d : Device) : Device :=
  { d with dll := { d.dll with wakeupSeen := true, state := .awaitingComm, phyMode := .sdci } }

variable {l : VirtualLink} {p : Poll}

/-- A call of a device that is asleep reads nothing but the wake-up. -/
theorem process_asleep (h : Asleep cfg l.device)
    (hpow : dllTPdActive l.device.dll p.clocks.tPdUs = false) :
    iolinkProcess cfg l.device p.env =
      (⟨detectWakeup l.device.dll p.env, l.device.store⟩,
        ⟨detectWakeup l.device.dll p.env, [], p.env.rx⟩) := by
  have hreset : inactivityReset l.device.dll p.env.nowMs = l.device.dll :=
    inactivityReset_onTime (show OnTimeCall _ p.env from ⟨hpow, .inl h.lastActivityMs⟩)
  have hpow' : ¬ (dllTPdActive l.device.dll p.env.tPdUs = true) := by
    rw [show dllTPdActive l.device.dll p.env.tPdUs = false from hpow]
    exact Bool.false_ne_true
  have hdiag : dllPollDiagnostics cfg l.device.dll p.env = l.device.dll := rfl
  unfold iolinkProcess dllReceive
  dsimp only
  rw [h.settled, hdiag, hreset, if_neg hpow', if_pos h.phyMode]

/-- A call in which no byte has arrived. -/
theorem poll_asleep (h : Asleep cfg l.device) (hqueue : l.toDevice = [])
    (hpow : dllTPdActive l.device.dll p.clocks.tPdUs = false) (hbytes : p.bytes = []) :
    VirtualLink.poll cfg l p = l := by
  have henv : p.env.rx = [] ∧ p.env.wakeup = false := by
    unfold Poll.env virtualEnv
    rw [hbytes]
    exact ⟨rfl, rfl⟩
  have hwake : detectWakeup l.device.dll p.env = l.device.dll :=
    if_neg fun hw => Bool.false_ne_true (henv.2.symm.trans hw.2)
  have hproc := process_asleep cfg h hpow
  rw [hwake, henv.1] at hproc
  have hleft : (virtualProcess cfg p.clocks l.device p.bytes).2.2 = [] := by
    apply queue_of_unread
    rw [show iolinkProcess cfg l.device (virtualEnv p.clocks p.bytes) = _ from hproc]
  unfold VirtualLink.poll
  dsimp only
  rw [hqueue, List.nil_append, hleft]
  show VirtualLink.mk (iolinkProcess cfg l.device p.env).1 []
    (l.toMaster ++ (iolinkProcess cfg l.device p.env).2.sent.flatten) l.waits = l
  rw [hproc, ← hqueue]
  show VirtualLink.mk l.device l.toDevice (l.toMaster ++ []) l.waits = l
  rw [List.append_nil]

/-- The call in which the wake-up arrives. -/
theorem poll_wakeup (h : Asleep cfg l.device) (hqueue : l.toDevice = [])
    (hpow : dllTPdActive l.device.dll p.clocks.tPdUs = false) (hbytes : p.bytes = [0x55]) :
    VirtualLink.poll cfg l p =
      { l with device := ⟨detectWakeup l.device.dll p.env, l.device.store⟩ } := by
  have hproc := process_asleep cfg h hpow
  have hreset : inactivityReset l.device.dll p.env.nowMs = l.device.dll :=
    inactivityReset_onTime (show OnTimeCall _ p.env from ⟨hpow, .inl h.lastActivityMs⟩)
  have hask : asksForWakeup l.device.dll p.env = true := by
    unfold asksForWakeup
    dsimp only
    rw [hreset, show dllTPdActive l.device.dll p.env.tPdUs = false from hpow, h.phyMode,
      h.frameIndex]
    rfl
  have hleft : (virtualProcess cfg p.clocks l.device p.bytes).2.2 = [] := by
    unfold virtualProcess
    dsimp only
    rw [h.settled, if_pos (show asksForWakeup (dllPollDiagnostics cfg l.device.dll
      (virtualEnv p.clocks p.bytes)) (virtualEnv p.clocks p.bytes) = true from hask), hbytes]
    rfl
  unfold VirtualLink.poll
  dsimp only
  rw [hqueue, List.nil_append, hleft]
  show VirtualLink.mk (iolinkProcess cfg l.device p.env).1 []
    (l.toMaster ++ (iolinkProcess cfg l.device p.env).2.sent.flatten) l.waits = _
  rw [hproc]
  exact congrArg (fun bytes => VirtualLink.mk _ _ bytes l.waits) (List.append_nil l.toMaster)

theorem matches_woken (h : Asleep cfg l.device) (hbytes : p.bytes = [0x55]) :
    Matches cfg l.device.woken.timeless ⟨detectWakeup l.device.dll p.env, l.device.store⟩ := by
  have hwake : detectWakeup l.device.dll p.env =
      { l.device.woken.dll with wakeupDeadlineUs := p.env.wakeupUs + tDwuUs } := by
    refine if_pos ⟨h.frameIndex, ?_⟩
    unfold Poll.env virtualEnv
    rw [hbytes]
    rfl
  rw [hwake]
  exact .inl rfl

theorem detectWakeup_clocks (c : DllCtx) (env : CallEnv) :
    (detectWakeup c env).tPdDeadlineUs = c.tPdDeadlineUs ∧
      (detectWakeup c env).lastActivityMs = c.lastActivityMs := by
  unfold detectWakeup
  split_ifs <;> exact ⟨rfl, rfl⟩

/-- Before the first byte there is no silence. -/
theorem heardRun_silent {polls more : List CallEnv}
    (hbytes : polls.flatMap (fun env => (Call.process env).bytes) = []) (hmore : HeardRun 0 more) :
    HeardRun 0 (polls ++ more) := by
  induction polls with
  | nil => exact hmore
  | cons env polls ih =>
    obtain ⟨hnow, hlater⟩ := List.append_eq_nil_iff.mp hbytes
    have hrx : env.rx = [] := List.map_eq_nil_iff.mp hnow
    refine ⟨.inl rfl, ?_⟩
    rw [show (Call.process env).lastMs 0 = 0 by rw [Call.lastMs, hrx]; rfl]
    exact ih hlater

/-- The wait in which the wake-up is sent. -/
theorem wakeup_polls (h : Asleep cfg l.device) (hqueue : l.toDevice = []) {polls : List Poll}
    (hbytes : polls.flatMap Poll.bytes = [0x55]) {more : List CallEnv}
    (hpow : ∀ env ∈ polls.map Poll.env ++ more, dllTPdActive l.device.dll env.tPdUs = false)
    (hheard : HeardRun 0 more) :
    let l' := polls.foldl (VirtualLink.poll cfg) l
    Agrees cfg l.device.woken.timeless l'.device ∧ l'.toDevice = [] ∧ l'.toMaster = l.toMaster ∧
      OnTimeRun l'.device.dll more := by
  induction polls with
  | nil => cases hbytes
  | cons p polls ih =>
    have hnow : dllTPdActive l.device.dll p.clocks.tPdUs = false :=
      hpow p.env (List.mem_append_left _ List.mem_cons_self)
    rw [List.flatMap_cons] at hbytes
    rcases List.append_eq_singleton_iff.mp hbytes with ⟨hnil, hrest⟩ | ⟨hwake, hrest⟩
    · rw [List.foldl_cons, poll_asleep cfg h hqueue hnow hnil]
      exact ih hrest fun env hmem => hpow env (List.mem_cons_of_mem _ hmem)
    · rw [List.foldl_cons, poll_wakeup cfg h hqueue hnow hwake]
      -- The calls that are left of the wait bring no byte.
      have hquiet : ∀ env ∈ polls.map Poll.env, QuietCall env := by
        intro env hmem
        obtain ⟨q, -, rfl⟩ := List.mem_map.mp hmem
        exact q.quiet
      have hsilent : (polls.map Poll.env).flatMap (fun env => (Call.process env).bytes) = [] := by
        rw [List.flatMap_map, ← hrest]
        exact List.flatMap_congr fun q _ => q.bytes_env
      have hsame := detectWakeup_clocks l.device.dll p.env
      have htime : OnTimeRun (detectWakeup l.device.dll p.env) (polls.map Poll.env ++ more) := by
        refine ⟨fun env hmem => ?_, ?_⟩
        · rw [dllTPdActive, hsame.1]
          exact hpow env (List.mem_cons_of_mem _ hmem)
        · rw [hsame.2, h.lastActivityMs]
          exact heardRun_silent hsilent hheard
      have henf : l.device.woken.timeless.dll.enforceTiming = false := h.enforceTiming
      obtain ⟨hfinal, houts, hmore⟩ := matches_polls cfg
        (d := ⟨detectWakeup l.device.dll p.env, l.device.store⟩) henf (matches_woken cfg h hwake)
        hquiet hsilent htime
      rw [poll_foldl cfg (l := { l with
        device := ⟨detectWakeup l.device.dll p.env, l.device.store⟩ }) hqueue houts]
      exact ⟨⟨h.enforceTiming, h.frameIndex, rfl, hfinal⟩, hqueue,
        List.append_nil l.toMaster, hmore⟩

end Send

/-! ## The stages of the start-up -/

/-- The device is awake and has come to `stage`. It has the settings of `config` and the
    input data `pdIn`. -/
structure AtStage (config : Config) (pdIn : List UInt8) (stage : DllState) (c : DllCtx) :
    Prop where
  state : c.state = stage
  phyMode : c.phyMode = .sdci
  baudrate : c.baudrate = .com2
  hasSend : c.hasSend = true
  mSeqType : c.mSeqType = config.mSeqType
  odLen : c.odLen = odLenOf config.mSeqType
  pdInLen : c.pdInLenCurrent = config.pdInLen
  pdOutLen : c.pdOutLenCurrent = config.pdOutLen
  pdIn : slice c.pdIn 0 c.pdInLenCurrent = pdIn

/-- The context in which `frameStep` accepts a frame. -/
def acceptCtx (cfg : BuildConfig) (a : Device) (frame : List UInt8) : DllCtx :=
  { (polledCtx cfg a).loaded frame with lastCycleStartUs := 0 }

/-- What a cyclic frame does to a device in OPERATE, or on its way there: the output data
    `pd` are stored, the bytes `od` go to the ISDU engine, and the reply carries the input
    data, the bytes of the engine and the status. -/
structure CyclicStep (cfg : BuildConfig) (config : Config) (pdIn : List UInt8) (a : Device)
    (pd od : List UInt8) (r : Device × Option (List UInt8)) : Prop where
  stage : AtStage config pdIn .operate r.1.dll
  pdOut : slice r.1.dll.pdOut 0 config.pdOutLen = pd
  pdOutLen : r.1.dll.pdOutLen = a.dll.pdOutLen
  pdValid : r.1.dll.pdValid = a.dll.pdValid
  pdInToggle : r.1.dll.pdInToggle = a.dll.pdInToggle
  isdu : r.1.dll.isdu = odMachine.final (polledCtx cfg a).isdu od
  host : r.1.host = (deviceIsduProcess cfg a).host
  failures : r.1.dll.fallbackCount = 0
  threshold : r.1.dll.sioFallbackThreshold = a.dll.sioFallbackThreshold
  reply : r.2 = some (cyclicReply (statusByte (polledCtx cfg a)) pdIn
    (odMachine.outputs (polledCtx cfg a).isdu od))

section Stages

variable (cfg : BuildConfig) {config : Config} {pdIn : List UInt8} {stage : DllState}
variable {a : Device} {frame : List UInt8}

theorem AtStage.acceptCtx (h : AtStage config pdIn stage a.dll) (frame : List UInt8) :
    AtStage config pdIn stage (acceptCtx cfg a frame) := by
  have hctx : Iolinki.acceptCtx cfg a frame =
      { a.dll with
        events := (polledCtx cfg a).events
        ds := (polledCtx cfg a).ds
        stats := (polledCtx cfg a).stats
        isdu := (polledCtx cfg a).isdu
        frameBuf := blit a.dll.frameBuf 0 frame
        frameIndex := frame.length
        reqLen := frame.length
        lastCycleStartUs := 0 } := rfl
  rw [hctx]
  exact { h with }

/-- A frame with a right checksum. -/
theorem frameStep_accept (henf : a.dll.enforceTiming = false)
    (hcrc : frameCrcOk (acceptCtx cfg a frame) = true) :
    frameStep cfg a frame =
      (⟨{ (dllAcceptFrame cfg (acceptCtx cfg a frame) (timelessByte 0)).1 with frameIndex := 0 },
        (deviceIsduProcess cfg a).store⟩,
        (dllAcceptFrame cfg (acceptCtx cfg a frame) (timelessByte 0)).2) := by
  have hoff : ((polledCtx cfg a).loaded frame).enforceTiming = false := henf
  have hframe : dllHandleFrame cfg ((polledCtx cfg a).loaded frame) (timelessByte 0) =
      dllAcceptFrame cfg (acceptCtx cfg a frame) (timelessByte 0) := by
    unfold dllHandleFrame
    dsimp only
    rw [cycleStart_off cfg hoff]
    exact if_pos hcrc
  unfold frameStep
  dsimp only
  rw [show (deviceIsduProcess cfg a).dll = polledCtx cfg a from rfl, hframe]

/-- A two-byte frame in the buffer. -/
theorem type0_loaded (cfg : BuildConfig) (a : Device) (b : UInt8) :
    frameCrcOk (acceptCtx cfg a (type0Frame b)) = true ∧
      (acceptCtx cfg a (type0Frame b)).frameBuf 0 = b :=
  ⟨frameCrcOk_type0 rfl rfl, by simp [acceptCtx, DllCtx.loaded, blit, type0Frame]⟩

theorem type0_fits (h : AtStage config pdIn stage a.dll)
    (hstage : stage = .awaitingComm ∨ stage = .preoperate) (b : UInt8) :
    FrameFits a (type0Frame b) := by
  refine ⟨?_, ⟨le_rfl, show 2 ≤ 48 by omega⟩, ?_⟩
  · rw [h.phyMode]
    decide
  · show 2 = dllReqLen a.dll b
    rcases hstage with rfl | rfl <;> simp [dllReqLen, h.state]

theorem generateType0_eq (mc : UInt8) : generateType0 mc 0x00 = type0Frame mc := by
  rw [generateType0, calculateChecksumType0, ckByte_calculateCrc6]
  rfl

/-- The first idle frame, and any later one. -/
theorem idle_accepted (h : AtStage config pdIn stage a.dll)
    (hstage : stage = .awaitingComm ∨ stage = .preoperate) (henf : a.dll.enforceTiming = false) :
    AtStage config pdIn .preoperate (frameStep cfg a (generateType0 0x00 0x00)).1.dll ∧
      ∃ od, (frameStep cfg a (generateType0 0x00 0x00)).2 = some [od, checksumCk od 0] := by
  rw [generateType0_eq]
  obtain ⟨hcrc, hmc⟩ := type0_loaded cfg a 0x00
  have hctx := h.acceptCtx cfg (type0Frame 0x00)
  have hkind : frameKind (acceptCtx cfg a (type0Frame 0x00)).state
      (acceptCtx cfg a (type0Frame 0x00)).reqLen
      ((acceptCtx cfg a (type0Frame 0x00)).frameBuf 0) = .type0 := by
    rw [hctx.state, hmc]
    rcases hstage with rfl | rfl <;> rfl
  have hnext : establishedState (acceptCtx cfg a (type0Frame 0x00)).state = .preoperate := by
    rw [hctx.state]
    rcases hstage with rfl | rfl <;> rfl
  rw [frameStep_accept cfg henf hcrc, dllAcceptFrame_eq, hkind]
  generalize acceptCtx cfg a (type0Frame 0x00) = c at hctx hnext
  exact ⟨⟨hnext, hctx.phyMode, hctx.baudrate, hctx.hasSend, hctx.mSeqType, hctx.odLen,
    hctx.pdInLen, hctx.pdOutLen, hctx.pdIn⟩, _, if_pos hctx.hasSend⟩

/-- The transition command. -/
theorem transition_accepted (h : AtStage config pdIn .preoperate a.dll)
    (henf : a.dll.enforceTiming = false) :
    AtStage config pdIn .estabCom (frameStep cfg a (generateType0 0x0F 0x00)).1.dll ∧
      (frameStep cfg a (generateType0 0x0F 0x00)).2 = none := by
  rw [generateType0_eq]
  obtain ⟨hcrc, hmc⟩ := type0_loaded cfg a 0x0F
  have hctx := h.acceptCtx cfg (type0Frame 0x0F)
  have hkind : frameKind (acceptCtx cfg a (type0Frame 0x0F)).state
      (acceptCtx cfg a (type0Frame 0x0F)).reqLen
      ((acceptCtx cfg a (type0Frame 0x0F)).frameBuf 0) = .transition := by
    rw [hctx.state, hmc]
    rfl
  rw [frameStep_accept cfg henf hcrc, dllAcceptFrame_eq, hkind]
  generalize acceptCtx cfg a (type0Frame 0x0F) = c at hctx
  exact ⟨⟨rfl, hctx.phyMode, hctx.baudrate, hctx.hasSend, hctx.mSeqType, hctx.odLen,
    hctx.pdInLen, hctx.pdOutLen, hctx.pdIn⟩, rfl⟩

variable {ckt : UInt8} {pd od : List UInt8}

theorem cyclic_fits (h : AtStage config pdIn stage a.dll)
    (hstage : stage = .estabCom ∨ stage = .operate) (hcyc : HasCycles config)
    (hpd : pd.length = config.pdOutLen) (hod : od.length = odLenOf config.mSeqType) :
    FrameFits a (cyclicFrame 0x00 ckt pd od) := by
  have hlen := length_cyclicFrame 0x00 ckt pd od
  have hodl := odLenOf_le config.mSeqType
  have hout := hcyc.pdOut
  refine ⟨?_, ⟨by omega, ?_⟩, ?_⟩
  · rw [h.phyMode]
    decide
  · rw [frameBufSize]
    omega
  · rw [hlen]
    show _ = dllReqLen a.dll 0x00
    have htype : a.dll.mSeqType ≠ .type0 := h.mSeqType ▸ hcyc.type
    have hmulti : (mSeqHeaderLen + a.dll.pdOutLenCurrent + a.dll.odLen + 1) % 256 =
        pd.length + od.length + 3 := by
      rw [mSeqHeaderLen, h.pdOutLen, h.odLen]
      omega
    have hmc : (0x00 : UInt8) ≠ mcTransitionCommand := by decide
    rw [dllReqLen, hmulti, if_neg (by rw [h.baudrate]; decide)]
    rcases hstage with rfl | rfl
    · rw [if_neg (by rw [h.state]; exact fun hs => absurd hs.2 (by decide)),
        if_pos ⟨htype, h.state, hmc⟩]
    · rw [if_pos ⟨htype, h.state⟩]

/-- A cyclic frame changes nothing the ISDU engine reaches, and ends a row of failures. -/
theorem type12_kept {c : DllCtx} (henf : c.enforceTiming = false) (hsend : c.hasSend = true)
    (rx : RxByte) :
    let c' := (dllHandleOperateType12 cfg c rx).1
    c'.stats = c.stats ∧ c'.events = c.events ∧ c'.fallbackCount = 0 := by
  simp only [dllHandleOperateType12, afterSend, henf, hsend, Bool.false_eq_true, false_and,
    if_false, if_true, and_self]

/-- A cyclic frame. -/
theorem cyclic_accepted (h : AtStage config pdIn stage a.dll)
    (hstage : stage = .estabCom ∨ stage = .operate) (henf : a.dll.enforceTiming = false)
    (hpd : pd.length = config.pdOutLen) (hod : od.length = odLenOf config.mSeqType) :
    CyclicStep cfg config pdIn a pd od (frameStep cfg a (cyclicFrame 0x00 ckt pd od)) := by
  generalize hr : frameStep cfg a (cyclicFrame 0x00 ckt pd od) = r
  have hlen := length_cyclicFrame 0x00 ckt pd od
  have hodl := odLenOf_pos config.mSeqType
  have hctx := h.acceptCtx cfg (cyclicFrame 0x00 ckt pd od)
  set c := acceptCtx cfg a (cyclicFrame 0x00 ckt pd od) with hc
  have hreq : c.reqLen = pd.length + od.length + 3 := hlen
  have hcrc : frameCrcOk c = true := by
    refine frameCrcOk_of_body (polledCtx cfg a).frameBuf ([0x00, ckt] ++ pd ++ od) rfl ?_ (by simp)
    rw [hreq]
    simp only [List.length_append, List.length_cons, List.length_nil]
    omega
  obtain ⟨hpdf, hodf, hmc⟩ := cyclicFrame_fields (c := c) rfl hctx.pdOutLen hctx.odLen hpd hod
  have hkind : frameKind c.state c.reqLen (c.frameBuf 0) = .type12 := by
    rw [hmc, hctx.state, hreq]
    rcases hstage with rfl | rfl
    · simp only [frameKind]
      rw [if_pos (by omega)]
      rfl
    · simp only [frameKind]
      rw [if_neg (by decide), if_neg (by omega)]
  rw [frameStep_accept cfg henf hcrc, dllAcceptFrame_eq, hkind] at hr
  obtain ⟨_, _, _, _, h12, -⟩ :=
    dllHandleOperateType12_eq cfg { c with state := .operate } (timelessByte 0)
  have hoff : c.enforceTiming = false := henf
  have hisdu : (polledCtx cfg a).isdu = c.isdu := rfl
  have hstatus : statusByte (polledCtx cfg a) = statusByte c := rfl
  have hhost : (deviceIsduProcess cfg a).host =
      ⟨c.events, c.ds, c.stats, (deviceIsduProcess cfg a).store⟩ := rfl
  have hkept : c.pdOutLen = a.dll.pdOutLen ∧ c.pdValid = a.dll.pdValid ∧
      c.pdInToggle = a.dll.pdInToggle ∧ c.sioFallbackThreshold = a.dll.sioFallbackThreshold :=
    ⟨rfl, rfl, rfl, rfl⟩
  obtain ⟨hpdOutLen, hpdValid, hpdInToggle, hthr⟩ := hkept
  obtain ⟨hstats, hevents, hcount⟩ :=
    type12_kept cfg (c := { c with state := .operate }) hoff hctx.hasSend (timelessByte 0)
  dsimp only at hr
  rw [h12] at hr hstats hevents hcount
  rw [← hr]
  clear_value c
  constructor
  case stage =>
    exact ⟨rfl, hctx.phyMode, hctx.baudrate, hctx.hasSend, hctx.mSeqType, hctx.odLen,
      hctx.pdInLen, hctx.pdOutLen, hctx.pdIn⟩
  case pdOut =>
    show slice (if c.pdOutLenCurrent > 0 then blit c.pdOut 0 (pdField c) else c.pdOut) 0 _ = pd
    rw [hpdf, hctx.pdOutLen, ← hpd]
    split_ifs with hz
    · exact slice_blit c.pdOut 0 pd
    · have hnil : pd = [] := List.length_eq_zero_iff.mp (by omega)
      rw [hnil]
      rfl
  case pdOutLen => exact hpdOutLen
  case pdValid => exact hpdValid
  case pdInToggle => exact hpdInToggle
  case failures => exact hcount
  case threshold => exact hthr
  case isdu =>
    rw [hisdu]
    exact congrArg (odMachine.final c.isdu) hodf
  case host =>
    rw [hhost]
    exact congrArg₂ (fun events stats => (⟨events, c.ds, stats, _⟩ : Host)) hevents hstats
  case reply =>
    show (if c.hasSend then some (responseBody c (odMachine.outputs c.isdu (odField c)) ++
      [crc6 (responseBody c (odMachine.outputs c.isdu (odField c)))]) else none) = _
    rw [if_pos hctx.hasSend, hodf, responseBody, hctx.pdIn, hisdu, hstatus]
    rfl

end Stages

/-! ## The session -/

/-- The master has received everything the device has sent, and the device is at
    `stage`. -/
structure UpTo (cfg : BuildConfig) (config : Config) (pdIn : List UInt8) (stage : DllState)
    (l : VirtualLink) (more : List CallEnv) : Prop where
  stage : ∃ a, Agrees cfg a l.device ∧ AtStage config pdIn stage a.dll
  toDevice : l.toDevice = []
  toMaster : l.toMaster = []
  timely : OnTimeRun l.device.dll more

theorem UpTo.deviceState {cfg : BuildConfig} {config : Config} {pdIn : List UInt8}
    {stage : DllState} {l : VirtualLink} {more : List CallEnv}
    (h : UpTo cfg config pdIn stage l more) : l.device.dll.state = stage := by
  obtain ⟨a, hagree, hat⟩ := h.stage
  exact (congrArg (fun d : Device => d.dll.state) hagree.same).trans hat.state

section Session

variable (cfg : BuildConfig) (sched : Schedule) {config : Config} {pdIn : List UInt8}
variable {stage next : DllState}
variable {l : VirtualLink} {frame : List UInt8} {frames : List (List UInt8)}

/-- A frame that brings the device from `stage` to `next`, and its reply. -/
theorem send_upTo (h : UpTo cfg config pdIn stage l (waitEnvs sched l.waits (frame :: frames)))
    {Q : Device → Option (List UInt8) → Prop}
    (hframe : ∀ a, AtStage config pdIn stage a.dll → a.dll.enforceTiming = false →
      FrameFits a frame ∧ AtStage config pdIn next (frameStep cfg a frame).1.dll ∧
        Q (frameStep cfg a frame).1 (frameStep cfg a frame).2) :
    let l' := l.send cfg sched frame
    ∃ a' reply, Agrees cfg a' l'.device ∧ Q a' reply ∧ l'.toMaster = reply.getD [] ∧
      UpTo cfg config pdIn next { l' with toMaster := [] } (waitEnvs sched l'.waits frames) ∧
      l'.waits = l.waits + 1 := by
  obtain ⟨a, hagree, hat⟩ := h.stage
  obtain ⟨hfit, hat', hq⟩ := hframe a hat hagree.enforceTiming
  obtain ⟨hnext, hqueue, hgot, hwaits, hmore⟩ :=
    send_frame cfg sched hagree h.toDevice hfit h.timely
  rw [h.toMaster, List.nil_append] at hgot
  refine ⟨_, _, hnext, hq, hgot, ⟨⟨_, hnext, hat'⟩, hqueue, rfl, ?_⟩, hwaits⟩
  rw [hwaits]
  exact hmore

/-- An idle frame and its answer. -/
theorem sendIdle_upTo (state : MasterState)
    (hstage : stage = .awaitingComm ∨ stage = .preoperate)
    (h : UpTo cfg config pdIn stage l
      (waitEnvs sched l.waits (generateType0 0x00 0x00 :: frames))) :
    let r := Session.sendIdle cfg sched ⟨state, l⟩
    r.1.valid = true ∧ r.2.state = state ∧
      UpTo cfg config pdIn .preoperate r.2.link (waitEnvs sched r.2.link.waits frames) ∧
      r.2.link.waits = l.waits + 1 := by
  obtain ⟨a', reply, -, ⟨od, rfl⟩, hgot, hup, hwaits⟩ := send_upTo cfg sched h
    (Q := fun _ reply => ∃ od, reply = some [od, checksumCk od 0]) fun a hat henf => by
      refine ⟨?_, idle_accepted cfg hat hstage henf⟩
      rw [generateType0_eq]
      exact type0_fits hat hstage 0x00
  have hrecv : recvBytes 2 (l.send cfg sched (generateType0 0x00 0x00)).toMaster =
      (some [od, checksumCk od 0], []) := by
    rw [hgot]
    exact recvBytes_length rfl
  intro r
  have hr : r = (deviceResponse [od, checksumCk od 0] 1, ⟨state,
      { l.send cfg sched (generateType0 0x00 0x00) with toMaster := [] }⟩) := by
    show Session.sendIdle cfg sched ⟨state, l⟩ = _
    unfold Session.sendIdle VirtualLink.exchange
    dsimp only
    rw [hrecv]
    rfl
  rw [hr]
  exact ⟨rfl, rfl, hup, hwaits⟩

/-- `run_startup_sequence` with a device that is asleep. -/
theorem startup_upTo (state : MasterState) (h : Asleep cfg l.device) (hqueue : l.toDevice = [])
    (hgot : l.toMaster = []) (hat : AtStage config pdIn .awaitingComm l.device.woken.dll)
    (hpow : ∀ env ∈ waitEnvs sched l.waits ([0x55] :: generateType0 0x00 0x00 :: frames),
      dllTPdActive l.device.dll env.tPdUs = false)
    (hheard : HeardRun 0 (waitEnvs sched (l.waits + 1) (generateType0 0x00 0x00 :: frames))) :
    let r := Session.runStartupSequence cfg sched ⟨state, l⟩
    r.1 = true ∧ r.2.state = .preoperate ∧ r.2.link.waits = l.waits + 2 ∧
      UpTo cfg config pdIn .preoperate r.2.link (waitEnvs sched r.2.link.waits frames) := by
  obtain ⟨hagree, hread, hsent, htime⟩ := wakeup_polls cfg h hqueue
    (sched.delivers l.waits [0x55]) hpow hheard
  have hwoken : UpTo cfg config pdIn .awaitingComm (l.send cfg sched [0x55])
      (waitEnvs sched (l.waits + 1) (generateType0 0x00 0x00 :: frames)) :=
    ⟨⟨_, hagree, ⟨hat.state, hat.phyMode, hat.baudrate, hat.hasSend, hat.mSeqType, hat.odLen,
      hat.pdInLen, hat.pdOutLen, hat.pdIn⟩⟩, hread, hsent.trans hgot, htime⟩
  obtain ⟨hvalid, hstate, hup, hwaits⟩ := sendIdle_upTo cfg sched state (.inl rfl) hwoken
  intro r
  have hr : r = (true, { (Session.sendIdle cfg sched ⟨state, l.send cfg sched [0x55]⟩).2 with
      state := .preoperate }) := if_pos hvalid
  rw [hr]
  exact ⟨rfl, rfl, hwaits, hup⟩

/-- `go_to_operate`. -/
theorem goToOperate_upTo (state : MasterState)
    (h : UpTo cfg config pdIn .preoperate l
      (waitEnvs sched l.waits (generateType0 0x0F 0x00 :: frames))) :
    let s := Session.goToOperate cfg sched ⟨state, l⟩
    UpTo cfg config pdIn .estabCom s.link (waitEnvs sched s.link.waits frames) := by
  obtain ⟨a', reply, -, rfl, hgot, hup, hwaits⟩ := send_upTo cfg sched h
    (Q := fun _ reply => reply = none) fun a hat henf => by
      refine ⟨?_, transition_accepted cfg hat henf⟩
      rw [generateType0_eq]
      exact type0_fits hat (.inr rfl) 0x0F
  intro s
  have hs : s.link = { l.send cfg sched (generateType0 0x0F 0x00) with toMaster := [] } := by
    show l.send cfg sched (generateType0 0x0F 0x00) = _
    generalize l.send cfg sched (generateType0 0x0F 0x00) = k at hgot
    rw [← show k.toMaster = [] from hgot]
  rw [hs]
  exact hup

/-! ## The cycles -/

/-- The response of a device with the input data `pdIn`. -/
structure GoodReply (pdIn : List UInt8) (resp : DeviceResponse) : Prop where
  valid : resp.valid = true
  checksumOk : resp.checksumOk = some true
  payload : resp.payload = some pdIn

/-- The device is in OPERATE and has the output data of the last cycle. -/
structure OutputDelivered (config : Config) (r : CycleRequest) (d : Device) : Prop where
  state : d.dll.state = .operate
  pdOut : slice d.dll.pdOut 0 config.pdOutLen = cyclePdOut (masterOf config) r.pdOut

theorem frame_eq (config : Config) (r : CycleRequest) :
    r.frame (masterOf config) = cyclicFrame 0x00 r.ckt (cyclePdOut (masterOf config) r.pdOut)
      (odBytes (odLenOf config.mSeqType) r.odReq r.odReq2) := by
  rw [CycleRequest.frame, generateType1_eq, Master.odLen, getOdLen_eq]
  rfl

theorem length_cyclePdOut (m : Master) (pdOut : Option (List UInt8)) :
    (cyclePdOut m pdOut).length = m.pdOutLen := by
  cases pdOut with
  | none => exact List.length_replicate ..
  | some pd => exact List.takeD_length ..

/-- `run_cycle`. -/
theorem runCycle_upTo (hcyc : HasCycles config) (state : MasterState)
    (hstage : stage = .estabCom ∨ stage = .operate) (r : CycleRequest)
    (h : UpTo cfg config pdIn stage l
      (waitEnvs sched l.waits (r.frame (masterOf config) :: frames))) :
    let out := Session.runCycle cfg sched (masterOf config) ⟨state, l⟩ r
    GoodReply pdIn out.1 ∧ OutputDelivered config r out.2.link.device ∧ out.2.state = state ∧
      UpTo cfg config pdIn .operate out.2.link (waitEnvs sched out.2.link.waits frames) := by
  have hpd : (cyclePdOut (masterOf config) r.pdOut).length = config.pdOutLen :=
    length_cyclePdOut (masterOf config) r.pdOut
  have hod := length_odBytes config.mSeqType r.odReq r.odReq2
  have hpdIn : pdIn.length = config.pdInLen := by
    obtain ⟨a, -, hat⟩ := h.stage
    rw [← hat.pdIn, length_slice, hat.pdInLen]
  obtain ⟨a', reply, hagree, ⟨hstate, hout, status, od, hlen, rfl⟩, hgot, hup, hwaits⟩ :=
    send_upTo cfg sched h
      (Q := fun a reply => a.dll.state = .operate ∧
        slice a.dll.pdOut 0 config.pdOutLen = cyclePdOut (masterOf config) r.pdOut ∧
        ∃ status od, od.length = odLenOf config.mSeqType ∧
          reply = some (cyclicReply status pdIn od))
      fun a hat henf => by
        rw [frame_eq]
        have hstep : CyclicStep cfg config pdIn a _ _ (frameStep cfg a (cyclicFrame _ r.ckt _ _)) :=
          cyclic_accepted cfg hat hstage henf hpd hod
        exact ⟨cyclic_fits hat hstage hcyc hpd hod, hstep.stage, hstep.stage.state, hstep.pdOut, _,
          _, by rw [Machine.length_outputs, hod], hstep.reply⟩
  have hodl : (masterOf config).odLen = odLenOf config.mSeqType := getOdLen_eq config.mSeqType
  have hrecv : recvBytes (1 + config.pdInLen + odLenOf config.mSeqType + 1)
      (l.send cfg sched (r.frame (masterOf config))).toMaster =
      (some (cyclicReply status pdIn od), []) := by
    rw [hgot]
    apply recvBytes_length
    simp only [Option.getD_some, cyclicReply, List.length_append, List.length_cons,
      List.length_nil, hlen, hpdIn]
    omega
  intro out
  have hr : out = (deviceResponse (cyclicReply status pdIn od)
      (odLenOf config.mSeqType), ⟨state,
        { l.send cfg sched (r.frame (masterOf config)) with toMaster := [] }⟩) := by
    show Session.runCycle cfg sched (masterOf config) ⟨state, l⟩ r = _
    unfold Session.runCycle VirtualLink.exchange
    dsimp only
    rw [if_neg (show (masterOf config).mSeqType ≠ .type0 from hcyc.type), hodl,
      show (masterOf config).pdInLen = config.pdInLen from rfl, hrecv]
    rfl
  have hsame := hagree.same
  rw [hr, deviceResponse_cyclicReply status _ hlen (odLenOf_pos _) (odLenOf_le _)]
  refine ⟨⟨rfl, rfl, rfl⟩, ⟨?_, ?_⟩, rfl, hup⟩
  · exact (congrArg (fun d : Device => d.dll.state) hsame).trans hstate
  · exact (congrArg (fun d : Device => slice d.dll.pdOut 0 config.pdOutLen) hsame).trans hout

/-- Any number of cycles. -/
theorem cycles_upTo (hcyc : HasCycles config) {s : Session}
    (hstage : stage = .estabCom ∨ stage = .operate) (requests : List CycleRequest)
    (h : UpTo cfg config pdIn stage s.link
      (waitEnvs sched s.link.waits (requests.map fun r => r.frame (masterOf config)))) :
    (∀ resp ∈ (cycleMachine cfg sched (masterOf config)).outputs s requests,
        GoodReply pdIn resp) ∧
      ∀ pre r, pre ++ [r] <+: requests → OutputDelivered config r
        ((cycleMachine cfg sched (masterOf config)).final s (pre ++ [r])).link.device := by
  induction requests generalizing s stage with
  | nil =>
    exact ⟨fun _ hmem => (nomatch hmem), forall_concat_nil⟩
  | cons r requests ih =>
    obtain ⟨hresp, hdev, -, hup⟩ := runCycle_upTo cfg sched hcyc s.state hstage r h
    obtain ⟨hall, hlast⟩ := ih (.inr rfl) hup
    refine ⟨?_, forall_concat_cons hdev hlast⟩
    rw [Machine.outputs_cons, List.forall_mem_cons]
    exact ⟨hresp, hall⟩

/-! ## From `iolink_init` to cyclic operation -/

theorem asleep_iolinkInit (henf : cfg.timingEnforceDefault = false) (config : Config)
    (hasSend : Bool) (nowUs : UInt64) (image : Option ParamsNvm) (store : Store) :
    Asleep cfg (iolinkInit cfg config hasSend nowUs image store) where
  phyMode := rfl
  frameIndex := rfl
  lastActivityMs := rfl
  enforceTiming := henf
  settled := by
    unfold deviceIsduProcess
    rw [isduProcess_of_ne cfg _ (by
      show isduWired.state ≠ .serviceExecute
      decide)]
    rfl

/-- What the master sends after the wake-up. -/
def sessionFrames (config : Config) (requests : List CycleRequest) : List (List UInt8) :=
  generateType0 0x00 0x00 :: generateType0 0x0F 0x00 ::
    requests.map fun r => r.frame (masterOf config)

/-- **From `iolink_init` to cyclic operation.** The timing checks are off and the power-on
    delay is over. However the device's calls fall into the waits of the master and the
    bytes into the calls, as long as the line is never silent for more than a second: the
    first attempt succeeds, master and device are in PREOPERATE, then the device
    establishes communication, and every cycle is answered with a right checksum and
    delivers its output data. -/
theorem startup_end_to_end (henf : cfg.timingEnforceDefault = false) (hcyc : Cyclic config)
    (nowUs : UInt64) (image : Option ParamsNvm) (store : Store) (requests : List CycleRequest)
    (hpow : ∀ env ∈ waitEnvs sched 0 ([0x55] :: sessionFrames config requests),
      config.tPdUs > 0 → nowUs + config.tPdUs.toUInt64 ≤ env.tPdUs)
    (hheard : HeardRun 0 (waitEnvs sched 1 (sessionFrames config requests))) :
    let m := masterOf config
    let up := Session.runStartupSequence cfg sched
      ⟨.startup, ⟨iolinkInit cfg config true nowUs image store, [], [], 0⟩⟩
    let s := up.2.goToOperate cfg sched
    (up.1 = true ∧ up.2.link.waits = 2 ∧ up.2.state = .preoperate ∧
        up.2.link.device.dll.state = .preoperate) ∧
      (s.state = .operate ∧ s.link.device.dll.state = .estabCom) ∧
      (∀ resp ∈ (cycleMachine cfg sched m).outputs s requests,
        GoodReply (List.replicate config.pdInLen 0) resp) ∧
      ∀ pre r, pre ++ [r] <+: requests →
        OutputDelivered config r ((cycleMachine cfg sched m).final s (pre ++ [r])).link.device := by
  intro m up s
  have hpowered : ∀ env ∈ waitEnvs sched 0 ([0x55] :: sessionFrames config requests),
      dllTPdActive (iolinkInit cfg config true nowUs image store).dll env.tPdUs = false := by
    intro env hmem
    show (decide ((if config.tPdUs > 0 then nowUs + config.tPdUs.toUInt64 else 0) ≠ 0) &&
      decide (env.tPdUs < if config.tPdUs > 0 then nowUs + config.tPdUs.toUInt64 else 0)) = false
    split_ifs with hpd
    · rw [decide_eq_false (UInt64.not_lt.mpr (hpow env hmem hpd)), Bool.and_false]
    · rfl
  have hzero : slice (fun _ => (0 : UInt8)) 0 config.pdInLen = List.replicate config.pdInLen 0 := by
    show (List.range config.pdInLen).map (Function.const ℕ 0) = _
    rw [List.map_const, List.length_range]
  have hwoken : AtStage config (List.replicate config.pdInLen 0) .awaitingComm
      (iolinkInit cfg config true nowUs image store).woken.dll :=
    ⟨rfl, rfl, rfl, rfl, rfl, rfl, rfl, rfl, hzero⟩
  obtain ⟨hok, hstate, hwaits, hup⟩ := startup_upTo cfg sched .startup
    (l := ⟨iolinkInit cfg config true nowUs image store, [], [], 0⟩)
    (asleep_iolinkInit cfg henf config true nowUs image store) rfl rfl hwoken hpowered hheard
  have hs := goToOperate_upTo cfg sched up.2.state hup
  obtain ⟨hall, hlast⟩ := cycles_upTo cfg sched hcyc.hasCycles (s := s) (.inl rfl) requests hs
  exact ⟨⟨hok, hwaits, hstate, hup.deviceState⟩, ⟨rfl, hs.deviceState⟩, hall, hlast⟩

end Session

/-- A call for each byte and one before them, with all clocks at zero. -/
def bytewise : Schedule where
  polls _ bytes := ([] :: bytes.map fun b => [b]).map fun part =>
    ⟨⟨0, 0, 0, 0, 0, fun _ b => timelessByte b, fun _ _ => rfl⟩, part⟩
  delivers _ bytes := by
    rw [List.flatMap_map, List.flatMap_cons, List.flatMap_map]
    exact List.flatMap_singleton' bytes

/-- Clocks that stand at zero see no silence. -/
theorem heardRun_still {envs : List CallEnv} (h : ∀ env ∈ envs, ∀ rx ∈ env.rx, rx.nowMs = 0) :
    HeardRun 0 envs := by
  induction envs with
  | nil => trivial
  | cons env envs ih =>
    have hlast : (Call.process env).lastMs 0 = 0 := by
      show (env.rx.getLast?.map RxByte.nowMs).getD 0 = 0
      cases hrx : env.rx.getLast? with
      | none => rfl
      | some rx => exact h env List.mem_cons_self rx (List.mem_of_getLast? hrx)
    refine ⟨.inl rfl, ?_⟩
    rw [hlast]
    exact ih fun e he => h e (List.mem_cons_of_mem _ he)

theorem heardRun_bytewise (k : ℕ) (frames : List (List UInt8)) :
    HeardRun 0 (waitEnvs bytewise k frames) := by
  apply heardRun_still
  induction frames generalizing k with
  | nil => exact fun _ hmem => (nomatch hmem)
  | cons frame frames ih =>
    intro env hmem rx hrx
    rcases List.mem_append.mp hmem with hnow | hlater
    · obtain ⟨p, hp, rfl⟩ := List.mem_map.mp hnow
      obtain ⟨part, -, rfl⟩ := List.mem_map.mp hp
      obtain ⟨x, -, rfl⟩ := List.mem_map.mp hrx
      rfl
    · exact ih (k + 1) env hlater rx hrx

theorem startup_end_to_end_bytewise :
    let up := Session.runStartupSequence {} bytewise
      ⟨.startup, ⟨iolinkInit {} (sampleConfig .type11) true 0 none storeInit, [], [], 0⟩⟩
    up.1 = true ∧ OutputDelivered (sampleConfig .type11) ⟨some [0x5A], 0x80, 0x00, 0x3C⟩
      ((cycleMachine {} bytewise (masterOf (sampleConfig .type11))).final
        (up.2.goToOperate {} bytewise) [⟨some [0x5A], 0x80, 0x00, 0x3C⟩]).link.device := by
  have hcyc : Cyclic (sampleConfig .type11) := ⟨⟨by decide, by decide⟩, by decide⟩
  have h := startup_end_to_end {} bytewise rfl hcyc 0 none storeInit
    [⟨some [0x5A], 0x80, 0x00, 0x3C⟩]
    (fun _ _ hpd => absurd hpd (by decide)) (heardRun_bytewise 1 _)
  exact ⟨h.1.1, h.2.2.2 [] _ ⟨[], rfl⟩⟩

end Iolinki
