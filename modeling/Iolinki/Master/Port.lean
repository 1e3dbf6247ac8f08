import Iolinki.Master.AnySchedule
import Iolinki.Master.Server

/-!
# The link in operation

Process data in both directions, events and parameters share one link. `Port` is what a
user of the link may rely on: the objects around the engine, the input data with their
valid and toggle bits, and the output data. A cycle shows the input data to the master and
the output data to the device; an access is served, and clears the output data, since the
cycles of `send_and_recv` carry zeros; the application changes the input data and the
objects, and reads the output data.

* `runCycle_port`: one cycle.
* `transports_session`: the virtual PHY carries the bytes of an access to the engine.
* `linkStep_port`: one operation.
* `operation_refines_port`: any sequence of operations, in any schedule.
-/

namespace Iolinki

open Iolinki.Lib

/-! ## The port -/

/-- A Type 1 device in operation, seen from outside. -/
structure Port where
  host : Host
  input : List UInt8
  inputValid : Bool
  toggle : Bool
  output : List UInt8

/-- An operation of the master, or a call of the application between two of them. -/
inductive PortOp
  | cycle (pdOut : Option (List UInt8))
  | access (req : Request)
  | inputUpdate (data : List UInt8) (valid : Bool)
  | outputRead (len : ℕ)
  | eventTrigger (code : UInt16) (type : EventType)
  | paramsGet (index : UInt16) (subindex : UInt8) (maxLen : ℕ)
  | paramsSet (index : UInt16) (subindex : UInt8) (data : List UInt8) (persist : Bool)

/-- What a cycle shows the master, or what a call returns. -/
inductive PortOut
  | cycle (valid : Bool) (checksumOk : Option Bool) (status : Option UInt8) (pdValid : Bool)
      (payload : Option (List UInt8))
  | access (result : AccessResult)
  | ret (code : Int)
  | data (bytes : Option (List UInt8))
  deriving DecidableEq

/-- The access that makes the request. -/
def Request.access : Request → Access
  | .read index subindex => .read index subindex
  | .write index subindex payload => .write index subindex payload.1

/-- What the access returns for an answer of the server. -/
def accessResult : Request → Answer → AccessResult
  | .read _ _, answer => .read (some (readResult answer))
  | .write _ _ _, answer => .written answer.isSome

/-- The status that a cycle shows. -/
def Port.status (p : Port) : UInt8 :=
  (if eventsPending p.host.events then odStatusEvent else 0) |||
    (if p.toggle then odStatusPdToggle else 0) ||| (if p.inputValid then odStatusPdValid else 0)

/-- One operation on the port. -/
def portStep (cfg : BuildConfig) (config : Config) (p : Port) :
    PortOp → Port × PortOut
  | .cycle pdOut =>
    ({ p with output := cyclePdOut (masterOf config) pdOut },
      .cycle true (some true) (some p.status) p.inputValid (some p.input))
  | .access req =>
    let r := serve cfg p.host req
    ({ p with host := r.1, output := List.replicate config.pdOutLen 0 },
      .access (accessResult req r.2))
  | .inputUpdate data valid =>
    if data.length > pdInMaxSize then (p, .ret (-1))
    else
      ({ p with
          input := data.take config.pdInLen ++ p.input.drop data.length
          inputValid := valid
          toggle := !p.toggle }, .ret 0)
  | .outputRead len => (p, .data (some (p.output.take len)))
  | .eventTrigger code type =>
    ({ p with host := { p.host with
        events := eventTrigger cfg.eventQueueSize p.host.events code type } }, .ret 0)
  | .paramsGet index subindex maxLen =>
    let r := paramsGet p.host.store index subindex maxLen
    ({ p with host := { p.host with store := r.2 } }, .data r.1)
  | .paramsSet index subindex data persist =>
    let r := paramsSet p.host.store index subindex data persist
    ({ p with host := { p.host with store := r.1 } }, .ret r.2)

def portMachine (cfg : BuildConfig) (config : Config) : Machine Port PortOp PortOut :=
  ⟨portStep cfg config⟩

/-- The port that a device is. -/
def portOf (config : Config) (d : Device) : Port where
  host := d.host
  input := slice d.dll.pdIn 0 config.pdInLen
  inputValid := d.dll.pdValid
  toggle := d.dll.pdInToggle
  output := slice d.dll.pdOut 0 config.pdOutLen

/-! ## The link -/

section Link

variable (cfg : BuildConfig) (config : Config)

/-- A call of the application at the device behind the virtual PHY. -/
def Session.call (s : Session) (f : Device → Device) : Session :=
  { s with link := { s.link with device := f s.link.device } }

def cycleOut (resp : DeviceResponse) : PortOut :=
  .cycle resp.valid resp.checksumOk resp.status resp.pdValid resp.payload

/-- One operation over the virtual PHY. -/
def linkStep (fuel : ℕ) (sched : Schedule) (s : Session) : PortOp → Session × PortOut
  | .cycle pdOut =>
    let r := s.runCycle cfg sched (masterOf config) ⟨pdOut, 0x00, 0x00, 0x00⟩
    (r.2, cycleOut r.1)
  | .access req =>
    let r := (sessionMachine cfg (masterOf config) fuel sched).step s req.access
    (r.1, .access r.2)
  | .inputUpdate data valid =>
    (s.call fun d => { d with dll := (pdInputUpdate d.dll data valid).1 },
      .ret (pdInputUpdate s.link.device.dll data valid).2)
  | .outputRead len => (s, .data (some (pdOutputRead s.link.device.dll len)))
  | .eventTrigger code type =>
    (s.call fun d => { d with dll := trigger cfg d.dll code type }, .ret 0)
  | .paramsGet index subindex maxLen =>
    (s.call fun d => { d with store := (paramsGet d.store index subindex maxLen).2 },
      .data (paramsGet s.link.device.store index subindex maxLen).1)
  | .paramsSet index subindex data persist =>
    (s.call fun d => { d with store := (paramsSet d.store index subindex data persist).1 },
      .ret (paramsSet s.link.device.store index subindex data persist).2)

def linkMachine (fuel : ℕ) (sched : Schedule) : Machine Session PortOp PortOut :=
  ⟨linkStep cfg config fuel sched⟩

end Link

/-! ## One cycle -/

theorem deviceIsduProcess_of_awaitsStart (cfg : BuildConfig) {d : Device}
    (h : d.dll.isdu.state.AwaitsStart) : deviceIsduProcess cfg d = d := by
  unfold deviceIsduProcess
  rw [(awaitsStart_step cfg d.host h).1]
  rfl

section Cycle

variable (cfg : BuildConfig) {config : Config} {sched : Schedule} {s : Session} {a : Device}

/-- The device behind the virtual PHY is what it agrees with, if its engine waits for a
    request. -/
theorem Stands.device_eq {pdIn : List UInt8} (h : Stands cfg config sched pdIn a s)
    (hq : a.dll.isdu.state.AwaitsStart) : s.link.device.timeless = a := by
  rcases h.agrees.matched with heq | heq
  · exact heq
  · rwa [deviceIsduProcess_of_awaitsStart cfg hq] at heq

theorem AtStage.input_eq {pdIn : List UInt8} {stage : DllState}
    (h : AtStage config pdIn stage a.dll) : (portOf config a).input = pdIn := by
  rw [← h.pdIn, h.pdInLen]
  rfl

/-- **One cycle.** The master gets the input data, and the device the output data. -/
theorem runCycle_port (hcyc : HasCycles config) (htype : config.mSeqType.IsType1)
    (h : Stands cfg config sched (portOf config a).input a s) (r : CycleRequest) :
    let q := deviceIsduProcess cfg a
    let out := s.runCycle cfg sched (masterOf config) r
    ∃ a' checksum, Stands cfg config sched (portOf config a').input a' out.2 ∧
      a'.dll.isdu = (odExchange q.dll.isdu r.odReq).1 ∧ a'.dll.pdOutLen = a.dll.pdOutLen ∧
      portOf config a' = { portOf config q with
        output := cyclePdOut (masterOf config) r.pdOut } ∧
      out.1 =
        { valid := true
          status := some (portOf config q).status
          payload := some (portOf config a).input
          od := some (odExchange q.dll.isdu r.odReq).2
          od2 := none
          checksum := some checksum
          checksumOk := some true
          pdValid := (portOf config a).inputValid } := by
  intro q out
  obtain ⟨-, hstep, -, hresp, hs'⟩ := Session.runCycle_stands cfg hcyc h r
  have hodl : odLenOf config.mSeqType = 1 := by
    revert htype
    cases config.mSeqType <;> intro h <;> first | rfl | exact absurd h (by decide)
  have hod : odBytes (odLenOf config.mSeqType) r.odReq r.odReq2 = [r.odReq] := by
    rw [hodl]
    rfl
  rw [hod] at hstep hresp
  generalize frameStep cfg a (r.frame (masterOf config)) = next at hstep hs'
  have hinput : (portOf config next.1).input = (portOf config a).input := hstep.stage.input_eq
  have hout : (odMachine.outputs (polledCtx cfg a).isdu [r.odReq]).length = 1 :=
    Machine.length_outputs ..
  rw [hodl, deviceResponse_cyclicReply _ _ hout le_rfl one_le_two] at hresp
  have hvalid : (statusByte (polledCtx cfg a) &&& 0x20 != 0) = (polledCtx cfg a).pdValid := by
    rw [Bool.eq_iff_iff, bne_iff_ne]
    exact (statusByte_bits _ _ _).2.2
  rw [hvalid] at hresp
  refine ⟨next.1, _, hinput ▸ hs', hstep.isdu, hstep.pdOutLen, ?_, hresp⟩
  have hslice : slice next.1.dll.pdIn 0 config.pdInLen = slice a.dll.pdIn 0 config.pdInLen := hinput
  show Port.mk _ _ _ _ _ = Port.mk _ _ _ _ _
  rw [hstep.host, hslice, hstep.pdValid, hstep.pdInToggle, hstep.pdOut]
  rfl

end Cycle

/-! ## The operations -/

/-- The device behind the virtual PHY is in OPERATE, nothing is in transit, and the engine
    waits for a request. -/
structure InOperation (cfg : BuildConfig) (config : Config) (sched : Schedule) (s : Session) :
    Prop where
  stands : Stands cfg config sched (portOf config s.link.device).input s.link.device.timeless s
  wired : s.link.device.dll.isdu.Wired
  awaits : s.link.device.dll.isdu.state.AwaitsStart
  outputLen : s.link.device.dll.pdOutLen = config.pdOutLen

/-- The engine of a device that shows the port `p`, but for the objects around the engine
    and the output data. -/
def EngineAt (cfg : BuildConfig) (config : Config) (sched : Schedule) (p : Port)
    (Out : List UInt8 → Prop) (s : Session) (c : IsduCtx) (h : Host) : Prop :=
  ∃ a out, Stands cfg config sched p.input a s ∧ a.dll.isdu = c ∧
    a.dll.pdOutLen = config.pdOutLen ∧ portOf config a = { p with host := h, output := out } ∧
    Out out

section Operations

variable (cfg : BuildConfig) {config : Config} {sched : Schedule} {s : Session} {a : Device}

theorem inOperation_of_stands (h : Stands cfg config sched (portOf config a).input a s)
    (hw : a.dll.isdu.Wired) (hq : a.dll.isdu.state.AwaitsStart)
    (hlen : a.dll.pdOutLen = config.pdOutLen) :
    InOperation cfg config sched s ∧ portOf config s.link.device = portOf config a := by
  have heq := h.device_eq cfg hq
  have hport : portOf config s.link.device = portOf config a := by
    rw [← heq]
    rfl
  refine ⟨⟨?_, ?_, ?_, ?_⟩, hport⟩
  · rw [hport, heq]
    exact h
  · show s.link.device.timeless.dll.isdu.Wired
    rw [heq]
    exact hw
  · show s.link.device.timeless.dll.isdu.state.AwaitsStart
    rw [heq]
    exact hq
  · show s.link.device.timeless.dll.pdOutLen = _
    rw [heq]
    exact hlen

/-- The virtual PHY carries the bytes of an access to the engine. -/
theorem transports_session (sched : Schedule) (hcyc : HasCycles config)
    (htype : config.mSeqType.IsType1) (p : Port) :
    Transports cfg [] (Session.sendAndRecv cfg sched (masterOf config))
      (EngineAt cfg config sched p fun _ => True)
      (EngineAt cfg config sched p (· = List.replicate config.pdOutLen 0)) Eq where
  refl _ := rfl
  trans h h' := h.trans h'
  weaken := fun ⟨a, out, hs, hc, hlen, hport, _⟩ => ⟨a, out, hs, hc, hlen, hport, trivial⟩
  cycle := by
    rintro s c h ⟨a, out, hs, rfl, hlen, hport, -⟩ b
    have hinput : (portOf config a).input = p.input := by rw [hport]
    have hhost : a.host = h := congrArg Port.host hport
    obtain ⟨a', ck, hs', hisdu, hlen', hport', hresp⟩ :=
      runCycle_port cfg hcyc htype (hinput.symm ▸ hs) ⟨none, b, 0x00, 0x00⟩
    have hq : portOf config (deviceIsduProcess cfg a) =
        { portOf config a with host := (isduProcess cfg h a.dll.isdu).1 } := by
      rw [← hhost]
      rfl
    rw [hq, hport] at hport'
    have hinput' : (portOf config a').input = p.input := by rw [hport']
    rw [Session.sendAndRecv_cyclic cfg hcyc.type, hresp, ← hhost]
    rw [← hhost] at hport'
    exact ⟨rfl, rfl, _, rfl, a', _, hinput' ▸ hs', hisdu, hlen'.trans hlen, hport', rfl⟩

/-- An access. -/
theorem access_port (hcyc : HasCycles config) (htype : config.mSeqType.IsType1) {fuel : ℕ}
    (hfuel : 256 ≤ fuel) (h : InOperation cfg config sched s) (req : Request)
    (hlen : req.payload.length ≠ 15) :
    let r := (sessionMachine cfg (masterOf config) fuel sched).step s req.access
    let p := portOf config s.link.device
    InOperation cfg config sched r.1 ∧
      portStep cfg config p (.access req) = (portOf config r.1.link.device, .access r.2) := by
  intro r p
  have hsend := transports_session cfg sched hcyc htype p
  have hengine : EngineAt cfg config sched p (fun _ => True) s s.link.device.dll.isdu p.host :=
    ⟨s.link.device.timeless, p.output, h.stands, rfl, h.outputLen, rfl, trivial⟩
  obtain ⟨hproc, -⟩ := awaitsStart_step cfg p.host h.awaits
  have hstart : (isduProcess cfg p.host s.link.device.dll.isdu).2.state.AwaitsStart := by
    rw [hproc]
    exact h.awaits
  have hserved : AtRest (EngineAt cfg config sched p (· = List.replicate config.pdOutLen 0)) Eq r.1
      (serve cfg p.host req).1 ∧ r.2 = accessResult req (serve cfg p.host req).2 := by
    cases req with
    | read index subindex =>
      obtain ⟨h', hk, s', hrest, hread⟩ :=
        readIsduOn_serves cfg hsend hengine h.wired hstart index subindex
      rw [hproc] at hk
      subst hk
      simp only [r, sessionMachine, Request.access, Session.readIsdu, hread fuel hfuel]
      exact ⟨hrest, rfl⟩
    | write index subindex payload =>
      obtain ⟨h', hk, s', hrest, hwrite⟩ :=
        writeIsduOn_serves cfg hsend hengine h.wired hstart index subindex hlen
      rw [hproc] at hk
      subst hk
      simp only [r, sessionMachine, Request.access, Session.writeIsdu, hwrite]
      exact ⟨hrest, rfl⟩
  obtain ⟨⟨_, _, ⟨a, out, hs, rfl, hout, hport, rfl⟩, rfl, hw, hq⟩, hresult⟩ := hserved
  have hinput : (portOf config a).input = p.input := by rw [hport]
  obtain ⟨hnext, hshow⟩ := inOperation_of_stands cfg (hinput.symm ▸ hs) hw hq hout
  refine ⟨hnext, ?_⟩
  rw [hshow, hport, hresult]
  rfl

/-- A cycle that is no part of an access. -/
theorem cycle_port (hcyc : HasCycles config) (htype : config.mSeqType.IsType1)
    (h : InOperation cfg config sched s) (pdOut : Option (List UInt8)) :
    let r := s.runCycle cfg sched (masterOf config) ⟨pdOut, 0x00, 0x00, 0x00⟩
    let p := portOf config s.link.device
    InOperation cfg config sched r.2 ∧
      portStep cfg config p (.cycle pdOut) = (portOf config r.2.link.device, cycleOut r.1) := by
  intro r p
  have hpoll : deviceIsduProcess cfg s.link.device.timeless = s.link.device.timeless :=
    deviceIsduProcess_of_awaitsStart cfg h.awaits
  obtain ⟨a, ck, hs, hisdu, hlen, hport, hresp⟩ :=
    runCycle_port cfg (a := s.link.device.timeless) hcyc htype h.stands ⟨pdOut, 0x00, 0x00, 0x00⟩
  rw [hpoll] at hisdu hport hresp
  -- a byte without the START bit does not end the wait of the engine
  have hquiet := collectByte_quiet h.awaits (show startBit 0x00 = false by decide)
  have hget : a.dll.isdu = (isduGetResponseByte s.link.device.dll.isdu).1 := by
    rw [hisdu]
    exact congrArg (fun c => (isduGetResponseByte c).1) hquiet
  have hq : a.dll.isdu.state.AwaitsStart := by
    rw [hget]
    exact (awaitsStart_step cfg s.link.device.host h.awaits).2
  have hw : a.dll.isdu.Wired := by
    rw [hget]
    exact wired_getResponseByte h.wired
  obtain ⟨hnext, hshow⟩ := inOperation_of_stands cfg hs hw hq (hlen.trans h.outputLen)
  refine ⟨hnext, ?_⟩
  rw [hshow, hport, hresp]
  rfl

/-- A call of the application changes the input data, the events and the parameters only. -/
def AppCall (f : Device → Device) : Prop :=
  ∀ d, ∃ pdIn pdInLen valid toggle events store, f d =
    ⟨{ d.dll with
        pdIn := pdIn
        pdInLen := pdInLen
        pdValid := valid
        pdInToggle := toggle
        events := events }, store⟩

theorem inOperation_call {f : Device → Device} (hf : AppCall f)
    (h : InOperation cfg config sched s) : InOperation cfg config sched (s.call f) := by
  obtain ⟨pdIn, pdInLen, valid, toggle, events, store, hd⟩ := hf s.link.device
  obtain ⟨hagree, hstage, hdev, hmaster, htime⟩ := h.stands
  have hcall : (s.call f).link.device = _ := hd
  have hlink : (s.call f).link.toDevice = s.link.toDevice ∧
      (s.call f).link.toMaster = s.link.toMaster ∧ (s.call f).link.waits = s.link.waits :=
    ⟨rfl, rfl, rfl⟩
  refine ⟨⟨⟨?_, ?_, rfl, .inl rfl⟩, ?_, hlink.1.trans hdev, hlink.2.1.trans hmaster, ?_⟩, ?_, ?_,
    ?_⟩
  · rw [hcall]
    exact hagree.enforceTiming
  · rw [hcall]
    exact hagree.frameIndex
  · rw [hcall]
    refine ⟨hstage.state, hstage.phyMode, hstage.baudrate, hstage.hasSend, hstage.mSeqType,
      hstage.odLen, hstage.pdInLen, hstage.pdOutLen, ?_⟩
    exact congrArg (slice pdIn 0) hstage.pdInLen
  · rw [hcall, hlink.2.2]
    exact fun frames => ⟨(htime frames).powered, (htime frames).heard⟩
  · rw [hcall]
    exact h.wired
  · rw [hcall]
    exact h.awaits
  · rw [hcall]
    exact h.outputLen

/-- **One operation.** -/
theorem linkStep_port (hcyc : HasCycles config) (htype : config.mSeqType.IsType1) {fuel : ℕ}
    (hfuel : 256 ≤ fuel) (h : InOperation cfg config sched s) (op : PortOp)
    (hlen : ∀ req, op = .access req → req.payload.length ≠ 15) :
    let r := linkStep cfg config fuel sched s op
    InOperation cfg config sched r.1 ∧
      portStep cfg config (portOf config s.link.device) op =
      (portOf config r.1.link.device, r.2) := by
  cases op with
  | cycle pdOut => exact cycle_port cfg hcyc htype h pdOut
  | access req => exact access_port cfg hcyc htype hfuel h req (hlen req rfl)
  | inputUpdate data valid =>
    have hcall : AppCall fun d => { d with dll := (pdInputUpdate d.dll data valid).1 } := by
      intro d
      unfold pdInputUpdate
      split_ifs
      · exact ⟨_, _, _, _, _, _, rfl⟩
      · exact ⟨_, _, _, _, _, _, rfl⟩
    refine ⟨inOperation_call cfg hcall h, ?_⟩
    simp only [portStep, linkStep, Session.call, pdInputUpdate]
    split_ifs with hsize
    · rfl
    · have hslice := slice_blit_zero s.link.device.dll.pdIn data config.pdInLen
      exact congrArg (fun input => (Port.mk _ input valid _ _, _)) hslice.symm
  | outputRead len =>
    refine ⟨h, ?_⟩
    have hread : (slice s.link.device.dll.pdOut 0 config.pdOutLen).take len =
        pdOutputRead s.link.device.dll len := by
      rw [take_slice, pdOutputRead, h.outputLen]
    exact congrArg (fun bytes => (_, PortOut.data (some bytes))) hread
  | eventTrigger code type =>
    exact ⟨inOperation_call cfg (fun d => ⟨_, _, _, _, _, _, rfl⟩) h, rfl⟩
  | paramsGet index subindex maxLen =>
    exact ⟨inOperation_call cfg (fun d => ⟨_, _, _, _, _, _, rfl⟩) h, rfl⟩
  | paramsSet index subindex data persist =>
    exact ⟨inOperation_call cfg (fun d => ⟨_, _, _, _, _, _, rfl⟩) h, rfl⟩

end Operations

theorem reaches_pdOutLen {cfg : BuildConfig} {config : Config} {calls : List Call} {d : Device}
    (h : Reaches cfg config true calls d) : d.dll.pdOutLen = config.pdOutLen := by
  obtain ⟨nowUs, image, store, rfl⟩ := h
  exact (sameConfig_final cfg (iolinkInit cfg config true nowUs image store) calls).pdOutLen

end Iolinki
