import Iolinki.Master.Startup
import Iolinki.Master.WriteResult

/-!
# Parameter access in any schedule

`Master/Model.lean` lets the device make one call of `iolink_process` in each cycle of the
master. Over the virtual PHY the device makes any number of calls while the master waits,
and a frame reaches it in pieces. The master cannot tell the two apart: with the timing
checks off, `read_isdu` and `write_isdu` return the same over both links.

`read_isdu` and `write_isdu` see the link only through `send_and_recv`, and over two links
on which that gives the same responses they give the same results.

* `readIsduOn_rel`, `writeIsduOn_rel`: related links.
* `sendAndRecv_alongside`: one cycle over both links.
* `accesses_any_schedule`: any number of accesses.
-/

namespace Iolinki

open Iolinki.Lib

/-! ## Related links -/

section Related

variable {L L' : Type} {send : L → UInt8 → Option DeviceResponse × L}
variable {send' : L' → UInt8 → Option DeviceResponse × L'}

/-- The same result, and related links. -/
def SameOn {α : Type} (R : L → L' → Prop) (r : α × L) (r' : α × L') : Prop :=
  r.1 = r'.1 ∧ R r.2 r'.2

theorem sameOn_map_some {R : L → L' → Prop} {r : Option (List UInt8 × L)}
    {r' : Option (List UInt8 × L')} (h : Option.Rel (SameOn R) r r') :
    Option.Rel (SameOn R) (r.map fun x => (some x.1, x.2)) (r'.map fun x => (some x.1, x.2)) := by
  cases h with
  | some hsame => exact .some ⟨congrArg some hsame.1, hsame.2⟩
  | none => exact .none

variable {R : L → L' → Prop} (hsend : ∀ l l' b, R l l' → SameOn R (send l b) (send' l' b))

include hsend

theorem sendRequestOn_rel {l : L} {l' : L'} (h : R l l') (bytes : List UInt8) :
    SameOn R (sendRequestOn send l bytes) (sendRequestOn send' l' bytes) := by
  induction bytes generalizing l l' with
  | nil => exact ⟨rfl, h⟩
  | cons b bytes ih =>
    obtain ⟨hresp, hnext⟩ := hsend l l' b h
    unfold sendRequestOn
    dsimp only
    rw [hresp]
    split_ifs
    · exact ih hnext
    · exact ⟨rfl, hnext⟩

theorem pollControlOn_rel {l : L} {l' : L'} (h : R l l') (retries : ℕ) :
    SameOn R (pollControlOn send l retries) (pollControlOn send' l' retries) := by
  induction retries generalizing l l' with
  | zero => exact ⟨rfl, h⟩
  | succ retries ih =>
    obtain ⟨hresp, hnext⟩ := hsend l l' 0x00 h
    unfold pollControlOn
    dsimp only
    rw [hresp]
    split_ifs
    · exact ⟨rfl, hnext⟩
    · exact ih hnext

theorem captureDataOn_rel {l : L} {l' : L'} (h : R l l') (dataBytes : List UInt8) (isLast : Bool)
    (fuel : ℕ) :
    Option.Rel (SameOn R) (captureDataOn send l dataBytes isLast fuel)
      (captureDataOn send' l' dataBytes isLast fuel) := by
  induction fuel generalizing l l' dataBytes isLast with
  | zero => exact .none
  | succ fuel ih =>
    obtain ⟨hresp, hnext⟩ := hsend l l' 0x00 h
    obtain ⟨hresp', hnext'⟩ := hsend _ _ 0x00 hnext
    unfold captureDataOn
    dsimp only
    rw [hresp, hresp']
    split_ifs
    · exact .some ⟨rfl, hnext⟩
    · exact .some ⟨rfl, hnext⟩
    · exact .some ⟨rfl, hnext'⟩
    · exact ih hnext' _ _

/-- **`read_isdu` over related links.** -/
theorem readIsduOn_rel {l : L} {l' : L'} (h : R l l') (fuel : ℕ) (index : UInt16)
    (subindex : UInt8) :
    Option.Rel (SameOn R) (readIsduOn send fuel l index subindex)
      (readIsduOn send' fuel l' index subindex) := by
  obtain ⟨hreq, hasked⟩ := sendRequestOn_rel hsend h (generateIsduReadV11 index subindex 0x80)
  obtain ⟨hctrl, hpolled⟩ := pollControlOn_rel hsend hasked maxRetries
  unfold readIsduOn
  dsimp only
  rw [hreq, hctrl]
  split_ifs
  · exact .some ⟨rfl, hasked⟩
  · exact .some ⟨rfl, hpolled⟩
  · exact .some ⟨rfl, hpolled⟩
  · exact sameOn_map_some (captureDataOn_rel hsend hpolled [] _ fuel)

/-- **`write_isdu` over related links.** -/
theorem writeIsduOn_rel {l : L} {l' : L'} (h : R l l') (index : UInt16) (subindex : UInt8)
    (data : List UInt8) :
    SameOn R (writeIsduOn send l index subindex data)
    (writeIsduOn send' l' index subindex data) := by
  obtain ⟨hreq, hasked⟩ := sendRequestOn_rel hsend h (writeInterleaved index subindex data)
  obtain ⟨hctrl, hpolled⟩ := pollControlOn_rel hsend hasked maxRetries
  unfold writeIsduOn
  dsimp only
  rw [hreq, hctrl]
  split_ifs
  · exact ⟨rfl, hasked⟩
  · exact ⟨rfl, hpolled⟩

end Related

/-! ## Over the virtual PHY -/

section Virtual

variable (cfg : BuildConfig) (sched : Schedule) (m : Master)

/-- `send_and_recv` of `read_isdu` and `write_isdu` (lines 190–197 and 432–439). -/
def Session.sendAndRecv (s : Session) (byteToSend : UInt8) : Option DeviceResponse × Session :=
  if m.mSeqType = .type0 then
    let e := s.link.exchange cfg sched (generateType0 byteToSend 0x00) 2
    (e.1.map fun data => deviceResponse data 1, { s with link := e.2 })
  else
    let r := s.runCycle cfg sched m ⟨none, byteToSend, 0x00, 0x00⟩
    (some r.1, r.2)

/-- `VirtualMaster.read_isdu` over the virtual PHY. -/
def Session.readIsdu (fuel : ℕ) (s : Session) (index : UInt16) (subindex : UInt8) :
    Option (Option (List UInt8) × Session) :=
  readIsduOn (Session.sendAndRecv cfg sched m) fuel s index subindex

/-- `VirtualMaster.write_isdu` over the virtual PHY. -/
def Session.writeIsdu (s : Session) (index : UInt16) (subindex : UInt8) (data : List UInt8) :
    Bool × Session :=
  writeIsduOn (Session.sendAndRecv cfg sched m) s index subindex data

end Virtual

/-- Nothing is in transit over the virtual PHY, and the device agrees with the state `a` of
    the machine on frames. -/
structure Stands (cfg : BuildConfig) (config : Config) (sched : Schedule) (pdIn : List UInt8)
    (a : Device) (s : Session) : Prop where
  agrees : Agrees cfg a s.link.device
  stage : AtStage config pdIn .operate a.dll
  toDevice : s.link.toDevice = []
  toMaster : s.link.toMaster = []
  timely : ∀ frames, OnTimeRun s.link.device.dll (waitEnvs sched s.link.waits frames)

/-- The two links stand at the same point: their devices agree with one state of the
    machine on frames. -/
structure Alongside (cfg : BuildConfig) (config : Config) (clocks : Clocks) (sched : Schedule)
    (l : Link) (s : Session) : Prop where
  ready : Ready config clocks l
  same : ∃ a pdIn, Agrees cfg a l.device ∧ Stands cfg config sched pdIn a s

section Alongside

variable (cfg : BuildConfig) {config : Config} {clocks : Clocks} {sched : Schedule}
variable {l : Link} {s : Session} {a : Device} {frame : List UInt8}

/-- A frame in one call. -/
theorem exchange_agrees (hquiet : ∀ k bytes, QuietCall (clocks.env k bytes))
    (hready : Ready config clocks l) (h : Agrees cfg a l.device) (hfit : FrameFits a frame)
    (count : ℕ) :
    let e := l.exchange cfg clocks frame count
    e.1 = (recvBytes count ((frameStep cfg a frame).2.getD [])).1 ∧
      Agrees cfg (frameStep cfg a frame).1 e.2.device := by
  have harrive : Arrives frame [clocks.env l.cycle frame] := by
    refine ⟨?_, fun env hmem => ?_⟩
    · rw [List.flatMap_singleton]
      exact clocks.delivers l.cycle frame
    · rw [List.mem_singleton.mp hmem]
      exact hquiet l.cycle frame
  have htime : OnTimeRun l.device.dll ([clocks.env l.cycle frame] ++ []) := by
    refine ⟨fun env hmem => ?_, hready.paced.first frame, trivial⟩
    rw [List.append_nil, List.mem_singleton] at hmem
    rw [hmem]
    exact hready.paced.powered l.cycle le_rfl frame
  obtain ⟨hnext, houts, -⟩ := h.arrival hfit harrive htime
  obtain ⟨hsent, -⟩ := Prod.mk.inj houts
  have hreply : (iolinkProcess cfg l.device (clocks.env l.cycle frame)).2.sent =
      (frameStep cfg a frame).2.toList := by
    rw [← hsent]
    exact (List.append_nil _).symm
  have hflat : ((frameStep cfg a frame).2.toList).flatten = (frameStep cfg a frame).2.getD [] := by
    cases (frameStep cfg a frame).2 with
    | none => rfl
    | some reply => exact List.append_nil reply
  intro e
  refine ⟨?_, ?_⟩
  · show (recvBytes count (l.toMaster ++
      (iolinkProcess cfg l.device (clocks.env l.cycle (l.toDevice ++ frame))).2.sent.flatten)).1 = _
    rw [hready.toMaster, hready.toDevice, List.nil_append, List.nil_append, hreply, hflat]
  · show Agrees cfg _ (iolinkProcess cfg l.device (clocks.env l.cycle (l.toDevice ++ frame))).1
    rw [hready.toDevice, List.nil_append]
    exact hnext

/-- The frame of `send_and_recv`. -/
def accessFrame (config : Config) (b : UInt8) : List UInt8 :=
  CycleRequest.frame (masterOf config) ⟨none, b, 0x00, 0x00⟩

/-- The bytes that `send_and_recv` expects. -/
def accessCount (config : Config) : ℕ := 1 + config.pdInLen + odLenOf config.mSeqType + 1

theorem sendAndRecv_of_exchange (htype : config.mSeqType ≠ .type0) {b : UInt8} {reply : List UInt8}
    (hgot : (l.exchange cfg clocks (accessFrame config b) (accessCount config)).1 = some reply) :
    sendAndRecv cfg clocks (masterOf config) l b =
      (some (deviceResponse reply (odLenOf config.mSeqType)),
        (l.exchange cfg clocks (accessFrame config b) (accessCount config)).2) := by
  have htype' : (masterOf config).mSeqType ≠ .type0 := htype
  have hodl : (masterOf config).odLen = odLenOf config.mSeqType := getOdLen_eq config.mSeqType
  have hframe : generateType1 (odLenOf config.mSeqType) 0x00 0x00
      (cyclePdOut (masterOf config) none) b 0x00 = accessFrame config b := by
    rw [← hodl]
    rfl
  have hcount : 1 + (masterOf config).pdInLen + odLenOf config.mSeqType + 1 =
      accessCount config := rfl
  simp only [sendAndRecv, runCycle, if_neg htype', hframe, hcount, hgot, Option.getD_some, hodl]

/-- The device has made its step on a frame, and the master has taken what was sent. -/
theorem Stands.sent {pdIn : List UInt8} (h : Stands cfg config sched pdIn a s)
    (hfit : FrameFits a frame)
    (hstage : AtStage config pdIn .operate (frameStep cfg a frame).1.dll) :
    Stands cfg config sched pdIn (frameStep cfg a frame).1
      ⟨s.state, { s.link.send cfg sched frame with toMaster := [] }⟩ := by
  obtain ⟨hagree, hqueue, -⟩ :=
    send_frame cfg sched h.agrees h.toDevice hfit (h.timely [frame])
  refine ⟨hagree, hstage, hqueue, rfl, fun frames => ?_⟩
  obtain ⟨-, -, -, hwaits, hmore⟩ :=
    send_frame cfg sched h.agrees h.toDevice hfit (h.timely (frame :: frames))
  show OnTimeRun _ (waitEnvs sched (s.link.send cfg sched frame).waits frames)
  rw [hwaits]
  exact hmore

/-- **One cycle over the virtual PHY.** The device makes one step on the frame, and the
    master gets the reply. -/
theorem Session.runCycle_stands (hcyc : HasCycles config) {pdIn : List UInt8}
    (h : Stands cfg config sched pdIn a s) (r : CycleRequest) :
    let frame := r.frame (masterOf config)
    let od := odBytes (odLenOf config.mSeqType) r.odReq r.odReq2
    let reply := cyclicReply (statusByte (polledCtx cfg a)) pdIn
      (odMachine.outputs (polledCtx cfg a).isdu od)
    let out := s.runCycle cfg sched (masterOf config) r
    FrameFits a frame ∧
      CyclicStep cfg config pdIn a (cyclePdOut (masterOf config) r.pdOut) od
        (frameStep cfg a frame) ∧
      reply.length = accessCount config ∧
      out.1 = deviceResponse reply (odLenOf config.mSeqType) ∧
      Stands cfg config sched pdIn (frameStep cfg a frame).1 out.2 := by
  intro frame od reply out
  have hpd : (cyclePdOut (masterOf config) r.pdOut).length = config.pdOutLen :=
    length_cyclePdOut (masterOf config) r.pdOut
  have hod : od.length = odLenOf config.mSeqType := length_odBytes _ _ _
  have hfit : FrameFits a frame := by
    rw [show frame = _ from frame_eq config r]
    exact cyclic_fits h.stage (.inr rfl) hcyc hpd hod
  have hstep : CyclicStep cfg config pdIn a (cyclePdOut (masterOf config) r.pdOut) od
      (frameStep cfg a frame) := by
    rw [show frame = _ from frame_eq config r]
    exact cyclic_accepted cfg h.stage (.inr rfl) h.agrees.enforceTiming hpd hod
  have hcount : reply.length = accessCount config := by
    have hpdIn : pdIn.length = config.pdInLen := by
      rw [← h.stage.pdIn, length_slice, h.stage.pdInLen]
    simp only [reply, cyclicReply, List.length_append, List.length_cons, List.length_nil,
      Machine.length_outputs, hod, hpdIn, accessCount]
    omega
  obtain ⟨-, -, hsent, -⟩ :=
    send_frame cfg sched h.agrees h.toDevice hfit (h.timely [frame])
  rw [h.toMaster, hstep.reply] at hsent
  have hrecv : recvBytes (accessCount config) (s.link.send cfg sched frame).toMaster =
      (some reply, []) := by
    rw [hsent]
    exact recvBytes_length hcount
  have hexch : s.link.exchange cfg sched frame (accessCount config) =
      (some reply, { s.link.send cfg sched frame with toMaster := [] }) := by
    unfold VirtualLink.exchange
    dsimp only
    rw [hrecv]
  have hout : out = (deviceResponse reply (odLenOf config.mSeqType),
      ⟨s.state, { s.link.send cfg sched frame with toMaster := [] }⟩) := by
    have htype : (masterOf config).mSeqType ≠ .type0 := hcyc.type
    have hodl : (masterOf config).odLen = odLenOf config.mSeqType := getOdLen_eq config.mSeqType
    have hlen : 1 + (masterOf config).pdInLen + odLenOf config.mSeqType + 1 =
        accessCount config := rfl
    simp only [out, Session.runCycle, if_neg htype, hodl, hlen]
    rw [show r.frame (masterOf config) = frame from rfl, hexch]
    rfl
  rw [hout]
  exact ⟨hfit, hstep, hcount, rfl, h.sent cfg hfit hstep.stage⟩

theorem Session.sendAndRecv_cyclic (htype : config.mSeqType ≠ .type0) (b : UInt8) :
    s.sendAndRecv cfg sched (masterOf config) b =
      (some (s.runCycle cfg sched (masterOf config) ⟨none, b, 0x00, 0x00⟩).1,
        (s.runCycle cfg sched (masterOf config) ⟨none, b, 0x00, 0x00⟩).2) :=
  if_neg htype

/-- **One cycle over both links.** -/
theorem sendAndRecv_alongside (hcyc : HasCycles config)
    (hquiet : ∀ k bytes, QuietCall (clocks.env k bytes)) (l : Link) (s : Session) (b : UInt8)
    (h : Alongside cfg config clocks sched l s) :
    SameOn (Alongside cfg config clocks sched) (sendAndRecv cfg clocks (masterOf config) l b)
      (Session.sendAndRecv cfg sched (masterOf config) s b) := by
  obtain ⟨a, pdIn, hl, hs⟩ := h.same
  obtain ⟨hfit, hstep, hcount, hresp, hs'⟩ :=
    Session.runCycle_stands cfg hcyc hs ⟨none, b, 0x00, 0x00⟩
  obtain ⟨hgot, hl'⟩ := exchange_agrees cfg hquiet h.ready hl hfit (accessCount config)
  rw [hstep.reply, Option.getD_some, recvBytes_length hcount] at hgot
  have hlink := sendAndRecv_of_exchange cfg hcyc.type hgot
  have hready := (sendAndRecv_cycled cfg hcyc h.ready b).ready
  rw [hlink] at hready ⊢
  rw [Session.sendAndRecv_cyclic cfg hcyc.type]
  exact ⟨congrArg some hresp.symm, ⟨hready, ⟨_, pdIn, hl', hs'⟩⟩⟩

end Alongside

/-! ## Any number of accesses -/

/-- A call of `read_isdu` or `write_isdu`. -/
inductive Access
  | read (index : UInt16) (subindex : UInt8)
  | write (index : UInt16) (subindex : UInt8) (data : List UInt8)
  deriving DecidableEq, Repr

/-- What it returns; a read whose loop is still running has no result. -/
inductive AccessResult
  | read (result : Option (Option (List UInt8)))
  | written (ok : Bool)
  deriving DecidableEq, Repr

section Accesses

variable (cfg : BuildConfig) (m : Master) (fuel : ℕ)

/-- Accesses one after the other, over the link with one call for each cycle. -/
def accessMachine (clocks : Clocks) : Machine Link Access AccessResult where
  step
  | l, .read index subindex =>
    match readIsdu cfg clocks m fuel l index subindex with
    | some r => (r.2, .read (some r.1))
    | none => (l, .read none)
  | l, .write index subindex data =>
    let r := writeIsdu cfg clocks m l index subindex data
    (r.2, .written r.1)

/-- Accesses one after the other, over the virtual PHY. -/
def sessionMachine (sched : Schedule) : Machine Session Access AccessResult where
  step
  | s, .read index subindex =>
    match s.readIsdu cfg sched m fuel index subindex with
    | some r => (r.2, .read (some r.1))
    | none => (s, .read none)
  | s, .write index subindex data =>
    let r := s.writeIsdu cfg sched m index subindex data
    (r.2, .written r.1)

end Accesses

/-- One access over both links. -/
theorem access_alongside (cfg : BuildConfig) {config : Config} {clocks : Clocks} {sched : Schedule}
    (hcyc : HasCycles config) (hquiet : ∀ k bytes, QuietCall (clocks.env k bytes)) (fuel : ℕ)
    {l : Link} {s : Session} (h : Alongside cfg config clocks sched l s) (access : Access) :
    let r := (accessMachine cfg (masterOf config) fuel clocks).step l access
    let r' := (sessionMachine cfg (masterOf config) fuel sched).step s access
    Alongside cfg config clocks sched r.1 r'.1 ∧ r.2 = r'.2 := by
  have hsend : ∀ l s b, Alongside cfg config clocks sched l s →
      SameOn (Alongside cfg config clocks sched) (sendAndRecv cfg clocks (masterOf config) l b)
        (Session.sendAndRecv cfg sched (masterOf config) s b) :=
    sendAndRecv_alongside cfg hcyc hquiet
  cases access with
  | read index subindex =>
    have hread := readIsduOn_rel hsend h fuel index subindex
    change Option.Rel _ (readIsdu cfg clocks (masterOf config) fuel l index subindex)
      (s.readIsdu cfg sched (masterOf config) fuel index subindex) at hread
    simp only [accessMachine, sessionMachine]
    generalize readIsdu cfg clocks (masterOf config) fuel l index subindex = r at hread ⊢
    generalize s.readIsdu cfg sched (masterOf config) fuel index subindex = r' at hread ⊢
    cases hread with
    | some hsame => exact ⟨hsame.2, congrArg (fun x => AccessResult.read (some x)) hsame.1⟩
    | none => exact ⟨h, rfl⟩
  | write index subindex data =>
    obtain ⟨hok, hnext⟩ := writeIsduOn_rel hsend h index subindex data
    simp only [accessMachine, sessionMachine]
    exact ⟨hnext, congrArg AccessResult.written hok⟩

/-- A started device whose clocks stand at zero hears no silence. -/
theorem onTimeRun_startedDevice (frames : List (List UInt8)) :
    OnTimeRun (startedDevice .type11).dll (waitEnvs bytewise 0 frames) := by
  have hms : (startedDevice .type11).dll.lastActivityMs = 0 := by decide +kernel
  have hpd : (startedDevice .type11).dll.tPdDeadlineUs = 0 := by decide +kernel
  refine ⟨fun env _ => by simp [dllTPdActive, hpd], ?_⟩
  rw [hms]
  exact heardRun_bytewise 0 frames

end Iolinki
