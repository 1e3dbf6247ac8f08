import Iolinki.Dll.LinkStates
import Iolinki.Lib.Streak
import Iolinki.Master.AnySchedule

/-!
# Cycles with wrong checksums

`run_cycle_bad_crc` inverts the checksum of a cyclic frame, and `inject_sio_fallback` does
so several times in a row. A device in OPERATE refuses such a frame: it sends nothing,
counts the error and keeps its process data. The third one in a row puts it in SIO mode.

* `cyclic_refused`: the frame.
* `Session.runCycleBadCrc_stands`: the cycle, in any schedule.
* `cycles_with_faults`: cycles of both sorts in any order.
* `injected_errors`: `inject_sio_fallback`.
-/

namespace Iolinki

open Iolinki.Lib

/-! ## `master.py` -/

/-- `frame[-1] ^= 0xFF` -/
def invertLast (frame : List UInt8) : List UInt8 :=
  frame.dropLast ++ frame.getLast?.toList.map (· ^^^ 0xFF)

/-- A call of `run_cycle`, or of `run_cycle_bad_crc` with the same arguments. -/
structure FaultyCycle where
  request : CycleRequest
  corrupt : Bool

section Master

variable (cfg : BuildConfig) (sched : Schedule) (m : Master)

/-- The output data of `run_cycle_bad_crc` (lines 364–365). They are not brought to the
    configured length. -/
def badPdOut (r : CycleRequest) : List UInt8 := r.pdOut.getD (List.replicate m.pdOutLen 0)

/-- `VirtualMaster.run_cycle_bad_crc` (lines 351–381). -/
def Session.runCycleBadCrc (s : Session) (r : CycleRequest) : DeviceResponse × Session :=
  if m.mSeqType = .type0 then s.sendIdle cfg sched
  else
    let frame := invertLast (generateType1 m.odLen 0x00 r.ckt (badPdOut m r) r.odReq r.odReq2)
    let e := s.link.exchange cfg sched frame (1 + m.pdInLen + m.odLen + 1)
    (deviceResponse (e.1.getD []) m.odLen, { s with link := e.2 })

/-- `VirtualMaster.send_bad_crc_type0` (lines 171–176). -/
def Session.sendBadCrcType0 (s : Session) (mc : UInt8) : Session :=
  { s with link := s.link.send cfg sched (invertLast (generateType0 mc 0x00)) }

/-- `VirtualMaster.inject_sio_fallback` (lines 383–397). -/
def Session.injectSioFallback : ℕ → Session → Session
  | 0, s => s
  | count + 1, s => Session.injectSioFallback count
    (if m.mSeqType = .type0 then s.sendBadCrcType0 cfg sched 0x00
      else (s.runCycleBadCrc cfg sched m ⟨none, 0x00, 0x00, 0x00⟩).2)

/-- Cycles of both sorts one after the other. -/
def faultMachine : Machine Session FaultyCycle DeviceResponse where
  step s i :=
    let out := if i.corrupt then s.runCycleBadCrc cfg sched m i.request
      else s.runCycle cfg sched m i.request
    (out.2, out.1)

end Master

/-! ## A refused frame -/

/-- What a frame with a wrong checksum does to a device in OPERATE. -/
structure RefusedStep (config : Config) (pdIn : List UInt8) (a : Device)
    (r : Device × Option (List UInt8)) : Prop where
  reply : r.2 = none
  view : linkView r.1.dll = (linkView a.dll).fail
  pdOut : r.1.dll.pdOut = a.dll.pdOut
  threshold : r.1.dll.sioFallbackThreshold = a.dll.sioFallbackThreshold
  stage : a.dll.fallbackCount + 1 < sioThreshold → AtStage config pdIn .operate r.1.dll

section Refused

variable (cfg : BuildConfig) {config : Config} {pdIn : List UInt8} {a : Device}
variable {frame : List UInt8} {ckt : UInt8} {pd od : List UInt8}

theorem invertLast_cyclicFrame (mc ckt : UInt8) (pd od : List UInt8) :
    invertLast (cyclicFrame mc ckt pd od) =
      ([mc, ckt] ++ pd ++ od) ++ [crc6 ([mc, ckt] ++ pd ++ od) ^^^ 0xFF] := by
  rw [invertLast, cyclicFrame, List.dropLast_concat, List.getLast?_concat]
  rfl

theorem length_invertLast_cyclicFrame (mc ckt : UInt8) (pd od : List UInt8) :
    (invertLast (cyclicFrame mc ckt pd od)).length = (cyclicFrame mc ckt pd od).length := by
  rw [invertLast_cyclicFrame, cyclicFrame]
  simp only [List.length_append, List.length_cons, List.length_nil]

/-- A frame with a wrong checksum. -/
theorem frameStep_reject (henf : a.dll.enforceTiming = false)
    (hcrc : frameCrcOk (acceptCtx cfg a frame) = false) :
    frameStep cfg a frame =
      (⟨{ dllRejectFrame cfg (acceptCtx cfg a frame) with frameIndex := 0 },
        (deviceIsduProcess cfg a).store⟩, none) := by
  have hoff : ((polledCtx cfg a).loaded frame).enforceTiming = false := henf
  have hframe : dllHandleFrame cfg ((polledCtx cfg a).loaded frame) (timelessByte 0) =
      (dllRejectFrame cfg (acceptCtx cfg a frame), none) := by
    unfold dllHandleFrame
    dsimp only
    rw [cycleStart_off cfg hoff]
    exact if_neg fun hok => Bool.false_ne_true (hcrc.symm.trans hok)
  unfold frameStep
  dsimp only
  rw [show (deviceIsduProcess cfg a).dll = polledCtx cfg a from rfl, hframe]

/-- The checksum of an inverted frame is wrong. -/
theorem frameCrcOk_invertLast {c : DllCtx} (f : ℕ → UInt8) (body : List UInt8)
    (hbuf : c.frameBuf = blit f 0 (body ++ [crc6 body ^^^ 0xFF]))
    (hreq : c.reqLen = body.length + 1) (hbody : 2 ≤ body.length) : frameCrcOk c = false := by
  have h2 : c.reqLen ≠ 2 := by omega
  have hslice : slice c.frameBuf 0 (c.reqLen - 1) = body := by
    rw [hbuf, hreq, slice_blit_of_le _ _ (by simp)]
    simp
  have hck : c.frameBuf (c.reqLen - 1) = crc6 body ^^^ 0xFF := by
    rw [hbuf, hreq]
    simp [blit]
  have hne : ∀ b : UInt8, b ≠ b ^^^ 0xFF := by decide +kernel
  simp [frameCrcOk, h2, hslice, hck, hne]

theorem refused_fits (h : AtStage config pdIn .operate a.dll) (hcyc : HasCycles config)
    (hpd : pd.length = config.pdOutLen) (hod : od.length = odLenOf config.mSeqType) :
    FrameFits a (invertLast (cyclicFrame 0x00 ckt pd od)) := by
  have hfit : FrameFits a (cyclicFrame 0x00 ckt pd od) := cyclic_fits h (.inr rfl) hcyc hpd hod
  have hsame := length_invertLast_cyclicFrame 0x00 ckt pd od
  refine ⟨hfit.phyMode, by rw [hsame]; exact hfit.size, ?_⟩
  rw [hsame, hfit.length, invertLast_cyclicFrame]
  rfl

/-- `dll_enter_fallback` leaves the input data and the threshold alone. -/
theorem pdIn_dllEnterFallback (c : DllCtx) :
    (dllEnterFallback cfg c).pdIn = c.pdIn ∧
      (dllEnterFallback cfg c).sioFallbackThreshold = c.sioFallbackThreshold := by
  obtain ⟨_, _, _, _, _, he | ⟨-, -, he⟩ | ⟨-, he⟩⟩ := dllEnterFallback_cases cfg c
  all_goals
    rw [he]
    exact ⟨rfl, rfl⟩

/-- The view of a device in OPERATE. -/
theorem AtStage.view {c : DllCtx} (h : AtStage config pdIn .operate c) :
    linkView c = ⟨.operate, .sdci, .com2, c.fallbackCount⟩ := by
  rw [linkView, h.state, h.phyMode, h.baudrate]

/-- A wrong checksum in OPERATE. -/
theorem AtStage.dllRejectFrame {c : DllCtx} (h : AtStage config pdIn .operate c)
    (hthr : c.sioFallbackThreshold = sioThreshold) (hcount : c.fallbackCount < sioThreshold) :
    let c' := dllRejectFrame cfg c
    linkView c' = (linkView c).fail ∧ c'.pdOut = c.pdOut ∧
      c'.sioFallbackThreshold = c.sioFallbackThreshold ∧
      (c.fallbackCount + 1 < sioThreshold → AtStage config pdIn .operate c') := by
  intro c'
  have hview : linkView c' = (linkView c).fail := view_dllEnterFallback cfg hthr hcount
  have hsame := untouched_dllRejectFrame cfg c
  obtain ⟨hpdIn, hthr'⟩ := pdIn_dllEnterFallback cfg (framingError
    { c with stats := { c.stats with crcErrors := c.stats.crcErrors + 1 } })
  refine ⟨hview, hsame.pdOut, hthr', fun hlt => ?_⟩
  rw [h.view, LinkView.fail, if_neg (Nat.not_le.mpr hlt), if_pos (.inl rfl)] at hview
  refine ⟨congrArg LinkView.state hview, congrArg LinkView.phyMode hview,
    congrArg LinkView.baudrate hview, hsame.hasSend.trans h.hasSend,
    hsame.mSeqType.trans h.mSeqType, hsame.odLen.trans h.odLen,
    hsame.pdInLenCurrent.trans h.pdInLen, hsame.pdOutLenCurrent.trans h.pdOutLen, ?_⟩
  have hpdIn' : c'.pdIn = c.pdIn := hpdIn
  rw [hpdIn', show c'.pdInLenCurrent = _ from hsame.pdInLenCurrent]
  exact h.pdIn

/-- **A cyclic frame with an inverted checksum.** -/
theorem cyclic_refused (h : AtStage config pdIn .operate a.dll)
    (henf : a.dll.enforceTiming = false) (hthr : a.dll.sioFallbackThreshold = sioThreshold)
    (hcount : a.dll.fallbackCount < sioThreshold) (hod : od.length = odLenOf config.mSeqType) :
    RefusedStep config pdIn a (frameStep cfg a (invertLast (cyclicFrame 0x00 ckt pd od))) := by
  have hframe := invertLast_cyclicFrame 0x00 ckt pd od
  generalize invertLast (cyclicFrame 0x00 ckt pd od) = frame at hframe
  have hctx := h.acceptCtx cfg frame
  have hcrc : frameCrcOk (acceptCtx cfg a frame) = false := by
    have hpos := odLenOf_pos config.mSeqType
    refine frameCrcOk_invertLast (polledCtx cfg a).frameBuf ([0x00, ckt] ++ pd ++ od) ?_ ?_ ?_
    · rw [← hframe]
      rfl
    · show frame.length = _
      rw [hframe, List.length_append]
      rfl
    · simp only [List.length_append, List.length_cons, List.length_nil]
      omega
  have hkept : (acceptCtx cfg a frame).sioFallbackThreshold = a.dll.sioFallbackThreshold ∧
      (acceptCtx cfg a frame).fallbackCount = a.dll.fallbackCount ∧
      (acceptCtx cfg a frame).pdOut = a.dll.pdOut := ⟨rfl, rfl, rfl⟩
  rw [frameStep_reject cfg henf hcrc]
  clear hcrc
  generalize acceptCtx cfg a frame = c at hctx hkept
  obtain ⟨hthr', hcount', hpdOut⟩ := hkept
  rw [← hthr'] at hthr
  rw [← hcount'] at hcount
  obtain ⟨hview, hsame, hthr₁, hstage⟩ := hctx.dllRejectFrame cfg hthr hcount
  rw [hctx.view, hcount', ← h.view] at hview
  refine ⟨rfl, hview, hsame.trans hpdOut, hthr₁.trans hthr', fun hlt => ?_⟩
  have hnext := hstage (hcount' ▸ hlt)
  exact ⟨hnext.state, hnext.phyMode, hnext.baudrate, hnext.hasSend, hnext.mSeqType, hnext.odLen,
    hnext.pdInLen, hnext.pdOutLen, hnext.pdIn⟩

end Refused

/-! ## A corrupted cycle -/

section Session

variable (cfg : BuildConfig) {config : Config} {sched : Schedule} {pdIn : List UInt8}
variable {s : Session} {a : Device}

/-- `run_cycle_bad_crc`: the device makes one step on the frame, and the master gets
    nothing. -/
theorem Session.runCycleBadCrc_stands (hcyc : HasCycles config)
    (h : Stands cfg config sched pdIn a s) (hthr : a.dll.sioFallbackThreshold = sioThreshold)
    (hcount : a.dll.fallbackCount < sioThreshold) (r : CycleRequest)
    (hsize : (badPdOut (masterOf config) r).length = config.pdOutLen) :
    let out := s.runCycleBadCrc cfg sched (masterOf config) r
    ∃ step, RefusedStep config pdIn a step ∧ out.1 = deviceResponse [] (odLenOf config.mSeqType) ∧
      Agrees cfg step.1 out.2.link.device ∧
      (a.dll.fallbackCount + 1 < sioThreshold → Stands cfg config sched pdIn step.1 out.2) := by
  intro out
  have hod := length_odBytes config.mSeqType r.odReq r.odReq2
  have hodl : (masterOf config).odLen = odLenOf config.mSeqType := getOdLen_eq config.mSeqType
  set frame := invertLast (generateType1 (odLenOf config.mSeqType) 0x00 r.ckt
    (badPdOut (masterOf config) r) r.odReq r.odReq2) with hframe
  have hcyclic := hframe
  rw [generateType1_eq] at hcyclic
  have hfit : FrameFits a frame := by
    rw [hcyclic]
    exact refused_fits h.stage hcyc hsize hod
  have hstep : RefusedStep config pdIn a (frameStep cfg a frame) := by
    rw [hcyclic]
    exact cyclic_refused cfg h.stage h.agrees.enforceTiming hthr hcount hod
  obtain ⟨hagree, -, hsent, -⟩ :=
    send_frame cfg sched h.agrees h.toDevice hfit (h.timely [frame])
  rw [h.toMaster, hstep.reply] at hsent
  have hexch : s.link.exchange cfg sched frame (accessCount config) =
      (none, { s.link.send cfg sched frame with toMaster := [] }) := by
    have hrecv : recvBytes (accessCount config) ([] ++ (none : Option (List UInt8)).getD []) =
        (none, []) := if_neg (Nat.not_succ_le_zero _)
    unfold VirtualLink.exchange
    dsimp only
    rw [hsent, hrecv]
  have hout : out = (deviceResponse [] (odLenOf config.mSeqType),
      ⟨s.state, { s.link.send cfg sched frame with toMaster := [] }⟩) := by
    have htype : (masterOf config).mSeqType ≠ .type0 := hcyc.type
    have hlen : 1 + (masterOf config).pdInLen + odLenOf config.mSeqType + 1 =
        accessCount config := rfl
    simp only [out, Session.runCycleBadCrc, if_neg htype, hodl, hlen]
    rw [← hframe, hexch]
    rfl
  rw [hout]
  exact ⟨_, hstep, rfl, hagree, fun hlt => h.sent cfg hfit (hstep.stage hlt)⟩

end Session

/-! ## Cycles of both sorts -/

/-- The corrupted cycles in a row after `cycles`, if there were `n` before. -/
def failuresAfter (n : ℕ) (cycles : List FaultyCycle) : ℕ :=
  cycles.foldl (fun n i => if i.corrupt then n + 1 else 0) n

/-- The link after `n` corrupted cycles in a row. -/
def viewAfter (n : ℕ) : LinkView :=
  if n < sioThreshold then ⟨.operate, .sdci, .com2, n⟩ else ⟨.startup, .sio, .com1, 0⟩

/-- What a cycle shows and leaves: the input data and the output data it sent, or nothing
    and the output data there were. -/
def CycleOutcome (config : Config) (pdIn : List UInt8) (i : FaultyCycle) (before after : Device)
    (resp : DeviceResponse) : Prop :=
  if i.corrupt then
    resp.valid = false ∧
      slice after.dll.pdOut 0 config.pdOutLen = slice before.dll.pdOut 0 config.pdOutLen
  else GoodReply pdIn resp ∧ OutputDelivered config i.request after

/-- The session stands after `n` corrupted cycles in a row. -/
def StandsAfter (cfg : BuildConfig) (config : Config) (sched : Schedule) (pdIn : List UInt8)
    (n : ℕ) (s : Session) : Prop :=
  ∃ a, Stands cfg config sched pdIn a s ∧ a.dll.sioFallbackThreshold = sioThreshold ∧
    a.dll.fallbackCount = n

section Faults

variable (cfg : BuildConfig) {config : Config} {sched : Schedule} {pdIn : List UInt8} {n : ℕ}
variable {s : Session} {i : FaultyCycle}

/-- The device agrees with a state of the machine on frames, so that its view is the same. -/
theorem Agrees.view {a d : Device} (h : Agrees cfg a d) : linkView d.dll = linkView a.dll := by
  have hview := congrArg (fun d : Device => linkView d.dll) h.same
  exact hview

theorem Agrees.pdOut {a d : Device} (h : Agrees cfg a d) : d.dll.pdOut = a.dll.pdOut := by
  have hpdOut := congrArg (fun d : Device => d.dll.pdOut) h.same
  exact hpdOut

/-- A good cycle. -/
theorem good_outcome (hcyc : HasCycles config) (h : StandsAfter cfg config sched pdIn n s)
    (hgood : i.corrupt = false) :
    let r := (faultMachine cfg sched (masterOf config)).step s i
    CycleOutcome config pdIn i s.link.device r.1.link.device r.2 ∧
      StandsAfter cfg config sched pdIn 0 r.1 := by
  obtain ⟨a, hs, hthr, -⟩ := h
  obtain ⟨-, hstep, -, hresp, hnext⟩ := Session.runCycle_stands cfg hcyc hs i.request
  intro r
  have hr : r = ((s.runCycle cfg sched (masterOf config) i.request).2,
      (s.runCycle cfg sched (masterOf config) i.request).1) := by
    simp only [r, faultMachine, hgood, Bool.false_eq_true, if_false]
  have hlen : (odMachine.outputs (polledCtx cfg a).isdu
      (odBytes (odLenOf config.mSeqType) i.request.odReq i.request.odReq2)).length =
      odLenOf config.mSeqType := by
    rw [Machine.length_outputs, length_odBytes]
  rw [hr]
  refine ⟨?_, _, hnext, hstep.threshold.trans hthr, hstep.failures⟩
  rw [CycleOutcome, hgood, if_neg Bool.false_ne_true]
  dsimp only
  rw [hresp, deviceResponse_cyclicReply _ _ hlen (odLenOf_pos _) (odLenOf_le _)]
  refine ⟨⟨rfl, rfl, rfl⟩, ?_, ?_⟩
  · exact (congrArg LinkView.state hnext.agrees.view).trans hnext.stage.state
  · rw [hnext.agrees.pdOut]
    exact hstep.pdOut

/-- A corrupted cycle. -/
theorem bad_outcome (hcyc : HasCycles config) (h : StandsAfter cfg config sched pdIn n s)
    (hn : n < sioThreshold) (hbad : i.corrupt = true)
    (hsize : (badPdOut (masterOf config) i.request).length = config.pdOutLen) :
    let r := (faultMachine cfg sched (masterOf config)).step s i
    CycleOutcome config pdIn i s.link.device r.1.link.device r.2 ∧
      (n + 1 < sioThreshold → StandsAfter cfg config sched pdIn (n + 1) r.1) ∧
      linkView r.1.link.device.dll = viewAfter (n + 1) := by
  obtain ⟨a, hs, hthr, rfl⟩ := h
  obtain ⟨step, hstep, hresp, hagree, hnext⟩ :=
    Session.runCycleBadCrc_stands cfg hcyc hs hthr hn i.request hsize
  intro r
  have hr : r = ((s.runCycleBadCrc cfg sched (masterOf config) i.request).2,
      (s.runCycleBadCrc cfg sched (masterOf config) i.request).1) := by
    simp only [r, faultMachine, hbad, if_true]
  have hview : linkView step.1.dll = viewAfter (a.dll.fallbackCount + 1) := by
    rw [hstep.view, hs.stage.view, LinkView.fail, viewAfter]
    by_cases hlt : a.dll.fallbackCount + 1 < sioThreshold
    · rw [if_neg (Nat.not_le.mpr hlt), if_pos (.inl rfl), if_pos hlt]
    · rw [if_pos (Nat.not_lt.mp hlt), if_neg hlt]
  rw [hr]
  refine ⟨?_, fun hlt => ⟨_, hnext hlt, hstep.threshold.trans hthr, ?_⟩, hagree.view.trans hview⟩
  · rw [CycleOutcome, hbad, if_pos rfl]
    dsimp only
    rw [hresp, hagree.pdOut, hstep.pdOut, hs.agrees.pdOut]
    exact ⟨rfl, rfl⟩
  · rw [viewAfter, if_pos hlt] at hview
    exact congrArg LinkView.failures hview

/-- A run whose corrupted cycles come three in a row at its end at the earliest. -/
theorem faults_run (hcyc : HasCycles config) (cycles : List FaultyCycle)
    (h : StandsAfter cfg config sched pdIn n s) (hn : n < sioThreshold)
    (hsize : ∀ i ∈ cycles, i.corrupt = true →
      (badPdOut (masterOf config) i.request).length = config.pdOutLen)
    (hrow : ∀ pre i, pre ++ [i] <+: cycles → failuresAfter n pre < sioThreshold) :
    let m := faultMachine cfg sched (masterOf config)
    (∀ pre i, pre ++ [i] <+: cycles →
      CycleOutcome config pdIn i (m.final s pre).link.device
        (m.step (m.final s pre) i).1.link.device (m.step (m.final s pre) i).2) ∧
      linkView (m.final s cycles).link.device.dll = viewAfter (failuresAfter n cycles) := by
  induction cycles generalizing n s with
  | nil =>
    refine ⟨forall_concat_nil, ?_⟩
    obtain ⟨a, hs, -, rfl⟩ := h
    show linkView s.link.device.dll = viewAfter a.dll.fallbackCount
    rw [hs.agrees.view, hs.stage.view, viewAfter, if_pos hn]
  | cons i rest ih =>
    intro m
    have hsize' := fun j hj => hsize j (List.mem_cons_of_mem i hj)
    have hrow' : ∀ pre j, pre ++ [j] <+: rest → failuresAfter n (i :: pre) < sioThreshold :=
      fun pre j hpre => hrow (i :: pre) j (List.cons_prefix_cons.mpr ⟨rfl, hpre⟩)
    cases hi : i.corrupt with
    | false =>
      have hzero : ∀ pre, failuresAfter n (i :: pre) = failuresAfter 0 pre := fun pre => by
        simp only [failuresAfter, List.foldl_cons, hi, Bool.false_eq_true, if_false]
      obtain ⟨hout, hnext⟩ := good_outcome cfg hcyc h hi
      obtain ⟨hall, hview⟩ := ih hnext (Nat.zero_lt_succ _) hsize' fun pre j hpre =>
        hzero pre ▸ hrow' pre j hpre
      refine ⟨forall_concat_cons hout hall, ?_⟩
      rw [hzero]
      exact hview
    | true =>
      have hsucc : ∀ pre, failuresAfter n (i :: pre) = failuresAfter (n + 1) pre := fun pre => by
        simp only [failuresAfter, List.foldl_cons, hi, if_true]
      obtain ⟨hout, hnext, hview⟩ := bad_outcome cfg hcyc h hn hi (hsize i List.mem_cons_self hi)
      by_cases hlt : n + 1 < sioThreshold
      · obtain ⟨hall, hlast⟩ := ih (hnext hlt) hlt hsize' fun pre j hpre =>
          hsucc pre ▸ hrow' pre j hpre
        refine ⟨forall_concat_cons hout hall, ?_⟩
        rw [hsucc]
        exact hlast
      · -- the third in a row is the last cycle
        obtain rfl : rest = [] := by
          cases rest with
          | nil => rfl
          | cons j rest =>
            have hthird := hrow' [] j ⟨rest, rfl⟩
            rw [hsucc] at hthird
            exact absurd hthird hlt
        refine ⟨forall_concat_cons hout forall_concat_nil, ?_⟩
        rw [hsucc]
        exact hview

/-- A reachable device in OPERATE. -/
theorem standsAfter_of_reaches (hcyc : HasCycles config) {calls : List Call} {d : Device}
    (hreach : Reaches cfg config true calls d) (hstate : d.dll.state = .operate)
    (hidx : d.dll.frameIndex = 0) (henf : d.dll.enforceTiming = false) (w : ℕ)
    (htime : ∀ frames, OnTimeRun d.dll (waitEnvs sched w frames)) (state : MasterState) :
    StandsAfter cfg config sched (slice d.dll.pdIn 0 config.pdInLen) d.dll.fallbackCount
        ⟨state, ⟨d, [], [], w⟩⟩ ∧
      d.dll.fallbackCount < sioThreshold := by
  have hop : Operating config d.dll := reaches_operating hreach hstate hidx
  have htable := reaches_inTable hcyc.pdOut hreach
  refine ⟨⟨d.timeless, ⟨⟨henf, hidx, rfl, .inl rfl⟩, ?_, rfl, rfl, htime⟩,
    htable.views.threshold, rfl⟩, htable.views.below⟩
  exact ⟨hop.state, hop.phyMode, hop.baudrate, hop.hasSend, hop.mSeqType, hop.odLen, hop.pdInLen,
    hop.pdOutLen, congrArg (slice d.dll.pdIn 0) hop.pdInLen⟩

end Faults

/-- Two corrupted cycles, a good one, and three corrupted ones in a row. -/
def faultyCycles : List FaultyCycle :=
  [true, true, false, true, true, true].map fun corrupt => ⟨⟨some [0x5A], 0, 0, 0⟩, corrupt⟩

/-- The cycle of `inject_sio_fallback`. -/
def injectedCycle : FaultyCycle := ⟨⟨none, 0x00, 0x00, 0x00⟩, true⟩

theorem injectSioFallback_eq (cfg : BuildConfig) (sched : Schedule) {m : Master}
    (htype : m.mSeqType ≠ .type0) (count : ℕ) (s : Session) :
    Session.injectSioFallback cfg sched m count s =
      (faultMachine cfg sched m).final s (List.replicate count injectedCycle) := by
  induction count generalizing s with
  | zero => rfl
  | succ count ih =>
    rw [Session.injectSioFallback, if_neg htype, ih, List.replicate_succ, Machine.final_cons]
    rfl

theorem failuresAfter_replicate (n count : ℕ) :
    failuresAfter n (List.replicate count injectedCycle) = n + count := by
  induction count generalizing n with
  | zero => rfl
  | succ count ih =>
    show failuresAfter (n + 1) (List.replicate count injectedCycle) = n + (count + 1)
    rw [ih]
    omega

end Iolinki
