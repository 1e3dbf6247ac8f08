import Iolinki.Dll.Frames
import Iolinki.Isdu.Execute

/-!
# Invariants of the data link layer

Two kinds of facts hold in every state that the application can reach.

`Untouched` relates the contexts around a step that neither feeds the ISDU
engine nor stores process data. Most steps are of that kind; the exceptions are
the two frame handlers and `iolink_isdu_process`.

`LinkInv` ties the state, the baudrate and the mode of the PHY together. The
baudrate is COM2 from the initialisation on and COM1 after the first fallback or
inactivity reset; nothing in the code sets it back. In OPERATE it is COM2 and the
PHY is in SDCI mode, since only a frame of more than two bytes leads to OPERATE
and such a frame is not expected at COM1.

* `reaches_linkInv`: the invariant holds in every reachable state.
* `reaches_operating`: a reachable device in OPERATE without a partial frame is
  `Operating`.
* `reaches_wired`: the pointers of its ISDU engine are as `iolink_dll_init` has set
  them.
* `reaches_powered`: a device that has left STARTUP has seen the end of the
  power-on delay.
-/

namespace Iolinki

open Iolinki.Lib

/-! ## Steps that leave process data and the ISDU engine alone -/

/-- The fields that are fixed by `iolink_init` are the same in both contexts, and
    the wiring of the ISDU engine is kept. -/
structure SameConfig (c c' : DllCtx) : Prop where
  hasSend : c'.hasSend = c.hasSend
  mSeqType : c'.mSeqType = c.mSeqType
  odLen : c'.odLen = c.odLen
  pdInLenCurrent : c'.pdInLenCurrent = c.pdInLenCurrent
  pdOutLenCurrent : c'.pdOutLenCurrent = c.pdOutLenCurrent
  pdOutLen : c'.pdOutLen = c.pdOutLen
  tPdDeadlineUs : c'.tPdDeadlineUs = c.tPdDeadlineUs
  wired : c.isdu.Wired → c'.isdu.Wired

theorem SameConfig.refl (c : DllCtx) : SameConfig c c := ⟨rfl, rfl, rfl, rfl, rfl, rfl, rfl, id⟩

theorem SameConfig.trans {a b c : DllCtx} (h : SameConfig a b) (h' : SameConfig b c) :
    SameConfig a c :=
  ⟨h'.1.trans h.1, h'.2.trans h.2, h'.3.trans h.3, h'.4.trans h.4, h'.5.trans h.5, h'.6.trans h.6,
    h'.7.trans h.7, h'.8 ∘ h.8⟩

/-- The configuration, the ISDU engine and the output process data are the same
    in both contexts. -/
structure Untouched (c c' : DllCtx) : Prop extends SameConfig c c' where
  isdu : c'.isdu = c.isdu
  pdOut : c'.pdOut = c.pdOut

theorem Untouched.refl (c : DllCtx) : Untouched c c := ⟨.refl c, rfl, rfl⟩

theorem Untouched.trans {a b c : DllCtx} (h : Untouched a b) (h' : Untouched b c) : Untouched a c :=
  ⟨h.1.trans h'.1, h'.isdu.trans h.isdu, h'.pdOut.trans h.pdOut⟩

/-- What `dll_enter_fallback` can do: give up SDCI, restart at COM1, or only
    count. -/
theorem dllEnterFallback_cases (cfg : BuildConfig) (c : DllCtx) :
    ∃ stats events count renUs byteUs,
      dllEnterFallback cfg c = { c with
        stats := stats, events := events, fallbackCount := count, phyMode := .sio
        baudrate := .com1, tRenLimitUs := renUs, tByteLimitUs := byteUs, state := .startup
        frameIndex := 0 } ∨
      (c.state ≠ .operate ∧ c.state ≠ .estabCom ∧ dllEnterFallback cfg c = { c with
        stats := stats, events := events, fallbackCount := count, baudrate := .com1
        tRenLimitUs := renUs, tByteLimitUs := byteUs, state := .startup }) ∨
      ((c.state = .operate ∨ c.state = .estabCom) ∧ dllEnterFallback cfg c = { c with
        stats := stats, events := events, fallbackCount := count }) := by
  unfold dllEnterFallback
  dsimp only
  by_cases h1 : (c.fallbackCount + 1) % 256 ≥ c.sioFallbackThreshold
  · rw [if_pos h1]
    exact ⟨_, _, _, _, _, .inl rfl⟩
  · rw [if_neg h1]
    by_cases h2 : c.state ≠ .operate ∧ c.state ≠ .estabCom
    · rw [if_pos h2]
      exact ⟨_, _, _, _, _, .inr (.inl ⟨h2.1, h2.2, rfl⟩)⟩
    · rw [if_neg h2]
      exact ⟨_, _, _, 0, 0, .inr (.inr ⟨by tauto, rfl⟩)⟩

/-- What the timeout check before the receive loop can do: nothing, or drop the partial
    frame and enter the fallback. -/
theorem callGap_cases (cfg : BuildConfig) (c : DllCtx) (nowUs : UInt64) :
    callGap cfg c nowUs = c ∨ ∃ stats events count renUs byteUs,
      callGap cfg c nowUs = { c with
        stats := stats, events := events, fallbackCount := count, phyMode := .sio
        baudrate := .com1, tRenLimitUs := renUs, tByteLimitUs := byteUs, state := .startup
        frameIndex := 0 } ∨
      (c.state ≠ .operate ∧ c.state ≠ .estabCom ∧ callGap cfg c nowUs = { c with
        stats := stats, events := events, fallbackCount := count, baudrate := .com1
        tRenLimitUs := renUs, tByteLimitUs := byteUs, state := .startup, frameIndex := 0 }) ∨
      ((c.state = .operate ∨ c.state = .estabCom) ∧ callGap cfg c nowUs = { c with
        stats := stats, events := events, fallbackCount := count, frameIndex := 0 }) := by
  unfold callGap
  split_ifs
  · obtain ⟨stats, events, he⟩ := byteTimeout_eq cfg c
    rw [he]
    exact .inr (dllEnterFallback_cases cfg
      { c with stats := stats, events := events, frameIndex := 0 })
  · exact .inl rfl

theorem frameIndex_dllEnterFallback (cfg : BuildConfig) {c : DllCtx} (h : c.frameIndex = 0) :
    (dllEnterFallback cfg c).frameIndex = 0 := by
  obtain ⟨_, _, _, _, _, he | ⟨-, -, he⟩ | ⟨-, he⟩⟩ := dllEnterFallback_cases cfg c <;> rw [he]
  · exact h
  · exact h

theorem untouched_dllEnterFallback (cfg : BuildConfig) (c : DllCtx) :
    Untouched c (dllEnterFallback cfg c) := by
  obtain ⟨_, _, _, _, _, h | ⟨-, -, h⟩ | ⟨-, h⟩⟩ := dllEnterFallback_cases cfg c <;> rw [h] <;>
    exact ⟨⟨rfl, rfl, rfl, rfl, rfl, rfl, rfl, id⟩, rfl, rfl⟩

theorem untouched_byteGap (cfg : BuildConfig) (c : DllCtx) (nowUs : UInt64) :
    Untouched c (byteGap cfg c nowUs) := by
  unfold byteGap
  split_ifs
  · obtain ⟨_, _, he⟩ := byteTimeout_eq cfg c
    rw [he]
    exact ⟨⟨rfl, rfl, rfl, rfl, rfl, rfl, rfl, id⟩, rfl, rfl⟩
  · exact .refl c

theorem untouched_assemble (c : DllCtx) (byte : UInt8) (nowUs : UInt64) :
    Untouched c (assemble c byte nowUs) := by
  unfold assemble
  split_ifs <;> exact ⟨⟨rfl, rfl, rfl, rfl, rfl, rfl, rfl, id⟩, rfl, rfl⟩

theorem untouched_rxAssemble (cfg : BuildConfig) (c : DllCtx) (rx : RxByte) :
    Untouched c (rxAssemble cfg c rx) := by
  have h := untouched_byteGap cfg { c with lastActivityMs := rx.nowMs } rx.nowUs
  generalize hg : byteGap cfg { c with lastActivityMs := rx.nowMs } rx.nowUs = g at h
  have h' : Untouched c { g with lastByteUs := rx.nowUs } := ⟨{ h.1 with }, h.2, h.3⟩
  simp only [rxAssemble, hg]
  exact h'.trans (untouched_assemble _ _ _)

theorem untouched_cycleStart (cfg : BuildConfig) (c : DllCtx) (procUs : UInt64) :
    Untouched c (cycleStart cfg c procUs) := by
  obtain ⟨_, _, h, -⟩ := cycleStart_eq cfg c procUs
  rw [h]
  exact ⟨⟨rfl, rfl, rfl, rfl, rfl, rfl, rfl, id⟩, rfl, rfl⟩

theorem untouched_inactivityReset (c : DllCtx) (nowMs : UInt32) :
    Untouched c (inactivityReset c nowMs) := by
  unfold inactivityReset
  dsimp only
  split_ifs <;> exact ⟨⟨rfl, rfl, rfl, rfl, rfl, rfl, rfl, id⟩, rfl, rfl⟩

theorem untouched_drainRx (cfg : BuildConfig) (c : DllCtx) (rxs : List RxByte) :
    Untouched c (drainRx cfg c rxs) := by
  unfold drainRx
  split_ifs <;> exact ⟨⟨rfl, rfl, rfl, rfl, rfl, rfl, rfl, id⟩, rfl, rfl⟩

theorem untouched_detectWakeup (c : DllCtx) (env : CallEnv) : Untouched c (detectWakeup c env) := by
  unfold detectWakeup
  split_ifs <;> exact ⟨⟨rfl, rfl, rfl, rfl, rfl, rfl, rfl, id⟩, rfl, rfl⟩

theorem untouched_callGap (cfg : BuildConfig) (c : DllCtx) (nowUs : UInt64) :
    Untouched c (callGap cfg c nowUs) := by
  obtain h | ⟨_, _, _, _, _, h | ⟨-, -, h⟩ | ⟨-, h⟩⟩ := callGap_cases cfg c nowUs <;> rw [h]
  · exact .refl c
  all_goals exact ⟨⟨rfl, rfl, rfl, rfl, rfl, rfl, rfl, id⟩, rfl, rfl⟩

theorem untouched_dllRejectFrame (cfg : BuildConfig) (c : DllCtx) :
    Untouched c (dllRejectFrame cfg c) := by
  have h := untouched_dllEnterFallback cfg
    (framingError { c with stats := { c.stats with crcErrors := c.stats.crcErrors + 1 } })
  exact ⟨{ h.1 with }, h.2, h.3⟩

/-! ## State, baudrate and mode -/

/-- State, baudrate and mode of the PHY inside the receive loop. -/
structure ModeInv (c : DllCtx) : Prop where
  baudrate : c.baudrate = .com1 ∨ c.baudrate = .com2
  phyMode : c.phyMode = .sio ∨ c.phyMode = .sdci
  sdci : c.baudrate = .com2 → c.phyMode = .sdci
  operate : c.state = .operate → c.baudrate = .com2

/-- The invariant inside the receive loop. A partial frame of more than two
    bytes is only expected at COM2. -/
structure LoopInv (c : DllCtx) : Prop extends ModeInv c where
  reqLen : 0 < c.frameIndex → 2 < c.reqLen → c.baudrate = .com2

/-- The invariant between two calls. In SIO mode at COM2 the device has not
    been woken up. -/
structure LinkInv (c : DllCtx) : Prop where
  baudrate : c.baudrate = .com1 ∨ c.baudrate = .com2
  phyMode : c.phyMode = .sio ∨ c.phyMode = .sdci
  sdci : c.baudrate = .com2 → c.state ≠ .startup → c.phyMode = .sdci
  operate : c.state = .operate → c.baudrate = .com2
  reqLen : 0 < c.frameIndex → 2 < c.reqLen → c.baudrate = .com2

theorem LoopInv.linkInv {c : DllCtx} (h : LoopInv c) : LinkInv c :=
  ⟨h.baudrate, h.phyMode, fun hb _ => h.sdci hb, h.operate, h.reqLen⟩

theorem LinkInv.loopInv {c : DllCtx} (h : LinkInv c) (hmode : c.phyMode ≠ .sio) : LoopInv c :=
  ⟨⟨h.baudrate, h.phyMode, fun _ => h.phyMode.resolve_left hmode, h.operate⟩, h.reqLen⟩

theorem modeInv_dllEnterFallback (cfg : BuildConfig) {c : DllCtx} (h : ModeInv c) :
    ModeInv (dllEnterFallback cfg c) := by
  obtain ⟨_, _, _, _, _, he | ⟨-, -, he⟩ | ⟨-, he⟩⟩ := dllEnterFallback_cases cfg c
  · rw [he]
    exact ⟨.inl rfl, .inl rfl, nofun, nofun⟩
  · rw [he]
    exact ⟨.inl rfl, h.phyMode, nofun, nofun⟩
  · rw [he]
    exact ⟨h.baudrate, h.phyMode, h.sdci, h.operate⟩

theorem dllReqLen_com1 {c : DllCtx} {byte : UInt8} (h : 2 < dllReqLen c byte) :
    c.baudrate ≠ .com1 := by
  intro hb
  simp [dllReqLen, hb] at h

theorem loopInv_rxAssemble (cfg : BuildConfig) {c : DllCtx} (h : LoopInv c) (rx : RxByte) :
    LoopInv (rxAssemble cfg c rx) := by
  have hgap : LoopInv (byteGap cfg { c with lastActivityMs := rx.nowMs } rx.nowUs) := by
    unfold byteGap
    split_ifs
    · exact ⟨⟨h.baudrate, h.phyMode, h.sdci, h.operate⟩, fun hi => absurd hi (Nat.lt_irrefl 0)⟩
    · exact ⟨⟨h.baudrate, h.phyMode, h.sdci, h.operate⟩, h.reqLen⟩
  generalize hg : byteGap cfg { c with lastActivityMs := rx.nowMs } rx.nowUs = g at hgap
  simp only [rxAssemble, hg, assemble]
  split_ifs with h1 h2
  · refine ⟨⟨hgap.baudrate, hgap.phyMode, hgap.sdci, hgap.operate⟩, fun _ hr => ?_⟩
    exact hgap.baudrate.resolve_left (dllReqLen_com1 hr)
  · exact ⟨⟨hgap.baudrate, hgap.phyMode, hgap.sdci, hgap.operate⟩,
      fun _ hr => hgap.reqLen (Nat.pos_of_ne_zero h1) hr⟩
  · exact ⟨⟨hgap.baudrate, hgap.phyMode, hgap.sdci, hgap.operate⟩,
      fun hi => absurd hi (Nat.lt_irrefl 0)⟩

/-- A frame with a right checksum. Only a frame of more than two bytes leads
    to OPERATE. -/
theorem modeInv_dllAcceptFrame (cfg : BuildConfig) {c : DllCtx} (h : ModeInv c)
    (hreq : 2 < c.reqLen → c.baudrate = .com2) (rx : RxByte) :
    ModeInv (dllAcceptFrame cfg c rx).1 := by
  have hest : ModeInv { c with state := establishedState c.state } := by
    refine ⟨h.baudrate, h.phyMode, h.sdci, fun hs => h.operate ?_⟩
    simp only [establishedState] at hs
    split_ifs at hs
    exact hs
  rw [dllAcceptFrame_eq]
  cases hk : frameKind c.state c.reqLen (c.frameBuf 0) with
  | ignored => exact hest
  | transition => exact ⟨h.baudrate, h.phyMode, h.sdci, fun hs => DllState.noConfusion hs⟩
  | type0 => exact ⟨hest.baudrate, hest.phyMode, hest.sdci, hest.operate⟩
  | refused =>
    exact modeInv_dllEnterFallback cfg ⟨h.baudrate, h.phyMode, h.sdci, h.operate⟩
  | type12 =>
    obtain ⟨_, _, _, _, he, -⟩ := dllHandleOperateType12_eq cfg { c with state := .operate } rx
    simp only [he]
    refine ⟨h.baudrate, h.phyMode, h.sdci, fun _ => ?_⟩
    cases hs : c.state with
    | operate => exact h.operate hs
    | estabCom =>
      refine hreq ?_
      simp only [frameKind, hs] at hk
      split_ifs at hk with h2
      exact h2
    | startup | awaitingComm | preoperate =>
      simp only [frameKind, hs] at hk
      split_ifs at hk
    | fallback => simp [frameKind, hs] at hk

/-- One iteration of the receive loop keeps the invariant. -/
theorem loopInv_rxByte (cfg : BuildConfig) {c : DllCtx} (h : LoopInv c) (rx : RxByte) :
    LoopInv (rxByte cfg c rx).1 := by
  have ha := loopInv_rxAssemble cfg h rx
  simp only [rxByte]
  by_cases hfull : frameComplete (rxAssemble cfg c rx) = true
  · rw [if_pos hfull]
    have hidx : 0 < (rxAssemble cfg c rx).frameIndex := (frameComplete_iff.mp hfull).1
    obtain ⟨_, _, hcyc, -⟩ := cycleStart_eq cfg (rxAssemble cfg c rx) rx.procUs
    have hmode : ModeInv (cycleStart cfg (rxAssemble cfg c rx) rx.procUs) := by
      rw [hcyc]
      exact ⟨ha.baudrate, ha.phyMode, ha.sdci, ha.operate⟩
    have hframe : ModeInv (dllHandleFrame cfg (rxAssemble cfg c rx) rx).1 := by
      simp only [dllHandleFrame]
      split_ifs
      · refine modeInv_dllAcceptFrame cfg hmode (fun hr => ?_) rx
        rw [hcyc] at hr ⊢
        exact ha.reqLen hidx hr
      · exact modeInv_dllEnterFallback cfg
          ⟨hmode.baudrate, hmode.phyMode, hmode.sdci, hmode.operate⟩
    exact ⟨⟨hframe.baudrate, hframe.phyMode, hframe.sdci, hframe.operate⟩,
      fun hi => absurd hi (Nat.lt_irrefl 0)⟩
  · rw [if_neg hfull]
    exact ha

theorem loopInv_final (cfg : BuildConfig) {c : DllCtx} (h : LoopInv c) (rxs : List RxByte) :
    LoopInv ((rxMachine cfg).final c rxs) :=
  (rxMachine cfg).final_invariant (P := LoopInv) (fun _ rx h => loopInv_rxByte cfg h rx) h rxs

/-! ## Whole calls -/

theorem linkInv_inactivityReset {c : DllCtx} (h : LinkInv c) (nowMs : UInt32) :
    LinkInv (inactivityReset c nowMs) := by
  unfold inactivityReset
  dsimp only
  split_ifs
  · exact ⟨.inl rfl, .inl rfl, fun _ hs => absurd rfl hs, nofun, fun hi => absurd hi (lt_irrefl 0)⟩
  · exact ⟨h.baudrate, h.phyMode, fun _ hs => absurd rfl hs, nofun,
      fun hi => absurd hi (lt_irrefl 0)⟩
  · exact h

theorem loopInv_callGap (cfg : BuildConfig) {c : DllCtx} (h : LoopInv c) (nowUs : UInt64) :
    LoopInv (callGap cfg c nowUs) := by
  have hempty : ∀ {p : Prop}, 0 < 0 → p := fun hi => absurd hi (lt_irrefl 0)
  obtain he | ⟨_, _, _, _, _, he | ⟨-, -, he⟩ | ⟨-, he⟩⟩ := callGap_cases cfg c nowUs <;> rw [he]
  · exact h
  · exact ⟨⟨.inl rfl, .inl rfl, (fun hb => by cases hb), (fun hs => by cases hs)⟩, hempty⟩
  · exact ⟨⟨.inl rfl, h.phyMode, (fun hb => by cases hb), (fun hs => by cases hs)⟩, hempty⟩
  · exact ⟨⟨h.baudrate, h.phyMode, h.sdci, h.operate⟩, hempty⟩

/-- The rest of `iolink_dll_process` keeps the invariant. -/
theorem linkInv_dllReceive (cfg : BuildConfig) {c : DllCtx} (h : LinkInv c) (env : CallEnv) :
    LinkInv (dllReceive cfg c env).ctx := by
  have hr := linkInv_inactivityReset h env.nowMs
  unfold dllReceive
  generalize inactivityReset c env.nowMs = c₁ at hr
  dsimp only
  split_ifs with hpd hsio hwait
  · simp only [drainRx]
    split_ifs
    · exact hr
    · exact ⟨hr.baudrate, hr.phyMode, hr.sdci, hr.operate, hr.reqLen⟩
  · simp only [detectWakeup]
    split_ifs
    · exact ⟨hr.baudrate, .inr rfl, fun _ _ => rfl, nofun, hr.reqLen⟩
    · exact hr
  · exact (loopInv_callGap cfg (hr.loopInv hsio) env.gapUs).linkInv
  · exact (loopInv_final cfg (loopInv_callGap cfg (hr.loopInv hsio) env.gapUs) env.rx).linkInv

theorem linkInv_iolinkProcess (cfg : BuildConfig) {d : Device} (h : LinkInv d.dll)
    (env : CallEnv) : LinkInv (iolinkProcess cfg d env).1.dll := by
  obtain ⟨_, _, hp⟩ := polled_eq cfg d env
  refine linkInv_dllReceive cfg ?_ env
  rw [hp]
  exact ⟨h.baudrate, h.phyMode, h.sdci, h.operate, h.reqLen⟩

/-- The calls other than `iolink_process` do not touch the link. -/
theorem linkInv_deviceStep (cfg : BuildConfig) {d : Device} (h : LinkInv d.dll) (call : Call) :
    LinkInv (deviceStep cfg d call).1.dll := by
  cases call with
  | process env => exact linkInv_iolinkProcess cfg h env
  | pdInputUpdate data valid =>
    simp only [deviceStep, pdInputUpdate]
    split_ifs
    · exact h
    · exact ⟨h.baudrate, h.phyMode, h.sdci, h.operate, h.reqLen⟩
  | _ => exact ⟨h.baudrate, h.phyMode, h.sdci, h.operate, h.reqLen⟩

/-- The invariant holds in every reachable state. -/
theorem reaches_linkInv {cfg : BuildConfig} {config : Config} {hasSend : Bool} {calls : List Call}
    {d : Device} (h : Reaches cfg config hasSend calls d) : LinkInv d.dll := by
  obtain ⟨nowUs, image, store, rfl⟩ := h
  refine (deviceMachine cfg).final_invariant (P := fun d => LinkInv d.dll)
    (fun d call hd => linkInv_deviceStep cfg hd call) ?_ calls
  exact ⟨.inr rfl, .inl rfl, fun _ hs => absurd rfl hs, nofun, fun hi => absurd hi (lt_irrefl 0)⟩

/-! ## The configuration -/

theorem wired_odExchange {c : IsduCtx} (h : c.Wired) (od : UInt8) : (odExchange c od).1.Wired :=
  wired_getResponseByte (wired_collectByte h od)

theorem wired_odMachine {c : IsduCtx} (h : c.Wired) (od : List UInt8) :
    (odMachine.final c od).Wired :=
  odMachine.final_invariant (P := IsduCtx.Wired) (fun _ b hc => wired_odExchange hc b) h od

theorem sameConfig_dllAcceptFrame (cfg : BuildConfig) (c : DllCtx) (rx : RxByte) :
    SameConfig c (dllAcceptFrame cfg c rx).1 := by
  rw [dllAcceptFrame_eq]
  cases frameKind c.state c.reqLen (c.frameBuf 0) with
  | ignored | transition => exact ⟨rfl, rfl, rfl, rfl, rfl, rfl, rfl, id⟩
  | type0 =>
    exact ⟨rfl, rfl, rfl, rfl, rfl, rfl, rfl, fun h => wired_odExchange h (c.frameBuf 0)⟩
  | refused => exact { (untouched_dllEnterFallback cfg (framingError c)).toSameConfig with }
  | type12 =>
    obtain ⟨_, _, _, _, he, -⟩ := dllHandleOperateType12_eq cfg { c with state := .operate } rx
    simp only [he]
    exact ⟨rfl, rfl, rfl, rfl, rfl, rfl, rfl, fun h => wired_odMachine h _⟩

theorem sameConfig_dllHandleFrame (cfg : BuildConfig) (c : DllCtx) (rx : RxByte) :
    SameConfig c (dllHandleFrame cfg c rx).1 := by
  have hcyc := (untouched_cycleStart cfg c rx.procUs).toSameConfig
  simp only [dllHandleFrame]
  split_ifs
  · exact hcyc.trans (sameConfig_dllAcceptFrame cfg _ rx)
  · exact hcyc.trans (untouched_dllRejectFrame cfg _).toSameConfig

theorem sameConfig_rxByte (cfg : BuildConfig) (c : DllCtx) (rx : RxByte) :
    SameConfig c (rxByte cfg c rx).1 := by
  have ha := (untouched_rxAssemble cfg c rx).toSameConfig
  simp only [rxByte]
  by_cases hfull : frameComplete (rxAssemble cfg c rx) = true
  · rw [if_pos hfull]
    have hframe := ha.trans (sameConfig_dllHandleFrame cfg (rxAssemble cfg c rx) rx)
    exact { hframe with }
  · rw [if_neg hfull]
    exact ha

theorem sameConfig_dllReceive (cfg : BuildConfig) (c : DllCtx) (env : CallEnv) :
    SameConfig c (dllReceive cfg c env).ctx := by
  have hr := (untouched_inactivityReset c env.nowMs).toSameConfig
  unfold dllReceive
  generalize inactivityReset c env.nowMs = c₁ at hr
  have hg := hr.trans (untouched_callGap cfg c₁ env.gapUs).toSameConfig
  dsimp only
  split_ifs
  · exact hr.trans (untouched_drainRx cfg c₁ env.rx).toSameConfig
  · exact hr.trans (untouched_detectWakeup c₁ env).toSameConfig
  · exact hg
  · exact hg.trans ((rxMachine cfg).final_rel SameConfig.refl SameConfig.trans
      (sameConfig_rxByte cfg) _ env.rx)

theorem sameConfig_deviceStep (cfg : BuildConfig) (d : Device) (call : Call) :
    SameConfig d.dll (deviceStep cfg d call).1.dll := by
  cases call with
  | process env =>
    obtain ⟨_, _, hp⟩ := polled_eq cfg d env
    have h := sameConfig_dllReceive cfg (dllPollDiagnostics cfg (deviceIsduProcess cfg d).dll env)
      env
    rw [hp] at h
    simp only [deviceStep, iolinkProcess, hp]
    exact { h with wired := fun hw => h.wired (wired_isduProcess cfg d.host hw) }
  | pdInputUpdate data valid =>
    simp only [deviceStep, pdInputUpdate]
    split_ifs <;> exact ⟨rfl, rfl, rfl, rfl, rfl, rfl, rfl, id⟩
  | _ => exact ⟨rfl, rfl, rfl, rfl, rfl, rfl, rfl, id⟩

theorem sameConfig_final (cfg : BuildConfig) (d : Device) (calls : List Call) :
    SameConfig d.dll ((deviceMachine cfg).final d calls).dll :=
  (deviceMachine cfg).final_rel (R := fun d d' => SameConfig d.dll d'.dll)
    (fun d => .refl d.dll) SameConfig.trans (sameConfig_deviceStep cfg) d calls

/-- The engine of a reachable device is wired as `iolink_dll_init` has wired it. -/
theorem reaches_wired {cfg : BuildConfig} {config : Config} {hasSend : Bool} {calls : List Call}
    {d : Device} (h : Reaches cfg config hasSend calls d) : d.dll.isdu.Wired := by
  obtain ⟨nowUs, image, store, rfl⟩ := h
  exact (sameConfig_final cfg (iolinkInit cfg config hasSend nowUs image store) calls).wired
    ⟨rfl, rfl, rfl⟩

/-- **In OPERATE the device is at COM2 and in SDCI mode.** -/
theorem reaches_operating {cfg : BuildConfig} {config : Config} {calls : List Call} {d : Device}
    (h : Reaches cfg config true calls d) (hstate : d.dll.state = .operate)
    (hidx : d.dll.frameIndex = 0) : Operating config d.dll := by
  have hinv := reaches_linkInv h
  obtain ⟨nowUs, image, store, rfl⟩ := h
  have hc := sameConfig_final cfg (iolinkInit cfg config true nowUs image store) calls
  have hb := hinv.operate hstate
  exact ⟨hstate, hinv.sdci hb (by rw [hstate]; decide), hb, hidx, hc.hasSend, hc.mSeqType, hc.odLen,
    hc.pdInLenCurrent, hc.pdOutLenCurrent⟩

/-! ## The power-on delay -/

/-- A call during the power-on delay leaves the device in the state it was in,
    or in STARTUP. -/
theorem dllReceive_state_of_tPdActive (cfg : BuildConfig) {c : DllCtx} {env : CallEnv}
    (hactive : dllTPdActive c env.tPdUs = true) :
    (dllReceive cfg c env).ctx.state = c.state ∨ (dllReceive cfg c env).ctx.state = .startup := by
  have hdead := (untouched_inactivityReset c env.nowMs).tPdDeadlineUs
  have hactive' : dllTPdActive (inactivityReset c env.nowMs) env.tPdUs = true := by
    rw [dllTPdActive, hdead]; exact hactive
  have hdrain : ∀ c : DllCtx, (drainRx cfg c env.rx).state = c.state := by
    intro c
    unfold drainRx
    split_ifs <;> rfl
  simp only [dllReceive, hactive', if_true, hdrain]
  unfold inactivityReset
  split_ifs
  · exact .inr rfl
  · exact .inl rfl

/-- **A device that has left STARTUP has seen the end of the power-on delay.** -/
theorem reaches_powered {cfg : BuildConfig} {config : Config} {hasSend : Bool} {calls : List Call}
    {d : Device} (h : Reaches cfg config hasSend calls d) (hstate : d.dll.state ≠ .startup) :
    d.dll.tPdDeadlineUs = 0 ∨
      ∃ env, Call.process env ∈ calls ∧ d.dll.tPdDeadlineUs ≤ env.tPdUs := by
  obtain ⟨nowUs, image, store, rfl⟩ := h
  -- On the list of calls from its end: the last call that received a byte after STARTUP counts.
  induction calls using List.reverseRecOn with
  | nil => exact absurd rfl hstate
  | append_singleton calls call ih =>
    rw [Machine.final_append, Machine.final_cons, Machine.final_nil] at hstate ⊢
    generalize hd : (deviceMachine cfg).final (iolinkInit cfg config hasSend nowUs image store)
      calls = d at hstate ih ⊢
    have hsame := (sameConfig_deviceStep cfg d call).tPdDeadlineUs
    have hbefore : d.dll.state ≠ .startup → (d.dll.tPdDeadlineUs = 0 ∨
        ∃ env, Call.process env ∈ calls ++ [call] ∧ d.dll.tPdDeadlineUs ≤ env.tPdUs) := by
      intro hs
      rcases ih hs with hz | ⟨env, hmem, hle⟩
      · exact .inl hz
      · exact .inr ⟨env, by simp [hmem], hle⟩
    simp only [deviceMachine] at hstate ⊢
    rw [hsame]
    cases call with
    | process env =>
      by_cases hactive : dllTPdActive d.dll env.tPdUs = true
      · apply hbefore
        have hstate' : (dllReceive cfg (dllPollDiagnostics cfg (deviceIsduProcess cfg d).dll env)
          env).ctx.state ≠ .startup := hstate
        obtain ⟨_, _, hp⟩ := polled_eq cfg d env
        generalize dllPollDiagnostics cfg (deviceIsduProcess cfg d).dll env = c at hp hstate'
        have hactive' : dllTPdActive c env.tPdUs = true := by rw [hp]; exact hactive
        rcases dllReceive_state_of_tPdActive cfg hactive' with he | he
        · rw [he, hp] at hstate'; exact hstate'
        · exact absurd he hstate'
      · simp only [dllTPdActive, Bool.and_eq_true, decide_eq_true_eq, not_and, UInt64.not_lt]
          at hactive
        by_cases hz : d.dll.tPdDeadlineUs = 0
        · exact .inl hz
        · exact .inr ⟨env, by simp, hactive hz⟩
    | pdInputUpdate data valid =>
      apply hbefore
      simp only [deviceStep, pdInputUpdate] at hstate
      split_ifs at hstate <;> exact hstate
    | _ => exact hbefore hstate

/-- With a clock that does not go back, the delay stays over. -/
theorem reaches_not_tPdActive {cfg : BuildConfig} {config : Config} {hasSend : Bool}
    {calls : List Call} {d : Device} (h : Reaches cfg config hasSend calls d)
    (hstate : d.dll.state ≠ .startup) {tPdUs : UInt64}
    (hclock : ∀ env, Call.process env ∈ calls → env.tPdUs ≤ tPdUs) :
    dllTPdActive d.dll tPdUs = false := by
  rcases reaches_powered h hstate with hz | ⟨env, hmem, hle⟩
  · simp [dllTPdActive, hz]
  · have hge : ¬ tPdUs < d.dll.tPdDeadlineUs :=
      UInt64.not_lt.mpr (UInt64.le_trans hle (hclock env hmem))
    simp [dllTPdActive, hge]

end Iolinki
