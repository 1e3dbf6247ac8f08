import Iolinki.Dll.Gap

/-!
# The link as an automaton

The state, the mode of the PHY, the baudrate and the fallback counter (`LinkView`)
make up an automaton of their own. Its inputs are what happens on the line: silence
of more than a second, a wake-up, a partial frame that times out before the receive
loop, and complete frames. Everything else in the context only decides when these
happen.

* `views_deviceStep`: one call of the application.
* `link_refines_automaton`: a run from `iolink_init` is a run of the automaton.
-/

namespace Iolinki

open Iolinki.Lib

/-! ## The automaton -/

/-- What the next state of the link depends on. -/
structure LinkView where
  state : DllState
  phyMode : PhyMode
  baudrate : Baudrate
  /-- `fallback_count` -/
  failures : ℕ
  deriving DecidableEq, Repr

/-- What happens on the line. -/
inductive LinkInput
  /-- more than a second without a byte -/
  | silence
  | wakeup
  /-- a partial frame is dropped before the receive loop -/
  | timeout
  /-- a complete frame -/
  | frame (bytes : List UInt8)
  deriving DecidableEq, Repr

/-- `sio_fallback_threshold`, as `iolink_dll_init` sets it. -/
def sioThreshold : ℕ := 3

/-- A failure: the third one gives up SDCI, one below ESTAB_COM starts again at
    COM1, any other is only counted. -/
def LinkView.fail (v : LinkView) : LinkView :=
  if v.failures + 1 ≥ sioThreshold then ⟨.startup, .sio, .com1, 0⟩
  else if v.state = .operate ∨ v.state = .estabCom then { v with failures := v.failures + 1 }
  else { v with state := .startup, baudrate := .com1, failures := v.failures + 1 }

/-- A complete frame by its kind; `none` is a wrong checksum. A reply to a Type 1 or
    Type 2 frame resets the counter, a Type 0 frame does not. -/
def LinkView.handle (replies : Bool) (v : LinkView) : Option FrameKind → LinkView
  | none => v.fail
  | some .refused => v.fail
  | some .ignored => { v with state := establishedState v.state }
  | some .type0 => { v with state := establishedState v.state }
  | some .transition => { v with state := .estabCom, failures := 0 }
  | some .type12 =>
    { v with state := .operate, failures := if replies then 0 else v.failures }

/-- What the bytes of a complete frame are taken for. -/
def LinkView.kindOf (v : LinkView) (frame : List UInt8) : Option FrameKind :=
  if checksumOk frame then some (frameKind v.state frame.length (frame.getD 0 0)) else none

/-- The next state of the link. -/
def LinkView.next (replies : Bool) (v : LinkView) : LinkInput → LinkView
  | .silence =>
    { v with
      state := .startup
      phyMode := .sio
      baudrate := if v.phyMode = .sio then v.baudrate else .com1 }
  | .wakeup => { v with state := .awaitingComm, phyMode := .sdci }
  | .timeout => v.fail
  | .frame bytes => v.handle replies (v.kindOf bytes)

/-- The automaton of a device that replies to frames, or does not because it has no
    `phy->send`. -/
def linkAutomaton (replies : Bool) : Machine LinkView LinkInput Unit :=
  ⟨fun v i => (v.next replies i, ())⟩

/-! ## The inputs of a run -/

/-- The view of a context. -/
def linkView (c : DllCtx) : LinkView := ⟨c.state, c.phyMode, c.baudrate, c.fallbackCount⟩

/-- More than a second has passed since the last byte. -/
def Silent (c : DllCtx) (nowMs : UInt32) : Prop :=
  c.lastActivityMs ≠ 0 ∧ nowMs - c.lastActivityMs > 1000

instance (c : DllCtx) (nowMs : UInt32) : Decidable (Silent c nowMs) :=
  inferInstanceAs (Decidable (_ ∧ _))

/-- The frame that a received byte completes. -/
def frameInput (cfg : BuildConfig) (c : DllCtx) (rx : RxByte) : List LinkInput :=
  if frameComplete (rxAssemble cfg c rx) then [.frame (frameOf (rxAssemble cfg c rx))] else []

/-- What happens on the line in a call of `iolink_dll_process`. -/
def receiveInputs (cfg : BuildConfig) (c : DllCtx) (env : CallEnv) : List LinkInput :=
  let c₁ := inactivityReset c env.nowMs
  (if Silent c env.nowMs then [.silence] else []) ++
    if dllTPdActive c₁ env.tPdUs then []
    else if c₁.phyMode = .sio then if c₁.frameIndex = 0 ∧ env.wakeup then [.wakeup] else []
    else (if Late c₁ env.gapUs then [.timeout] else []) ++ noteReceive cfg (frameInput cfg) c env

/-- What happens on the line in a call of the application. -/
def callInputs (cfg : BuildConfig) (d : Device) : Call → List LinkInput
  | .process env =>
    receiveInputs cfg (dllPollDiagnostics cfg (deviceIsduProcess cfg d).dll env) env
  | _ => []

/-- What happens on the line in a run. -/
def linkInputs (cfg : BuildConfig) (d : Device) (calls : List Call) : List LinkInput :=
  (deviceMachine cfg).collect (callInputs cfg) d calls

/-! ## Steps of the link -/

section Steps

variable (cfg : BuildConfig) {replies : Bool} {c : DllCtx}

theorem LinkView.failures_fail {v : LinkView} (h : v.failures < sioThreshold) :
    v.fail.failures < sioThreshold := by
  unfold LinkView.fail sioThreshold at *
  split_ifs <;> dsimp only <;> omega

theorem LinkView.failures_handle {v : LinkView} (h : v.failures < sioThreshold)
    (kind : Option FrameKind) : (v.handle replies kind).failures < sioThreshold := by
  have hfail := LinkView.failures_fail h
  cases kind with
  | none => exact hfail
  | some kind =>
    cases kind with
    | ignored => exact h
    | transition => exact Nat.zero_lt_succ _
    | type0 => exact h
    | type12 =>
      simp only [LinkView.handle]
      split_ifs
      · exact Nat.zero_lt_succ _
      · exact h
    | refused => exact hfail

/-- `dll_enter_fallback` is a failure of the link. -/
theorem view_dllEnterFallback (hthr : c.sioFallbackThreshold = sioThreshold)
    (hlt : c.fallbackCount < sioThreshold) :
    linkView (dllEnterFallback cfg c) = (linkView c).fail := by
  have hmod : (c.fallbackCount + 1) % 256 = c.fallbackCount + 1 := by
    unfold sioThreshold at hlt
    omega
  unfold dllEnterFallback LinkView.fail
  dsimp only
  rw [hmod, hthr]
  by_cases h1 : c.fallbackCount + 1 ≥ sioThreshold
  · rw [if_pos h1, if_pos (show (linkView c).failures + 1 ≥ sioThreshold from h1)]
    rfl
  · rw [if_neg h1, if_neg (show ¬ (linkView c).failures + 1 ≥ sioThreshold from h1)]
    by_cases h2 : c.state = .operate ∨ c.state = .estabCom
    · have hv : (linkView c).state = .operate ∨ (linkView c).state = .estabCom := h2
      rw [if_neg (by tauto), if_pos hv]
      rfl
    · have hv : ¬ ((linkView c).state = .operate ∨ (linkView c).state = .estabCom) := h2
      rw [if_pos (by tauto), if_neg hv]
      rfl

/-- A Type 1 or Type 2 frame. -/
theorem view_dllHandleOperateType12 (hsend : c.hasSend = replies) (rx : RxByte) :
    linkView (dllHandleOperateType12 cfg c rx).1 =
      { linkView c with failures := if replies then 0 else c.fallbackCount } := by
  obtain ⟨hcount, -, -⟩ := fallbackCount_dllHandleOperateType12 cfg c rx
  obtain ⟨_, _, _, _, he, -⟩ := dllHandleOperateType12_eq cfg c rx
  rw [hsend] at hcount
  rw [← hcount, he]
  rfl

/-- **A complete frame.** -/
theorem view_dllHandleFrame (hthr : c.sioFallbackThreshold = sioThreshold)
    (hlt : c.fallbackCount < sioThreshold) (hsend : c.hasSend = replies) (hlen : 2 ≤ c.reqLen)
    (rx : RxByte) :
    linkView (dllHandleFrame cfg c rx).1 = (linkView c).next replies (.frame (frameOf c)) := by
  have hkind : (linkView c).kindOf (frameOf c) =
      if frameCrcOk c then some (frameKind c.state c.reqLen (c.frameBuf 0)) else none := by
    rw [LinkView.kindOf, ← frameCrcOk_eq hlen, length_frameOf, frameOf_head (by omega)]
    rfl
  obtain ⟨stats, events, hcyc, -⟩ := cycleStart_eq cfg c rx.procUs
  rw [LinkView.next, hkind]
  simp only [dllHandleFrame, hcyc]
  by_cases hcrc : frameCrcOk c = true
  · rw [if_pos hcrc, if_pos (show frameCrcOk { c with
      stats := stats, events := events, lastCycleStartUs := rx.procUs } = true from hcrc),
      dllAcceptFrame_eq]
    dsimp only
    cases hk : frameKind c.state c.reqLen (c.frameBuf 0) with
    | ignored => rfl
    | transition => rfl
    | type0 => rfl
    | refused => exact view_dllEnterFallback cfg (c := framingError _) hthr hlt
    | type12 => exact view_dllHandleOperateType12 cfg (c := { c with
        stats := stats, events := events, lastCycleStartUs := rx.procUs,
        state := .operate }) hsend rx
  · rw [if_neg hcrc, if_neg (show ¬ frameCrcOk { c with
      stats := stats, events := events, lastCycleStartUs := rx.procUs } = true from hcrc)]
    exact view_dllEnterFallback cfg (c := framingError _) hthr hlt

end Steps

/-! ## Runs -/

/-- The automaton is in the state `v` of the link. -/
structure Views (replies : Bool) (c : DllCtx) (v : LinkView) : Prop where
  view : linkView c = v
  below : v.failures < sioThreshold
  threshold : c.sioFallbackThreshold = sioThreshold
  sends : c.hasSend = replies
  bounded : Bounded c

/-- Steps that leave the view alone. -/
theorem Views.congr {replies : Bool} {c c' : DllCtx} {v : LinkView} (h : Views replies c v)
    (hv : linkView c' = linkView c) (ht : c'.sioFallbackThreshold = c.sioFallbackThreshold)
    (hs : c'.hasSend = c.hasSend) (hb : Bounded c') : Views replies c' v :=
  ⟨hv.trans h.view, h.below, ht.trans h.threshold, hs.trans h.sends, hb⟩

section Runs

variable (cfg : BuildConfig) {replies : Bool} {c : DllCtx} {v : LinkView}

theorem view_rxAssemble (rx : RxByte) : linkView (rxAssemble cfg c rx) = linkView c := by
  obtain ⟨hs, hm, hb⟩ := link_rxAssemble cfg c rx
  have hf := (sameCount_rxAssemble cfg c rx).fallbackCount
  rw [linkView, hs, hm, hb, hf]
  rfl

/-- The automaton takes at most one step. -/
theorem final_ite_input (p : Prop) [Decidable p] (i : LinkInput) :
    (linkAutomaton replies).final v (if p then [i] else []) =
      if p then v.next replies i else v := by
  split_ifs <;> rfl

theorem LinkView.failures_next (hv : v.failures < sioThreshold) (i : LinkInput) :
    (v.next replies i).failures < sioThreshold := by
  cases i with
  | silence => exact hv
  | wakeup => exact hv
  | timeout => exact LinkView.failures_fail hv
  | frame bytes => exact LinkView.failures_handle hv _

/-- **One received byte.** -/
theorem views_rxByte (h : Views replies c v) (rx : RxByte) :
    Views replies (rxByte cfg c rx).1
      ((linkAutomaton replies).final v (frameInput cfg c rx)) := by
  have hasm := assembled_rxAssemble cfg h.bounded rx
  have hcount := sameCount_rxAssemble cfg c rx
  have hview : linkView (rxAssemble cfg c rx) = v := (view_rxAssemble cfg rx).trans h.view
  have hb := bounded_rxByte cfg h.bounded rx
  have hthr := (kept_rxByte cfg c rx).threshold.trans h.threshold
  have hsend := (sameConfig_rxByte cfg c rx).hasSend.trans h.sends
  rw [frameInput, final_ite_input]
  by_cases hfull : frameComplete (rxAssemble cfg c rx) = true
  · rw [if_pos hfull]
    have hframe := view_dllHandleFrame cfg (hcount.threshold.trans h.threshold)
      (hcount.fallbackCount.trans_lt (by rw [← h.view] at h; exact h.below))
      ((untouched_rxAssemble cfg c rx).hasSend.trans h.sends) hasm.reqLen rx
    rw [hview] at hframe
    refine ⟨?_, LinkView.failures_next h.below _, hthr, hsend, hb⟩
    simp only [rxByte, hfull, if_true]
    exact hframe
  · rw [if_neg hfull]
    refine ⟨?_, h.below, hthr, hsend, hb⟩
    simp only [rxByte, hfull]
    exact hview

/-- A burst. -/
theorem views_rxs (h : Views replies c v) (rxs : List RxByte) :
    Views replies ((rxMachine cfg).final c rxs)
      ((linkAutomaton replies).final v ((rxMachine cfg).collect (frameInput cfg) c rxs)) := by
  have hnil : Views replies c ((linkAutomaton replies).final v []) := h
  have hrun := (rxMachine cfg).final_collect_induct (f := frameInput cfg)
    (P := fun c log => Views replies c ((linkAutomaton replies).final v log))
    (fun c rx log hc => by rw [Machine.final_append]; exact views_rxByte cfg hc rx) hnil rxs
  exact hrun

theorem views_inactivityReset (h : Views replies c v) (nowMs : UInt32) :
    Views replies (inactivityReset c nowMs)
      ((linkAutomaton replies).final v (if Silent c nowMs then [.silence] else [])) := by
  have hb := bounded_inactivityReset h.bounded nowMs
  rw [final_ite_input]
  by_cases hs : Silent c nowMs
  · have hreset : inactivityReset c nowMs = { (if c.phyMode ≠ .sio then
        dllSetSioMode (dllSetBaudrate { c with lastActivityMs := 0 } .com1)
        else { c with lastActivityMs := 0 }) with state := .startup, frameIndex := 0 } := if_pos hs
    rw [if_pos hs]
    rw [hreset] at hb ⊢
    have hv := h.view
    subst hv
    by_cases hm : c.phyMode = .sio
    · rw [if_neg (not_not.mpr hm)] at hb ⊢
      refine ⟨?_, h.below, h.threshold, h.sends, hb⟩
      simp only [linkView, LinkView.next, hm, if_true]
    · rw [if_pos hm] at hb ⊢
      refine ⟨?_, h.below, h.threshold, h.sends, hb⟩
      simp only [linkView, LinkView.next, hm, if_false, dllSetSioMode, dllSetBaudrate]
  · rw [if_neg hs]
    have hreset : inactivityReset c nowMs = c := if_neg hs
    rw [hreset]
    exact h

theorem views_callGap (h : Views replies c v) (nowUs : UInt64) :
    Views replies (callGap cfg c nowUs)
      ((linkAutomaton replies).final v (if Late c nowUs then [.timeout] else [])) := by
  have hb := bounded_callGap cfg h.bounded nowUs
  have hthr := (kept_callGap cfg c nowUs).threshold.trans h.threshold
  have hsend := (untouched_callGap cfg c nowUs).hasSend.trans h.sends
  rw [final_ite_input]
  by_cases hl : Late c nowUs
  · rw [if_pos hl]
    refine ⟨?_, LinkView.failures_next h.below _, hthr, hsend, hb⟩
    have hv := h.view
    subst hv
    obtain ⟨stats, events, hdrop⟩ := byteTimeout_eq cfg c
    rw [callGap_of_late cfg hl, dropPartial, hdrop]
    exact view_dllEnterFallback cfg (c := { c with
      stats := stats, events := events, frameIndex := 0 }) h.threshold h.below
  · rw [if_neg hl, callGap_of_not_late cfg hl]
    exact h

theorem views_detectWakeup (h : Views replies c v) (env : CallEnv) :
    Views replies (detectWakeup c env)
      ((linkAutomaton replies).final v
        (if c.frameIndex = 0 ∧ env.wakeup then [.wakeup] else [])) := by
  have hb := bounded_detectWakeup h.bounded env
  rw [final_ite_input]
  unfold detectWakeup at hb ⊢
  by_cases hw : c.frameIndex = 0 ∧ env.wakeup = true
  · rw [if_pos hw] at hb ⊢
    rw [if_pos hw]
    have hv := h.view
    subst hv
    exact ⟨rfl, h.below, h.threshold, h.sends, hb⟩
  · rw [if_neg hw] at hb ⊢
    rw [if_neg hw]
    exact h

/-- **One call of `iolink_dll_process`.** -/
theorem views_dllReceive (h : Views replies c v) (env : CallEnv) :
    Views replies (dllReceive cfg c env).ctx
      ((linkAutomaton replies).final v (receiveInputs cfg c env)) := by
  have hreset := views_inactivityReset h env.nowMs
  rw [receiveInputs, Machine.final_append]
  generalize (linkAutomaton replies).final v (if Silent c env.nowMs then [.silence] else []) = v₁
    at hreset
  have hgap := views_callGap cfg hreset env.gapUs
  rcases dllReceive_cases cfg c env with ⟨hpd, hno, he⟩ | ⟨hpd, hm, hno, he⟩ | ⟨hpd, hm, hno, he⟩ |
    ⟨hpd, hm, hsome, he⟩
  · rw [he, if_pos hpd]
    refine hreset.congr ?_ (kept_drainRx cfg _ env.rx).threshold
      (untouched_drainRx cfg _ env.rx).hasSend (bounded_drainRx cfg hreset.bounded env.rx)
    unfold drainRx
    split_ifs <;> rfl
  · rw [he, if_neg (by rw [hpd]; exact Bool.false_ne_true), if_pos hm]
    exact views_detectWakeup hreset env
  · rw [he, if_neg (by rw [hpd]; exact Bool.false_ne_true), if_neg hm, Machine.final_append]
    simp only [noteReceive, hno, Machine.final_nil]
    exact hgap
  · rw [he, if_neg (by rw [hpd]; exact Bool.false_ne_true), if_neg hm, Machine.final_append]
    simp only [noteReceive, hsome]
    exact views_rxs cfg hgap env.rx

/-- **One call of the application.** -/
theorem views_deviceStep {d : Device} (h : Views replies d.dll v) (call : Call) :
    Views replies (deviceStep cfg d call).1.dll
      ((linkAutomaton replies).final v (callInputs cfg d call)) := by
  have hb := bounded_deviceStep cfg h.bounded call
  cases call with
  | process env =>
    obtain ⟨_, _, hp⟩ := polled_eq cfg d env
    refine views_dllReceive cfg (h.congr ?_ ?_ ?_ (bounded_polled cfg h.bounded env)) env
    all_goals rw [hp]
    rfl
  | pdInputUpdate data valid =>
    refine h.congr ?_ ?_ ?_ hb
    all_goals
      simp only [deviceStep, pdInputUpdate]
      split_ifs <;> rfl
  | _ => exact h.congr rfl rfl rfl hb

end Runs

/-- **A run of the device is a run of the automaton**: where the link is after any
    sequence of calls depends on what has happened on the line only. -/
theorem link_refines_automaton (cfg : BuildConfig) (config : Config) (hfit : PdFits config)
    (hasSend : Bool) (nowUs : UInt64) (image : Option ParamsNvm) (store : Store)
    (calls : List Call) :
    let d₀ := iolinkInit cfg config hasSend nowUs image store
    linkView ((deviceMachine cfg).final d₀ calls).dll =
      (linkAutomaton hasSend).final ⟨.startup, .sio, .com2, 0⟩ (linkInputs cfg d₀ calls) := by
  intro d₀
  have h₀ : Views hasSend d₀.dll ((linkAutomaton hasSend).final ⟨.startup, .sio, .com2, 0⟩ []) :=
    ⟨rfl, Nat.zero_lt_succ _, rfl, rfl, bounded_iolinkInit cfg hfit.pdOut hasSend nowUs image store⟩
  have hrun := (deviceMachine cfg).final_collect_induct (f := callInputs cfg)
    (P := fun d log => Views hasSend d.dll ((linkAutomaton hasSend).final _ log))
    (fun d call log hd => by rw [Machine.final_append]; exact views_deviceStep cfg hd call) h₀ calls
  exact hrun.view

theorem link_refines_automaton_startup :
    linkView (startedDevice .type11).dll =
      (linkAutomaton true).final ⟨.startup, .sio, .com2, 0⟩
        (linkInputs {} (iolinkInit {} (sampleConfig .type11) true 0 none storeInit)
          (startupCalls .type11)) :=
  link_refines_automaton {} (sampleConfig .type11) ⟨by decide, by decide⟩ true 0 none storeInit
    (startupCalls .type11)

end Iolinki
