import Iolinki.Dll.Loop
import Iolinki.Isdu.Invariant

/-!
# The link and the ISDU engine

The link hands OD bytes to the ISDU engine and sends what it gets back, but what
it does next never depends on the engine. `DllCtx.withIsdu` exchanges the engine
of a context; every step of the link commutes with it.

* `rxByte_withIsdu`: a byte is handled as with any other engine, and the engine
  gets the OD bytes of the frame that the byte completes.
* `reaches_isduInv`: the engine of a reachable device keeps its invariant.
-/

namespace Iolinki

open Iolinki.Lib

/-! ## The link does not look at the engine -/

/-- The context with another ISDU engine. -/
def DllCtx.withIsdu (c : DllCtx) (e : IsduCtx) : DllCtx := { c with isdu := e }

/-- The OD bytes of a complete frame that are given to the ISDU engine. -/
def frameOd (c : DllCtx) : List UInt8 :=
  if frameCrcOk c then
    match frameKind c.state c.reqLen (c.frameBuf 0) with
    | .type0 => [c.frameBuf 0]
    | .type12 => odField c
    | _ => []
  else []

theorem withIsdu_ite (p : Prop) {_ : Decidable p} (c c' : DllCtx) (e : IsduCtx) :
    (if p then c.withIsdu e else c'.withIsdu e) = (if p then c else c').withIsdu e :=
  (apply_ite (fun c : DllCtx => c.withIsdu e) p c c').symm

section Link

variable (cfg : BuildConfig) (c : DllCtx) (e : IsduCtx)

theorem dllEnterFallback_withIsdu :
    dllEnterFallback cfg (c.withIsdu e) = (dllEnterFallback cfg c).withIsdu e := by
  unfold dllEnterFallback DllCtx.withIsdu
  dsimp only
  split_ifs <;> rfl

theorem rxAssemble_withIsdu (rx : RxByte) :
    rxAssemble cfg (c.withIsdu e) rx = (rxAssemble cfg c rx).withIsdu e := by
  unfold rxAssemble assemble byteGap DllCtx.withIsdu
  dsimp only
  split_ifs <;> rfl

theorem cycleStart_withIsdu (procUs : UInt64) :
    cycleStart cfg (c.withIsdu e) procUs = (cycleStart cfg c procUs).withIsdu e := by
  unfold cycleStart DllCtx.withIsdu
  dsimp only
  split_ifs <;> rfl

theorem afterSend_withIsdu (txUs : UInt64) :
    afterSend cfg (c.withIsdu e) txUs = (afterSend cfg c txUs).withIsdu e := by
  unfold afterSend
  dsimp only
  rw [← withIsdu_ite]
  rfl

theorem callGap_withIsdu (nowUs : UInt64) :
    callGap cfg (c.withIsdu e) nowUs = (callGap cfg c nowUs).withIsdu e := by
  refine Eq.trans ?_ (withIsdu_ite _ _ c e)
  rw [← dllEnterFallback_withIsdu]
  rfl

theorem inactivityReset_withIsdu (nowMs : UInt32) :
    inactivityReset (c.withIsdu e) nowMs = (inactivityReset c nowMs).withIsdu e := by
  unfold inactivityReset DllCtx.withIsdu
  dsimp only
  split_ifs <;> rfl

theorem drainRx_withIsdu (rxs : List RxByte) :
    drainRx cfg (c.withIsdu e) rxs = (drainRx cfg c rxs).withIsdu e := by
  unfold drainRx
  split_ifs <;> rfl

theorem detectWakeup_withIsdu (env : CallEnv) :
    detectWakeup (c.withIsdu e) env = (detectWakeup c env).withIsdu e := by
  unfold detectWakeup DllCtx.withIsdu
  dsimp only
  split_ifs <;> rfl

theorem dllPollDiagnostics_withIsdu (env : CallEnv) :
    dllPollDiagnostics cfg (c.withIsdu e) env = (dllPollDiagnostics cfg c env).withIsdu e := by
  unfold dllPollDiagnostics DllCtx.withIsdu
  cases env.voltageMv with
  | none =>
    dsimp only
    split_ifs <;> rfl
  | some voltage =>
    dsimp only
    split_ifs <;> rfl

theorem dllHandleOperateType12_withIsdu (rx : RxByte) :
    (dllHandleOperateType12 cfg (c.withIsdu e) rx).1 =
      (dllHandleOperateType12 cfg c rx).1.withIsdu (odMachine.final e (odField c)) := by
  have hsent : ∀ c' : DllCtx,
      (if c.hasSend then afterSend cfg (c'.withIsdu (odMachine.final e (odField c))) rx.txUs
        else c'.withIsdu (odMachine.final e (odField c))) =
        (if c.hasSend then afterSend cfg c' rx.txUs else c').withIsdu
          (odMachine.final e (odField c)) := by
    intro c'
    rw [afterSend_withIsdu, withIsdu_ite]
  exact congrArg (fun c : DllCtx => { c with lastResponseUs := rx.lastUs }) (hsent { c with
    pdOut := if c.pdOutLenCurrent > 0 then blit c.pdOut 0 (pdField c) else c.pdOut
    isdu := odMachine.final c.isdu (odField c) })

/-- **A frame is handled as with any other engine**, and the engine gets the OD
    bytes of the frame. -/
theorem dllHandleFrame_withIsdu (rx : RxByte) :
    (dllHandleFrame cfg (c.withIsdu e) rx).1 =
      (dllHandleFrame cfg c rx).1.withIsdu (odMachine.final e (frameOd c)) := by
  obtain ⟨c₁, hc₁⟩ : ∃ c₁, cycleStart cfg c rx.procUs = c₁ := ⟨_, rfl⟩
  have hod : frameOd c = frameOd c₁ := by
    obtain ⟨_, _, hcyc, -⟩ := cycleStart_eq cfg c rx.procUs
    rw [← hc₁, hcyc]
    rfl
  simp only [dllHandleFrame, cycleStart_withIsdu, hc₁, hod]
  have hcrc : frameCrcOk (c₁.withIsdu e) = frameCrcOk c₁ := rfl
  rw [hcrc, frameOd]
  by_cases hok : frameCrcOk c₁ = true
  · rw [if_pos hok, if_pos hok, if_pos hok, dllAcceptFrame_eq, dllAcceptFrame_eq]
    have hkind : frameKind (c₁.withIsdu e).state (c₁.withIsdu e).reqLen
        ((c₁.withIsdu e).frameBuf 0) =
      frameKind c₁.state c₁.reqLen (c₁.frameBuf 0) := rfl
    rw [hkind]
    cases frameKind c₁.state c₁.reqLen (c₁.frameBuf 0) with
    | ignored | transition | type0 => rfl
    | refused => exact dllEnterFallback_withIsdu cfg (framingError c₁) e
    | type12 => exact dllHandleOperateType12_withIsdu cfg { c₁ with state := .operate } e rx
  · rw [if_neg hok, if_neg hok, if_neg hok]
    exact dllEnterFallback_withIsdu cfg
      (framingError { c₁ with stats := { c₁.stats with crcErrors := c₁.stats.crcErrors + 1 } }) e

/-- The OD bytes that the byte completes. -/
def rxOd (cfg : BuildConfig) (c : DllCtx) (rx : RxByte) : List UInt8 :=
  if frameComplete (rxAssemble cfg c rx) then frameOd (rxAssemble cfg c rx) else []

/-- **A byte is handled as with any other engine.** -/
theorem rxByte_withIsdu (rx : RxByte) :
    (rxByte cfg (c.withIsdu e) rx).1 =
      (rxByte cfg c rx).1.withIsdu (odMachine.final e (rxOd cfg c rx)) := by
  simp only [rxByte, rxAssemble_withIsdu, rxOd]
  have hfull : frameComplete ((rxAssemble cfg c rx).withIsdu e) =
      frameComplete (rxAssemble cfg c rx) :=
    rfl
  rw [hfull]
  by_cases h : frameComplete (rxAssemble cfg c rx) = true
  · rw [if_pos h, if_pos h, if_pos h, dllHandleFrame_withIsdu]
    rfl
  · rw [if_neg h, if_neg h, if_neg h]
    rfl

theorem isdu_rxByte (rx : RxByte) :
    (rxByte cfg c rx).1.isdu = odMachine.final c.isdu (rxOd cfg c rx) :=
  congrArg DllCtx.isdu (rxByte_withIsdu cfg c c.isdu rx)

theorem rxOd_withIsdu (rx : RxByte) : rxOd cfg (c.withIsdu e) rx = rxOd cfg c rx := by
  unfold rxOd
  rw [rxAssemble_withIsdu]
  rfl

theorem loopStart_withIsdu (env : CallEnv) :
    loopStart cfg (c.withIsdu e) env = (loopStart cfg c env).map fun c => c.withIsdu e := by
  simp only [loopStart, inactivityReset_withIsdu]
  generalize inactivityReset c env.nowMs = c₁
  have hpd : dllTPdActive (c₁.withIsdu e) env.tPdUs = dllTPdActive c₁ env.tPdUs := rfl
  have hmode : (c₁.withIsdu e).phyMode = c₁.phyMode := rfl
  rw [hpd, hmode, callGap_withIsdu]
  generalize callGap cfg c₁ env.gapUs = c₂
  have hwait : awaitingDelay (c₂.withIsdu e) env.awaitUs = awaitingDelay c₂ env.awaitUs := rfl
  rw [hwait]
  split_ifs <;> rfl

/-- A call that does not get to the receive loop leaves the engine alone. -/
theorem dllReceive_withIsdu {env : CallEnv} (h : loopStart cfg c env = none) :
    (dllReceive cfg (c.withIsdu e) env).ctx = (dllReceive cfg c env).ctx.withIsdu e := by
  simp only [dllReceive, loopStart, inactivityReset_withIsdu] at h ⊢
  generalize inactivityReset c env.nowMs = c₁ at h ⊢
  have hpd : dllTPdActive (c₁.withIsdu e) env.tPdUs = dllTPdActive c₁ env.tPdUs := rfl
  have hmode : (c₁.withIsdu e).phyMode = c₁.phyMode := rfl
  rw [hpd, hmode, callGap_withIsdu]
  generalize callGap cfg c₁ env.gapUs = c₂ at h ⊢
  have hwait : awaitingDelay (c₂.withIsdu e) env.awaitUs = awaitingDelay c₂ env.awaitUs := rfl
  rw [hwait]
  split_ifs at h ⊢
  · exact drainRx_withIsdu cfg c₁ e env.rx
  · exact detectWakeup_withIsdu c₁ e env
  · rfl

end Link

/-! ## The engine of a reachable device -/

theorem isduInv_odMachine {e : IsduCtx} (h : IsduInv e) (od : List UInt8) :
    IsduInv (odMachine.final e od) :=
  odMachine.final_invariant (P := IsduInv)
    (fun _ b hc => isduInv_getResponseByte (isduInv_collectByte hc b)) h od

theorem isduInv_dllReceive (cfg : BuildConfig) {c : DllCtx} (h : IsduInv c.isdu) (env : CallEnv) :
    IsduInv (dllReceive cfg c env).ctx.isdu := by
  have hkeep : ∀ {c c' : DllCtx}, Untouched c c' → IsduInv c.isdu → IsduInv c'.isdu := by
    intro c c' hu hc
    rw [hu.isdu]
    exact hc
  exact (dllReceive_induct cfg (P := fun c => IsduInv c.isdu) (Q := fun c => IsduInv c.isdu)
    (fun c nowMs hc => hkeep (untouched_inactivityReset c nowMs) hc)
    (fun c rxs hc => hkeep (untouched_drainRx cfg c rxs) hc)
    (fun c env hc _ => hkeep (untouched_detectWakeup c env) hc)
    (fun c nowUs hc _ => hkeep (untouched_callGap cfg c nowUs) hc)
    (fun c rx hc => (isdu_rxByte cfg c rx).symm ▸ isduInv_odMachine hc _) (fun _ hc => hc) h env).1

theorem isduInv_deviceStep (cfg : BuildConfig) {d : Device} (h : IsduInv d.dll.isdu) (call : Call) :
    IsduInv (deviceStep cfg d call).1.dll.isdu := by
  cases call with
  | process env =>
    refine isduInv_dllReceive cfg ?_ env
    obtain ⟨_, _, hp⟩ := polled_eq cfg d env
    rw [hp]
    exact isduInv_process cfg d.host h
  | pdInputUpdate data valid =>
    simp only [deviceStep, pdInputUpdate]
    split_ifs <;> exact h
  | _ => exact h

theorem reaches_isduInv {cfg : BuildConfig} {config : Config} {hasSend : Bool} {calls : List Call}
    {d : Device} (h : Reaches cfg config hasSend calls d) : IsduInv d.dll.isdu := by
  obtain ⟨nowUs, image, store, rfl⟩ := h
  exact (deviceMachine cfg).final_invariant (P := fun d => IsduInv d.dll.isdu)
    (fun _ call hd => isduInv_deviceStep cfg hd call) (isduInv_initWith true false true) calls

end Iolinki
