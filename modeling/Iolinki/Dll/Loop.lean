import Iolinki.Dll.Invariant

/-!
# The receive loop inside a call

`iolink_dll_process` returns before its receive loop during the power-on delay,
in SIO mode and during the delay after a wake-up. `loopStart` is the context in
which the loop starts, if the call gets there, and `dllReceive_cases` lists the
four ways through a call. What is shown for the steps of a call carries over to
the call by `dllReceive_induct`; `Kept` are the fields that a call leaves alone.

An observer of the loop notes something at every received byte (`noteReceive`,
`noteCall`); what is sent is such a note (`sent_eq_noteReceive`).
-/

namespace Iolinki

open Iolinki.Lib

/-! ## What a complete frame does to the link -/

/-- State, mode and baudrate of the context `c'` after a complete frame has been
    handled in `c`, and the reply. -/
inductive FrameOutcome (c c' : DllCtx) (reply : Option (List UInt8)) : Prop
  | ignored (crc : frameCrcOk c = true)
    (kind : frameKind c.state c.reqLen (c.frameBuf 0) = .ignored)
    (state : c'.state = establishedState c.state) (phyMode : c'.phyMode = c.phyMode)
    (baudrate : c'.baudrate = c.baudrate) (silent : reply = none)
  | transition (crc : frameCrcOk c = true)
    (kind : frameKind c.state c.reqLen (c.frameBuf 0) = .transition)
    (state : c'.state = .estabCom) (phyMode : c'.phyMode = c.phyMode)
    (baudrate : c'.baudrate = c.baudrate) (silent : reply = none)
  | type0 (crc : frameCrcOk c = true) (kind : frameKind c.state c.reqLen (c.frameBuf 0) = .type0)
    (state : c'.state = establishedState c.state) (phyMode : c'.phyMode = c.phyMode)
    (baudrate : c'.baudrate = c.baudrate)
  | type12 (crc : frameCrcOk c = true) (kind : frameKind c.state c.reqLen (c.frameBuf 0) = .type12)
    (state : c'.state = .operate) (phyMode : c'.phyMode = c.phyMode)
    (baudrate : c'.baudrate = c.baudrate)
  /-- The fallback that gives up SDCI. -/
  | sio (bad : frameCrcOk c = false ∨ frameKind c.state c.reqLen (c.frameBuf 0) = .refused)
    (last : (c.fallbackCount + 1) % 256 ≥ c.sioFallbackThreshold)
    (state : c'.state = .startup) (phyMode : c'.phyMode = .sio) (baudrate : c'.baudrate = .com1)
    (silent : reply = none)
  /-- The fallback below ESTAB_COM. -/
  | restart (bad : frameCrcOk c = false ∨ frameKind c.state c.reqLen (c.frameBuf 0) = .refused)
    (below : c.state ≠ .operate ∧ c.state ≠ .estabCom) (state : c'.state = .startup)
    (phyMode : c'.phyMode = c.phyMode) (baudrate : c'.baudrate = .com1) (silent : reply = none)
  /-- The fallback that is only counted. -/
  | counted (bad : frameCrcOk c = false ∨ frameKind c.state c.reqLen (c.frameBuf 0) = .refused)
    (above : c.state = .operate ∨ c.state = .estabCom) (state : c'.state = c.state)
    (phyMode : c'.phyMode = c.phyMode) (baudrate : c'.baudrate = c.baudrate)
    (silent : reply = none)

theorem FrameOutcome.of_eq {c c₁ c₂ : DllCtx} {reply : Option (List UInt8)}
    (h : FrameOutcome c c₁ reply) (hs : c₂.state = c₁.state) (hm : c₂.phyMode = c₁.phyMode)
    (hb : c₂.baudrate = c₁.baudrate) : FrameOutcome c c₂ reply := by
  cases h with
  | ignored h1 h2 h3 h4 h5 h6 =>
    exact .ignored h1 h2 (hs.trans h3) (hm.trans h4) (hb.trans h5) h6
  | transition h1 h2 h3 h4 h5 h6 =>
    exact .transition h1 h2 (hs.trans h3) (hm.trans h4) (hb.trans h5) h6
  | type0 h1 h2 h3 h4 h5 => exact .type0 h1 h2 (hs.trans h3) (hm.trans h4) (hb.trans h5)
  | type12 h1 h2 h3 h4 h5 => exact .type12 h1 h2 (hs.trans h3) (hm.trans h4) (hb.trans h5)
  | sio h1 h2 h3 h4 h5 h6 => exact .sio h1 h2 (hs.trans h3) (hm.trans h4) (hb.trans h5) h6
  | restart h1 h2 h3 h4 h5 h6 => exact .restart h1 h2 (hs.trans h3) (hm.trans h4) (hb.trans h5) h6
  | counted h1 h2 h3 h4 h5 h6 => exact .counted h1 h2 (hs.trans h3) (hm.trans h4) (hb.trans h5) h6

/-- A fallback in a context that differs from `c` in the counters and time
    stamps only. -/
theorem frameOutcome_dllEnterFallback (cfg : BuildConfig) {c c' : DllCtx}
    (hbad : frameCrcOk c = false ∨ frameKind c.state c.reqLen (c.frameBuf 0) = .refused)
    (hs : c'.state = c.state)
    (hm : c'.phyMode = c.phyMode) (hb : c'.baudrate = c.baudrate)
    (hc : c'.fallbackCount = c.fallbackCount)
    (ht : c'.sioFallbackThreshold = c.sioFallbackThreshold) :
    FrameOutcome c (dllEnterFallback cfg c') none := by
  unfold dllEnterFallback
  dsimp only
  split_ifs with hlast hstate
  · rw [hc, ht] at hlast
    exact .sio hbad hlast rfl rfl rfl rfl
  · rw [hs] at hstate
    exact .restart hbad hstate rfl hm rfl rfl
  · rw [hs] at hstate
    exact .counted hbad (by tauto) hs hm hb rfl

/-- **What a complete frame does to the link.** -/
theorem frameOutcome_dllHandleFrame (cfg : BuildConfig) (c : DllCtx) (rx : RxByte) :
    FrameOutcome c (dllHandleFrame cfg c rx).1 (dllHandleFrame cfg c rx).2 := by
  obtain ⟨stats, events, hcyc, -⟩ := cycleStart_eq cfg c rx.procUs
  simp only [dllHandleFrame, hcyc]
  split_ifs with hcrc
  · rw [dllAcceptFrame_eq]
    dsimp only
    cases hk : frameKind c.state c.reqLen (c.frameBuf 0) with
    | ignored => exact .ignored hcrc hk rfl rfl rfl rfl
    | transition => exact .transition hcrc hk rfl rfl rfl rfl
    | type0 => exact .type0 hcrc hk rfl rfl rfl
    | refused => exact frameOutcome_dllEnterFallback cfg (.inr hk) rfl rfl rfl rfl rfl
    | type12 =>
      dsimp only
      obtain ⟨_, _, _, _, he, -⟩ := dllHandleOperateType12_eq cfg { c with
        stats := stats, events := events, lastCycleStartUs := rx.procUs, state := .operate } rx
      rw [he]
      exact .type12 hcrc hk rfl rfl rfl
  · exact frameOutcome_dllEnterFallback cfg (.inl (Bool.eq_false_iff.mpr hcrc)) rfl rfl rfl rfl rfl

/-- Storing a byte does not touch the link. -/
theorem link_rxAssemble (cfg : BuildConfig) (c : DllCtx) (rx : RxByte) :
    (rxAssemble cfg c rx).state = c.state ∧ (rxAssemble cfg c rx).phyMode = c.phyMode ∧
      (rxAssemble cfg c rx).baudrate = c.baudrate := by
  simp only [rxAssemble, assemble, byteGap]
  split_ifs <;> exact ⟨rfl, rfl, rfl⟩

/-- **What a received byte does to the link**: it is only stored, or it ends a
    frame. -/
theorem rxByte_cases (cfg : BuildConfig) (c : DllCtx) (rx : RxByte) :
    (frameComplete (rxAssemble cfg c rx) = false ∧
      rxByte cfg c rx = (rxAssemble cfg c rx, none)) ∨
    (frameComplete (rxAssemble cfg c rx) = true ∧ (rxByte cfg c rx).1.frameIndex = 0 ∧
      FrameOutcome (rxAssemble cfg c rx) (rxByte cfg c rx).1 (rxByte cfg c rx).2) := by
  cases hfull : frameComplete (rxAssemble cfg c rx) with
  | false =>
    left
    refine ⟨rfl, ?_⟩
    simp only [rxByte, hfull, Bool.false_eq_true, if_false]
  | true =>
    right
    simp only [rxByte, hfull, if_true]
    refine ⟨trivial, trivial, ?_⟩
    exact (frameOutcome_dllHandleFrame cfg (rxAssemble cfg c rx) rx).of_eq rfl rfl rfl

/-! ## The time of the last byte -/

theorem lastActivityMs_dllEnterFallback (cfg : BuildConfig) (c : DllCtx) :
    (dllEnterFallback cfg c).lastActivityMs = c.lastActivityMs := by
  unfold dllEnterFallback
  dsimp only
  split_ifs <;> rfl

theorem lastActivityMs_dllHandleFrame (cfg : BuildConfig) (c : DllCtx) (rx : RxByte) :
    (dllHandleFrame cfg c rx).1.lastActivityMs = c.lastActivityMs := by
  obtain ⟨stats, events, hcyc, -⟩ := cycleStart_eq cfg c rx.procUs
  simp only [dllHandleFrame, hcyc]
  split_ifs
  · rw [dllAcceptFrame_eq]
    dsimp only
    cases frameKind c.state c.reqLen (c.frameBuf 0) with
    | ignored | transition | type0 => rfl
    | refused => exact lastActivityMs_dllEnterFallback cfg _
    | type12 =>
      obtain ⟨_, _, _, _, he, -⟩ := dllHandleOperateType12_eq cfg { c with
        stats := stats, events := events, lastCycleStartUs := rx.procUs, state := .operate } rx
      simp only [he]
  · exact lastActivityMs_dllEnterFallback cfg _

/-- Every byte that is read notes its time. -/
theorem lastActivityMs_rxByte (cfg : BuildConfig) (c : DllCtx) (rx : RxByte) :
    (rxByte cfg c rx).1.lastActivityMs = rx.nowMs := by
  have ha : (rxAssemble cfg c rx).lastActivityMs = rx.nowMs := by
    simp only [rxAssemble, assemble, byteGap]
    split_ifs <;> rfl
  simp only [rxByte]
  split_ifs
  · exact (lastActivityMs_dllHandleFrame cfg (rxAssemble cfg c rx) rx).trans ha
  · exact ha

theorem lastActivityMs_rxs (cfg : BuildConfig) (c : DllCtx) (rxs : List RxByte) :
    ((rxMachine cfg).final c rxs).lastActivityMs =
      (rxs.getLast?.map RxByte.nowMs).getD c.lastActivityMs := by
  induction rxs generalizing c with
  | nil => rfl
  | cons rx rxs ih =>
    rw [Machine.final_cons, ih]
    cases rxs with
    | nil => exact lastActivityMs_rxByte cfg c rx
    | cons rx' rxs => simp [List.getLast?_cons]

/-! ## The ways through a call -/

/-- The context in which the receive loop starts; `none` if the call returns
    before. -/
def loopStart (cfg : BuildConfig) (c : DllCtx) (env : CallEnv) : Option DllCtx :=
  let c := inactivityReset c env.nowMs
  if dllTPdActive c env.tPdUs then none
  else if c.phyMode = .sio then none
  else
    let c := callGap cfg c env.gapUs
    if awaitingDelay c env.awaitUs then none else some c

/-- **The ways through a call.** -/
theorem dllReceive_cases (cfg : BuildConfig) (c : DllCtx) (env : CallEnv) :
    let c₁ := inactivityReset c env.nowMs
    let c₂ := callGap cfg c₁ env.gapUs
    (dllTPdActive c₁ env.tPdUs = true ∧ loopStart cfg c env = none ∧
      dllReceive cfg c env = ⟨drainRx cfg c₁ env.rx, [], []⟩) ∨
    (dllTPdActive c₁ env.tPdUs = false ∧ c₁.phyMode = .sio ∧ loopStart cfg c env = none ∧
      dllReceive cfg c env = ⟨detectWakeup c₁ env, [], env.rx⟩) ∨
    (dllTPdActive c₁ env.tPdUs = false ∧ c₁.phyMode ≠ .sio ∧ loopStart cfg c env = none ∧
      dllReceive cfg c env = ⟨c₂, [], env.rx⟩) ∨
    (dllTPdActive c₁ env.tPdUs = false ∧ c₁.phyMode ≠ .sio ∧ loopStart cfg c env = some c₂ ∧
      dllReceive cfg c env = ⟨(rxMachine cfg).final c₂ env.rx,
        ((rxMachine cfg).outputs c₂ env.rx).filterMap id, []⟩) := by
  intro c₁ c₂
  by_cases hpd : dllTPdActive c₁ env.tPdUs = true
  · refine .inl ⟨hpd, ?_, ?_⟩
    · simp only [loopStart, c₁] at hpd ⊢
      rw [if_pos hpd]
    · simp only [dllReceive, c₁] at hpd ⊢
      rw [if_pos hpd]
  · have hpd' : dllTPdActive c₁ env.tPdUs = false := Bool.eq_false_iff.mpr hpd
    right
    by_cases hsio : c₁.phyMode = .sio
    · refine .inl ⟨hpd', hsio, ?_, ?_⟩
      · simp only [loopStart, c₁] at hpd hsio ⊢
        rw [if_neg hpd, if_pos hsio]
      · simp only [dllReceive, c₁] at hpd hsio ⊢
        rw [if_neg hpd, if_pos hsio]
    · right
      by_cases hwait : awaitingDelay c₂ env.awaitUs = true
      · refine .inl ⟨hpd', hsio, ?_, ?_⟩
        · simp only [loopStart, c₁, c₂] at hpd hsio hwait ⊢
          rw [if_neg hpd, if_neg hsio, if_pos hwait]
        · simp only [dllReceive, c₁, c₂] at hpd hsio hwait ⊢
          rw [if_neg hpd, if_neg hsio, if_pos hwait]
      · refine .inr ⟨hpd', hsio, ?_, ?_⟩
        · simp only [loopStart, c₁, c₂] at hpd hsio hwait ⊢
          rw [if_neg hpd, if_neg hsio, if_neg hwait]
        · simp only [dllReceive, c₁, c₂] at hpd hsio hwait ⊢
          rw [if_neg hpd, if_neg hsio, if_neg hwait]

/-- A call that does not get to the loop sends nothing. -/
theorem sent_of_loopStart_none (cfg : BuildConfig) {c : DllCtx} {env : CallEnv}
    (h : loopStart cfg c env = none) : (dllReceive cfg c env).sent = [] := by
  rcases dllReceive_cases cfg c env with ⟨-, -, hr⟩ | ⟨-, -, -, hr⟩ | ⟨-, -, -, hr⟩ | ⟨-, -, hs, -⟩
  · rw [hr]
  · rw [hr]
  · rw [hr]
  · rw [hs] at h
    cases h

/-- A call that gets to the loop reads all its bytes there. -/
theorem dllReceive_of_loopStart (cfg : BuildConfig) {c c' : DllCtx} {env : CallEnv}
    (h : loopStart cfg c env = some c') :
    dllReceive cfg c env = ⟨(rxMachine cfg).final c' env.rx,
      ((rxMachine cfg).outputs c' env.rx).filterMap id, []⟩ := by
  rcases dllReceive_cases cfg c env with ⟨-, hs, -⟩ | ⟨-, -, hs, -⟩ | ⟨-, -, hs, -⟩ | ⟨-, -, hs, hr⟩
  all_goals rw [hs] at h
  · cases h
  · cases h
  · cases h
  · rw [hr, Option.some.inj h]

/-- **What the steps of a call preserve, the call preserves.** `Q` is the
    invariant inside the receive loop. -/
theorem dllReceive_induct (cfg : BuildConfig) {P Q : DllCtx → Prop}
    (hreset : ∀ c nowMs, P c → P (inactivityReset c nowMs))
    (hdrain : ∀ c rxs, P c → P (drainRx cfg c rxs))
    (hwake : ∀ c env, P c → c.phyMode = .sio → P (detectWakeup c env))
    (hgap : ∀ c nowUs, P c → c.phyMode ≠ .sio → Q (callGap cfg c nowUs))
    (hrx : ∀ c rx, Q c → Q (rxByte cfg c rx).1) (hout : ∀ c, Q c → P c)
    {c : DllCtx} (h : P c) (env : CallEnv) :
    P (dllReceive cfg c env).ctx ∧ ∀ c', loopStart cfg c env = some c' → Q c' := by
  have hr := hreset c env.nowMs h
  have hnone : ∀ c', none = some c' → Q c' := fun c' hn => absurd hn (Option.some_ne_none c').symm
  rcases dllReceive_cases cfg c env with ⟨-, hs, he⟩ | ⟨-, hm, hs, he⟩ | ⟨-, hm, hs, he⟩ |
    ⟨-, hm, hs, he⟩
  all_goals rw [hs, he]
  · exact ⟨hdrain _ _ hr, hnone⟩
  · exact ⟨hwake _ _ hr hm, hnone⟩
  · exact ⟨hout _ (hgap _ _ hr hm), hnone⟩
  · have hq := hgap _ env.gapUs hr hm
    refine ⟨hout _ ?_, fun c' hc' => ?_⟩
    · exact (rxMachine cfg).final_invariant (P := Q) hrx hq env.rx
    · rw [← Option.some.inj hc']
      exact hq

/-! ## What the link leaves alone -/

/-- The input process data, the Data Storage context and two settings, which no
    byte on the line changes. -/
structure Kept (c c' : DllCtx) : Prop where
  pdIn : c'.pdIn = c.pdIn
  pdInToggle : c'.pdInToggle = c.pdInToggle
  ds : c'.ds = c.ds
  enforceTiming : c'.enforceTiming = c.enforceTiming
  threshold : c'.sioFallbackThreshold = c.sioFallbackThreshold

theorem Kept.refl (c : DllCtx) : Kept c c := ⟨rfl, rfl, rfl, rfl, rfl⟩

theorem Kept.trans {a b c : DllCtx} (h : Kept a b) (h' : Kept b c) : Kept a c :=
  ⟨h'.1.trans h.1, h'.2.trans h.2, h'.3.trans h.3, h'.4.trans h.4, h'.5.trans h.5⟩

section Kept

variable (cfg : BuildConfig) (c : DllCtx)

theorem kept_dllEnterFallback {c₁ : DllCtx} (h : Kept c c₁) : Kept c (dllEnterFallback cfg c₁) := by
  refine h.trans ?_
  obtain ⟨_, _, _, _, _, he | ⟨-, -, he⟩ | ⟨-, he⟩⟩ := dllEnterFallback_cases cfg c₁ <;> rw [he] <;>
    exact ⟨rfl, rfl, rfl, rfl, rfl⟩

theorem kept_rxAssemble (rx : RxByte) : Kept c (rxAssemble cfg c rx) := by
  simp only [rxAssemble, assemble, byteGap]
  split_ifs <;> exact ⟨rfl, rfl, rfl, rfl, rfl⟩

theorem kept_dllAcceptFrame (rx : RxByte) : Kept c (dllAcceptFrame cfg c rx).1 := by
  rw [dllAcceptFrame_eq]
  cases frameKind c.state c.reqLen (c.frameBuf 0) with
  | ignored | transition | type0 => exact ⟨rfl, rfl, rfl, rfl, rfl⟩
  | refused => exact kept_dllEnterFallback cfg c ⟨rfl, rfl, rfl, rfl, rfl⟩
  | type12 =>
    obtain ⟨_, _, _, _, he, -⟩ := dllHandleOperateType12_eq cfg { c with state := .operate } rx
    simp only [he]
    exact ⟨rfl, rfl, rfl, rfl, rfl⟩

theorem kept_dllHandleFrame (rx : RxByte) : Kept c (dllHandleFrame cfg c rx).1 := by
  have hcyc : Kept c (cycleStart cfg c rx.procUs) := by
    obtain ⟨_, _, he, -⟩ := cycleStart_eq cfg c rx.procUs
    rw [he]
    exact ⟨rfl, rfl, rfl, rfl, rfl⟩
  simp only [dllHandleFrame]
  split_ifs
  · exact hcyc.trans (kept_dllAcceptFrame cfg _ rx)
  · exact hcyc.trans (kept_dllEnterFallback cfg _ ⟨rfl, rfl, rfl, rfl, rfl⟩)

theorem kept_rxByte (rx : RxByte) : Kept c (rxByte cfg c rx).1 := by
  have ha := kept_rxAssemble cfg c rx
  simp only [rxByte]
  split_ifs
  · exact { ha.trans (kept_dllHandleFrame cfg (rxAssemble cfg c rx) rx) with }
  · exact ha

theorem kept_inactivityReset (nowMs : UInt32) : Kept c (inactivityReset c nowMs) := by
  unfold inactivityReset
  dsimp only
  split_ifs <;> exact ⟨rfl, rfl, rfl, rfl, rfl⟩

theorem kept_drainRx (rxs : List RxByte) : Kept c (drainRx cfg c rxs) := by
  unfold drainRx
  split_ifs <;> exact ⟨rfl, rfl, rfl, rfl, rfl⟩

theorem kept_detectWakeup (env : CallEnv) : Kept c (detectWakeup c env) := by
  unfold detectWakeup
  split_ifs <;> exact ⟨rfl, rfl, rfl, rfl, rfl⟩

theorem kept_callGap (nowUs : UInt64) : Kept c (callGap cfg c nowUs) := by
  obtain he | ⟨_, _, _, _, _, he | ⟨-, -, he⟩ | ⟨-, he⟩⟩ := callGap_cases cfg c nowUs <;> rw [he]
  · exact .refl c
  all_goals exact ⟨rfl, rfl, rfl, rfl, rfl⟩

/-- **A call of `iolink_dll_process` keeps them.** -/
theorem kept_dllReceive (env : CallEnv) : Kept c (dllReceive cfg c env).ctx :=
  (dllReceive_induct cfg (P := Kept c) (Q := Kept c)
    (fun c' nowMs h => h.trans (kept_inactivityReset c' nowMs))
    (fun c' rxs h => h.trans (kept_drainRx cfg c' rxs))
    (fun c' env h _ => h.trans (kept_detectWakeup c' env))
    (fun c' nowUs h _ => h.trans (kept_callGap cfg c' nowUs))
    (fun c' rx h => h.trans (kept_rxByte cfg c' rx)) (fun _ h => h) (.refl c) env).1

end Kept

/-! ## Observers of the receive loop -/

/-- What an observer of the receive loop notes in one call. -/
def noteReceive {γ : Type*} (cfg : BuildConfig) (f : DllCtx → RxByte → List γ) (c : DllCtx)
    (env : CallEnv) : List γ :=
  match loopStart cfg c env with
  | some c' => (rxMachine cfg).collect f c' env.rx
  | none => []

/-- What an observer of the receive loop notes in one call of the application. -/
def noteCall {γ : Type*} (cfg : BuildConfig) (f : DllCtx → RxByte → List γ) (d : Device) :
    Call → List γ
  | .process env =>
    noteReceive cfg f (dllPollDiagnostics cfg (deviceIsduProcess cfg d).dll env) env
  | _ => []

/-- Everything noted in a state of the loop with `Q` has `R`. -/
theorem noteReceive_induct (cfg : BuildConfig) {γ : Type*} {f : DllCtx → RxByte → List γ}
    {Q : DllCtx → Prop} {R : γ → Prop} (hrx : ∀ c rx, Q c → Q (rxByte cfg c rx).1)
    (hnote : ∀ c rx, Q c → ∀ x ∈ f c rx, R x) {c : DllCtx} {env : CallEnv}
    (hstart : ∀ c', loopStart cfg c env = some c' → Q c') :
    ∀ x ∈ noteReceive cfg f c env, R x := by
  unfold noteReceive
  cases hs : loopStart cfg c env with
  | none => intro x hx; simp at hx
  | some c' =>
    exact (rxMachine cfg).collect_induct hrx hnote (hstart c' hs) env.rx

/-- What an observer of the timeout check before the loop notes in one call. -/
def noteGap {γ : Type*} (g : DllCtx → UInt64 → List γ) (c : DllCtx) (env : CallEnv) : List γ :=
  let c := inactivityReset c env.nowMs
  if dllTPdActive c env.tPdUs then []
  else if c.phyMode = .sio then []
  else g c env.gapUs

/-- **What the steps of a call preserve together with what has been noted, the
    call preserves.** `Q` is the invariant inside the receive loop. -/
theorem dllReceive_collect_induct (cfg : BuildConfig) {γ : Type*} {f : DllCtx → RxByte → List γ}
    {g : DllCtx → UInt64 → List γ} {P Q : DllCtx → List γ → Prop}
    (hreset : ∀ c nowMs log, P c log → P (inactivityReset c nowMs) log)
    (hdrain : ∀ c rxs log, P c log → P (drainRx cfg c rxs) log)
    (hwake : ∀ c env log, P c log → c.phyMode = .sio → P (detectWakeup c env) log)
    (hgap : ∀ c nowUs log, P c log → c.phyMode ≠ .sio → Q (callGap cfg c nowUs) (log ++ g c nowUs))
    (hrx : ∀ c rx log, Q c log → Q (rxByte cfg c rx).1 (log ++ f c rx))
    (hout : ∀ c log, Q c log → P c log) {c : DllCtx} {log : List γ} (h : P c log) (env : CallEnv) :
    P (dllReceive cfg c env).ctx (log ++ (noteGap g c env ++ noteReceive cfg f c env)) := by
  have hr := hreset c env.nowMs log h
  unfold noteReceive noteGap
  rcases dllReceive_cases cfg c env with ⟨hpd, hs, he⟩ | ⟨hpd, hm, hs, he⟩ | ⟨hpd, hm, hs, he⟩ |
    ⟨hpd, hm, hs, he⟩
  all_goals simp only [hs, he, hpd, if_true, if_false, Bool.false_eq_true, List.append_nil]
  · exact hdrain _ _ log hr
  · rw [if_pos hm, List.append_nil]
    exact hwake _ _ log hr hm
  · rw [if_neg hm]
    exact hout _ _ (hgap _ env.gapUs log hr hm)
  · rw [if_neg hm, ← List.append_assoc]
    exact hout _ _ ((rxMachine cfg).final_collect_induct (P := Q) hrx (hgap _ env.gapUs log hr hm)
      env.rx)

/-- The rule for an observer of the receive loop only. -/
theorem dllReceive_note_induct (cfg : BuildConfig) {γ : Type*} {f : DllCtx → RxByte → List γ}
    {P : DllCtx → List γ → Prop} (hreset : ∀ c nowMs log, P c log → P (inactivityReset c nowMs) log)
    (hdrain : ∀ c rxs log, P c log → P (drainRx cfg c rxs) log)
    (hwake : ∀ c env log, P c log → P (detectWakeup c env) log)
    (hgap : ∀ c nowUs log, P c log → P (callGap cfg c nowUs) log)
    (hrx : ∀ c rx log, P c log → P (rxByte cfg c rx).1 (log ++ f c rx)) {c : DllCtx} {log : List γ}
    (h : P c log) (env : CallEnv) :
    P (dllReceive cfg c env).ctx (log ++ noteReceive cfg f c env) := by
  have hnone : noteGap (fun _ _ => ([] : List γ)) c env = [] := by
    simp only [noteGap, ite_self]
  have hrun := dllReceive_collect_induct cfg (f := f) (g := fun _ _ => []) (P := P) (Q := P) hreset
    hdrain (fun c env log hc _ => hwake c env log hc)
    (fun c nowUs log hc _ => (List.append_nil log).symm ▸ hgap c nowUs log hc) hrx
    (fun _ _ hc => hc) h env
  rw [hnone, List.nil_append] at hrun
  exact hrun

theorem noteCall_mono (cfg : BuildConfig) {γ : Type*} {f g : DllCtx → RxByte → List γ}
    (h : ∀ c rx, f c rx ⊆ g c rx) (d : Device) (call : Call) :
    noteCall cfg f d call ⊆ noteCall cfg g d call := by
  cases call with
  | process env =>
    simp only [noteCall, noteReceive]
    cases loopStart cfg (dllPollDiagnostics cfg (deviceIsduProcess cfg d).dll env) env with
    | none => exact List.Subset.refl _
    | some c => exact (rxMachine cfg).collect_mono h c env.rx
  | _ => exact List.Subset.refl _

/-- What a call sends is what is sent at its bytes. -/
theorem sent_eq_noteReceive (cfg : BuildConfig) (c : DllCtx) (env : CallEnv) :
    (dllReceive cfg c env).sent =
      noteReceive cfg (fun c rx => (rxByte cfg c rx).2.toList) c env := by
  have hloop : ∀ (c : DllCtx) (rxs : List RxByte), ((rxMachine cfg).outputs c rxs).filterMap id =
      (rxMachine cfg).collect (fun c rx => (rxByte cfg c rx).2.toList) c rxs := by
    intro c rxs
    induction rxs generalizing c with
    | nil => rfl
    | cons rx rxs ih =>
      rw [Machine.outputs_cons, Machine.collect_cons, ← ih]
      show List.filterMap id ((rxByte cfg c rx).2 :: _) = _
      cases (rxByte cfg c rx).2 <;> rfl
  unfold noteReceive
  cases hs : loopStart cfg c env with
  | none => exact sent_of_loopStart_none cfg hs
  | some c' =>
    rw [dllReceive_of_loopStart cfg hs]
    exact hloop c' env.rx

end Iolinki
