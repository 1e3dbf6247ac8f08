import Iolinki.Dll.Bounds
import Iolinki.Dll.Type0

/-!
# States without a way to OPERATE

Every fallback below ESTAB_COM, every third fallback in a row and every reset
after a second of silence set the baudrate to COM1, and nothing sets it back.
At COM1 all frames have two bytes, while only a longer frame leads to OPERATE. A
device that has left COM2 is therefore lost for cyclic operation until it is
initialised again. At COM2 there is one more trap: in ESTAB_COM a partial frame
on a forbidden channel that has to be completed will be refused, and the refusal
is the third fallback in a row.

* `trapped_dllReceive`: the traps are never left.
* `trapped_processAll`: no calls bring a trapped device to OPERATE.
-/

namespace Iolinki

open Iolinki.Lib

/-! ## The traps -/

/-- The inter-byte timeout can still drop the partial frame before it is
    complete. -/
def CanTimeOut (c : DllCtx) : Prop :=
  c.enforceTiming = true ∧ c.tByteLimitUs > 0 ∧ (c.lastByteUs ≠ 0 ∨ c.frameIndex + 1 < c.reqLen)

instance (c : DllCtx) : Decidable (CanTimeOut c) := inferInstanceAs (Decidable (_ ∧ _))

/-- The frame under way will be refused, with the last fallback before SIO. -/
structure Doomed (c : DllCtx) : Prop where
  state : c.state = .estabCom
  started : 0 < c.frameIndex
  long : 2 < c.reqLen
  channel : forbiddenChannel (c.frameBuf 0) = true
  last : (c.fallbackCount + 1) % 256 ≥ c.sioFallbackThreshold
  stuck : ¬ CanTimeOut c

instance (c : DllCtx) : Decidable (Doomed c) :=
  decidable_of_iff (c.state = .estabCom ∧ 0 < c.frameIndex ∧ 2 < c.reqLen ∧
    forbiddenChannel (c.frameBuf 0) = true ∧ (c.fallbackCount + 1) % 256 ≥ c.sioFallbackThreshold ∧
    ¬ CanTimeOut c)
    ⟨fun h => ⟨h.1, h.2.1, h.2.2.1, h.2.2.2.1, h.2.2.2.2.1, h.2.2.2.2.2⟩,
      fun h => ⟨h.1, h.2, h.3, h.4, h.5, h.6⟩⟩

/-- The device can be brought to OPERATE without being initialised again. -/
def Recoverable (c : DllCtx) : Prop :=
  c.state = .operate ∨ (c.baudrate = .com2 ∧ ¬ Doomed c)

instance (c : DllCtx) : Decidable (Recoverable c) := inferInstanceAs (Decidable (_ ∨ _))

/-- The states that are never left. -/
def Trapped (c : DllCtx) : Prop := c.baudrate = .com1 ∨ Doomed c

theorem com1_dllEnterFallback (cfg : BuildConfig) {c : DllCtx} (h : c.baudrate = .com1) :
    (dllEnterFallback cfg c).baudrate = .com1 := by
  obtain ⟨_, _, _, _, _, he | ⟨-, -, he⟩ | ⟨-, he⟩⟩ := dllEnterFallback_cases cfg c <;> rw [he]
  exact h

/-- The third fallback in a row sets COM1. -/
theorem com1_of_threshold (cfg : BuildConfig) {c : DllCtx}
    (h : (c.fallbackCount + 1) % 256 ≥ c.sioFallbackThreshold) :
    (dllEnterFallback cfg c).baudrate = .com1 := by
  unfold dllEnterFallback
  dsimp only
  rw [if_pos h]
  rfl

theorem com1_rxByte (cfg : BuildConfig) {c : DllCtx} (h : c.baudrate = .com1) (rx : RxByte) :
    (rxByte cfg c rx).1.baudrate = .com1 := by
  have ha : (rxAssemble cfg c rx).baudrate = .com1 := (link_rxAssemble cfg c rx).2.2.trans h
  rcases rxByte_cases cfg c rx with ⟨-, he⟩ | ⟨-, -, ho⟩
  · rw [he]
    exact ha
  · cases ho with
    | sio _ _ _ _ hb | restart _ _ _ _ hb => exact hb
    | ignored _ _ _ _ hb | transition _ _ _ _ hb | type0 _ _ _ _ hb | type12 _ _ _ _ hb =>
      exact hb.trans ha
    | counted _ _ _ _ hb => exact hb.trans ha

/-- A byte brings a doomed frame nearer to its end, or ends it. -/
theorem trapped_rxByte_of_doomed (cfg : BuildConfig) {c : DllCtx} (hb : Bounded c) (h : Doomed c)
    (rx : RxByte) : Trapped (rxByte cfg c rx).1 := by
  obtain ⟨hlt, hmax⟩ := hb.short h.started
  have hgap : byteGap cfg { c with lastActivityMs := rx.nowMs } rx.nowUs =
      { c with lastActivityMs := rx.nowMs } := by
    unfold byteGap
    rw [if_neg]
    rintro ⟨-, henf, hlim, hbyte, -⟩
    exact h.stuck ⟨henf, hlim, .inl hbyte⟩
  have hasm : rxAssemble cfg c rx = { c with
      lastActivityMs := rx.nowMs
      lastByteUs := rx.nowUs
      frameBuf := Function.update c.frameBuf c.frameIndex rx.byte
      frameIndex := c.frameIndex + 1 } := by
    have h0 : c.frameIndex ≠ 0 := Nat.pos_iff_ne_zero.mp h.started
    have h48 : c.frameIndex < frameBufSize := by rw [frameBufSize]; omega
    simp only [rxAssemble, hgap, assemble, h0, h48, if_true, if_false]
  have hmc : Function.update c.frameBuf c.frameIndex rx.byte 0 = c.frameBuf 0 :=
    Function.update_of_ne (Nat.pos_iff_ne_zero.mp h.started).symm _ _
  simp only [rxByte, hasm]
  split_ifs with hfull
  · -- The complete frame has a wrong checksum or is refused.
    left
    obtain ⟨stats, events, hcyc, -⟩ := cycleStart_eq cfg { c with
      lastActivityMs := rx.nowMs
      lastByteUs := rx.nowUs
      frameBuf := Function.update c.frameBuf c.frameIndex rx.byte
      frameIndex := c.frameIndex + 1 } rx.procUs
    simp only [dllHandleFrame, hcyc]
    split_ifs
    · rw [dllAcceptFrame_eq]
      have hk : frameKind c.state c.reqLen (Function.update c.frameBuf c.frameIndex rx.byte 0) =
          .refused := by
        simp [frameKind, h.state, h.long, hmc, h.channel]
      simp only [hk]
      exact com1_of_threshold cfg h.last
    · exact com1_of_threshold cfg h.last
  · rw [frameComplete_iff, not_and, Nat.not_le] at hfull
    have hmore := hfull (Nat.succ_pos _)
    refine .inr ⟨h.state, Nat.succ_pos _, h.long, ?_, h.last, ?_⟩
    · show forbiddenChannel (Function.update c.frameBuf c.frameIndex rx.byte 0) = true
      rw [hmc]
      exact h.channel
    · rintro ⟨henf, hlim, -⟩
      exact h.stuck ⟨henf, hlim, .inr hmore⟩

theorem trapped_rxByte (cfg : BuildConfig) {c : DllCtx} (hb : Bounded c) (h : Trapped c)
    (rx : RxByte) : Trapped (rxByte cfg c rx).1 := by
  rcases h with h | h
  · exact .inl (com1_rxByte cfg h rx)
  · exact trapped_rxByte_of_doomed cfg hb h rx

theorem trapped_inactivityReset {c : DllCtx} (hl : LinkInv c) (h : Trapped c) (nowMs : UInt32) :
    Trapped (inactivityReset c nowMs) := by
  unfold inactivityReset
  dsimp only
  split_ifs with hlate hmode
  · exact .inl rfl
  · left
    rcases hl.baudrate with hb | hb
    · exact hb
    · -- At COM2 only a doomed device is trapped, and that is not in SIO mode.
      have hd : Doomed c := h.resolve_left (by rw [hb]; decide)
      have hm := hl.sdci hb (by rw [hd.state]; decide)
      exact absurd (by rw [hm]; decide) hmode
  · exact h

theorem trapped_callGap (cfg : BuildConfig) {c : DllCtx} (h : Trapped c) (nowUs : UInt64) :
    Trapped (callGap cfg c nowUs) := by
  unfold callGap
  split_ifs with hgap
  · refine .inl (com1_dllEnterFallback cfg ?_)
    refine h.resolve_right fun hd => hd.stuck ?_
    exact ⟨hgap.2.1, hgap.2.2.1, .inl hgap.2.2.2.1⟩
  · exact h

theorem trapped_drainRx (cfg : BuildConfig) {c : DllCtx} (h : Trapped c) (rxs : List RxByte) :
    Trapped (drainRx cfg c rxs) := by
  unfold drainRx
  split_ifs
  · exact h
  · exact h.imp id fun hd => ⟨hd.state, hd.started, hd.long, hd.channel, hd.last, hd.stuck⟩

theorem trapped_detectWakeup {c : DllCtx} (h : Trapped c) (env : CallEnv) :
    Trapped (detectWakeup c env) := by
  unfold detectWakeup
  split_ifs with hwake
  · refine .inl (h.resolve_right fun hd => ?_)
    have := hd.started
    omega
  · exact h

/-- The invariants of the link between two calls, with one about the SIO mode
    at COM2 and one about a state that is never entered. -/
structure RestInv (c : DllCtx) : Prop where
  link : LinkInv c
  bounded : Bounded c
  sio : c.baudrate = .com2 → c.phyMode = .sio → c.frameIndex = 0
  fallback : c.state ≠ .fallback

/-- The same inside the receive loop. -/
structure RunInv (c : DllCtx) : Prop where
  loop : LoopInv c
  bounded : Bounded c
  fallback : c.state ≠ .fallback

theorem RunInv.restInv {c : DllCtx} (h : RunInv c) : RestInv c := by
  refine ⟨h.loop.linkInv, h.bounded, fun hb hm => ?_, h.fallback⟩
  rw [h.loop.sdci hb] at hm
  cases hm

theorem ne_fallback_rxByte (cfg : BuildConfig) {c : DllCtx} (h : c.state ≠ .fallback)
    (rx : RxByte) : (rxByte cfg c rx).1.state ≠ .fallback := by
  have ha : (rxAssemble cfg c rx).state ≠ .fallback := by
    rw [(link_rxAssemble cfg c rx).1]
    exact h
  rcases rxByte_cases cfg c rx with ⟨-, he⟩ | ⟨-, -, ho⟩
  · rw [he]
    exact ha
  · cases ho with
    | transition _ _ hs | type12 _ _ hs | sio _ _ hs | restart _ _ hs =>
      rw [hs]
      decide
    | counted _ _ hs =>
      rw [hs]
      exact ha
    | ignored _ _ hs | type0 _ _ hs =>
      rw [hs, establishedState]
      split_ifs
      · decide
      · exact ha

theorem runInv_rxByte (cfg : BuildConfig) {c : DllCtx} (h : RunInv c) (rx : RxByte) :
    RunInv (rxByte cfg c rx).1 :=
  ⟨loopInv_rxByte cfg h.loop rx, bounded_rxByte cfg h.bounded rx,
  ne_fallback_rxByte cfg h.fallback rx⟩

theorem restInv_inactivityReset {c : DllCtx} (h : RestInv c) (nowMs : UInt32) :
    RestInv (inactivityReset c nowMs) := by
  refine ⟨linkInv_inactivityReset h.link nowMs, bounded_inactivityReset h.bounded nowMs, ?_, ?_⟩
  · unfold inactivityReset
    split_ifs
    · exact fun _ _ => rfl
    · exact h.sio
  · unfold inactivityReset
    split_ifs
    · exact DllState.noConfusion
    · exact h.fallback

theorem restInv_drainRx (cfg : BuildConfig) {c : DllCtx} (h : RestInv c) (rxs : List RxByte) :
    RestInv (drainRx cfg c rxs) := by
  have hb := bounded_drainRx cfg h.bounded rxs
  unfold drainRx at hb ⊢
  split_ifs at hb ⊢
  · exact h
  · exact ⟨⟨h.link.baudrate, h.link.phyMode, h.link.sdci, h.link.operate, h.link.reqLen⟩, hb, h.sio,
      h.fallback⟩

theorem restInv_detectWakeup {c : DllCtx} (h : RestInv c) (env : CallEnv) :
    RestInv (detectWakeup c env) := by
  have hb := bounded_detectWakeup h.bounded env
  unfold detectWakeup at hb ⊢
  split_ifs at hb ⊢
  · exact ⟨⟨h.link.baudrate, .inr rfl, fun _ _ => rfl, DllState.noConfusion, h.link.reqLen⟩, hb,
      fun _ hm => PhyMode.noConfusion hm, DllState.noConfusion⟩
  · exact h

theorem runInv_callGap (cfg : BuildConfig) {c : DllCtx} (h : RestInv c) (hm : c.phyMode ≠ .sio)
    (nowUs : UInt64) : RunInv (callGap cfg c nowUs) := by
  refine ⟨loopInv_callGap cfg (h.link.loopInv hm) nowUs, bounded_callGap cfg h.bounded nowUs, ?_⟩
  obtain he | ⟨_, _, _, _, _, he | ⟨-, -, he⟩ | ⟨-, he⟩⟩ := callGap_cases cfg c nowUs <;> rw [he]
  · exact h.fallback
  · exact DllState.noConfusion
  · exact DllState.noConfusion
  · exact h.fallback

theorem restInv_dllReceive (cfg : BuildConfig) {c : DllCtx} (h : RestInv c) (env : CallEnv) :
    RestInv (dllReceive cfg c env).ctx :=
  (dllReceive_induct cfg (P := RestInv) (Q := RunInv)
    (fun _ nowMs hc => restInv_inactivityReset hc nowMs)
    (fun _ rxs hc => restInv_drainRx cfg hc rxs) (fun _ env hc _ => restInv_detectWakeup hc env)
    (fun _ nowUs hc hm => runInv_callGap cfg hc hm nowUs) (fun _ rx hc => runInv_rxByte cfg hc rx)
    (fun _ hc => hc.restInv) h env).1

theorem restInv_deviceStep (cfg : BuildConfig) {d : Device} (h : RestInv d.dll) (call : Call) :
    RestInv (deviceStep cfg d call).1.dll := by
  have hl := linkInv_deviceStep cfg h.link call
  have hb := bounded_deviceStep cfg h.bounded call
  cases call with
  | process env =>
    obtain ⟨_, _, hp⟩ := polled_eq cfg d env
    refine restInv_dllReceive cfg ?_ env
    rw [hp]
    exact ⟨{ h.link with }, { h.bounded with }, h.sio, h.fallback⟩
  | pdInputUpdate data valid =>
    refine ⟨hl, hb, ?_, ?_⟩ <;> simp only [deviceStep, pdInputUpdate] <;> split_ifs
    · exact h.sio
    · exact h.sio
    · exact h.fallback
    · exact h.fallback
  | _ => exact ⟨hl, hb, h.sio, h.fallback⟩

theorem reaches_restInv {cfg : BuildConfig} {config : Config} {hasSend : Bool} {calls : List Call}
    {d : Device} (h : Reaches cfg config hasSend calls d)
    (hout : config.pdOutLen ≤ pdOutMaxSize) : RestInv d.dll := by
  obtain ⟨nowUs, image, store, rfl⟩ := h
  refine (deviceMachine cfg).final_invariant (P := fun d => RestInv d.dll)
    (fun d call hd => restInv_deviceStep cfg hd call) ?_ calls
  have hreach : Reaches cfg config hasSend [] (iolinkInit cfg config hasSend nowUs image store) :=
    ⟨nowUs, image, store, rfl⟩
  exact ⟨reaches_linkInv hreach, bounded_iolinkInit cfg hout hasSend nowUs image store,
    fun _ _ => rfl, DllState.noConfusion⟩

/-- **The traps are never left.** -/
theorem trapped_dllReceive (cfg : BuildConfig) {c : DllCtx} (hr : RestInv c) (h : Trapped c)
    (env : CallEnv) : Trapped (dllReceive cfg c env).ctx :=
  (dllReceive_induct cfg (P := fun c => RestInv c ∧ Trapped c) (Q := fun c => RunInv c ∧ Trapped c)
    (fun _ nowMs hc =>
      ⟨restInv_inactivityReset hc.1 nowMs, trapped_inactivityReset hc.1.link hc.2 nowMs⟩)
    (fun _ rxs hc => ⟨restInv_drainRx cfg hc.1 rxs, trapped_drainRx cfg hc.2 rxs⟩)
    (fun _ env hc _ => ⟨restInv_detectWakeup hc.1 env, trapped_detectWakeup hc.2 env⟩)
    (fun _ nowUs hc hm => ⟨runInv_callGap cfg hc.1 hm nowUs, trapped_callGap cfg hc.2 nowUs⟩)
    (fun _ rx hc => ⟨runInv_rxByte cfg hc.1 rx, trapped_rxByte cfg hc.1.bounded hc.2 rx⟩)
    (fun _ hc => ⟨hc.1.restInv, hc.2⟩) ⟨hr, h⟩ env).1.2

/-- A trapped device is not in OPERATE. -/
theorem Trapped.ne_operate {c : DllCtx} (hr : RestInv c) (h : Trapped c) : c.state ≠ .operate := by
  intro hs
  rcases h with h | h
  · rw [hr.link.operate hs] at h
    cases h
  · rw [h.state] at hs
    cases hs

/-- No calls of `iolink_process` bring a trapped device to OPERATE. -/
theorem trapped_processAll (cfg : BuildConfig) {d : Device} (hr : RestInv d.dll)
    (h : Trapped d.dll) (envs : List CallEnv) : (processAll cfg d envs).dll.state ≠ .operate := by
  have hrun : RestInv (processAll cfg d envs).dll ∧ Trapped (processAll cfg d envs).dll := by
    refine (deviceMachine cfg).final_induct (P := fun d => RestInv d.dll ∧ Trapped d.dll)
      (Q := fun call => ∃ env, call = .process env) ?_ ⟨hr, h⟩ ?_
    · rintro d call ⟨hd, ht⟩ ⟨env, rfl⟩
      refine ⟨restInv_deviceStep cfg hd (.process env), ?_⟩
      obtain ⟨_, _, hp⟩ := polled_eq cfg d env
      refine trapped_dllReceive cfg ?_ ?_ env
      · rw [hp]
        exact ⟨{ hd.link with }, { hd.bounded with }, hd.sio, hd.fallback⟩
      · rw [hp]
        exact ht.imp id fun hd => ⟨hd.state, hd.started, hd.long, hd.channel, hd.last, hd.stuck⟩
    · intro call hcall
      obtain ⟨env, -, rfl⟩ := List.mem_map.mp hcall
      exact ⟨env, rfl⟩
  exact hrun.2.ne_operate hrun.1

end Iolinki
