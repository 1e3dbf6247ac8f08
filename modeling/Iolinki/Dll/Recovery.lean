import Iolinki.Dll.Prompt
import Iolinki.Dll.Traps

/-!
# Back to OPERATE

From every state at COM2 that is no trap the device can be brought to OPERATE: a
partial frame is completed or dropped, then a wake-up, a first frame, the
transition command and a frame of the configured type follow, as far as they are
needed.

* `canReach_operate`: such calls exist.
* `recovery_iff`: the states from which OPERATE can be reached, exactly.
-/

namespace Iolinki

open Iolinki.Lib

/-! ## Continuations -/

/-- Some calls of `iolink_process` lead to a context with `P`. -/
def CanReach (cfg : BuildConfig) (d : Device) (P : DllCtx → Prop) : Prop :=
  ∃ envs, P (processAll cfg d envs).dll

theorem CanReach.refl {cfg : BuildConfig} {d : Device} {P : DllCtx → Prop} (h : P d.dll) :
    CanReach cfg d P := ⟨[], h⟩

theorem CanReach.step {cfg : BuildConfig} {d : Device} {P : DllCtx → Prop} (env : CallEnv)
    (h : CanReach cfg (iolinkProcess cfg d env).1 P) : CanReach cfg d P := by
  obtain ⟨envs, h⟩ := h
  exact ⟨env :: envs, h⟩

/-! ## The way to OPERATE -/

/-- The link is up, at the baudrate of `iolink_init`. -/
structure Up (c : DllCtx) : Prop where
  baudrate : c.baudrate = .com2
  phyMode : c.phyMode = .sdci
  mSeqType : c.mSeqType ≠ .type0
  bounded : Bounded c

theorem Up.ne_sio {c : DllCtx} (h : Up c) : c.phyMode ≠ .sio := by
  rw [h.phyMode]
  decide

theorem up_polledCtx (cfg : BuildConfig) {d : Device} (h : Up d.dll) : Up (polledCtx cfg d) :=
  ⟨h.baudrate, h.phyMode, h.mSeqType, { h.bounded with }⟩

/-- What decides how a complete frame is taken is the same in both contexts. -/
structure SameFrame (c c' : DllCtx) : Prop where
  state : c'.state = c.state
  phyMode : c'.phyMode = c.phyMode
  baudrate : c'.baudrate = c.baudrate
  reqLen : c'.reqLen = c.reqLen
  mc : c'.frameBuf 0 = c.frameBuf 0
  fallbackCount : c'.fallbackCount = c.fallbackCount
  threshold : c'.sioFallbackThreshold = c.sioFallbackThreshold

/-- A call that completes the partial frame with a right checksum. -/
theorem process_complete (cfg : BuildConfig) {d : Device} (h : Up d.dll)
    (h0 : 0 < d.dll.frameIndex) :
    ∃ env full reply, (iolinkProcess cfg d env).1.dll.frameIndex = 0 ∧ SameFrame d.dll full ∧
      frameCrcOk full = true ∧ FrameOutcome full (iolinkProcess cfg d env).1.dll reply := by
  obtain ⟨hlt, hle⟩ := (up_polledCtx cfg h).bounded.short h0
  obtain ⟨rxs, rx, f, hf, hcrc, hfinal⟩ :=
    rx_complete cfg (c := polledCtx cfg d) h0 hlt (by rw [frameBufSize]; omega)
  have hproc := iolinkProcess_prompt cfg h.ne_sio false rxs
  have hsame : SameFrame d.dll
      { polledCtx cfg d with frameBuf := f, frameIndex := (polledCtx cfg d).reqLen } :=
    ⟨rfl, rfl, rfl, rfl, hf, rfl, rfl⟩
  generalize { polledCtx cfg d with frameBuf := f, frameIndex := (polledCtx cfg d).reqLen } = full
    at hfinal hcrc hsame
  have hctx : (iolinkProcess cfg d (promptCall d.dll false rxs)).1.dll =
      { (dllHandleFrame cfg full rx).1 with frameIndex := 0 } := by rw [hproc, hfinal]
  have ho : FrameOutcome full (iolinkProcess cfg d (promptCall d.dll false rxs)).1.dll
      (dllHandleFrame cfg full rx).2 :=
    (frameOutcome_dllHandleFrame cfg full rx).of_eq (by rw [hctx]) (by rw [hctx]) (by rw [hctx])
  exact ⟨_, full, _, by rw [hctx], hsame, hcrc, ho⟩

/-- A call in which a frame starts with the byte `b`. -/
theorem process_start (cfg : BuildConfig) {d : Device} (h : Up d.dll) (h0 : d.dll.frameIndex = 0)
    (b : UInt8) :
    ∃ env, let c := (iolinkProcess cfg d env).1.dll
      Up c ∧ c.state = d.dll.state ∧ c.frameIndex = 1 ∧ c.frameBuf 0 = b ∧
        c.reqLen = dllReqLen d.dll b := by
  have hge := (dllReqLen_bounds h.bounded.pdOut h.bounded.odLe b).1
  have hbounded := bounded_deviceStep cfg h.bounded
    (.process (promptCall d.dll false [promptByte d.dll b]))
  have hproc := iolinkProcess_prompt cfg h.ne_sio false [promptByte d.dll b]
  have hstep : (rxMachine cfg).final (polledCtx cfg d) [promptByte d.dll b] =
      (polledCtx cfg d).withFrame (promptByte d.dll b) [] := by
    show (rxByte cfg (polledCtx cfg d) (promptByte d.dll b)).1 = _
    rw [rxByte, rxAssemble_first cfg (c := polledCtx cfg d) h0, if_neg]
    rw [not_frameComplete_withFrame]
    · decide
    · exact hge
  refine ⟨promptCall d.dll false [promptByte d.dll b], ?_⟩
  change Bounded (iolinkProcess cfg d (promptCall d.dll false [promptByte d.dll b])).1.dll
    at hbounded
  rw [hstep] at hproc
  rw [hproc] at hbounded ⊢
  exact ⟨⟨h.baudrate, h.phyMode, h.mSeqType, hbounded⟩, rfl, rfl, rfl, rfl⟩

/-- A device in SIO mode is woken up. -/
theorem process_wakeup (cfg : BuildConfig) {d : Device} (hr : RestInv d.dll)
    (hb : d.dll.baudrate = .com2) (hm : d.dll.phyMode = .sio) (ht : d.dll.mSeqType ≠ .type0) :
    ∃ env, let c := (iolinkProcess cfg d env).1.dll
      Up c ∧ c.state = .awaitingComm ∧ c.frameIndex = 0 := by
  have h0 := hr.sio hb hm
  have hbounded := bounded_deviceStep cfg hr.bounded (.process (promptCall d.dll true []))
  have hproc : (iolinkProcess cfg d (promptCall d.dll true [])).1.dll =
      detectWakeup (polledCtx cfg d) (promptCall d.dll true []) := by
    show (dllReceive cfg (polledCtx cfg d) (promptCall (polledCtx cfg d) true [])).ctx = _
    have hm' : (polledCtx cfg d).phyMode = .sio := hm
    simp only [dllReceive, promptCall, inactivityReset_prompt, dllTPdActive_prompt, hm',
      Bool.false_eq_true, if_true, if_false]
    rfl
  have hwake : detectWakeup (polledCtx cfg d) (promptCall d.dll true []) = dllSetSdciMode
      { polledCtx cfg d with
        wakeupSeen := true
        state := .awaitingComm
        wakeupDeadlineUs := 0 + tDwuUs } := if_pos ⟨h0, rfl⟩
  refine ⟨promptCall d.dll true [], ?_⟩
  change Bounded (iolinkProcess cfg d (promptCall d.dll true [])).1.dll at hbounded
  rw [hproc, hwake] at hbounded ⊢
  exact ⟨⟨hb, rfl, ht, hbounded⟩, rfl, h0⟩

/-- The device is up and waits for a frame. -/
def Waiting (c : DllCtx) : Prop := Up c ∧ c.frameIndex = 0

/-- A frame that is not refused leaves the link up. -/
theorem waiting_of_outcome (cfg : BuildConfig) {d : Device} (h : Up d.dll) {env : CallEnv}
    {full : DllCtx} {reply : Option (List UInt8)}
    (hidx : (iolinkProcess cfg d env).1.dll.frameIndex = 0) (hsame : SameFrame d.dll full)
    (ho : FrameOutcome full (iolinkProcess cfg d env).1.dll reply)
    (hno : ¬ (frameCrcOk full = false ∨
        frameKind full.state full.reqLen (full.frameBuf 0) = .refused) ∨
      (d.dll.state = .estabCom ∧ ¬ (d.dll.fallbackCount + 1) % 256 ≥ d.dll.sioFallbackThreshold)) :
    Waiting (iolinkProcess cfg d env).1.dll := by
  have hb := bounded_deviceStep cfg h.bounded (.process env)
  have hs := (sameConfig_deviceStep cfg d (.process env)).mSeqType
  change (iolinkProcess cfg d env).1.dll.mSeqType = d.dll.mSeqType at hs
  have hup : ∀ {m : PhyMode} {b : Baudrate}, (iolinkProcess cfg d env).1.dll.phyMode = m →
      (iolinkProcess cfg d env).1.dll.baudrate = b → m = .sdci → b = .com2 →
      Waiting (iolinkProcess cfg d env).1.dll := by
    intro m b hm hbaud hm' hb'
    exact ⟨⟨hbaud.trans hb', hm.trans hm', by rw [hs]; exact h.mSeqType, hb⟩, hidx⟩
  have hm := hsame.phyMode.trans h.phyMode
  have hbaud := hsame.baudrate.trans h.baudrate
  cases ho with
  | ignored _ _ _ h4 h5 | transition _ _ _ h4 h5 | type0 _ _ _ h4 h5 | type12 _ _ _ h4 h5 =>
    exact hup h4 h5 hm hbaud
  | counted _ _ _ h4 h5 => exact hup h4 h5 hm hbaud
  | sio hbad hlast =>
    rcases hno with hno | ⟨-, hno⟩
    · exact absurd hbad hno
    · rw [hsame.fallbackCount, hsame.threshold] at hlast
      exact absurd hlast hno
  | restart hbad hbelow =>
    rcases hno with hno | ⟨hst, -⟩
    · exact absurd hbad hno
    · rw [hsame.state, hst] at hbelow
      exact absurd rfl hbelow.2

/-- The transition command leads to ESTAB_COM. -/
theorem canReach_estabCom (cfg : BuildConfig) {d : Device} (h : Waiting d.dll)
    (hs : d.dll.state = .startup ∨ d.dll.state = .awaitingComm ∨ d.dll.state = .preoperate) :
    CanReach cfg d fun c => Waiting c ∧ c.state = .estabCom := by
  obtain ⟨env, hup, hstate, hidx, hmc, hreq⟩ := process_start cfg h.1 h.2 mcTransitionCommand
  refine .step env ?_
  generalize (iolinkProcess cfg d env).1 = d₁ at hup hstate hidx hmc hreq
  rw [show dllReqLen d.dll mcTransitionCommand = 2 by
    rcases hs with hs | hs | hs <;> simp [dllReqLen, hs]] at hreq
  obtain ⟨env', full, reply, hidx', hsame, hcrc, ho⟩ :=
    process_complete cfg hup (by rw [hidx]; exact Nat.one_pos)
  have hk : frameKind full.state full.reqLen (full.frameBuf 0) = .transition := by
    rw [hsame.state, hsame.reqLen, hsame.mc, hreq, hmc, hstate]
    rcases hs with hs | hs | hs <;> rw [hs] <;> rfl
  have hno : ¬ (frameCrcOk full = false ∨
      frameKind full.state full.reqLen (full.frameBuf 0) = .refused) := by
    rw [hcrc, hk]
    decide
  have hw := waiting_of_outcome cfg hup hidx' hsame ho (.inl hno)
  refine .step env' (.refl ⟨hw, ?_⟩)
  cases ho with
  | transition _ _ hst => exact hst
  | sio hbad | restart hbad | counted hbad => exact absurd hbad hno
  | ignored _ hk' | type0 _ hk' | type12 _ hk' =>
    rw [hk] at hk'
    cases hk'

/-- A partial Type 1 or Type 2 frame on an allowed channel leads to OPERATE. -/
theorem canReach_operate_of_started (cfg : BuildConfig) {d : Device} (h : Up d.dll)
    (hs : d.dll.state = .estabCom) (h0 : 0 < d.dll.frameIndex) (hlong : 2 < d.dll.reqLen)
    (hch : forbiddenChannel (d.dll.frameBuf 0) = false) :
    CanReach cfg d fun c => c.state = .operate := by
  obtain ⟨env, full, reply, hidx, hsame, hcrc, ho⟩ := process_complete cfg h h0
  have hk : frameKind full.state full.reqLen (full.frameBuf 0) = .type12 := by
    rw [hsame.state, hsame.reqLen, hsame.mc, hs]
    simp [frameKind, hlong, hch]
  refine .step env (.refl ?_)
  cases ho with
  | type12 _ _ hst => exact hst
  | sio hbad | restart hbad | counted hbad =>
    rw [hcrc, hk] at hbad
    rcases hbad with hbad | hbad <;> cases hbad
  | ignored _ hk' | type0 _ hk' | transition _ hk' =>
    rw [hk] at hk'
    cases hk'

theorem dllReqLen_estabCom {c : DllCtx} (h : Up c) (hs : c.state = .estabCom) {b : UInt8}
    (hb : b ≠ mcTransitionCommand) : 2 < dllReqLen c b := by
  have hpd := h.bounded.pdOut
  have hod := h.bounded.odLe
  rw [pdOutMaxSize] at hpd
  unfold dllReqLen
  rw [if_neg (by simp [h.baudrate]), if_neg (by simp [hs]), if_pos ⟨h.mSeqType, hs, hb⟩,
    mSeqHeaderLen]
  omega

/-- From ESTAB_COM the next frame leads to OPERATE. -/
theorem canReach_operate_of_estabCom (cfg : BuildConfig) {d : Device} (h : Waiting d.dll)
    (hs : d.dll.state = .estabCom) : CanReach cfg d fun c => c.state = .operate := by
  obtain ⟨env, hup, hstate, hidx, hmc, hreq⟩ := process_start cfg h.1 h.2 0
  refine .step env (canReach_operate_of_started cfg hup (hstate.trans hs) ?_ ?_ ?_)
  · rw [hidx]; exact Nat.one_pos
  · rw [hreq]; exact dllReqLen_estabCom h.1 hs (by decide)
  · rw [hmc]; decide

theorem CanReach.trans {cfg : BuildConfig} {d : Device} {P Q : DllCtx → Prop}
    (h : CanReach cfg d Q) (hnext : ∀ d', Q d'.dll → CanReach cfg d' P) : CanReach cfg d P := by
  obtain ⟨envs, h⟩ := h
  obtain ⟨envs', h'⟩ := hnext _ h
  refine ⟨envs ++ envs', ?_⟩
  simp only [processAll, List.map_append, Machine.final_append] at h' ⊢
  exact h'

/-- A device that is up and waits for a frame can be brought to OPERATE. -/
theorem canReach_operate_of_waiting (cfg : BuildConfig) {d : Device} (h : Waiting d.dll)
    (hs : d.dll.state ≠ .fallback) : CanReach cfg d fun c => c.state = .operate := by
  have hbelow : d.dll.state = .startup ∨ d.dll.state = .awaitingComm ∨ d.dll.state = .preoperate →
      CanReach cfg d fun c => c.state = .operate := fun hst =>
    (canReach_estabCom cfg h hst).trans fun d' hd' => canReach_operate_of_estabCom cfg hd'.1 hd'.2
  cases hst : d.dll.state with
  | startup => exact hbelow (.inl hst)
  | awaitingComm => exact hbelow (.inr (.inl hst))
  | preoperate => exact hbelow (.inr (.inr hst))
  | estabCom => exact canReach_operate_of_estabCom cfg h hst
  | operate => exact .refl hst
  | fallback => exact absurd hst hs

/-! ## Dropping a frame -/

/-- A byte that leaves the frame incomplete is only stored. -/
theorem process_partial (cfg : BuildConfig) {d : Device} (h : Up d.dll) {rx : RxByte} {c : DllCtx}
    (hasm : rxAssemble cfg (polledCtx cfg d) rx = c) (hmore : c.frameIndex < c.reqLen) :
    (iolinkProcess cfg d (promptCall d.dll false [rx])).1.dll = c ∧ Bounded c := by
  have hbounded := bounded_deviceStep cfg h.bounded (.process (promptCall d.dll false [rx]))
  change Bounded (iolinkProcess cfg d (promptCall d.dll false [rx])).1.dll at hbounded
  have hstep : (rxMachine cfg).final (polledCtx cfg d) [rx] = c := by
    show (rxByte cfg (polledCtx cfg d) rx).1 = c
    rw [rxByte_short cfg (by rw [hasm]; exact hmore), hasm]
  have hproc := iolinkProcess_prompt cfg h.ne_sio false [rx]
  rw [hstep] at hproc
  rw [hproc] at hbounded
  exact ⟨hproc, hbounded⟩

/-- The inter-byte timeout drops the partial frame; the byte that comes too late
    starts a new one. -/
theorem process_late (cfg : BuildConfig) {d : Device} (h : Up d.dll) (h0 : 0 < d.dll.frameIndex)
    (henf : d.dll.enforceTiming = true) (hlim : d.dll.tByteLimitUs > 0)
    (hbyte : d.dll.lastByteUs ≠ 0) :
    ∃ env, let c := (iolinkProcess cfg d env).1.dll
      Up c ∧ c.state = d.dll.state ∧ c.frameIndex = 1 ∧ c.frameBuf 0 = 0 ∧
        c.reqLen = dllReqLen d.dll 0 := by
  set rx : RxByte := ⟨0, d.dll.lastByteUs + d.dll.tByteLimitUs.toUInt64 + 1, 0, 0, 0, 0⟩ with hrx
  have hge := (dllReqLen_bounds h.bounded.pdOut h.bounded.odLe 0).1
  have hlate : rx.nowUs - (polledCtx cfg d).lastByteUs >
      (polledCtx cfg d).tByteLimitUs.toUInt64 := by
    show d.dll.lastByteUs + d.dll.tByteLimitUs.toUInt64 + 1 - d.dll.lastByteUs >
      d.dll.tByteLimitUs.toUInt64
    have hmax := d.dll.tByteLimitUs.toNat_lt
    rw [gt_iff_lt, UInt64.lt_iff_toNat_lt]
    have hsub : d.dll.lastByteUs + d.dll.tByteLimitUs.toUInt64 + 1 - d.dll.lastByteUs =
        d.dll.tByteLimitUs.toUInt64 + 1 := by
      rw [UInt64.add_assoc, UInt64.add_comm, UInt64.add_sub_cancel]
    rw [hsub, UInt64.toNat_add, UInt32.toNat_toUInt64]
    have : (1 : UInt64).toNat = 1 := rfl
    omega
  have hasm : ∃ stats events, rxAssemble cfg (polledCtx cfg d) rx = { polledCtx cfg d with
      stats := stats
      events := events
      lastActivityMs := 0
      lastByteUs := rx.nowUs
      lastFrameUs := rx.nowUs
      frameBuf := Function.update d.dll.frameBuf 0 0
      frameIndex := 1
      reqLen := dllReqLen d.dll 0 } := by
    simp only [rxAssemble, byteGap]
    rw [if_pos ⟨h0, henf, hlim, hbyte, hlate⟩]
    exact ⟨_, _, rfl⟩
  obtain ⟨stats, events, hasm⟩ := hasm
  obtain ⟨hproc, hbounded⟩ := process_partial cfg h hasm hge
  refine ⟨promptCall d.dll false [rx], ?_⟩
  rw [hproc]
  exact ⟨⟨h.baudrate, h.phyMode, h.mSeqType, hbounded⟩, rfl, rfl, rfl, rfl⟩

/-- A byte that does not complete the frame, at another time than the last one. -/
theorem process_stamp (cfg : BuildConfig) {d : Device} (h : Up d.dll) (h0 : 0 < d.dll.frameIndex)
    (hbyte : d.dll.lastByteUs = 0) (hmore : d.dll.frameIndex + 1 < d.dll.reqLen) :
    ∃ env, let c := (iolinkProcess cfg d env).1.dll
      Up c ∧ c.state = d.dll.state ∧ 0 < c.frameIndex ∧ c.lastByteUs ≠ 0 ∧
        c.enforceTiming = d.dll.enforceTiming ∧ c.tByteLimitUs = d.dll.tByteLimitUs := by
  set rx : RxByte := ⟨0, 1, 0, 0, 0, 0⟩ with hrx
  obtain ⟨-, hmax⟩ := h.bounded.short h0
  have hasm : rxAssemble cfg (polledCtx cfg d) rx = { polledCtx cfg d with
      lastActivityMs := 0
      lastByteUs := 1
      frameBuf := Function.update d.dll.frameBuf d.dll.frameIndex 0
      frameIndex := d.dll.frameIndex + 1 } := by
    have hgap : byteGap cfg { polledCtx cfg d with lastActivityMs := rx.nowMs } rx.nowUs =
        { polledCtx cfg d with lastActivityMs := rx.nowMs } := by
      unfold byteGap
      rw [if_neg]
      rintro ⟨-, -, -, hne, -⟩
      exact hne hbyte
    have hne : (polledCtx cfg d).frameIndex ≠ 0 := Nat.pos_iff_ne_zero.mp h0
    have h48 : (polledCtx cfg d).frameIndex < frameBufSize := by
      show d.dll.frameIndex < 48
      omega
    simp only [rxAssemble, hgap, assemble, hne, h48, if_true, if_false]
    rfl
  obtain ⟨hproc, hbounded⟩ := process_partial cfg h hasm hmore
  refine ⟨promptCall d.dll false [rx], ?_⟩
  rw [hproc]
  refine ⟨⟨h.baudrate, h.phyMode, h.mSeqType, hbounded⟩, rfl, Nat.succ_pos _, ?_, rfl, rfl⟩
  show (1 : UInt64) ≠ 0
  decide

/-- A frame on a forbidden channel that can still be dropped. -/
theorem canReach_operate_of_late (cfg : BuildConfig) {d : Device} (h : Up d.dll)
    (hs : d.dll.state = .estabCom) (h0 : 0 < d.dll.frameIndex) (henf : d.dll.enforceTiming = true)
    (hlim : d.dll.tByteLimitUs > 0) (hbyte : d.dll.lastByteUs ≠ 0) :
    CanReach cfg d fun c => c.state = .operate := by
  obtain ⟨env, hup, hstate, hidx, hmc, hreq⟩ := process_late cfg h h0 henf hlim hbyte
  refine .step env (canReach_operate_of_started cfg hup (hstate.trans hs) ?_ ?_ ?_)
  · rw [hidx]; exact Nat.one_pos
  · rw [hreq]; exact dllReqLen_estabCom h hs (by decide)
  · rw [hmc]; decide

theorem canReach_operate_of_canTimeOut (cfg : BuildConfig) {d : Device} (h : Up d.dll)
    (hs : d.dll.state = .estabCom) (h0 : 0 < d.dll.frameIndex) (hout : CanTimeOut d.dll) :
    CanReach cfg d fun c => c.state = .operate := by
  obtain ⟨henf, hlim, hwhen⟩ := hout
  by_cases hbyte : d.dll.lastByteUs = 0
  · have hmore := hwhen.resolve_left (fun hne => hne hbyte)
    obtain ⟨env, hup, hstate, hidx, hne, henf', hlim'⟩ := process_stamp cfg h h0 hbyte hmore
    exact .step env (canReach_operate_of_late cfg hup (hstate.trans hs) hidx (henf'.trans henf)
      (by rw [hlim']; exact hlim) hne)
  · exact canReach_operate_of_late cfg h hs h0 henf hlim hbyte

/-! ## The exact condition -/

/-- A partial frame that is not doomed is completed or dropped. -/
theorem canReach_operate_of_partial (cfg : BuildConfig) {d : Device} (hr : RestInv d.dll)
    (h : Up d.dll) (h0 : 0 < d.dll.frameIndex) (hd : ¬ Doomed d.dll) :
    CanReach cfg d fun c => c.state = .operate := by
  -- A frame after which the link is still up.
  have hnext : ∀ env, Waiting (iolinkProcess cfg d env).1.dll →
      CanReach cfg d fun c => c.state = .operate := fun env hw =>
    .step env (canReach_operate_of_waiting cfg hw
      (restInv_deviceStep cfg hr (.process env)).fallback)
  obtain ⟨env, full, reply, hidx, hsame, hcrc, ho⟩ := process_complete cfg h h0
  have hok : frameKind d.dll.state d.dll.reqLen (d.dll.frameBuf 0) ≠ .refused →
      CanReach cfg d fun c => c.state = .operate := by
    intro hk
    refine hnext env (waiting_of_outcome cfg h hidx hsame ho (.inl ?_))
    rw [hcrc, hsame.state, hsame.reqLen, hsame.mc]
    rintro (hbad | hbad)
    · cases hbad
    · exact hk hbad
  cases hs : d.dll.state with
  | startup | awaitingComm | preoperate =>
    apply hok
    simp only [frameKind, hs]
    split_ifs <;> decide
  | estabCom =>
    by_cases hlong : 2 < d.dll.reqLen
    · by_cases hch : forbiddenChannel (d.dll.frameBuf 0) = true
      · by_cases hlast : (d.dll.fallbackCount + 1) % 256 ≥ d.dll.sioFallbackThreshold
        · have hout : CanTimeOut d.dll := by
            by_contra hstuck
            exact hd ⟨hs, h0, hlong, hch, hlast, hstuck⟩
          exact canReach_operate_of_canTimeOut cfg h hs h0 hout
        · exact hnext env (waiting_of_outcome cfg h hidx hsame ho (.inr ⟨hs, hlast⟩))
      · exact canReach_operate_of_started cfg h hs h0 hlong (Bool.eq_false_iff.mpr hch)
    · apply hok
      simp only [frameKind, hs, hlong, if_false]
      split_ifs <;> decide
  | operate => exact .refl hs
  | fallback => exact absurd hs hr.fallback

/-- **From every other state at COM2 the device can be brought to OPERATE.** -/
theorem canReach_operate (cfg : BuildConfig) {d : Device} (hr : RestInv d.dll)
    (ht : d.dll.mSeqType ≠ .type0) (hb : d.dll.baudrate = .com2) (hd : ¬ Doomed d.dll) :
    CanReach cfg d fun c => c.state = .operate := by
  rcases hr.link.phyMode with hm | hm
  · obtain ⟨env, hup, hstate, hidx⟩ := process_wakeup cfg hr hb hm ht
    refine .step env (canReach_operate_of_waiting cfg ⟨hup, hidx⟩ ?_)
    rw [hstate]
    decide
  · have hup : Up d.dll := ⟨hb, hm, ht, hr.bounded⟩
    by_cases h0 : d.dll.frameIndex = 0
    · exact canReach_operate_of_waiting cfg ⟨hup, h0⟩ hr.fallback
    · exact canReach_operate_of_partial cfg hr hup (Nat.pos_of_ne_zero h0) hd

/-- `iolink_get_state` (`src/iolink_core.c`, lines 133–136). -/
def iolinkGetState (d : Device) : DllState := d.dll.state

/-- **The device can be brought to OPERATE exactly if it is there, or is at COM2 and not
    doomed.** -/
theorem recovery_iff (cfg : BuildConfig) (config : Config) (htype : config.mSeqType ≠ .type0)
    (hout : config.pdOutLen ≤ 32) (hasSend : Bool) (calls : List Call) (d : Device)
    (h : Reaches cfg config hasSend calls d) :
    (∃ envs, iolinkGetState (processAll cfg d envs) = .operate) ↔ Recoverable d.dll := by
  have hr := reaches_restInv h hout
  have ht : d.dll.mSeqType ≠ .type0 := by
    obtain ⟨nowUs, image, store, rfl⟩ := h
    rw [(sameConfig_final cfg (iolinkInit cfg config hasSend nowUs image store) calls).mSeqType]
    exact htype
  constructor
  · rintro ⟨envs, henvs⟩
    by_contra hrec
    obtain ⟨-, hcom2⟩ := not_or.mp hrec
    have htrap : Trapped d.dll := by
      rcases hr.link.baudrate with hb | hb
      · exact .inl hb
      · exact .inr (not_not.mp fun hd => hcom2 ⟨hb, hd⟩)
    exact trapped_processAll cfg hr htrap envs henvs
  · rintro (hs | ⟨hb, hd⟩)
    · exact ⟨[], hs⟩
    · exact canReach_operate cfg hr ht hb hd

/-- After `iolink_init` the device can be brought to OPERATE. -/
theorem recovery_iff_init :
    ∃ envs, iolinkGetState (processAll {}
      (iolinkInit {} (sampleConfig .type11) true 0 none storeInit) envs) = .operate :=
  (recovery_iff {} (sampleConfig .type11) (by decide) (by decide) true [] _
    ⟨0, none, storeInit, rfl⟩).mpr (by decide +kernel)

/-- One frame with a wrong checksum after the wake-up. -/
def restartCalls : List Call :=
  [.process (callWith true []), .process (callWith false [0x00, 0xFF])]

/-- After one wrong checksum below ESTAB_COM no continuation leads to OPERATE. -/
theorem recovery_fails :
    Reaches {} (sampleConfig .type11) true restartCalls (deviceAfter restartCalls) ∧
      ∀ envs, iolinkGetState (processAll {} (deviceAfter restartCalls) envs) ≠ .operate := by
  have hreach : Reaches {} (sampleConfig .type11) true restartCalls (deviceAfter restartCalls) :=
    ⟨0, none, storeInit, rfl⟩
  have hcom1 : (deviceAfter restartCalls).dll.baudrate = .com1 := by decide +kernel
  refine ⟨hreach, fun envs => ?_⟩
  exact trapped_processAll {} (reaches_restInv hreach (by decide)) (.inl hcom1) envs

end Iolinki
