import Iolinki.Dll.Effects
import Iolinki.Dll.Loop

/-!
# The start-up sequence

What happens on the link in a run is a list of `LinkEvent`s: detected wake-ups,
complete frames with a right checksum, and the state after every step that may
change it. OPERATE is reached only if a wake-up, a transition command and a
Type 1 or Type 2 frame stand in that list in this order, and the device has not
been in STARTUP since the transition command.

* `started_rxByte`, `started_dllReceive`: a byte and a call keep the invariant
  between the context and the events so far.
* `startup_sequence`: the order of events in every run from `iolink_init`.
-/

namespace Iolinki

open Iolinki.Lib

/-! ## Events -/

/-- What happens on the link. -/
inductive LinkEvent
  /-- `detect_wakeup() > 0` -/
  | wakeup
  /-- a complete frame with a right checksum -/
  | frame (bytes : List UInt8)
  /-- the state after a step -/
  | state (s : DllState)
  deriving DecidableEq, Repr

/-- A frame of two bytes with the transition command and a right checksum. -/
def isTransitionFrame (frame : List UInt8) : Bool :=
  frame.length = 2 && frame.getD 0 0 = mcTransitionCommand && checksumOk frame

/-- A Type 1 or Type 2 frame on an allowed channel with a right checksum. -/
def isCyclicFrame (frame : List UInt8) : Bool :=
  frame.length > 2 && !forbiddenChannel (frame.getD 0 0) && checksumOk frame

/-- The events of one iteration of the receive loop. -/
def byteEvents (cfg : BuildConfig) (c : DllCtx) (rx : RxByte) : List LinkEvent :=
  (if frameComplete (rxAssemble cfg c rx) && frameCrcOk (rxAssemble cfg c rx) then
    [.frame (frameOf (rxAssemble cfg c rx))] else []) ++ [.state (rxByte cfg c rx).1.state]

/-- The events of a call of `iolink_dll_process` after its polls. -/
def receiveEvents (cfg : BuildConfig) (c : DllCtx) (env : CallEnv) : List LinkEvent :=
  let c₁ := inactivityReset c env.nowMs
  .state c₁.state ::
    if dllTPdActive c₁ env.tPdUs then []
    else if c₁.phyMode = .sio then
      if c₁.frameIndex = 0 ∧ env.wakeup then [.wakeup, .state (detectWakeup c₁ env).state] else []
    else .state (callGap cfg c₁ env.gapUs).state :: noteReceive cfg (byteEvents cfg) c env

/-- The events of one call of the application. -/
def callEvents (cfg : BuildConfig) (d : Device) : Call → List LinkEvent
  | .process env =>
    receiveEvents cfg (dllPollDiagnostics cfg (deviceIsduProcess cfg d).dll env) env
  | _ => []

/-- The events of a run. -/
def linkEvents (cfg : BuildConfig) (d : Device) (calls : List Call) : List LinkEvent :=
  (deviceMachine cfg).collect (callEvents cfg) d calls

/-! ## The order of events -/

/-- A wake-up and later a transition command, after which the device has not been
    in STARTUP. -/
def Established (log : List LinkEvent) : Prop :=
  ∃ before mid after transition, log = before ++ .wakeup :: mid ++ .frame transition :: after ∧
    isTransitionFrame transition = true ∧ .state .startup ∉ after

/-- The same, and later a Type 1 or Type 2 frame. -/
def Exchanged (log : List LinkEvent) : Prop :=
  ∃ before mid₁ mid₂ after transition cyclic,
    log = before ++ .wakeup :: mid₁ ++ .frame transition :: (mid₂ ++ .frame cyclic :: after) ∧
    isTransitionFrame transition = true ∧ isCyclicFrame cyclic = true ∧
    .state .startup ∉ mid₂ ++ .frame cyclic :: after

theorem Established.append {log more : List LinkEvent} (h : Established log)
    (hmore : .state .startup ∉ more) : Established (log ++ more) := by
  obtain ⟨before, mid, after, t, rfl, ht, hafter⟩ := h
  refine ⟨before, mid, after ++ more, t, by simp, ht, ?_⟩
  rw [List.mem_append]
  exact not_or.mpr ⟨hafter, hmore⟩

theorem Exchanged.append {log more : List LinkEvent} (h : Exchanged log)
    (hmore : .state .startup ∉ more) : Exchanged (log ++ more) := by
  obtain ⟨before, mid₁, mid₂, after, t, f, rfl, ht, hf, hafter⟩ := h
  refine ⟨before, mid₁, mid₂, after ++ more, t, f, by simp, ht, hf, ?_⟩
  rw [← List.cons_append, ← List.append_assoc, List.mem_append]
  exact not_or.mpr ⟨hafter, hmore⟩

theorem established_of_wakeup {log more : List LinkEvent} {t : List UInt8} (h : .wakeup ∈ log)
    (ht : isTransitionFrame t = true) (hmore : .state .startup ∉ more) :
    Established (log ++ .frame t :: more) := by
  obtain ⟨before, mid, rfl⟩ := List.append_of_mem h
  exact ⟨before, mid, more, t, rfl, ht, hmore⟩

theorem exchanged_of_established {log more : List LinkEvent} {f : List UInt8} (h : Established log)
    (hf : isCyclicFrame f = true) (hmore : .state .startup ∉ more) :
    Exchanged (log ++ .frame f :: more) := by
  obtain ⟨before, mid, after, t, rfl, ht, hafter⟩ := h
  refine ⟨before, mid, after, more, t, f, by simp, ht, hf, ?_⟩
  simp only [List.mem_append, List.mem_cons, reduceCtorEq, false_or]
  exact not_or.mpr ⟨hafter, hmore⟩

/-! ## The invariant -/

/-- The events so far explain the state. -/
structure Started (c : DllCtx) (log : List LinkEvent) : Prop where
  woken : c.phyMode ≠ .sio ∨ c.state ≠ .startup → .wakeup ∈ log
  estabCom : c.state = .estabCom → Established log
  operate : c.state = .operate → Exchanged log
  /-- The transition command is taken for a frame of two bytes. -/
  transition : 0 < c.frameIndex → c.state ≠ .operate → c.frameBuf 0 = mcTransitionCommand →
    c.reqLen = 2

/-- A step that leaves the state alone. -/
theorem Started.keep {c c' : DllCtx} {log more : List LinkEvent} (h : Started c log)
    (hs : c'.state = c.state) (hmore : c.state ≠ .startup → .state .startup ∉ more)
    (hwake : c'.phyMode ≠ .sio ∨ c'.state ≠ .startup → .wakeup ∈ log ++ more)
    (htrans : 0 < c'.frameIndex → c'.state ≠ .operate → c'.frameBuf 0 = mcTransitionCommand →
      c'.reqLen = 2) : Started c' (log ++ more) := by
  refine ⟨hwake, fun he => ?_, fun ho => ?_, htrans⟩
  · rw [hs] at he
    exact (h.estabCom he).append (hmore (by rw [he]; decide))
  · rw [hs] at ho
    exact (h.operate ho).append (hmore (by rw [ho]; decide))

/-- A step to STARTUP. -/
theorem started_of_startup {c : DllCtx} {log : List LinkEvent} (hs : c.state = .startup)
    (hwake : c.phyMode ≠ .sio ∨ c.state ≠ .startup → .wakeup ∈ log) (hidx : c.frameIndex = 0) :
    Started c log := by
  refine ⟨hwake, fun he => ?_, fun ho => ?_, fun h0 => absurd h0 (by omega)⟩
  · rw [hs] at he; cases he
  · rw [hs] at ho; cases ho

theorem dllReqLen_transition {c : DllCtx} (h : c.state ≠ .operate) :
    dllReqLen c mcTransitionCommand = 2 := by
  simp [dllReqLen, h]

/-- Storing a byte keeps the fact about the transition command. -/
theorem transition_rxAssemble (cfg : BuildConfig) {c : DllCtx} {log : List LinkEvent}
    (h : Started c log) (rx : RxByte) :
    0 < (rxAssemble cfg c rx).frameIndex → c.state ≠ .operate →
      (rxAssemble cfg c rx).frameBuf 0 = mcTransitionCommand →
        (rxAssemble cfg c rx).reqLen = 2 := by
  have hgap : ∀ g : DllCtx, g = byteGap cfg { c with lastActivityMs := rx.nowMs } rx.nowUs →
      g.state = c.state ∧ (0 < g.frameIndex → g.frameIndex = c.frameIndex ∧ g.reqLen = c.reqLen ∧
        g.frameBuf = c.frameBuf) := by
    rintro g rfl
    unfold byteGap
    split_ifs
    · exact ⟨rfl, fun h0 => absurd h0 (lt_irrefl 0)⟩
    · exact ⟨rfl, fun _ => ⟨rfl, rfl, rfl⟩⟩
  simp only [rxAssemble]
  generalize hg : byteGap cfg { c with lastActivityMs := rx.nowMs } rx.nowUs = g
  obtain ⟨hstate, hpart⟩ := hgap g hg.symm
  unfold assemble
  dsimp only
  split_ifs with h0 h48
  · intro _ hop hmc
    have hb : rx.byte = mcTransitionCommand := hmc
    show dllReqLen { g with lastByteUs := rx.nowUs } rx.byte = 2
    rw [hb]
    refine dllReqLen_transition ?_
    rw [← hstate] at hop
    exact hop
  · intro _ hop hmc
    have hpos : 0 < g.frameIndex := Nat.pos_of_ne_zero h0
    obtain ⟨hi, hr, hbuf⟩ := hpart hpos
    have hmc' : g.frameBuf 0 = mcTransitionCommand := by
      rw [← hmc]
      exact (Function.update_of_ne (Ne.symm h0) _ _).symm
    show g.reqLen = 2
    rw [hr]
    exact h.transition (hi ▸ hpos) hop (hbuf ▸ hmc')
  · exact fun h0 => absurd h0 (lt_irrefl 0)

/-- The frame of a transition command. -/
theorem isTransitionFrame_frameOf {c : DllCtx} (hcrc : frameCrcOk c = true) (hreq : c.reqLen = 2)
    (hmc : c.frameBuf 0 = mcTransitionCommand) : isTransitionFrame (frameOf c) = true := by
  have hhead := frameOf_head (c := c) (by omega)
  have hck := frameCrcOk_eq (c := c) (by omega)
  rw [isTransitionFrame, length_frameOf, hhead, hreq, hmc, ← hck, hcrc]
  rfl

theorem isCyclicFrame_frameOf {c : DllCtx} (hcrc : frameCrcOk c = true) (hlong : 2 < c.reqLen)
    (hch : forbiddenChannel (c.frameBuf 0) = false) : isCyclicFrame (frameOf c) = true := by
  have hhead := frameOf_head (c := c) (by omega)
  have hck := frameCrcOk_eq (c := c) (by omega)
  rw [isCyclicFrame, length_frameOf, hhead, hch, ← hck, hcrc]
  simp [hlong]

/-- What makes a complete frame a transition command. -/
theorem mc_of_transition {c : DllCtx}
    (h : frameKind c.state c.reqLen (c.frameBuf 0) = .transition) :
    c.frameBuf 0 = mcTransitionCommand ∧ c.state ≠ .operate := by
  cases hs : c.state with
  | startup | awaitingComm | preoperate =>
    simp only [frameKind, hs] at h
    split_ifs at h with h1 h2
    exact ⟨h2, by decide⟩
  | estabCom =>
    simp only [frameKind, hs] at h
    split_ifs at h with h1 h2 h3
    exact ⟨h3, by decide⟩
  | operate =>
    simp only [frameKind, hs] at h
    split_ifs at h
  | fallback =>
    simp only [frameKind, hs] at h
    cases h

/-- What makes a complete frame a Type 1 or Type 2 frame: in ESTAB_COM its length and
    its channel. -/
theorem long_of_type12 {c : DllCtx} (h : frameKind c.state c.reqLen (c.frameBuf 0) = .type12) :
    c.state = .operate ∨ (c.state = .estabCom ∧ 2 < c.reqLen ∧
      forbiddenChannel (c.frameBuf 0) = false) := by
  cases hs : c.state with
  | operate => exact .inl rfl
  | estabCom =>
    simp only [frameKind, hs] at h
    split_ifs at h with h1 h2
    exact .inr ⟨rfl, h1, Bool.eq_false_iff.mpr h2⟩
  | startup | awaitingComm | preoperate =>
    simp only [frameKind, hs] at h
    split_ifs at h
  | fallback =>
    simp only [frameKind, hs] at h
    cases h

/-- **One received byte keeps state and events in step.** -/
theorem started_rxByte (cfg : BuildConfig) {c : DllCtx} {log : List LinkEvent} (h : Started c log)
    (hwoken : .wakeup ∈ log) (rx : RxByte) :
    Started (rxByte cfg c rx).1 (log ++ byteEvents cfg c rx) := by
  have hwake : .wakeup ∈ log ++ byteEvents cfg c rx := List.mem_append_left _ hwoken
  obtain ⟨hstate, -, -⟩ := link_rxAssemble cfg c rx
  have htrans := transition_rxAssemble cfg h rx
  rcases rxByte_cases cfg c rx with ⟨hpart, he⟩ | ⟨hfull, hidx, ho⟩
  · -- The byte is only stored.
    rw [byteEvents, hpart, he]
    refine h.keep hstate (fun hs => ?_) (fun _ => ?_) fun h0 hop => htrans h0 (hstate ▸ hop)
    · simpa [hstate] using Ne.symm hs
    · exact List.mem_append_left _ hwoken
  · have hno : ∀ {s}, (rxByte cfg c rx).1.state = s → s ≠ .startup →
        .state .startup ∉ byteEvents cfg c rx := by
      intro s hs hne
      rw [byteEvents, hs]
      split_ifs <;> simpa using Ne.symm hne
    have hdone : 0 < (rxByte cfg c rx).1.frameIndex → (rxByte cfg c rx).1.state ≠ .operate →
        (rxByte cfg c rx).1.frameBuf 0 = mcTransitionCommand → (rxByte cfg c rx).1.reqLen = 2 :=
      fun h0 => absurd h0 (by omega)
    have hpos : 0 < (rxAssemble cfg c rx).frameIndex := (frameComplete_iff.mp hfull).1
    cases ho with
    | ignored _ _ hs | type0 _ _ hs =>
      rw [hstate] at hs
      have hne : establishedState c.state ≠ .startup := by
        unfold establishedState
        split_ifs with hest
        · decide
        · exact fun hst => hest (.inr hst)
      refine ⟨fun _ => hwake, fun hst => ?_, fun hst => ?_, hdone⟩
      · rw [hs, establishedState] at hst
        split_ifs at hst
        exact (h.estabCom hst).append (hno hs hne)
      · rw [hs, establishedState] at hst
        split_ifs at hst
        exact (h.operate hst).append (hno hs hne)
    | transition hcrc hk hs =>
      obtain ⟨hmc, hop⟩ := mc_of_transition hk
      have hframe := isTransitionFrame_frameOf hcrc (htrans hpos (hstate ▸ hop) hmc) hmc
      refine ⟨fun _ => hwake, fun _ => ?_, fun hst => ?_, hdone⟩
      · rw [byteEvents, hfull, hcrc, hs]
        exact established_of_wakeup hwoken hframe (by simp)
      · rw [hs] at hst
        cases hst
    | type12 hcrc hk hs =>
      refine ⟨fun _ => hwake, fun hst => ?_, fun _ => ?_, hdone⟩
      · rw [hs] at hst
        cases hst
      · rcases long_of_type12 hk with hop | ⟨hest, hlong, hch⟩
        · exact (h.operate (hstate ▸ hop)).append (hno hs (by decide))
        · rw [byteEvents, hfull, hcrc, hs]
          exact exchanged_of_established (h.estabCom (hstate ▸ hest))
            (isCyclicFrame_frameOf hcrc hlong hch) (by simp)
    | sio _ _ hs | restart _ _ hs => exact started_of_startup hs (fun _ => hwake) hidx
    | counted _ habove hs =>
      rw [hstate] at hs
      refine h.keep hs (fun hne => hno hs hne) (fun _ => hwake) hdone

/-! ## Whole calls -/

theorem started_inactivityReset {c : DllCtx} {log : List LinkEvent} (h : Started c log)
    (nowMs : UInt32) :
    Started (inactivityReset c nowMs) (log ++ [.state (inactivityReset c nowMs).state]) := by
  unfold inactivityReset
  by_cases hlate : c.lastActivityMs ≠ 0 ∧ nowMs - c.lastActivityMs > 1000
  · rw [if_pos hlate]
    refine started_of_startup rfl (fun hor => ?_) rfl
    -- The reset leaves the PHY in SIO mode.
    exfalso
    rcases hor with hm | hs
    · dsimp only at hm
      split_ifs at hm with hsio
      · exact hm rfl
      · exact hsio hm
    · exact hs rfl
  · rw [if_neg hlate]
    refine h.keep rfl (fun hs => ?_) (fun hor => ?_) h.transition
    · simpa using Ne.symm hs
    · exact List.mem_append_left _ (h.woken hor)

theorem started_callGap (cfg : BuildConfig) {c : DllCtx} {log : List LinkEvent} (h : Started c log)
    (hm : c.phyMode ≠ .sio) (nowUs : UInt64) :
    Started (callGap cfg c nowUs) (log ++ [.state (callGap cfg c nowUs).state]) := by
  have hwoken := List.mem_append_left [LinkEvent.state (callGap cfg c nowUs).state]
    (h.woken (.inl hm))
  have hkeep : ∀ {c' : DllCtx}, c'.state = c.state → (0 < c'.frameIndex → c'.state ≠ .operate →
      c'.frameBuf 0 = mcTransitionCommand → c'.reqLen = 2) →
      .wakeup ∈ log ++ [LinkEvent.state c'.state] → Started c' (log ++ [.state c'.state]) := by
    intro c' hs ht hw
    refine h.keep hs (fun hne => ?_) (fun _ => hw) ht
    simpa [hs] using Ne.symm hne
  obtain he | ⟨_, _, _, _, _, he | ⟨-, -, he⟩ | ⟨-, he⟩⟩ := callGap_cases cfg c nowUs <;>
    rw [he] at hwoken ⊢
  · exact hkeep rfl h.transition hwoken
  · exact started_of_startup rfl (fun _ => hwoken) rfl
  · exact started_of_startup rfl (fun _ => hwoken) rfl
  · exact hkeep rfl (fun h0 => absurd h0 (lt_irrefl 0)) hwoken

/-- **A call keeps state and events in step.** -/
theorem started_dllReceive (cfg : BuildConfig) {c : DllCtx} {log : List LinkEvent}
    (h : Started c log) (env : CallEnv) :
    Started (dllReceive cfg c env).ctx (log ++ receiveEvents cfg c env) := by
  have hr := started_inactivityReset h env.nowMs
  have hcases := dllReceive_cases cfg c env
  simp only [receiveEvents, noteReceive]
  rw [List.append_cons]
  generalize inactivityReset c env.nowMs = c₁ at hr hcases ⊢
  generalize log ++ [LinkEvent.state c₁.state] = log₁ at hr ⊢
  rcases hcases with ⟨hpd, -, he⟩ | ⟨hpd, hm, -, he⟩ | ⟨hpd, hm, hs, he⟩ | ⟨hpd, hm, hs, he⟩
  all_goals rw [he, hpd]
  · simp only [if_true, List.append_nil]
    unfold drainRx
    split_ifs
    · exact hr
    · exact ⟨hr.woken, hr.estabCom, hr.operate, hr.transition⟩
  · simp only [Bool.false_eq_true, if_false, hm, if_true]
    unfold detectWakeup
    split_ifs with hwake
    · exact ⟨fun _ => by simp, fun hst => DllState.noConfusion hst,
        fun hst => DllState.noConfusion hst,
        fun h0 => absurd h0 (by rw [hwake.1]; exact lt_irrefl 0)⟩
    · rw [List.append_nil]
      exact hr
  · simp only [Bool.false_eq_true, if_false, hm, hs]
    exact started_callGap cfg hr hm env.gapUs
  · simp only [Bool.false_eq_true, if_false, hm, hs]
    rw [List.append_cons]
    have hg := started_callGap cfg hr hm env.gapUs
    have hwoken := List.mem_append_left [LinkEvent.state (callGap cfg c₁ env.gapUs).state]
      (hr.woken (.inl hm))
    exact ((rxMachine cfg).final_collect_induct
      (P := fun c log => Started c log ∧ .wakeup ∈ log)
      (fun c rx log hc => ⟨started_rxByte cfg hc.1 hc.2 rx, List.mem_append_left _ hc.2⟩)
      ⟨hg, hwoken⟩ env.rx).1

theorem started_deviceStep (cfg : BuildConfig) {d : Device} {log : List LinkEvent}
    (h : Started d.dll log) (call : Call) :
    Started (deviceStep cfg d call).1.dll (log ++ callEvents cfg d call) := by
  have hsame : ∀ {c : DllCtx}, c.state = d.dll.state → c.phyMode = d.dll.phyMode →
      c.frameIndex = d.dll.frameIndex → c.frameBuf = d.dll.frameBuf → c.reqLen = d.dll.reqLen →
      Started c (log ++ []) := by
    intro c hs hm hi hb hr
    rw [List.append_nil]
    refine ⟨?_, ?_, ?_, ?_⟩
    · rw [hs, hm]; exact h.woken
    · rw [hs]; exact h.estabCom
    · rw [hs]; exact h.operate
    · rw [hi, hs, hb, hr]; exact h.transition
  cases call with
  | process env =>
    refine started_dllReceive cfg ?_ env
    obtain ⟨_, _, hp⟩ := polled_eq cfg d env
    rw [hp]
    exact ⟨h.woken, h.estabCom, h.operate, h.transition⟩
  | pdInputUpdate data valid =>
    simp only [deviceStep, pdInputUpdate]
    split_ifs <;> exact hsame rfl rfl rfl rfl rfl
  | _ => exact hsame rfl rfl rfl rfl rfl

/-! ## Whole runs -/

theorem started_run (cfg : BuildConfig) (config : Config) (hasSend : Bool) (nowUs : UInt64)
    (image : Option ParamsNvm) (store : Store) (calls : List Call) :
    let d₀ := iolinkInit cfg config hasSend nowUs image store
    Started ((deviceMachine cfg).final d₀ calls).dll (linkEvents cfg d₀ calls) := by
  intro d₀
  have hinit : Started d₀.dll [] :=
    ⟨fun hor => (hor.elim (fun hm => hm rfl) fun hs => hs rfl).elim, DllState.noConfusion,
      DllState.noConfusion, fun h0 => absurd h0 (lt_irrefl 0)⟩
  have h := (deviceMachine cfg).final_collect_induct (P := fun d log => Started d.dll log)
    (fun d call log hd => started_deviceStep cfg hd call) hinit calls
  rwa [List.nil_append] at h

/-- A call that sends has seen the end of the power-on delay and does not start in
    SIO mode. -/
theorem sent_conditions (cfg : BuildConfig) {d : Device} {env : CallEnv}
    (h : (iolinkProcess cfg d env).2.sent ≠ []) :
    dllTPdActive d.dll env.tPdUs = false ∧ d.dll.phyMode ≠ .sio := by
  obtain ⟨_, _, hp⟩ := polled_eq cfg d env
  change (dllReceive cfg (dllPollDiagnostics cfg (deviceIsduProcess cfg d).dll env) env).sent ≠ []
    at h
  generalize dllPollDiagnostics cfg (deviceIsduProcess cfg d).dll env = c at hp h
  have hdead := (untouched_inactivityReset c env.nowMs).tPdDeadlineUs
  have hmode : (inactivityReset c env.nowMs).phyMode ≠ .sio → c.phyMode ≠ .sio := by
    intro hm hsio
    apply hm
    unfold inactivityReset
    dsimp only
    split_ifs
    · rfl
    · exact hsio
    · exact hsio
  rcases dllReceive_cases cfg c env with ⟨-, -, he⟩ | ⟨-, -, -, he⟩ | ⟨-, -, -, he⟩ |
    ⟨hpd, hm, -, -⟩
  · rw [he] at h; exact absurd rfl h
  · rw [he] at h; exact absurd rfl h
  · rw [he] at h; exact absurd rfl h
  · have hc := hmode hm
    rw [dllTPdActive, hdead] at hpd
    rw [hp] at hpd hc
    exact ⟨hpd, hc⟩

/-- **The start-up sequence.** In every run from `iolink_init` nothing is sent before the power-on
    delay is over and before a wake-up has been detected, and in OPERATE there have been, in this
    order, a detected wake-up, a transition command and a Type 1 or Type 2 frame on an allowed
    channel, without STARTUP since the transition command. -/
theorem startup_sequence (cfg : BuildConfig) (config : Config) (hasSend : Bool) (nowUs : UInt64)
    (image : Option ParamsNvm) (store : Store) (calls : List Call) :
    let d₀ := iolinkInit cfg config hasSend nowUs image store
    (∀ pre env post, calls = pre ++ .process env :: post →
      (iolinkProcess cfg ((deviceMachine cfg).final d₀ pre) env).2.sent ≠ [] →
      d₀.dll.tPdDeadlineUs ≤ env.tPdUs ∧ .wakeup ∈ linkEvents cfg d₀ pre) ∧
    (((deviceMachine cfg).final d₀ calls).dll.state = .operate →
    Exchanged (linkEvents cfg d₀ calls)) := by
  intro d₀
  constructor
  · intro pre env post _ hsent
    obtain ⟨hpd, hm⟩ := sent_conditions cfg hsent
    refine ⟨?_, (started_run cfg config hasSend nowUs image store pre).woken (.inl hm)⟩
    have hdead := (sameConfig_final cfg d₀ pre).tPdDeadlineUs
    rw [dllTPdActive, hdead] at hpd
    simp only [Bool.and_eq_false_iff, decide_eq_false_iff_not, ne_eq, not_not, UInt64.not_lt] at hpd
    rcases hpd with hz | hle
    · rw [hz]
      exact UInt64.zero_le
    · exact hle
  · exact (started_run cfg config hasSend nowUs image store calls).operate

end Iolinki
