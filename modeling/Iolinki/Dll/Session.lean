import Iolinki.Dll.Engine
import Iolinki.Dll.Prompt
import Iolinki.Dll.Type0
import Iolinki.Isdu.Alike

/-!
# The ISDU engine across communication sessions

When the link is lost, by the inactivity reset or by `dll_enter_fallback`, the
device returns to SIO mode and a wake-up starts the next session. Neither path
touches `ctx->isdu`.

A device is compared with the same device after a fresh initialisation of its
ISDU engine (`Device.restarted`), through any calls of the application. The link
does not look at the engine, so both devices give the same bytes to their engines
(`Linked`). A session is isolated if from the first START byte on the engines
answer the same and do the same to everything around them (`Isolated`).

* `session_isolated_iff`: this is so exactly when the old session has not ended
  in the middle of a request.
* `session_not_isolated`: a request that was cut off answers the next one.
-/

namespace Iolinki

open Iolinki.Lib

/-! ## What is asked and answered -/

/-- What the OD loop notes: the byte of the master and the answer of the engine. -/
def noteOd (e : IsduCtx) (od : UInt8) : List (UInt8 × UInt8) := [(od, (odExchange e od).2)]

/-- The OD exchanges at a received byte. -/
def rxExchanges (cfg : BuildConfig) (c : DllCtx) (rx : RxByte) : List (UInt8 × UInt8) :=
  odMachine.collect noteOd c.isdu (rxOd cfg c rx)

/-- The OD exchanges of a run. -/
def exchanges (cfg : BuildConfig) (d : Device) (calls : List Call) : List (UInt8 × UInt8) :=
  (deviceMachine cfg).collect (noteCall cfg (rxExchanges cfg)) d calls

/-- The exchanges from the first START byte on. -/
def fromStart (log : List (UInt8 × UInt8)) : List (UInt8 × UInt8) :=
  log.dropWhile fun x => !startBit x.1

theorem fromStart_append (log log' : List (UInt8 × UInt8)) :
    fromStart (log ++ log') =
      if (fromStart log).isEmpty then fromStart log' else fromStart log ++ log' :=
  List.dropWhile_append

/-- The device after a fresh initialisation of its ISDU engine. -/
def Device.restarted (d : Device) : Device := { d with dll := d.dll.withIsdu isduWired }

/-- A session in which a request arrives is answered, from the first START byte
    on, as by a fresh engine, and everything around the engine ends up the same.
    `segs` are the data bytes of the request, each with an arbitrary LAST bit, and
    `calls` any calls of the application. The bytes before the first START byte ask
    for nothing: what is left of an old response may still be answered to them. -/
def Isolated (cfg : BuildConfig) (d : Device) : Prop :=
  ∀ (req : Request) (s : UInt8) (segs : List (Bool × UInt8)), segs.map Prod.snd = req.dataBytes →
    ∀ calls : List Call,
      segments true s segs <:+: (fromStart (exchanges cfg d calls)).map Prod.fst →
      fromStart (exchanges cfg d calls) = fromStart (exchanges cfg d.restarted calls) ∧
        ((deviceMachine cfg).final d calls).restarted =
          ((deviceMachine cfg).final d.restarted calls).restarted

/-! ## Two runs side by side -/

/-- Both engines wait for a request. -/
def BothAwait (e e' : IsduCtx) : Prop :=
  e.state.AwaitsStart ∧ e'.state.AwaitsStart ∧ SameWiring e e'

/-- The engines have answered the same since the first START byte, and will. -/
def Twins (e e' : IsduCtx) (log log' : List (UInt8 × UInt8)) : Prop :=
  fromStart log' = fromStart log ∧ (Alike e e' ∨ BothAwait e e' ∧ fromStart log = [])

theorem sameWiring_getResponseByte (c : IsduCtx) : SameWiring c (isduGetResponseByte c).1 := by
  unfold isduGetResponseByte
  dsimp only
  split_ifs <;> exact ⟨rfl, rfl, rfl⟩

theorem SameWiring.symm {c c' : IsduCtx} (h : SameWiring c c') : SameWiring c' c :=
  ⟨h.1.symm, h.2.1.symm, h.2.2.symm⟩

theorem SameWiring.trans {a b c : IsduCtx} (h : SameWiring a b) (h' : SameWiring b c) :
    SameWiring a c :=
  ⟨h'.1.trans h.1, h'.2.1.trans h.2.1, h'.2.2.trans h.2.2⟩

/-- Without a START byte both engines go on waiting. -/
theorem bothAwait_odExchange {e e' : IsduCtx} (h : BothAwait e e') {b : UInt8}
    (hb : startBit b = false) : BothAwait (odExchange e b).1 (odExchange e' b).1 := by
  have hignored : ∀ {c : IsduCtx}, c.state.AwaitsStart → (isduCollectByte c b).1 = c := by
    intro c hc
    exact collectByte_ignored (not_collecting_of_awaitsStart hc) (by simp [hb])
  unfold odExchange
  dsimp only
  rw [hignored h.1, hignored h.2.1]
  refine ⟨(awaitsStart_step {} hostInit h.1).2, (awaitsStart_step {} hostInit h.2.1).2, ?_⟩
  exact (sameWiring_getResponseByte e).symm.trans (h.2.2.trans (sameWiring_getResponseByte e'))

theorem odExchange_start {e : IsduCtx} (hs : e.state.AwaitsStart) {b : UInt8}
    (hb : startBit b = true) :
    odExchange e b = (e.startRequest b, 0) := by
  unfold odExchange
  rw [collectByte_start hs hb, getResponseByte_of_ne (by simp [IsduCtx.startRequest])]
  rfl

/-- With a START byte both engines open the request, and answer nothing. -/
theorem alike_odExchange_start {e e' : IsduCtx} (h : BothAwait e e') {b : UInt8}
    (hb : startBit b = true) :
    Alike (odExchange e b).1 (odExchange e' b).1 ∧ (odExchange e' b).2 = (odExchange e b).2 := by
  rw [odExchange_start h.1 hb, odExchange_start h.2.1 hb]
  exact ⟨alike_startRequest h.2.2 b, rfl⟩

/-- **One exchange keeps the engines in step.** -/
theorem twins_odExchange {e e' : IsduCtx} {log log' : List (UInt8 × UInt8)}
    (h : Twins e e' log log') (b : UInt8) :
    Twins (odExchange e b).1 (odExchange e' b).1 (log ++ noteOd e b) (log' ++ noteOd e' b) := by
  obtain ⟨hlog, halike | ⟨hwait, hnil⟩⟩ := h
  · obtain ⟨hnext, hout⟩ := alike_getResponseByte (alike_collectByte halike b)
    refine ⟨?_, .inl hnext⟩
    have hnote : noteOd e' b = noteOd e b := by
      simp only [noteOd, odExchange, hout]
    rw [fromStart_append, fromStart_append, hlog, hnote]
  · have hfrom : ∀ {l : List (UInt8 × UInt8)}, fromStart l = [] → ∀ x,
        fromStart (l ++ [x]) = fromStart [x] := by
      intro l hl x
      rw [fromStart_append, hl]
      rfl
    cases hb : startBit b with
    | false =>
      have hquiet : ∀ x : UInt8, fromStart [(b, x)] = [] := by
        intro x
        simp [fromStart, hb]
      refine ⟨?_, .inr ⟨bothAwait_odExchange hwait hb, ?_⟩⟩
      · rw [noteOd, noteOd, hfrom hnil, hfrom (hlog.trans hnil), hquiet, hquiet]
      · rw [noteOd, hfrom hnil, hquiet]
    | true =>
      obtain ⟨hnext, hout⟩ := alike_odExchange_start hwait hb
      refine ⟨?_, .inl hnext⟩
      rw [noteOd, noteOd, hfrom hnil, hfrom (hlog.trans hnil), hout]

/-- The contexts differ in their engines only, and these are in step. -/
def Linked (c c' : DllCtx) (log log' : List (UInt8 × UInt8)) : Prop :=
  c' = c.withIsdu c'.isdu ∧ Twins c.isdu c'.isdu log log'

theorem linked_withIsdu {c : DllCtx} {e' : IsduCtx} {log log' : List (UInt8 × UInt8)}
    (h : Twins c.isdu e' log log') : Linked c (c.withIsdu e') log log' :=
  ⟨rfl, h⟩

theorem Linked.exists_eq {c c' : DllCtx} {log log' : List (UInt8 × UInt8)}
    (h : Linked c c' log log') : ∃ e', c' = c.withIsdu e' ∧ Twins c.isdu e' log log' :=
  ⟨c'.isdu, h.1, h.2⟩

/-- A received byte. -/
theorem linked_rxByte (cfg : BuildConfig) (c c' : DllCtx) (rx : RxByte)
    (log log' : List (UInt8 × UInt8)) (h : Linked c c' log log') :
    Linked (rxByte cfg c rx).1 (rxByte cfg c' rx).1 (log ++ rxExchanges cfg c rx)
      (log' ++ rxExchanges cfg c' rx) := by
  obtain ⟨e', rfl, htwins⟩ := h.exists_eq
  unfold rxExchanges
  rw [rxByte_withIsdu, rxOd_withIsdu]
  refine linked_withIsdu ?_
  rw [isdu_rxByte]
  exact odMachine.final_collect_rel (P := Twins) (fun _ _ b _ _ ht => twins_odExchange ht b)
    htwins _

/-- A call of `iolink_dll_process` after the polls. -/
theorem linked_dllReceive (cfg : BuildConfig) {c c' : DllCtx} {log log' : List (UInt8 × UInt8)}
    (h : Linked c c' log log') (env : CallEnv) :
    Linked (dllReceive cfg c env).ctx (dllReceive cfg c' env).ctx
      (log ++ noteReceive cfg (rxExchanges cfg) c env)
      (log' ++ noteReceive cfg (rxExchanges cfg) c' env) := by
  obtain ⟨e', rfl, htwins⟩ := h.exists_eq
  have hstart' := loopStart_withIsdu cfg c e' env
  cases hstart : loopStart cfg c env with
  | none =>
    rw [hstart] at hstart'
    have hself : (dllReceive cfg c env).ctx = (dllReceive cfg c env).ctx.withIsdu c.isdu :=
      dllReceive_withIsdu cfg c c.isdu hstart
    have hisdu : (dllReceive cfg c env).ctx.isdu = c.isdu := by
      rw [hself]
      rfl
    simp only [noteReceive, hstart, hstart', Option.map_none, List.append_nil]
    rw [dllReceive_withIsdu cfg c e' hstart]
    refine linked_withIsdu ?_
    rw [hisdu]
    exact htwins
  | some c₁ =>
    rw [hstart] at hstart'
    have hself : loopStart cfg c env = (loopStart cfg c env).map fun c₁ => c₁.withIsdu c.isdu :=
      loopStart_withIsdu cfg c c.isdu env
    have hisdu : c₁.isdu = c.isdu := by
      rw [hstart] at hself
      rw [Option.some.inj hself]
      rfl
    rw [dllReceive_of_loopStart cfg hstart, dllReceive_of_loopStart cfg hstart']
    simp only [noteReceive, hstart, hstart', Option.map_some]
    refine (rxMachine cfg).final_collect_rel (P := Linked)
      (fun c c' rx log log' h => linked_rxByte cfg c c' rx log log' h) (linked_withIsdu ?_) env.rx
    rw [hisdu]
    exact htwins

/-- The devices differ in their engines only, and these are in step. -/
def LinkedDevices (d d' : Device) (log log' : List (UInt8 × UInt8)) : Prop :=
  d'.store = d.store ∧ Linked d.dll d'.dll log log'

theorem LinkedDevices.exists_eq {d d' : Device} {log log' : List (UInt8 × UInt8)}
    (h : LinkedDevices d d' log log') :
    ∃ e', d' = ⟨d.dll.withIsdu e', d.store⟩ ∧ Twins d.dll.isdu e' log log' := by
  obtain ⟨dll', store'⟩ := d'
  obtain ⟨hstore, hdll⟩ := h
  obtain ⟨e', hdll, htwins⟩ := hdll.exists_eq
  dsimp only at hstore hdll
  rw [hstore, hdll]
  exact ⟨e', rfl, htwins⟩

/-- `iolink_isdu_process` does the same in both devices. -/
theorem linked_deviceIsduProcess (cfg : BuildConfig) {d d' : Device}
    {log log' : List (UInt8 × UInt8)} (h : LinkedDevices d d' log log') :
    LinkedDevices (deviceIsduProcess cfg d) (deviceIsduProcess cfg d') log log' := by
  obtain ⟨e', rfl, hlog, htwins⟩ := h.exists_eq
  have hsame : (isduProcess cfg d.host e').1 = (isduProcess cfg d.host d.dll.isdu).1 ∧
      (Alike (isduProcess cfg d.host d.dll.isdu).2 (isduProcess cfg d.host e').2 ∨
        BothAwait (isduProcess cfg d.host d.dll.isdu).2 (isduProcess cfg d.host e').2 ∧
          fromStart log = []) := by
    rcases htwins with halike | ⟨hwait, hnil⟩
    · obtain ⟨hh, ha⟩ := sameAnswer_isduProcess cfg d.host halike
      exact ⟨hh, .inl ha⟩
    · rw [(awaitsStart_step cfg d.host hwait.1).1, (awaitsStart_step cfg d.host hwait.2.1).1]
      exact ⟨rfl, .inr ⟨hwait, hnil⟩⟩
  have hdev : deviceIsduProcess cfg ⟨d.dll.withIsdu e', d.store⟩ =
      ⟨(deviceIsduProcess cfg d).dll.withIsdu (isduProcess cfg d.host e').2,
        (deviceIsduProcess cfg d).store⟩ := by
    unfold deviceIsduProcess
    dsimp only
    rw [← hsame.1]
    rfl
  rw [hdev]
  exact ⟨rfl, linked_withIsdu ⟨hlog, hsame.2⟩⟩

theorem linked_dllPollDiagnostics (cfg : BuildConfig) {c c' : DllCtx}
    {log log' : List (UInt8 × UInt8)} (h : Linked c c' log log') (env : CallEnv) :
    Linked (dllPollDiagnostics cfg c env) (dllPollDiagnostics cfg c' env) log log' := by
  obtain ⟨e', rfl, htwins⟩ := h.exists_eq
  obtain ⟨_, _, hpoll⟩ := dllPollDiagnostics_eq cfg c env
  rw [dllPollDiagnostics_withIsdu]
  refine linked_withIsdu ?_
  rw [hpoll]
  exact htwins

/-- **One call of the application.** -/
theorem linked_deviceStep (cfg : BuildConfig) (d d' : Device) (call : Call)
    (log log' : List (UInt8 × UInt8)) (h : LinkedDevices d d' log log') :
    LinkedDevices (deviceStep cfg d call).1 (deviceStep cfg d' call).1
      (log ++ noteCall cfg (rxExchanges cfg) d call)
      (log' ++ noteCall cfg (rxExchanges cfg) d' call) := by
  cases call with
  | process env =>
    obtain ⟨hstore, hdll⟩ := linked_deviceIsduProcess cfg h
    exact ⟨hstore, linked_dllReceive cfg (linked_dllPollDiagnostics cfg hdll env) env⟩
  | pdInputUpdate data valid =>
    obtain ⟨e', rfl, htwins⟩ := h.exists_eq
    simp only [noteCall, List.append_nil, deviceStep, pdInputUpdate]
    split_ifs
    · exact ⟨rfl, rfl, htwins⟩
    · exact ⟨rfl, rfl, htwins⟩
  | _ =>
    obtain ⟨e', rfl, htwins⟩ := h.exists_eq
    simp only [noteCall, List.append_nil]
    exact ⟨rfl, rfl, htwins⟩

/-- **Engines that wait for a request are as good as fresh ones.** -/
theorem isolated_of_awaitsStart (cfg : BuildConfig) {d : Device} (hwired : d.dll.isdu.Wired)
    (hs : d.dll.isdu.state.AwaitsStart) : Isolated cfg d := by
  have hinit : LinkedDevices d d.restarted [] [] := by
    refine ⟨rfl, linked_withIsdu ⟨rfl, .inr ⟨⟨hs, .inl rfl, ?_⟩, rfl⟩⟩⟩
    exact ⟨hwired.1.symm, hwired.2.1.symm, hwired.2.2.symm⟩
  intro _ _ _ _ calls _
  obtain ⟨hstore, hdll, hlog, -⟩ := (deviceMachine cfg).final_collect_rel (P := LinkedDevices)
    (linked_deviceStep cfg) hinit calls
  refine ⟨hlog.symm, ?_⟩
  unfold Device.restarted at hstore hdll ⊢
  rw [hstore, hdll]
  rfl

/-! ## The wake-up -/

/-- The call finds the device in SIO mode, after the inactivity check, and sees a
    wake-up request. -/
structure Wakes (d : Device) (env : CallEnv) : Prop where
  powered : dllTPdActive d.dll env.tPdUs = false
  sio : (inactivityReset d.dll env.nowMs).phyMode = .sio
  frameIndex : (inactivityReset d.dll env.nowMs).frameIndex = 0
  wakeup : env.wakeup = true

/-- A woken device waits for the first frame. -/
theorem process_wakes (cfg : BuildConfig) {d : Device} {env : CallEnv} (h : Wakes d env) :
    let d' := (iolinkProcess cfg d env).1
    d'.dll.state = .awaitingComm ∧ d'.dll.phyMode = .sdci ∧ d'.dll.frameIndex = 0 ∧
      d'.dll.isdu = (isduProcess cfg d.host d.dll.isdu).2 := by
  obtain ⟨stats, events, hpoll⟩ := polled_eq cfg d env
  obtain ⟨c, hc⟩ : ∃ c, dllPollDiagnostics cfg (deviceIsduProcess cfg d).dll env = c := ⟨_, rfl⟩
  rw [hc] at hpoll
  have hpd : dllTPdActive (inactivityReset c env.nowMs) env.tPdUs = false := by
    rw [dllTPdActive, (untouched_inactivityReset c env.nowMs).tPdDeadlineUs, hpoll]
    exact h.powered
  have hsio : (inactivityReset c env.nowMs).phyMode = .sio := by
    rw [← h.sio, hpoll]
    unfold inactivityReset
    dsimp only
    split_ifs <;> rfl
  have hidx : (inactivityReset c env.nowMs).frameIndex = 0 := by
    rw [← h.frameIndex, hpoll]
    unfold inactivityReset
    dsimp only
    split_ifs <;> rfl
  have hctx : (iolinkProcess cfg d env).1.dll = detectWakeup (inactivityReset c env.nowMs) env := by
    simp only [iolinkProcess, hc, dllReceive, hpd, hsio]
    rfl
  intro d'
  rw [show d'.dll = _ from hctx, detectWakeup, if_pos ⟨hidx, h.wakeup⟩]
  refine ⟨rfl, rfl, hidx, ?_⟩
  show (inactivityReset c env.nowMs).isdu = _
  rw [(untouched_inactivityReset c env.nowMs).isdu, hpoll]

/-! ## Type 0 frames in prompt calls -/

/-- The device waits for a Type 0 frame, and its time stamps are those of `c₀`. -/
structure Listening (c₀ c : DllCtx) : Prop where
  state : c.state = .awaitingComm ∨ c.state = .preoperate
  phyMode : c.phyMode = .sdci
  frameIndex : c.frameIndex = 0
  lastActivityMs : c.lastActivityMs = c₀.lastActivityMs
  tPdDeadlineUs : c.tPdDeadlineUs = c₀.tPdDeadlineUs
  wakeupDeadlineUs : c.wakeupDeadlineUs = c₀.wakeupDeadlineUs
  lastByteUs : c.lastByteUs = c₀.lastByteUs

theorem Listening.promptCall_eq {c₀ c : DllCtx} (h : Listening c₀ c) (rx : List RxByte) :
    promptCall c₀ false rx = promptCall c false rx := by
  unfold promptCall
  rw [h.lastActivityMs, h.tPdDeadlineUs, h.wakeupDeadlineUs, h.lastByteUs]

/-- The Type 0 frame that carries `b`, at once. -/
def promptFrame (c₀ : DllCtx) (b : UInt8) : List RxByte := (type0Frame b).map (promptByte c₀)

/-- **The two bytes of a frame in the receive loop.** -/
theorem rx_listening (cfg : BuildConfig) {c₀ c : DllCtx} (h : Listening c₀ c) {b : UInt8}
    (hb : b ≠ mcTransitionCommand) :
    Listening c₀ ((rxMachine cfg).final c (promptFrame c₀ b)) ∧
      ((rxMachine cfg).final c (promptFrame c₀ b)).isdu =
        (odExchange c.isdu b).1 ∧
      (rxMachine cfg).collect (rxExchanges cfg) c (promptFrame c₀ b) =
        noteOd c.isdu b := by
  obtain ⟨first, hfirst⟩ : ∃ rx, promptByte c₀ b = rx := ⟨_, rfl⟩
  obtain ⟨last, hlast⟩ : ∃ rx, promptByte c₀ (checksumCk b 0) = rx := ⟨_, rfl⟩
  have hsplit : promptFrame c₀ b = [first, last] := by
    rw [← hfirst, ← hlast]
    rfl
  have hreq : dllReqLen c first.byte = 2 := by
    rcases h.state with hs | hs <;> simp [dllReqLen, hs]
  have hasm : rxAssemble cfg c first = c.withFrame first [] :=
    rxAssemble_first cfg h.frameIndex first
  have hpart : frameComplete (c.withFrame first []) = false :=
    not_frameComplete_withFrame (by rw [hreq]; decide)
  have hgap : GapOk c (([] : List RxByte).getLastD first).nowUs last.nowUs := by
    simp [GapOk, ← hfirst, ← hlast, promptByte]
  have hasm' : rxAssemble cfg (c.withFrame first []) last = c.withFrame first [last] :=
    rxAssemble_next cfg c first [] last hgap (by decide)
  have hfull : frameComplete (c.withFrame first [last]) = true := by
    simp [frameComplete, DllCtx.withFrame, hreq]
  have hbytes : [first, last].map RxByte.byte = type0Frame b := by
    rw [← hfirst, ← hlast]
    rfl
  obtain ⟨hcrc, hmc, stats, events, hframe⟩ := dllHandleFrame_short cfg hreq hbytes
  have hkind : frameKind (c.withFrame first [last]).state (c.withFrame first [last]).reqLen b =
      .type0 := by
    show frameKind c.state (dllReqLen c first.byte) b = _
    rw [hreq]
    rcases h.state with hs | hs <;> simp [frameKind, hs, hb]
  have hod : rxOd cfg c first = [] := by simp [rxOd, hasm, hpart]
  have hod' : rxOd cfg (c.withFrame first []) last = [b] := by
    simp only [rxOd, hasm', hfull, if_true, frameOd, hcrc, hmc, hkind]
  have hstep : (rxByte cfg c first).1 = c.withFrame first [] := by simp [rxByte, hasm, hpart]
  have hisdu : (c.withFrame first []).isdu = c.isdu := rfl
  rw [hsplit]
  simp only [rxMachine, Machine.final_cons, Machine.final_nil, Machine.collect_cons,
    Machine.collect_nil, List.append_nil, hstep, rxExchanges, hod, hod', List.nil_append,
    isdu_rxByte, hisdu]
  refine ⟨?_, rfl, trivial⟩
  simp only [rxByte, hasm', hfull, if_true, hframe, dllAcceptFrame_eq, hmc, hkind]
  refine ⟨.inr ?_, h.phyMode, rfl, ?_, h.tPdDeadlineUs, h.wakeupDeadlineUs, ?_⟩
  · show establishedState c.state = .preoperate
    rcases h.state with hs | hs <;> simp [establishedState, hs]
  · show last.nowMs = c₀.lastActivityMs
    rw [← hlast]
    rfl
  · show last.nowUs = c₀.lastByteUs
    rw [← hlast]
    rfl

/-- What the engine does in a call that receives a Type 0 frame. -/
def frameExchange (cfg : BuildConfig) (host : Host) (e : IsduCtx) (b : UInt8) : IsduCtx × UInt8 :=
  odExchange (isduProcess cfg host e).2 b

/-- **The call that receives a frame.** -/
theorem process_listening (cfg : BuildConfig) {c₀ : DllCtx} {d : Device} (h : Listening c₀ d.dll)
    {b : UInt8} (hb : b ≠ mcTransitionCommand) :
    Listening c₀ (deviceStep cfg d (.process (promptCall c₀ false (promptFrame c₀ b)))).1.dll ∧
      (deviceStep cfg d (.process (promptCall c₀ false (promptFrame c₀ b)))).1.dll.isdu =
        (frameExchange cfg d.host d.dll.isdu b).1 ∧
      noteCall cfg (rxExchanges cfg) d (.process (promptCall c₀ false (promptFrame c₀ b))) =
        [(b, (frameExchange cfg d.host d.dll.isdu b).2)] := by
  have hlisten : Listening c₀ (polledCtx cfg d) := { h with }
  have hsdci : (polledCtx cfg d).phyMode ≠ .sio := by
    rw [hlisten.phyMode]
    decide
  have hloop : loopStart cfg (polledCtx cfg d) (promptCall c₀ false (promptFrame c₀ b)) =
      some (polledCtx cfg d) := by
    rw [hlisten.promptCall_eq]
    exact loopStart_prompt cfg hsdci false _
  obtain ⟨hnext, hengine, hnote⟩ := rx_listening cfg hlisten hb
  have hctx : (deviceStep cfg d (.process (promptCall c₀ false (promptFrame c₀ b)))).1.dll =
      (rxMachine cfg).final (polledCtx cfg d) (promptFrame c₀ b) := by
    rw [h.promptCall_eq]
    exact iolinkProcess_prompt (d := d) cfg hsdci false _
  rw [hctx]
  refine ⟨hnext, hengine, ?_⟩
  show noteReceive cfg (rxExchanges cfg) (polledCtx cfg d) _ = _
  simp only [noteReceive, hloop]
  exact hnote

/-- The bytes as Type 0 frames, one call for each. -/
def promptFrames (c₀ : DllCtx) (bytes : List UInt8) : List Call :=
  bytes.map fun b => .process (promptCall c₀ false (promptFrame c₀ b))

theorem exchanges_cons (cfg : BuildConfig) {c₀ : DllCtx} {d : Device} (h : Listening c₀ d.dll)
    {b : UInt8} (hb : b ≠ mcTransitionCommand) (bytes : List UInt8) :
    ∃ d' : Device, Listening c₀ d'.dll ∧
      d'.dll.isdu = (frameExchange cfg d.host d.dll.isdu b).1 ∧
      exchanges cfg d (promptFrames c₀ (b :: bytes)) =
        (b, (frameExchange cfg d.host d.dll.isdu b).2) ::
        exchanges cfg d' (promptFrames c₀ bytes) := by
  obtain ⟨hnext, hengine, hnote⟩ := process_listening cfg h hb
  refine ⟨_, hnext, hengine, ?_⟩
  unfold exchanges promptFrames
  rw [List.map_cons, Machine.collect_cons, hnote]
  rfl

/-- Every byte of such calls gets to the engine. -/
theorem exchanges_listening (cfg : BuildConfig) {c₀ : DllCtx} {d : Device} (h : Listening c₀ d.dll)
    {bytes : List UInt8} (hb : ∀ b ∈ bytes, b ≠ mcTransitionCommand) :
    (exchanges cfg d (promptFrames c₀ bytes)).map Prod.fst = bytes := by
  induction bytes generalizing d with
  | nil => rfl
  | cons b bytes ih =>
    obtain ⟨d', hnext, -, hlog⟩ := exchanges_cons cfg h (hb b (by simp)) bytes
    rw [hlog, List.map_cons, ih hnext fun b' hb' => hb b' (by simp [hb'])]

/-! ## A request that was cut off -/

section CutOff

variable (cfg : BuildConfig) (host : Host) {e : IsduCtx}

theorem frameExchange_of_ne (hs : e.state ≠ .serviceExecute) (b : UInt8) :
    frameExchange cfg host e b = odExchange e b := by
  unfold frameExchange
  rw [isduProcess_of_ne cfg host hs]

/-- A response begins with a control byte, and that has the START bit. -/
theorem responseControl_ne_zero (hidx : e.responseIdx = 0) : responseControl e ≠ 0 := by
  intro h
  have hstart : startBit (responseControl e) = true := by
    unfold responseControl
    rw [startBit_ctrlByte, hidx]
    rfl
  rw [h] at hstart
  exact absurd hstart (by decide)

/-- The START byte of a new request collides with the request in progress. -/
theorem odExchange_collision (hs : e.state = .segmentCollect) {b : UInt8}
    (hb : startBit b = true) : (odExchange e b).2 ≠ 0 := by
  unfold odExchange
  rw [collectByte_segmentCollect_start hs hb]
  unfold isduCollision
  dsimp only
  rw [getResponseByte_control rfl rfl]
  exact responseControl_ne_zero rfl

/-- In the other states it is a data byte of the request in progress. -/
theorem odExchange_data (hcol : e.state.Collecting) (hs : e.state ≠ .segmentCollect) :
    (odExchange e 0x80).1.state = .segmentCollect ∨
      (odExchange e 0x80).1.state = .serviceExecute := by
  have hget : ∀ {c : IsduCtx}, c.state = .segmentCollect ∨ c.state = .serviceExecute →
      (isduGetResponseByte c).1.state = .segmentCollect ∨
        (isduGetResponseByte c).1.state = .serviceExecute := by
    intro c hc
    rw [getResponseByte_of_ne (by rcases hc with hc | hc <;> simp [hc])]
    exact hc
  refine hget ?_
  cases hstate : e.state with
  | headerInitial =>
    rw [headerInitial_read hstate]
    exact .inl rfl
  | headerExtLen =>
    rw [collectByte_headerExtLen _ hstate]
    exact .inl rfl
  | headerIndexHigh =>
    rw [collectByte_headerIndexHigh _ hstate]
    exact .inl rfl
  | headerIndexLow =>
    rw [collectByte_headerIndexLow _ hstate]
    exact .inl rfl
  | headerSubindex =>
    cases ht : e.header.type with
    | read =>
      rw [collectByte_headerSubindex_read _ hstate ht]
      exact .inr rfl
    | write =>
      rw [collectByte_headerSubindex_write _ hstate ht]
      exact .inl rfl
  | dataCollect =>
    by_cases hlen : e.bufferIdx + 1 < e.header.length.toNat
    · rw [collectByte_dataCollect_more _ hstate hlen]
      exact .inl rfl
    · rw [collectByte_dataCollect_last _ hstate (by omega)]
      exact .inr rfl
  | segmentCollect => exact absurd hstate hs
  | idle | serviceExecute | busy | responseReady =>
    rw [hstate] at hcol
    exact hcol.elim

/-- A control byte in the place of the first data byte names no service. -/
theorem odExchange_noService (b : UInt8) : (odExchange (e.startRequest b) 0x01).2 ≠ 0 := by
  unfold odExchange
  rw [collectByte_headerInitial 0x01 rfl]
  show ((isduGetResponseByte (responseReady
    (putError (e.startRequest b) isduErrorServiceNotAvail))).2.getD 0) ≠ 0
  rw [getResponseByte_control rfl rfl]
  exact responseControl_ne_zero rfl

end CutOff

/-- **The rest of an old request answers the new one**: one of the first three
    bytes of a read request finds an error response. -/
theorem collecting_answers (cfg : BuildConfig) {e : IsduCtx} (hcol : e.state.Collecting)
    (h₁ h₂ h₃ : Host) :
    let r₁ := frameExchange cfg h₁ e 0x80
    let r₂ := frameExchange cfg h₂ r₁.1 0x80
    let r₃ := frameExchange cfg h₃ r₂.1 0x01
    ¬ (r₁.2 = 0 ∧ r₂.2 = 0 ∧ r₃.2 = 0) := by
  have hne : e.state ≠ .serviceExecute := by
    intro h
    rw [h] at hcol
    exact hcol
  intro r₁ r₂ r₃
  rintro ⟨hr₁, hr₂, hr₃⟩
  simp only [r₁, r₂, r₃, frameExchange_of_ne cfg h₁ hne] at hr₁ hr₂ hr₃
  by_cases hs : e.state = .segmentCollect
  · exact odExchange_collision hs (by decide) hr₁
  rcases odExchange_data hcol hs with hnext | hnext
  · rw [frameExchange_of_ne cfg h₂ (by rw [hnext]; decide)] at hr₂
    exact odExchange_collision hnext (by decide) hr₂
  · -- The old request is executed, its response is dropped by the second byte.
    have hwait := isduProcess_awaitsStart cfg h₂ hnext
    have hopen : frameExchange cfg h₂ (odExchange e 0x80).1 0x80 =
        ((isduProcess cfg h₂ (odExchange e 0x80).1).2.startRequest 0x80, 0) :=
      odExchange_start hwait (by decide)
    rw [hopen, frameExchange_of_ne cfg h₃ (by simp [IsduCtx.startRequest])] at hr₃
    exact odExchange_noService 0x80 hr₃

/-- A fresh engine takes the three bytes in silence. -/
theorem fresh_silent (cfg : BuildConfig) (h₁ h₂ h₃ : Host) :
    let r₁ := frameExchange cfg h₁ isduWired 0x80
    let r₂ := frameExchange cfg h₂ r₁.1 0x80
    let r₃ := frameExchange cfg h₃ r₂.1 0x01
    r₁.2 = 0 ∧ r₂.2 = 0 ∧ r₃.2 = 0 := by
  have h1 : frameExchange cfg h₁ isduWired 0x80 = odExchange isduWired 0x80 :=
    frameExchange_of_ne cfg h₁ (by decide) 0x80
  have h2 : frameExchange cfg h₂ (odExchange isduWired 0x80).1 0x80 =
      odExchange (odExchange isduWired 0x80).1 0x80 := frameExchange_of_ne cfg h₂ (by decide) 0x80
  have h3 : frameExchange cfg h₃ (odExchange (odExchange isduWired 0x80).1 0x80).1 0x01 =
      odExchange (odExchange (odExchange isduWired 0x80).1 0x80).1 0x01 :=
    frameExchange_of_ne cfg h₃ (by decide) 0x01
  intro r₁ r₂ r₃
  simp only [r₁, r₂, r₃, h1, h2, h3]
  decide

/-- The exchanges of the first three frames. -/
theorem exchanges_three (cfg : BuildConfig) {c₀ : DllCtx} {d : Device} (h : Listening c₀ d.dll)
    {b₁ b₂ b₃ : UInt8} (hb₁ : b₁ ≠ mcTransitionCommand) (hb₂ : b₂ ≠ mcTransitionCommand)
    (hb₃ : b₃ ≠ mcTransitionCommand) (bytes : List UInt8) :
    ∃ (h₁ h₂ h₃ : Host) (rest : List (UInt8 × UInt8)),
      let r₁ := frameExchange cfg h₁ d.dll.isdu b₁
      let r₂ := frameExchange cfg h₂ r₁.1 b₂
      let r₃ := frameExchange cfg h₃ r₂.1 b₃
      exchanges cfg d (promptFrames c₀ (b₁ :: b₂ :: b₃ :: bytes)) =
        (b₁, r₁.2) :: (b₂, r₂.2) :: (b₃, r₃.2) :: rest := by
  obtain ⟨d₁, hl₁, he₁, hn₁⟩ := exchanges_cons cfg h hb₁ (b₂ :: b₃ :: bytes)
  obtain ⟨d₂, hl₂, he₂, hn₂⟩ := exchanges_cons cfg hl₁ hb₂ (b₃ :: bytes)
  obtain ⟨d₃, -, -, hn₃⟩ := exchanges_cons cfg hl₂ hb₃ bytes
  refine ⟨d.host, d₁.host, d₂.host, exchanges cfg d₃ (promptFrames c₀ bytes), ?_⟩
  rw [hn₁, hn₂, hn₃, he₂, he₁]

/-- The read of index 0x0010, byte by byte. -/
def readVendorName : List UInt8 :=
  segments true 0 [(false, 0x80), (false, 0x00), (false, 0x10), (false, 0x00)]

/-- **A session after a request that was cut off is not isolated.** -/
theorem not_isolated_of_collecting (cfg : BuildConfig) {d : Device}
    (h : Listening d.dll d.dll) (hcol : d.dll.isdu.state.Collecting) : ¬ Isolated cfg d := by
  intro hiso
  have hstart : ∀ (x : UInt8) (rest : List (UInt8 × UInt8)),
      fromStart ((0x80, x) :: rest) = (0x80, x) :: rest := by
    intro x rest
    exact List.dropWhile_cons_of_neg (show ¬ (!startBit 0x80) = true by decide)
  have hbytes : readVendorName = 0x80 :: 0x80 :: 0x01 :: [0x00, 0x02, 0x10, 0x03, 0x00] := by decide
  have hread : ∀ b ∈ readVendorName, b ≠ mcTransitionCommand := by decide +kernel
  have hctrl : (0x80 : UInt8) ≠ mcTransitionCommand := by decide
  have hnext : (0x01 : UInt8) ≠ mcTransitionCommand := by decide
  have hfresh : Listening d.dll d.restarted.dll :=
    ⟨h.state, h.phyMode, h.frameIndex, rfl, rfl, rfl, rfl⟩
  obtain ⟨h₁, h₂, h₃, rest, hold⟩ :=
    exchanges_three cfg h hctrl hctrl hnext [0x00, 0x02, 0x10, 0x03, 0x00]
  obtain ⟨g₁, g₂, g₃, rest', hnew⟩ :=
    exchanges_three cfg hfresh hctrl hctrl hnext [0x00, 0x02, 0x10, 0x03, 0x00]
  have hlog := exchanges_listening cfg h hread
  rw [← hbytes] at hold hnew
  obtain ⟨hsame, -⟩ := hiso (.read 0x0010 0x00) 0
    [(false, 0x80), (false, 0x00), (false, 0x10), (false, 0x00)] (by decide)
    (promptFrames d.dll readVendorName) (by
      rw [hold] at hlog ⊢
      rw [hstart, hlog]
      exact List.infix_rfl)
  rw [hold, hnew, hstart, hstart] at hsame
  obtain ⟨s1, s2, s3⟩ := fresh_silent cfg g₁ g₂ g₃
  refine collecting_answers cfg hcol h₁ h₂ h₃ ?_
  simp only [List.cons.injEq, Prod.mk.injEq, true_and] at hsame
  exact ⟨hsame.1.trans s1, hsame.2.1.trans s2, hsame.2.2.1.trans s3⟩

/-- **A session is isolated exactly when no request has been cut off.** `d` is any reachable
    device; in the call `env` it is in SIO mode, by the inactivity reset of that call or since
    an earlier loss of the link, and is woken. The new session is then isolated if and only if
    the ISDU engine is not in the middle of a request. -/
theorem session_isolated_iff (cfg : BuildConfig) (config : Config) (hasSend : Bool)
    (calls : List Call) (d : Device) (hd : Reaches cfg config hasSend calls d) (env : CallEnv)
    (hwake : Wakes d env) :
    Isolated cfg (iolinkProcess cfg d env).1 ↔ ¬ d.dll.isdu.state.Collecting := by
  obtain ⟨hstate, hmode, hidx, hisdu⟩ := process_wakes cfg hwake
  constructor
  · intro hiso hcol
    have hne : d.dll.isdu.state ≠ .serviceExecute := by
      intro h
      rw [h] at hcol
      exact hcol
    rw [isduProcess_of_ne cfg d.host hne] at hisdu
    refine not_isolated_of_collecting cfg ⟨.inl hstate, hmode, hidx, rfl, rfl, rfl, rfl⟩ ?_ hiso
    rw [hisdu]
    exact hcol
  · intro hcol
    refine isolated_of_awaitsStart cfg ?_ ?_
    · rw [hisdu]
      exact wired_isduProcess cfg d.host (reaches_wired hd)
    · rw [hisdu]
      by_cases hs : d.dll.isdu.state = .serviceExecute
      · exact isduProcess_awaitsStart cfg d.host hs
      · rw [isduProcess_of_ne cfg d.host hs]
        have hbusy := (reaches_isduInv hd).notBusy
        revert hcol hs hbusy
        cases d.dll.isdu.state <;> simp [IsduState.Collecting, IsduState.AwaitsStart]

/-- A session in PREOPERATE that brings the bytes to the ISDU engine and ends with
    three frames with a wrong checksum. -/
def lostSession (bytes : List UInt8) : List Call :=
  preoperateCalls ++ (type0Calls bytes).map (fun f => .process f.2) ++
    [.process (callWith false []), .process (callWith false [0x00, 0xFF, 0x00, 0xFF, 0x00, 0xFF])]

/-- The device that is woken after the session. -/
def wokenAfter (bytes : List UInt8) : Device :=
  (iolinkProcess {} (deviceAfter (lostSession bytes)) (callWith true [])).1

/-- A response that was not fetched does not get into the next session. -/
theorem session_isolated_unsent_response :
    (deviceAfter (lostSession readVendorName)).dll.isdu.state = .responseReady ∧
      Isolated {} (wokenAfter readVendorName) :=
  ⟨by decide +kernel, (session_isolated_iff {} (sampleConfig .type11) true
    (lostSession readVendorName) (deviceAfter (lostSession readVendorName))
    ⟨0, none, storeInit, rfl⟩ (callWith true [])
    ⟨by decide +kernel, by decide +kernel, by decide +kernel, rfl⟩).mpr (by decide +kernel)⟩

/-- The first session ends after two bytes of a write request. The read request that opens the
    second one is answered with BUSY, then with an error for a service it does not name, and is not
    executed; a fresh engine answers it with the name. -/
theorem session_not_isolated :
    let d := deviceAfter (lostSession [0x80, 0x91])
    let woken := wokenAfter [0x80, 0x91]
    let session := promptFrames woken.dll (readVendorName ++ List.replicate 4 0x00)
    d.dll.state = .startup ∧ d.dll.phyMode = .sio ∧ d.dll.isdu.state = .segmentCollect ∧
      woken.dll.state = .awaitingComm ∧
      exchanges {} woken session = (readVendorName ++ List.replicate 4 0x00).zip
        [0x80, 0x00, 0x80, 0x80, 0x41, 0x11, 0x00, 0x00, 0x00, 0x00, 0x00, 0x00] ∧
      exchanges {} woken.restarted session = (readVendorName ++ List.replicate 4 0x00).zip
        [0x00, 0x00, 0x00, 0x00, 0x00, 0x00, 0x00, 0x00, 0x80, 0x69, 0x01, 0x6F] ∧
      ¬ Isolated {} woken := by
  refine ⟨by decide +kernel, by decide +kernel, by decide +kernel, by decide +kernel,
    by decide +kernel, by decide +kernel, ?_⟩
  exact not_isolated_of_collecting {}
    ⟨.inl (by decide +kernel), by decide +kernel, by decide +kernel, rfl, rfl, rfl, rfl⟩
    (by decide +kernel)

end Iolinki
