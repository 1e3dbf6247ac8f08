import Mathlib.Data.List.Chain
import Iolinki.Dll.Model

/-!
# Whole frames in the receive loop

A frame that arrives in one burst is assembled byte by byte and handled at its
last byte. `withFrame` is the context while it is assembled; nothing but the
frame buffer and the time stamps differs from the context before.

* `rx_frame`: the run of the receive loop on one whole frame.
* `process_cyclic`: the call of `iolink_process` that receives it.
-/

namespace Iolinki

open Iolinki.Lib

/-! ## Assembling -/

/-- The context after the bytes `first :: rest` of a frame. -/
def DllCtx.withFrame (c : DllCtx) (first : RxByte) (rest : List RxByte) : DllCtx :=
  { c with
    lastActivityMs := (rest.getLastD first).nowMs
    lastByteUs := (rest.getLastD first).nowUs
    lastFrameUs := first.nowUs
    frameBuf := blit c.frameBuf 0 ((first :: rest).map RxByte.byte)
    frameIndex := rest.length + 1
    reqLen := dllReqLen c first.byte }

/-- The inter-byte timeout does not strike between two readings of the clock. -/
def GapOk (c : DllCtx) (prevUs nowUs : UInt64) : Prop :=
  ¬ (c.enforceTiming = true ∧ c.tByteLimitUs > 0 ∧ prevUs ≠ 0 ∧
    nowUs - prevUs > c.tByteLimitUs.toUInt64)

/-- The inter-byte timeout does not strike inside the burst. -/
def GapFree (c : DllCtx) (rxs : List RxByte) : Prop :=
  rxs.IsChain fun a b => GapOk c a.nowUs b.nowUs

instance (c : DllCtx) (prevUs nowUs : UInt64) : Decidable (GapOk c prevUs nowUs) :=
  inferInstanceAs (Decidable (¬ _))

instance (c : DllCtx) (rxs : List RxByte) : Decidable (GapFree c rxs) :=
  inferInstanceAs (Decidable (List.IsChain _ _))

theorem gapFree_of_not_enforced {c : DllCtx} (h : c.enforceTiming = false) (rxs : List RxByte) :
    GapFree c rxs := by
  refine List.Pairwise.isChain (List.pairwise_of_forall fun a b => ?_)
  simp [GapOk, h]

theorem rxAssemble_first (cfg : BuildConfig) {c : DllCtx} (hidx : c.frameIndex = 0) (rx : RxByte) :
    rxAssemble cfg c rx = c.withFrame rx [] := by
  have hblit : blit c.frameBuf 0 [rx.byte] = Function.update c.frameBuf 0 rx.byte := by
    have h := update_blit_length c.frameBuf [] rx.byte
    rw [List.nil_append] at h
    rw [← h]
    rfl
  simp [rxAssemble, byteGap, assemble, hidx, DllCtx.withFrame, hblit, dllReqLen]

theorem rxAssemble_next (cfg : BuildConfig) (c : DllCtx) (first : RxByte) (done : List RxByte)
    (rx : RxByte) (hgap : GapOk c (done.getLastD first).nowUs rx.nowUs)
    (hlen : done.length + 1 < frameBufSize) :
    rxAssemble cfg (c.withFrame first done) rx = c.withFrame first (done ++ [rx]) := by
  have hno : byteGap cfg { c.withFrame first done with lastActivityMs := rx.nowMs } rx.nowUs =
      { c.withFrame first done with lastActivityMs := rx.nowMs } := by
    unfold byteGap
    rw [if_neg]
    rintro ⟨-, h⟩
    exact hgap h
  have hblit := update_blit_length c.frameBuf ((first :: done).map RxByte.byte) rx.byte
  simp only [List.length_map, List.length_cons, List.map_cons, List.cons_append] at hblit
  simp only [rxAssemble, hno]
  simp [assemble, DllCtx.withFrame, hlen, hblit]

theorem frameComplete_iff {c : DllCtx} :
    frameComplete c = true ↔ 0 < c.frameIndex ∧ c.reqLen ≤ c.frameIndex := by
  simp [frameComplete]

/-- A byte that does not complete the frame is only stored. -/
theorem rxByte_short (cfg : BuildConfig) {c : DllCtx} {rx : RxByte}
    (h : (rxAssemble cfg c rx).frameIndex < (rxAssemble cfg c rx).reqLen) :
    rxByte cfg c rx = (rxAssemble cfg c rx, none) := by
  have hshort : ¬ frameComplete (rxAssemble cfg c rx) = true := by
    rw [frameComplete_iff]
    omega
  simp only [rxByte]
  rw [if_neg hshort]

theorem not_frameComplete_withFrame {c : DllCtx} {first : RxByte} {rest : List RxByte}
    (h : rest.length + 1 < dllReqLen c first.byte) :
    frameComplete (c.withFrame first rest) = false := by
  simp [frameComplete, DllCtx.withFrame]
  omega

/-- The bytes before the last one of a frame are only collected. -/
theorem rx_partial (cfg : BuildConfig) (c : DllCtx) (first : RxByte) (done rest : List RxByte)
    (hgap : GapFree c (done.getLastD first :: rest))
    (hlen : done.length + 1 + rest.length < dllReqLen c first.byte)
    (hmax : dllReqLen c first.byte ≤ frameBufSize) :
    (rxMachine cfg).final (c.withFrame first done) rest = c.withFrame first (done ++ rest) ∧
      (rxMachine cfg).outputs (c.withFrame first done) rest = List.replicate rest.length none := by
  induction rest generalizing done with
  | nil => simp
  | cons rx rest ih =>
    obtain ⟨hg, hgap'⟩ := List.isChain_cons_cons.mp hgap
    simp only [List.length_cons] at hlen
    have hstep : rxByte cfg (c.withFrame first done) rx =
        (c.withFrame first (done ++ [rx]), none) := by
      simp only [rxByte, rxAssemble_next cfg c first done rx hg (by omega)]
      rw [if_neg (by rw [not_frameComplete_withFrame (by simp; omega)]; simp)]
    obtain ⟨ih1, ih2⟩ := ih (done ++ [rx])
      (by simpa [GapFree] using hgap') (by simp; omega)
    simp only [rxMachine, Machine.final_cons, Machine.outputs_cons, hstep] at ih1 ih2 ⊢
    exact ⟨by rw [ih1, List.append_assoc]; rfl, by rw [ih2]; rfl⟩

/-- **One whole frame in the receive loop.** -/
theorem rx_frame (cfg : BuildConfig) {c : DllCtx} (hidx : c.frameIndex = 0) (first : RxByte)
    (mid : List RxByte) (last : RxByte) (hgap : GapFree c (first :: (mid ++ [last])))
    (hlen : mid.length + 2 = dllReqLen c first.byte)
    (hmax : dllReqLen c first.byte ≤ frameBufSize) :
    let r := dllHandleFrame cfg (c.withFrame first (mid ++ [last])) last
    (rxMachine cfg).final c (first :: (mid ++ [last])) = { r.1 with frameIndex := 0 } ∧
      ((rxMachine cfg).outputs c (first :: (mid ++ [last]))).filterMap id = r.2.toList := by
  have hfirst : rxByte cfg c first = (c.withFrame first [], none) := by
    simp only [rxByte, rxAssemble_first cfg hidx]
    rw [if_neg (by rw [not_frameComplete_withFrame (by simp; omega)]; simp)]
  have hgap' : GapFree c (first :: mid) := List.IsChain.prefix hgap ⟨[last], by simp⟩
  have hlast : GapOk c (mid.getLastD first).nowUs last.nowUs := by
    have happ : ((first :: mid) ++ [last]).IsChain fun a b => GapOk c a.nowUs b.nowUs := hgap
    have h := happ.rel_getLast_head_of_append (by simp) (by simp)
    rwa [List.getLast_eq_getLastD, List.head_cons] at h
  obtain ⟨hp1, hp2⟩ := rx_partial cfg c first [] mid (by simpa using hgap')
    (by simp; omega) hmax
  have hend : rxByte cfg (c.withFrame first mid) last =
      (let r := dllHandleFrame cfg (c.withFrame first (mid ++ [last])) last
       ({ r.1 with frameIndex := 0 }, r.2)) := by
    simp only [rxByte, rxAssemble_next cfg c first mid last hlast (by omega)]
    rw [if_pos]
    simp [frameComplete, DllCtx.withFrame]
    omega
  intro r
  rw [Machine.final_cons, Machine.outputs_cons, Machine.final_append, Machine.outputs_append]
  simp only [rxMachine, hfirst, List.nil_append] at hp1 hp2 ⊢
  rw [hp1, hp2]
  simp only [Machine.final_cons, Machine.final_nil, Machine.outputs_cons, Machine.outputs_nil, hend,
    List.filterMap_cons, List.filterMap_append, List.filterMap_nil, id_eq]
  refine ⟨rfl, ?_⟩
  cases r.2 <;> simp

/-! ## What the steps around a frame change -/

theorem dllPollDiagnostics_eq (cfg : BuildConfig) (c : DllCtx) (env : CallEnv) :
    ∃ stats events, dllPollDiagnostics cfg c env = { c with stats := stats, events := events } := by
  unfold dllPollDiagnostics
  have hshort : ∀ c : DllCtx, ∃ stats events,
      (if env.shortCircuit then trigger cfg { c with
          stats := { c.stats with shortCircuits := c.stats.shortCircuits + 1 } }
        eventPhyShortCircuit .error else c) = { c with stats := stats, events := events } := by
    intro c
    by_cases h : env.shortCircuit = true
    · rw [if_pos h]; exact ⟨_, _, rfl⟩
    · rw [if_neg h]; exact ⟨_, _, rfl⟩
  cases env.voltageMv with
  | none => exact hshort c
  | some v =>
    dsimp only
    by_cases h : v < 18000 ∨ v > 30000
    · rw [if_pos h]
      obtain ⟨stats, events, he⟩ := hshort (trigger cfg { c with
        stats := { c.stats with voltageFaults := c.stats.voltageFaults + 1 } }
        eventPhyVoltageFault .warning)
      exact ⟨stats, events, he⟩
    · rw [if_neg h]
      exact hshort c

theorem cycleStart_eq (cfg : BuildConfig) (c : DllCtx) (procUs : UInt64) :
    ∃ stats events, cycleStart cfg c procUs =
        { c with stats := stats, events := events, lastCycleStartUs := procUs } ∧
      (c.enforceTiming = false → events = c.events) := by
  unfold cycleStart
  by_cases h : c.enforceTiming ∧ c.minCycleTimeUs > 0 ∧ c.lastCycleStartUs ≠ 0 ∧
      procUs - c.lastCycleStartUs < c.minCycleTimeUs.toUInt64
  · rw [if_pos h]
    exact ⟨_, _, rfl, fun he => by simp [he] at h⟩
  · rw [if_neg h]
    exact ⟨_, _, rfl, fun _ => rfl⟩

/-- What both checks for the inter-byte timeout do to a partial frame. -/
theorem byteTimeout_eq (cfg : BuildConfig) (c : DllCtx) :
    ∃ stats events, { framingError (timingViolation cfg c fun s =>
        { s with tByteViolations := s.tByteViolations + 1 }) with frameIndex := 0 } =
      { c with stats := stats, events := events, frameIndex := 0 } := by
  unfold framingError timingViolation trigger
  exact ⟨_, _, rfl⟩

theorem afterSend_eq (cfg : BuildConfig) (c : DllCtx) (txUs : UInt64) :
    ∃ stats events timeUs, afterSend cfg c txUs =
        { c with
          stats := stats, events := events, fallbackCount := 0, responseTimeUs := timeUs } ∧
      (c.enforceTiming = false → events = c.events) := by
  unfold afterSend
  dsimp only
  split_ifs with h
  · exact ⟨_, _, _, rfl, fun he => by simp [he] at h⟩
  · exact ⟨_, _, _, rfl, fun _ => rfl⟩

/-- What a Type 1 or Type 2 frame changes, and the response to it. -/
theorem dllHandleOperateType12_eq (cfg : BuildConfig) (c : DllCtx) (rx : RxByte) :
    ∃ stats events count timeUs, dllHandleOperateType12 cfg c rx =
        ({ c with
            pdOut := if c.pdOutLenCurrent > 0 then blit c.pdOut 0 (pdField c) else c.pdOut
            isdu := odMachine.final c.isdu (odField c)
            stats := stats
            events := events
            fallbackCount := count
            responseTimeUs := timeUs
            lastResponseUs := rx.lastUs },
          if c.hasSend then
            some (responseBody c (odMachine.outputs c.isdu (odField c)) ++
              [crc6 (responseBody c (odMachine.outputs c.isdu (odField c)))])
          else none) ∧
      (c.enforceTiming = false → events = c.events) := by
  unfold dllHandleOperateType12
  dsimp only
  by_cases hsend : c.hasSend = true
  · rw [if_pos hsend, if_pos hsend, if_pos hsend]
    obtain ⟨stats, events, timeUs, he, hev⟩ := afterSend_eq cfg { c with
      pdOut := if c.pdOutLenCurrent > 0 then blit c.pdOut 0 (pdField c) else c.pdOut
      isdu := odMachine.final c.isdu (odField c) } rx.txUs
    rw [he]
    exact ⟨stats, events, 0, timeUs, rfl, hev⟩
  · rw [if_neg hsend, if_neg hsend, if_neg hsend]
    exact ⟨_, _, _, _, rfl, fun _ => rfl⟩

/-! ## The kinds of frames -/

/-- What a frame with a right checksum is taken for. -/
inductive FrameKind
  | ignored
  /-- the transition command -/
  | transition
  /-- a Type 0 frame, whose MC byte goes to the ISDU engine -/
  | type0
  /-- a Type 1 or Type 2 frame -/
  | type12
  /-- a frame that fails the check of its MC byte -/
  | refused
  deriving DecidableEq, Repr

/-- The kind of a frame of `len` bytes that starts with `mc`. -/
def frameKind (state : DllState) (len : ℕ) (mc : UInt8) : FrameKind :=
  match state with
  | .startup | .awaitingComm | .preoperate =>
    if len = 2 then if mc = mcTransitionCommand then .transition else .type0 else .ignored
  | .estabCom =>
    if len > 2 then if forbiddenChannel mc then .refused else .type12
    else if mc = mcTransitionCommand then .transition else .type0
  | .operate =>
    if mc = mcTransitionCommand ∨ forbiddenChannel mc then .refused
    else if len = 2 then .type0 else .type12
  | .fallback => .ignored

/-- The first frame with a right checksum leads to PREOPERATE
    (lines 400–403). -/
def establishedState (s : DllState) : DllState :=
  if s = .awaitingComm ∨ s = .startup then .preoperate else s

/-- A frame with a right checksum is handled by its kind. -/
theorem dllAcceptFrame_eq (cfg : BuildConfig) (c : DllCtx) (rx : RxByte) :
    dllAcceptFrame cfg c rx =
      match frameKind c.state c.reqLen (c.frameBuf 0) with
      | .ignored => ({ c with state := establishedState c.state }, none)
      | .transition => ({ c with state := .estabCom, fallbackCount := 0 }, none)
      | .type0 =>
        dllHandleOperateType0 { c with state := establishedState c.state } (c.frameBuf 0)
      | .type12 => dllHandleOperateType12 cfg { c with state := .operate } rx
      | .refused => (dllEnterFallback cfg (framingError c), none) := by
  have hsame : ∀ {s : DllState}, c.state = s → { c with state := s } = c := by
    rintro s rfl; rfl
  cases hs : c.state with
  | startup | awaitingComm =>
    by_cases h2 : c.reqLen = 2
    · by_cases hmc : c.frameBuf 0 = mcTransitionCommand
      · simp [dllAcceptFrame, frameKind, dllHandlePreoperate, hs, h2, hmc]
      · simp [dllAcceptFrame, frameKind, establishedState, hs, h2, hmc]
    · simp [dllAcceptFrame, frameKind, establishedState, hs, h2]
  | preoperate =>
    rw [hsame (s := establishedState .preoperate) (by rw [hs]; rfl)]
    by_cases h2 : c.reqLen = 2
    · by_cases hmc : c.frameBuf 0 = mcTransitionCommand
      · simp [dllAcceptFrame, frameKind, dllHandlePreoperate, hs, h2, hmc]
      · simp [dllAcceptFrame, frameKind, hs, h2, hmc]
    · simp [dllAcceptFrame, frameKind, hs, h2]
  | estabCom =>
    rw [hsame (s := establishedState .estabCom) (by rw [hs]; rfl)]
    by_cases h2 : c.reqLen > 2
    · by_cases hch : forbiddenChannel (c.frameBuf 0) = true
      · simp [dllAcceptFrame, frameKind, hs, h2, hch]
      · simp [dllAcceptFrame, frameKind, hs, h2, hch]
    · by_cases hmc : c.frameBuf 0 = mcTransitionCommand
      · simp [dllAcceptFrame, frameKind, dllHandlePreoperate, hs, h2, hmc]
      · simp [dllAcceptFrame, frameKind, hs, h2, hmc]
  | operate =>
    rw [hsame (s := establishedState .operate) (by rw [hs]; rfl), hsame hs]
    by_cases hmc : c.frameBuf 0 = mcTransitionCommand ∨ forbiddenChannel (c.frameBuf 0) = true
    · simp [dllAcceptFrame, frameKind, hs, hmc]
    · by_cases h2 : c.reqLen = 2
      · simp [dllAcceptFrame, frameKind, hs, h2, hmc]
      · simp [dllAcceptFrame, frameKind, hs, h2, hmc]
  | fallback =>
    rw [hsame (s := establishedState .fallback) (by rw [hs]; rfl)]
    simp [dllAcceptFrame, frameKind, hs]

/-! ## The call that receives a frame -/

/-- The call reads the bytes that have arrived: the last byte is not more than
    a second ago, the power-on delay is over and no inter-byte timeout strikes. -/
structure Timely (c : DllCtx) (env : CallEnv) : Prop where
  active : c.lastActivityMs = 0 ∨ env.nowMs - c.lastActivityMs ≤ 1000
  powered : dllTPdActive c env.tPdUs = false
  gaps : GapFree c env.rx

instance (c : DllCtx) (env : CallEnv) : Decidable (Timely c env) :=
  decidable_of_iff ((c.lastActivityMs = 0 ∨ env.nowMs - c.lastActivityMs ≤ 1000) ∧
    dllTPdActive c env.tPdUs = false ∧ GapFree c env.rx)
    ⟨fun h => ⟨h.1, h.2.1, h.2.2⟩, fun h => ⟨h.1, h.2, h.3⟩⟩

theorem inactivityReset_timely {c : DllCtx} {env : CallEnv} (ht : Timely c env) :
    inactivityReset c env.nowMs = c := by
  unfold inactivityReset
  rw [if_neg]
  rintro ⟨h1, h2⟩
  rcases ht.active with h | h
  · exact h1 h
  · exact absurd h (UInt32.not_le.mpr h2)

theorem dllReceive_timely (cfg : BuildConfig) {c : DllCtx} {env : CallEnv} (ht : Timely c env)
    (hidx : c.frameIndex = 0) (hmode : c.phyMode ≠ .sio) (hstate : c.state ≠ .awaitingComm) :
    dllReceive cfg c env = ⟨(rxMachine cfg).final c env.rx,
      ((rxMachine cfg).outputs c env.rx).filterMap id, []⟩ := by
  have hgap : callGap cfg c env.gapUs = c := by simp [callGap, hidx]
  have hawait : awaitingDelay c env.awaitUs = false := by simp [awaitingDelay, hstate]
  simp [dllReceive, inactivityReset_timely ht, ht.powered, hmode, hgap, hawait]

/-- The context when the receive loop starts: after `iolink_isdu_process` and
    the diagnostics. -/
theorem polled_eq (cfg : BuildConfig) (d : Device) (env : CallEnv) :
    ∃ stats events, dllPollDiagnostics cfg (deviceIsduProcess cfg d).dll env =
      { d.dll with
        ds := (isduProcess cfg d.host d.dll.isdu).1.ds
        isdu := (isduProcess cfg d.host d.dll.isdu).2
        stats := stats
        events := events } := by
  obtain ⟨stats, events, h⟩ := dllPollDiagnostics_eq cfg (deviceIsduProcess cfg d).dll env
  exact ⟨stats, events, h⟩

/-- A Type 1 or Type 2 frame of the master with its checksum. -/
def cyclicFrame (mc ckt : UInt8) (pd od : List UInt8) : List UInt8 :=
  [mc, ckt] ++ pd ++ od ++ [crc6 ([mc, ckt] ++ pd ++ od)]

/-- The device exchanges process data and waits for the next frame. -/
structure Operating (config : Config) (c : DllCtx) : Prop where
  state : c.state = .operate
  phyMode : c.phyMode = .sdci
  baudrate : c.baudrate = .com2
  frameIndex : c.frameIndex = 0
  hasSend : c.hasSend = true
  mSeqType : c.mSeqType = config.mSeqType
  odLen : c.odLen = odLenOf config.mSeqType
  pdInLen : c.pdInLenCurrent = config.pdInLen
  pdOutLen : c.pdOutLenCurrent = config.pdOutLen

theorem odLenOf_le (t : MSeqType) : odLenOf t ≤ 2 := by
  unfold odLenOf; split_ifs <;> omega

theorem odLenOf_pos (t : MSeqType) : 1 ≤ odLenOf t := by
  unfold odLenOf; split_ifs <;> omega

theorem Operating.reqLen {config : Config} {c : DllCtx} (h : Operating config c)
    (htype : config.mSeqType ≠ .type0) (hlen : config.pdOutLen ≤ 32) (byte : UInt8) :
    dllReqLen c byte = config.pdOutLen + odLenOf config.mSeqType + 3 := by
  have := odLenOf_le config.mSeqType
  have htype' : c.mSeqType ≠ .type0 := by rw [h.mSeqType]; exact htype
  unfold dllReqLen
  rw [if_neg (by simp [h.baudrate]), if_pos ⟨htype', h.state⟩, h.pdOutLen, h.odLen, mSeqHeaderLen]
  omega

theorem frameCrcOk_of_body {c : DllCtx} (f : ℕ → UInt8) (body : List UInt8)
    (hbuf : c.frameBuf = blit f 0 (body ++ [crc6 body])) (hreq : c.reqLen = body.length + 1)
    (hbody : 2 ≤ body.length) : frameCrcOk c = true := by
  have h2 : c.reqLen ≠ 2 := by omega
  have hslice : slice c.frameBuf 0 (c.reqLen - 1) = body := by
    rw [hbuf, hreq, slice_blit_of_le _ _ (by simp)]
    simp
  have hck : c.frameBuf (c.reqLen - 1) = crc6 body := by
    rw [hbuf, hreq]
    simp [blit]
  simp [frameCrcOk, h2, hslice, hck]

/-- The context in which a Type 1 or Type 2 frame is handled: the frame stands
    in the buffer, and its fields are where the handler looks for them. -/
theorem cyclicFrame_fields {config : Config} {c : DllCtx} {f : ℕ → UInt8} {mc ckt : UInt8}
    {pd od : List UInt8} (hbuf : c.frameBuf = blit f 0 (cyclicFrame mc ckt pd od))
    (hpdl : c.pdOutLenCurrent = config.pdOutLen) (hodl : c.odLen = odLenOf config.mSeqType)
    (hpd : pd.length = config.pdOutLen) (hod : od.length = odLenOf config.mSeqType) :
    pdField c = pd ∧ odField c = od ∧ c.frameBuf 0 = mc := by
  refine ⟨?_, ?_, by rw [hbuf]; simp [blit, cyclicFrame]⟩
  · rw [pdField, hbuf, hpdl, ← hpd, mSeqHeaderLen,
      slice_blit_of_le _ _ (by simp [cyclicFrame]; omega)]
    simp [cyclicFrame]
  · rw [odField, hbuf, hpdl, hodl, ← hpd, ← hod, mSeqHeaderLen,
      slice_blit_of_le _ _ (by simp [cyclicFrame]; omega)]
    simp [cyclicFrame, Nat.add_comm 2]

theorem exists_first_mid_last {α : Type*} {l : List α} (h : 2 ≤ l.length) :
    ∃ first mid last, l = first :: (mid ++ [last]) := by
  match l, h with
  | first :: second :: rest, _ =>
    exact ⟨first, (second :: rest).dropLast, (second :: rest).getLast (by simp),
      by rw [List.dropLast_append_getLast]⟩

/-- A frame that passes the checks of OPERATE. -/
theorem dllHandleFrame_operate (cfg : BuildConfig) {c : DllCtx} {rx : RxByte}
    (hcrc : frameCrcOk (cycleStart cfg c rx.procUs) = true) (hstate : c.state = .operate)
    (hmc : c.frameBuf 0 ≠ mcTransitionCommand) (hch : forbiddenChannel (c.frameBuf 0) = false)
    (hreq : c.reqLen ≠ 2) :
    dllHandleFrame cfg c rx = dllHandleOperateType12 cfg (cycleStart cfg c rx.procUs) rx := by
  obtain ⟨stats, events, he, -⟩ := cycleStart_eq cfg c rx.procUs
  simp only [dllHandleFrame, hcrc, if_true]
  rw [he]
  simp [dllAcceptFrame, hstate, hmc, hch, hreq]

/-- **The call that receives a cyclic frame.** In the context `c` in which the frame is handled only
    the ISDU engine, the event queue and the counters have changed, apart from the frame buffer and
    the time stamps. -/
theorem process_cyclic (cfg : BuildConfig) {config : Config} {d : Device}
    (hop : Operating config d.dll) (htype : config.mSeqType ≠ .type0)
    (hlen : config.pdOutLen ≤ 32) {env : CallEnv} (ht : Timely d.dll env) {mc ckt : UInt8}
    {pd od : List UInt8} (hmc : mc ≠ mcTransitionCommand) (hch : forbiddenChannel mc = false)
    (hpd : pd.length = config.pdOutLen) (hod : od.length = odLenOf config.mSeqType)
    (hrx : env.rx.map RxByte.byte = cyclicFrame mc ckt pd od) :
    ∃ (c : DllCtx) (rx : RxByte), env.rx.getLast? = some rx ∧
      (∃ lastActivityMs lastByteUs lastFrameUs frameBuf frameIndex reqLen stats events cycleUs, c =
        { d.dll with
          lastActivityMs := lastActivityMs, lastByteUs := lastByteUs, lastFrameUs := lastFrameUs
          frameBuf := frameBuf, frameIndex := frameIndex, reqLen := reqLen, stats := stats
          events := events, lastCycleStartUs := cycleUs
          ds := (isduProcess cfg d.host d.dll.isdu).1.ds
          isdu := (isduProcess cfg d.host d.dll.isdu).2 }) ∧
      c.lastActivityMs = rx.nowMs ∧ pdField c = pd ∧ odField c = od ∧
      iolinkProcess cfg d env =
        ({ dll := { (dllHandleOperateType12 cfg c rx).1 with frameIndex := 0 }
           store := (isduProcess cfg d.host d.dll.isdu).1.store },
         ⟨{ (dllHandleOperateType12 cfg c rx).1 with frameIndex := 0 },
          (dllHandleOperateType12 cfg c rx).2.toList, []⟩) := by
  obtain ⟨stats₀, events₀, hpoll⟩ := polled_eq cfg d env
  set c₀ : DllCtx := { d.dll with
    ds := (isduProcess cfg d.host d.dll.isdu).1.ds
    isdu := (isduProcess cfg d.host d.dll.isdu).2
    stats := stats₀
    events := events₀ } with hc₀
  have hop₀ : Operating config c₀ := { hop with }
  have ht₀ : Timely c₀ env := { ht with }
  have hcount : env.rx.length = config.pdOutLen + odLenOf config.mSeqType + 3 := by
    rw [← List.length_map (f := RxByte.byte), hrx]
    simp [cyclicFrame, hpd, hod]
    omega
  obtain ⟨first, mid, last, hsplit⟩ := exists_first_mid_last (l := env.rx) (by omega)
  have hreq := hop₀.reqLen htype hlen first.byte
  have hodl := odLenOf_le config.mSeqType
  obtain ⟨hfinal, hout⟩ := rx_frame cfg hop₀.frameIndex first mid last (hsplit ▸ ht₀.gaps)
    (by rw [hreq, ← hcount, hsplit]; simp) (by rw [hreq, frameBufSize]; omega)
  -- The frame in the buffer is the one that was sent.
  have hbuf : (c₀.withFrame first (mid ++ [last])).frameBuf =
      blit c₀.frameBuf 0 (cyclicFrame mc ckt pd od) := by
    rw [← hrx, hsplit]
    rfl
  obtain ⟨stats₁, events₁, hcyc, -⟩ :=
    cycleStart_eq cfg (c₀.withFrame first (mid ++ [last])) last.procUs
  obtain ⟨hpdf, hodf, hmc₀⟩ := cyclicFrame_fields hbuf hop₀.pdOutLen hop₀.odLen
    hpd hod
  have hcrc : frameCrcOk (cycleStart cfg (c₀.withFrame first (mid ++ [last])) last.procUs) =
      true := by
    refine frameCrcOk_of_body c₀.frameBuf ([mc, ckt] ++ pd ++ od) ?_ ?_ (by simp)
    · rw [hcyc]; exact hbuf
    · rw [hcyc]
      show dllReqLen c₀ first.byte = _
      rw [hreq]
      simp [hpd, hod]
  have hframe := dllHandleFrame_operate cfg hcrc hop₀.state (by rw [hmc₀]; exact hmc)
    (by rw [hmc₀]; exact hch) (by show dllReqLen c₀ first.byte ≠ 2; rw [hreq]; omega)
  rw [hframe] at hfinal hout
  have hloop := dllReceive_timely cfg ht₀ hop₀.frameIndex (by rw [hop₀.phyMode]; decide)
    (by rw [hop₀.state]; decide)
  refine ⟨cycleStart cfg (c₀.withFrame first (mid ++ [last])) last.procUs, last,
    by rw [hsplit, ← List.cons_append, List.getLast?_concat], ?_, ?_, ?_, ?_, ?_⟩
  · rw [hcyc]
    exact ⟨_, _, _, _, _, _, _, _, _, rfl⟩
  · rw [hcyc]
    show ((mid ++ [last]).getLastD first).nowMs = last.nowMs
    simp
  · rw [hcyc]; exact hpdf
  · rw [hcyc]; exact hodf
  · rw [hsplit, hfinal, hout] at hloop
    simp only [iolinkProcess, hpoll, hloop]
    rfl

/-- The response with the given status byte, process data and OD bytes. -/
def cyclicReply (status : UInt8) (pd od : List UInt8) : List UInt8 :=
  status :: (pd ++ od) ++ [crc6 (status :: (pd ++ od))]

/-- What a call that has received a cyclic frame leaves behind. -/
structure Cycled (cfg : BuildConfig) (config : Config) (d : Device) (env : CallEnv)
    (pd od : List UInt8) (d' : Device) (status : UInt8) : Prop where
  operating : Operating config d'.dll
  store : d'.store = (isduProcess cfg d.host d.dll.isdu).1.store
  isdu : d'.dll.isdu = odMachine.final (isduProcess cfg d.host d.dll.isdu).2 od
  pdOut : slice d'.dll.pdOut 0 config.pdOutLen = pd
  pdIn : d'.dll.pdIn = d.dll.pdIn
  pdFlags : d'.dll.pdInToggle = d.dll.pdInToggle ∧ d'.dll.pdValid = d.dll.pdValid
  status : d.dll.enforceTiming = false → status = statusByte d'.dll
  lastActivityMs : env.rx.getLast?.map RxByte.nowMs = some d'.dll.lastActivityMs
  limits : d'.dll.tPdDeadlineUs = d.dll.tPdDeadlineUs ∧
    d'.dll.enforceTiming = d.dll.enforceTiming ∧ d'.dll.tByteLimitUs = d.dll.tByteLimitUs

/-- One cyclic exchange, with everything that the next one depends on. -/
theorem process_cycled (cfg : BuildConfig) {config : Config} {d : Device}
    (hop : Operating config d.dll) (htype : config.mSeqType ≠ .type0)
    (hlen : config.pdOutLen ≤ 32) {env : CallEnv} (ht : Timely d.dll env) {mc ckt : UInt8}
    {pd od : List UInt8} (hmc : mc ≠ mcTransitionCommand) (hch : forbiddenChannel mc = false)
    (hpd : pd.length = config.pdOutLen) (hod : od.length = odLenOf config.mSeqType)
    (hrx : env.rx.map RxByte.byte = cyclicFrame mc ckt pd od) :
    ∃ status, Cycled cfg config d env pd od (iolinkProcess cfg d env).1 status ∧
      (iolinkProcess cfg d env).2.sent = [cyclicReply status (slice d.dll.pdIn 0 config.pdInLen)
        (odMachine.outputs (isduProcess cfg d.host d.dll.isdu).2 od)] ∧
      (iolinkProcess cfg d env).2.unread = [] := by
  obtain ⟨c, rx, hlast, ⟨la, lb, lf, fb, fi, rl, st, ev, cy, hc⟩, hact, hpdf, hodf, hproc⟩ :=
    process_cyclic cfg hop htype hlen ht hmc hch hpd hod hrx
  have hsend : c.hasSend = true := by rw [hc]; exact hop.hasSend
  obtain ⟨stats, events, count, timeUs, h12, hev⟩ := dllHandleOperateType12_eq cfg c rx
  rw [hpdf, hodf, if_pos hsend] at h12
  rw [h12] at hproc
  have hbody : responseBody c (odMachine.outputs c.isdu od) =
      statusByte c :: (slice d.dll.pdIn 0 config.pdInLen ++
        odMachine.outputs (isduProcess cfg d.host d.dll.isdu).2 od) := by
    rw [responseBody, hc, ← hop.pdInLen]
  refine ⟨statusByte c, ?_, ?_, by rw [hproc]⟩
  · rw [hproc]
    refine ⟨⟨?_, ?_, ?_, rfl, ?_, ?_, ?_, ?_, ?_⟩, rfl, ?_, ?_, ?_, ?_, ?_, ?_, ?_⟩
    · rw [hc]; exact hop.state
    · rw [hc]; exact hop.phyMode
    · rw [hc]; exact hop.baudrate
    · exact hsend
    · rw [hc]; exact hop.mSeqType
    · rw [hc]; exact hop.odLen
    · rw [hc]; exact hop.pdInLen
    · rw [hc]; exact hop.pdOutLen
    · rw [hc]
    · have hcur : c.pdOutLenCurrent = config.pdOutLen := by rw [hc]; exact hop.pdOutLen
      show slice (if c.pdOutLenCurrent > 0 then blit c.pdOut 0 pd else c.pdOut) 0 config.pdOutLen =
        pd
      by_cases hz : c.pdOutLenCurrent > 0
      · rw [if_pos hz, ← hpd]
        exact slice_blit c.pdOut 0 pd
      · have hnil : pd = [] := List.length_eq_zero_iff.mp (by omega)
        rw [if_neg hz, ← hpd, hnil]
        rfl
    · rw [hc]
    · rw [hc]; exact ⟨rfl, rfl⟩
    · intro henf
      have hevents := hev (by rw [hc]; exact henf)
      simp only [statusByte, hevents]
    · rw [hlast, Option.map_some, ← hact]
    · rw [hc]; exact ⟨rfl, rfl, rfl⟩
  · rw [hproc]
    simp [cyclicReply, hbody]

/-! ## A run to OPERATE -/

/-- A call that receives `bytes` while all clocks stand at zero. -/
def callWith (wakeup : Bool) (bytes : List UInt8) : CallEnv where
  voltageMv := none
  shortCircuit := false
  nowMs := 0
  tPdUs := 0
  wakeup := wakeup
  wakeupUs := 0
  gapUs := 0
  awaitUs := 0
  rx := bytes.map fun b => ⟨b, 0, 0, 0, 0, 0⟩

/-- One byte of process data in both directions. -/
def sampleConfig (t : MSeqType) : Config := ⟨t, 0, 1, 1, 0⟩

/-- Wake-up, a first Type 0 frame, the transition command and a first cyclic
    frame. -/
def startupCalls (t : MSeqType) : List Call :=
  [.process (callWith true []), .process (callWith false [0x00, checksumCk 0x00 0]),
    .process (callWith false [0x0F, checksumCk 0x0F 0]),
    .process (callWith false (cyclicFrame 0 0 [0] (List.replicate (odLenOf t) 0)))]

/-- The device after these calls. -/
def startedDevice (t : MSeqType) : Device :=
  (deviceMachine {}).final (iolinkInit {} (sampleConfig t) true 0 none storeInit) (startupCalls t)

theorem reaches_startedDevice (t : MSeqType) :
    Reaches {} (sampleConfig t) true (startupCalls t) (startedDevice t) :=
  ⟨0, none, storeInit, rfl⟩

example : (startedDevice .type22).dll.state = .operate := by decide +kernel

end Iolinki
