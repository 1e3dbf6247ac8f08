import Iolinki.Dll.Statistics
import Iolinki.Dll.Tolerance

/-!
# The inter-byte timeout

A partial frame is dropped when the next byte is late. The code has two checks for
that, one before the receive loop (`callGap`) and one inside (`byteGap`). Both drop
the frame and count the violation (`dropPartial`); the first one also enters the
fallback. Which of them notices a timeout depends on clock readings that are a few
microseconds apart.

* `gap_resynchronises`: whichever check notices it, the next frame is received
  as from a device without the partial frame.
* `gap_checks_differ`: the counters always tell which check has noticed it.
-/

namespace Iolinki

open Iolinki.Lib

/-! ## Contexts that differ in the counters -/

/-- The context with other error counters, events and fallback count. -/
def DllCtx.recounted (c : DllCtx) (stats : DllStats) (events : EventsCtx) (count : ℕ) : DllCtx :=
  { c with stats := stats, events := events, fallbackCount := count }

/-- The PD and OD fields of a reply: all but the status byte and the checksum. -/
def replyFields (reply : List UInt8) : List UInt8 := (reply.drop 1).dropLast

section Recounted

variable (cfg : BuildConfig) (c : DllCtx) (stats : DllStats) (events : EventsCtx) (count : ℕ)

theorem rxAssemble_recounted (rx : RxByte) :
    ∃ stats' events', rxAssemble cfg (c.recounted stats events count) rx =
      (rxAssemble cfg c rx).recounted stats' events' count := by
  unfold rxAssemble assemble byteGap DllCtx.recounted
  dsimp only
  split_ifs <;> exact ⟨_, _, rfl⟩

theorem cycleStart_recounted (procUs : UInt64) :
    ∃ stats' events', cycleStart cfg (c.recounted stats events count) procUs =
      (cycleStart cfg c procUs).recounted stats' events' count := by
  unfold cycleStart DllCtx.recounted
  dsimp only
  split_ifs <;> exact ⟨_, _, rfl⟩

theorem afterSend_recounted (txUs : UInt64) :
    ∃ stats' events', afterSend cfg (c.recounted stats events count) txUs =
      (afterSend cfg c txUs).recounted stats' events' 0 := by
  unfold afterSend DllCtx.recounted
  dsimp only
  split_ifs <;> exact ⟨_, _, rfl⟩

/-- A Type 1 or Type 2 frame: only the status byte of the reply depends on the
    events. -/
theorem dllHandleOperateType12_recounted (rx : RxByte) :
    ∃ stats' events' count', (dllHandleOperateType12 cfg (c.recounted stats events count) rx).1 =
        (dllHandleOperateType12 cfg c rx).1.recounted stats' events' count' ∧
      (dllHandleOperateType12 cfg (c.recounted stats events count) rx).2.map replyFields =
        (dllHandleOperateType12 cfg c rx).2.map replyFields := by
  have hfields : ∀ (c : DllCtx) (od : List UInt8),
      replyFields (responseBody c od ++ [crc6 (responseBody c od)]) =
        slice c.pdIn 0 c.pdInLenCurrent ++ od := by
    intro c od
    simp [replyFields, responseBody]
  by_cases hsend : c.hasSend = true
  · obtain ⟨stats', events', hafter⟩ := afterSend_recounted cfg { c with
      pdOut := if c.pdOutLenCurrent > 0 then blit c.pdOut 0 (pdField c) else c.pdOut
      isdu := odMachine.final c.isdu (odField c) } stats events count rx.txUs
    have hsend' : (c.recounted stats events count).hasSend = true := hsend
    simp only [dllHandleOperateType12, if_pos hsend, if_pos hsend', Option.map_some, hfields]
    exact ⟨stats', events', 0, congrArg (fun c : DllCtx => { c with lastResponseUs := rx.lastUs })
      hafter, rfl⟩
  · have hsend' : ¬ (c.recounted stats events count).hasSend = true := hsend
    simp only [dllHandleOperateType12, if_neg hsend, if_neg hsend']
    exact ⟨stats, events, count, rfl, trivial⟩

/-- **An accepted frame** is handled alike. -/
theorem dllHandleFrame_recounted (hok : ¬ Failed c) (rx : RxByte) :
    ∃ stats' events' count', (dllHandleFrame cfg (c.recounted stats events count) rx).1 =
        (dllHandleFrame cfg c rx).1.recounted stats' events' count' ∧
      (dllHandleFrame cfg (c.recounted stats events count) rx).2.map replyFields =
        (dllHandleFrame cfg c rx).2.map replyFields := by
  obtain ⟨stats₁, events₁, hcyc⟩ := cycleStart_recounted cfg c stats events count rx.procUs
  obtain ⟨_, _, he, -⟩ := cycleStart_eq cfg c rx.procUs
  have hok₁ : ¬ Failed (cycleStart cfg c rx.procUs) := by rw [he]; exact hok
  simp only [dllHandleFrame, hcyc]
  generalize cycleStart cfg c rx.procUs = c₁ at hok₁ ⊢
  have hcrc : frameCrcOk c₁ = true := by
    by_contra hbad
    exact hok₁ (.inl (Bool.eq_false_iff.mpr hbad))
  have hcrc' : frameCrcOk (c₁.recounted stats₁ events₁ count) = true := hcrc
  rw [if_pos hcrc, if_pos hcrc', dllAcceptFrame_eq, dllAcceptFrame_eq]
  have hkind : frameKind (c₁.recounted stats₁ events₁ count).state
      (c₁.recounted stats₁ events₁ count).reqLen ((c₁.recounted stats₁ events₁ count).frameBuf 0) =
      frameKind c₁.state c₁.reqLen (c₁.frameBuf 0) := rfl
  rw [hkind]
  cases hk : frameKind c₁.state c₁.reqLen (c₁.frameBuf 0) with
  | ignored | transition | type0 => exact ⟨_, _, _, rfl, rfl⟩
  | refused => exact absurd (.inr hk) hok₁
  | type12 =>
    exact dllHandleOperateType12_recounted cfg { c₁ with state := .operate } stats₁ events₁ count rx

/-- **One received byte**, if it does not complete a failing frame. -/
theorem rxByte_recounted (rx : RxByte) (hok : ∀ f ∈ completeAt cfg c rx, ¬ Failed f) :
    ∃ stats' events' count', (rxByte cfg (c.recounted stats events count) rx).1 =
        (rxByte cfg c rx).1.recounted stats' events' count' ∧
      (rxByte cfg (c.recounted stats events count) rx).2.map replyFields =
        (rxByte cfg c rx).2.map replyFields := by
  obtain ⟨stats₁, events₁, hasm⟩ := rxAssemble_recounted cfg c stats events count rx
  simp only [rxByte, completeAt, hasm] at hok ⊢
  generalize rxAssemble cfg c rx = c₁ at hok ⊢
  have hsame : frameComplete (c₁.recounted stats₁ events₁ count) = frameComplete c₁ := rfl
  rw [hsame]
  by_cases hfull : frameComplete c₁ = true
  · rw [if_pos hfull] at hok ⊢
    rw [if_pos hfull]
    obtain ⟨stats', events', count', hctx, hreply⟩ := dllHandleFrame_recounted cfg c₁ stats₁ events₁
      count (hok c₁ (List.mem_singleton.mpr rfl)) rx
    exact ⟨stats', events', count', congrArg (fun c : DllCtx => { c with frameIndex := 0 }) hctx,
      hreply⟩
  · rw [if_neg hfull, if_neg hfull]
    exact ⟨stats₁, events₁, count, rfl, rfl⟩

/-- **A burst** without a failing frame. -/
theorem rxs_recounted (rxs : List RxByte)
    (hok : ∀ f ∈ (rxMachine cfg).collect (completeAt cfg) c rxs, ¬ Failed f) :
    ∃ stats' events' count', (rxMachine cfg).final (c.recounted stats events count) rxs =
        ((rxMachine cfg).final c rxs).recounted stats' events' count' ∧
      (((rxMachine cfg).outputs (c.recounted stats events count) rxs).filterMap id).map
      replyFields =
        (((rxMachine cfg).outputs c rxs).filterMap id).map replyFields := by
  induction rxs generalizing c stats events count with
  | nil => exact ⟨stats, events, count, rfl, rfl⟩
  | cons rx rxs ih =>
    rw [Machine.collect_cons, List.forall_mem_append] at hok
    obtain ⟨stats₁, events₁, count₁, hctx, hreply⟩ :=
      rxByte_recounted cfg c stats events count rx hok.1
    obtain ⟨stats', events', count', hfinal, hreplies⟩ := ih _ stats₁ events₁ count₁ hok.2
    have hstep : ((rxMachine cfg).step (c.recounted stats events count) rx).1 =
        ((rxMachine cfg).step c rx).1.recounted stats₁ events₁ count₁ := hctx
    refine ⟨stats', events', count', ?_, ?_⟩
    · rw [Machine.final_cons, hstep]
      exact hfinal
    · rw [Machine.outputs_cons, Machine.outputs_cons, map_filterMap_cons, map_filterMap_cons, hstep,
        hreplies]
      exact congrArg (fun o => Option.toList o ++ _) hreply

end Recounted

/-! ## The partial frame is dropped -/

/-- The next byte of the frame is late. -/
def Late (c : DllCtx) (nowUs : UInt64) : Prop :=
  0 < c.frameIndex ∧ c.enforceTiming = true ∧ c.tByteLimitUs > 0 ∧ c.lastByteUs ≠ 0 ∧
    nowUs - c.lastByteUs > c.tByteLimitUs.toUInt64

instance (c : DllCtx) (nowUs : UInt64) : Decidable (Late c nowUs) :=
  inferInstanceAs (Decidable (_ ∧ _))

/-- What both checks do to a partial frame. -/
def dropPartial (cfg : BuildConfig) (c : DllCtx) : DllCtx :=
  { framingError (timingViolation cfg c fun s =>
      { s with tByteViolations := s.tByteViolations + 1 }) with frameIndex := 0 }

section Drop

variable (cfg : BuildConfig) {c : DllCtx}

theorem callGap_of_late {nowUs : UInt64} (h : Late c nowUs) :
    callGap cfg c nowUs = dllEnterFallback cfg (dropPartial cfg c) := if_pos h

theorem callGap_of_not_late {nowUs : UInt64} (h : ¬ Late c nowUs) : callGap cfg c nowUs = c :=
  if_neg h

/-- The check inside the loop drops the frame before the byte is stored. -/
theorem rxByte_of_late {rx : RxByte} (h : Late c rx.nowUs) :
    rxByte cfg c rx = rxByte cfg (dropPartial cfg c) rx := by
  have hasm : rxAssemble cfg c rx = rxAssemble cfg (dropPartial cfg c) rx := by
    have hleft : byteGap cfg { c with lastActivityMs := rx.nowMs } rx.nowUs =
        { dropPartial cfg c with lastActivityMs := rx.nowMs } := if_pos h
    have hright : byteGap cfg { dropPartial cfg c with lastActivityMs := rx.nowMs } rx.nowUs =
        { dropPartial cfg c with lastActivityMs := rx.nowMs } :=
      if_neg fun hgap => absurd hgap.1 (lt_irrefl 0)
    simp only [rxAssemble, hleft, hright]
  simp only [rxByte, hasm]

theorem rxs_of_late {rx : RxByte} (h : Late c rx.nowUs) (rxs : List RxByte) :
    (rxMachine cfg).final c (rx :: rxs) = (rxMachine cfg).final (dropPartial cfg c) (rx :: rxs) ∧
      (rxMachine cfg).outputs c (rx :: rxs) =
        (rxMachine cfg).outputs (dropPartial cfg c) (rx :: rxs) := by
  have hstep : (rxMachine cfg).step c rx = (rxMachine cfg).step (dropPartial cfg c) rx :=
    rxByte_of_late cfg h
  rw [Machine.final_cons, Machine.final_cons, Machine.outputs_cons, Machine.outputs_cons, hstep]
  exact ⟨rfl, rfl⟩

end Drop

/-! ## One whole frame -/

section Frame

variable (cfg : BuildConfig) {c : DllCtx}

/-- The only complete frame of a burst is the whole burst. -/
theorem complete_of_begun (first : RxByte) (done rest : List RxByte)
    (hgap : GapFree c (done.getLastD first :: rest))
    (hlen : done.length + 1 + rest.length = dllReqLen c first.byte)
    (hmax : dllReqLen c first.byte ≤ frameBufSize) :
    ∀ f ∈ (rxMachine cfg).collect (completeAt cfg) (c.withFrame first done) rest,
      f = c.withFrame first (done ++ rest) := by
  induction rest generalizing done with
  | nil => exact List.forall_mem_nil _
  | cons rx rest ih =>
    obtain ⟨hg, hgap'⟩ := List.isChain_cons_cons.mp hgap
    rw [List.length_cons] at hlen
    have hasm := rxAssemble_next cfg c first done rx hg (by omega)
    have hfull : frameComplete (c.withFrame first (done ++ [rx])) = true ↔ rest = [] := by
      rw [frameComplete_iff, ← List.length_eq_zero_iff]
      simp only [DllCtx.withFrame, List.length_append, List.length_singleton]
      omega
    rw [Machine.collect_cons, List.forall_mem_append]
    simp only [completeAt, hasm]
    by_cases hlast : rest = []
    · rw [if_pos (hfull.mpr hlast), hlast]
      exact ⟨fun f hf => List.mem_singleton.mp hf, List.forall_mem_nil _⟩
    · have hstep : ((rxMachine cfg).step (c.withFrame first done) rx).1 =
          c.withFrame first (done ++ [rx]) := by
        show (rxByte cfg (c.withFrame first done) rx).1 = _
        simp only [rxByte, hasm]
        rw [if_neg (mt hfull.mp hlast)]
      rw [if_neg (mt hfull.mp hlast), hstep]
      refine ⟨List.forall_mem_nil _, ?_⟩
      rw [show done ++ rx :: rest = done ++ [rx] ++ rest from List.append_cons done rx rest]
      exact ih (done ++ [rx]) (by simpa [GapFree] using hgap') (by simp; omega)

/-- In OPERATE the expected length does not depend on the first byte. -/
theorem dllReqLen_of_operate (h : c.state = .operate) (byte byte' : UInt8) :
    dllReqLen c byte = dllReqLen c byte' := by
  simp [dllReqLen, h]

/-- The device expects a frame of `len` bytes. -/
structure Expecting (len : ℕ) (c : DllCtx) : Prop where
  expected : ∀ byte, dllReqLen c byte = len
  fits : c.frameIndex ≤ frameBufSize
  reqLen : 0 < c.frameIndex → c.reqLen = len

theorem Expecting.rxAssemble {len : ℕ} (h : Expecting len c) (rx : RxByte) :
    Expecting len (rxAssemble cfg c rx) := by
  have hgap : Expecting len (byteGap cfg { c with lastActivityMs := rx.nowMs } rx.nowUs) := by
    unfold byteGap
    split_ifs
    · exact ⟨h.expected, Nat.zero_le _, fun hpos => absurd hpos (lt_irrefl 0)⟩
    · exact ⟨h.expected, h.fits, h.reqLen⟩
  simp only [Iolinki.rxAssemble]
  generalize byteGap cfg { c with lastActivityMs := rx.nowMs } rx.nowUs = g at hgap
  unfold assemble
  split_ifs with hzero hroom
  · exact ⟨hgap.expected, Nat.succ_le_succ (Nat.zero_le 47), fun _ => hgap.expected rx.byte⟩
  · exact ⟨hgap.expected, hroom, fun _ => hgap.reqLen (Nat.pos_of_ne_zero hzero)⟩
  · exact ⟨hgap.expected, Nat.zero_le _, fun hpos => absurd hpos (lt_irrefl 0)⟩

/-- A frame that does not fit into the buffer is never complete. -/
theorem no_frame_of_oversize {len : ℕ} (h : Expecting len c) (hbig : frameBufSize < len)
    (rxs : List RxByte) : ∀ f ∈ (rxMachine cfg).collect (completeAt cfg) c rxs, False := by
  have hnever : ∀ c rx, Expecting len c → ¬ frameComplete (rxAssemble cfg c rx) = true := by
    intro c rx hc hfull
    obtain ⟨hpos, hle⟩ := frameComplete_iff.mp hfull
    have hfits := (hc.rxAssemble cfg rx).fits
    rw [(hc.rxAssemble cfg rx).reqLen hpos] at hle
    omega
  refine (rxMachine cfg).collect_induct (P := Expecting len) (fun c rx hc => ?_)
    (fun c rx hc => ?_) h rxs
  · show Expecting len (rxByte cfg c rx).1
    simp only [rxByte]
    rw [if_neg (hnever c rx hc)]
    exact hc.rxAssemble cfg rx
  · rw [completeAt, if_neg (hnever c rx hc)]
    exact List.forall_mem_nil _

/-- **A valid frame is accepted** by a device in OPERATE without a partial frame. -/
theorem accepted_of_valid (hstate : c.state = .operate) (hidx : c.frameIndex = 0) {first : RxByte}
    {rest : List RxByte} (hgap : GapFree c (first :: rest))
    (hlen : (first :: rest).length = dllReqLen c first.byte) (hlong : 2 < (first :: rest).length)
    (hvalid : ¬ Failing ((first :: rest).map RxByte.byte)) :
    ∀ f ∈ (rxMachine cfg).collect (completeAt cfg) c (first :: rest), ¬ Failed f := by
  by_cases hmax : dllReqLen c first.byte ≤ frameBufSize
  · have hfirst : rxAssemble cfg c first = c.withFrame first [] := rxAssemble_first cfg hidx first
    have hmore : ¬ frameComplete (c.withFrame first []) = true := by
      rw [not_frameComplete_withFrame (by rw [← hlen]; simp at hlong ⊢; omega)]
      exact Bool.false_ne_true
    have hstep : ((rxMachine cfg).step c first).1 = c.withFrame first [] := by
      show (rxByte cfg c first).1 = _
      simp only [rxByte, hfirst]
      rw [if_neg hmore]
    rw [Machine.collect_cons, List.forall_mem_append, completeAt, hfirst, if_neg hmore, hstep]
    refine ⟨List.forall_mem_nil _, fun f hf => ?_⟩
    rw [complete_of_begun cfg first [] rest hgap (by rw [← hlen]; simp; omega) hmax f hf]
    have hframe : frameOf (c.withFrame first ([] ++ rest)) = (first :: rest).map RxByte.byte := by
      show slice (blit c.frameBuf 0 ((first :: rest).map RxByte.byte)) 0
        (dllReqLen c first.byte) = _
      rw [← hlen, ← List.length_map (f := RxByte.byte)]
      exact slice_blit _ _ _
    have hiff := failed_iff_failing (c := c.withFrame first ([] ++ rest)) hstate
      (by show 2 < dllReqLen c first.byte; rw [← hlen]; exact hlong)
    rw [hiff, hframe]
    exact hvalid
  · have hexp : Expecting (dllReqLen c first.byte) c :=
      ⟨fun byte => dllReqLen_of_operate hstate byte first.byte, by rw [hidx]; exact Nat.zero_le _,
        fun hpos => absurd hidx (Nat.ne_of_gt hpos)⟩
    intro f hf
    exact (no_frame_of_oversize cfg hexp (Nat.not_le.mp hmax) _ f hf).elim

end Frame

/-! ## Resynchronisation -/

/-- The device without its partial frame. -/
def Device.atBoundary (d : Device) : Device := { d with dll := { d.dll with frameIndex := 0 } }

theorem polled_atBoundary (cfg : BuildConfig) (d : Device) (env : CallEnv) :
    dllPollDiagnostics cfg (deviceIsduProcess cfg d.atBoundary).dll env =
      { dllPollDiagnostics cfg (deviceIsduProcess cfg d).dll env with frameIndex := 0 } := by
  have hisdu : (deviceIsduProcess cfg d.atBoundary).dll =
      { (deviceIsduProcess cfg d).dll with frameIndex := 0 } := rfl
  rw [hisdu]
  unfold dllPollDiagnostics
  cases env.voltageMv with
  | none =>
    dsimp only
    split_ifs <;> rfl
  | some voltage =>
    dsimp only
    split_ifs <;> rfl

theorem dropPartial_eq (cfg : BuildConfig) (c : DllCtx) :
    ∃ stats events, dropPartial cfg c =
      ({ c with frameIndex := 0 } : DllCtx).recounted stats events c.fallbackCount :=
  ⟨_, _, rfl⟩

/-- A fallback in OPERATE below the threshold is only counted. -/
theorem dllEnterFallback_of_counted (cfg : BuildConfig) {c : DllCtx} (hstate : c.state = .operate)
    (hcount : c.fallbackCount + 1 < c.sioFallbackThreshold) :
    ∃ stats count, dllEnterFallback cfg c = c.recounted stats c.events count := by
  have hmod := Nat.mod_le (c.fallbackCount + 1) 256
  unfold dllEnterFallback
  dsimp only
  rw [if_neg (by omega), if_neg fun h => h.1 hstate]
  exact ⟨_, _, rfl⟩

/-- The context in which the receive loop starts. -/
theorem callGap_recounted (cfg : BuildConfig) {c : DllCtx} (hstate : c.state = .operate)
    (hcount : c.fallbackCount + 1 < c.sioFallbackThreshold) {nowUs : UInt64} (h : Late c nowUs) :
    ∃ stats events count, callGap cfg c nowUs =
      ({ c with frameIndex := 0 } : DllCtx).recounted stats events count := by
  rw [callGap_of_late cfg h]
  obtain ⟨stats, events, hdrop⟩ := dropPartial_eq cfg c
  rw [hdrop]
  obtain ⟨stats', count, he⟩ := dllEnterFallback_of_counted cfg
    (c := ({ c with frameIndex := 0 } : DllCtx).recounted stats events c.fallbackCount) hstate
    hcount
  rw [he]
  exact ⟨stats', _, count, rfl⟩

/-- A call that gets to its loop in OPERATE. -/
theorem dllReceive_of_operate (cfg : BuildConfig) {c c' : DllCtx} {env : CallEnv}
    (hmode : c.phyMode = .sdci) (hreset : inactivityReset c env.nowMs = c)
    (hpow : dllTPdActive c env.tPdUs = false) (hgap : callGap cfg c env.gapUs = c')
    (hstate : c'.state = .operate) :
    dllReceive cfg c env = ⟨(rxMachine cfg).final c' env.rx,
      ((rxMachine cfg).outputs c' env.rx).filterMap id, []⟩ := by
  refine dllReceive_of_loopStart cfg ?_
  have hnot : awaitingDelay c' env.awaitUs = false := by simp [awaitingDelay, hstate]
  simp only [loopStart, hreset, hgap, hnot, hpow, hmode, reduceCtorEq, Bool.false_eq_true, if_false]

/-- The call that sees the late byte: the loop goes on as from the boundary of a
    frame. -/
theorem dllReceive_of_late (cfg : BuildConfig) {c : DllCtx} {env : CallEnv} {first : RxByte}
    {rest : List RxByte} (hrx : env.rx = first :: rest) (hstate : c.state = .operate)
    (hmode : c.phyMode = .sdci) (hcount : c.fallbackCount + 1 < c.sioFallbackThreshold)
    (hreset : inactivityReset c env.nowMs = c) (hpow : dllTPdActive c env.tPdUs = false)
    (hlate : Late c first.nowUs) :
    ∃ stats events count, dllReceive cfg c env =
      ⟨(rxMachine cfg).final (({ c with frameIndex := 0 } : DllCtx).recounted stats events count)
          env.rx,
        ((rxMachine cfg).outputs
          (({ c with frameIndex := 0 } : DllCtx).recounted stats events count)
          env.rx).filterMap id, []⟩ := by
  by_cases hgap : Late c env.gapUs
  · obtain ⟨stats, events, count, he⟩ := callGap_recounted cfg hstate hcount hgap
    exact ⟨stats, events, count, dllReceive_of_operate cfg hmode hreset hpow he hstate⟩
  · obtain ⟨stats, events, hdrop⟩ := dropPartial_eq cfg c
    obtain ⟨hfinal, hout⟩ := rxs_of_late cfg hlate rest
    refine ⟨stats, events, c.fallbackCount, ?_⟩
    rw [dllReceive_of_operate cfg hmode hreset hpow (callGap_of_not_late cfg hgap) hstate, hrx,
      hfinal, hout, hdrop]

/-- **A late byte in a call**, with and without the partial frame. -/
theorem dllReceive_resync (cfg : BuildConfig) {c : DllCtx} {env : CallEnv} {first : RxByte}
    {rest : List RxByte} (hrx : env.rx = first :: rest) (hstate : c.state = .operate)
    (hmode : c.phyMode = .sdci) (hcount : c.fallbackCount + 1 < c.sioFallbackThreshold)
    (hreset : ∀ n,
      inactivityReset { c with frameIndex := n } env.nowMs = { c with frameIndex := n })
    (hpow : dllTPdActive c env.tPdUs = false) (hlate : Late c first.nowUs)
    (hgaps : GapFree c env.rx) (hlen : env.rx.length = dllReqLen c first.byte)
    (htype : 2 < env.rx.length) (hvalid : ¬ Failing (env.rx.map RxByte.byte)) :
    let after := dllReceive cfg c env
    let fresh := dllReceive cfg { c with frameIndex := 0 } env
    after.ctx.state = fresh.ctx.state ∧ after.ctx.pdOut = fresh.ctx.pdOut ∧
      after.ctx.isdu = fresh.ctx.isdu ∧
      after.sent.map replyFields = fresh.sent.map replyFields := by
  intro after fresh
  obtain ⟨stats, events, count, hafter⟩ :=
    dllReceive_of_late cfg hrx hstate hmode hcount (hreset c.frameIndex) hpow hlate
  have hfresh : fresh = _ := dllReceive_of_operate cfg (c := { c with frameIndex := 0 }) hmode
    (hreset 0) hpow (callGap_of_not_late cfg fun h => absurd h.1 (lt_irrefl 0)) hstate
  have hok : ∀ f ∈ (rxMachine cfg).collect (completeAt cfg) { c with frameIndex := 0 } env.rx,
      ¬ Failed f := by
    rw [hrx] at hgaps hlen htype hvalid ⊢
    exact accepted_of_valid cfg (c := { c with frameIndex := 0 }) hstate rfl hgaps hlen htype hvalid
  obtain ⟨stats', events', count', hfinal, hreplies⟩ :=
    rxs_recounted cfg { c with frameIndex := 0 } stats events count env.rx hok
  have hctx : after.ctx = fresh.ctx.recounted stats' events' count' := by
    rw [show after = _ from hafter, hfresh]
    exact hfinal
  refine ⟨?_, ?_, ?_, ?_⟩
  · rw [hctx]
    rfl
  · rw [hctx]
    rfl
  · rw [hctx]
    rfl
  · rw [show after = _ from hafter, hfresh]
    exact hreplies

/-- **An inter-byte gap resynchronises the receiver.** A reachable device in
    OPERATE has a partial frame of any length and content. The next byte comes
    after the timeout and begins a valid frame that is delivered to one call of
    `iolink_process`. Whichever check notices the timeout, the device ends in the
    same state as without the partial frame, with the same process data and ISDU
    context, and the replies carry the same PD and OD fields. -/
theorem gap_resynchronises (cfg : BuildConfig) (config : Config) (hasSend : Bool)
    (calls : List Call) (d : Device) (hreach : Reaches cfg config hasSend calls d)
    (hstate : d.dll.state = .operate) (hmode : d.dll.phyMode = .sdci)
    (henf : d.dll.enforceTiming = true) (hlimit : d.dll.tByteLimitUs > 0)
    (hidx : 0 < d.dll.frameIndex) (hlast : d.dll.lastByteUs ≠ 0)
    (hcount : d.dll.fallbackCount + 1 < d.dll.sioFallbackThreshold)
    (env : CallEnv) (first : RxByte) (rest : List RxByte) (hrx : env.rx = first :: rest)
    (hlate : first.nowUs - d.dll.lastByteUs > d.dll.tByteLimitUs.toUInt64)
    (hms : env.nowMs - d.dll.lastActivityMs ≤ 1000)
    (hclock : ∀ e, Call.process e ∈ calls → e.tPdUs ≤ env.tPdUs)
    (hgaps : GapFree d.dll env.rx) (hlen : env.rx.length = dllReqLen d.dll first.byte)
    (htype : 2 < env.rx.length) (hvalid : ¬ Failing (env.rx.map RxByte.byte)) :
    let after := iolinkProcess cfg d env
    let fresh := iolinkProcess cfg d.atBoundary env
    after.1.dll.state = fresh.1.dll.state ∧ after.1.dll.pdOut = fresh.1.dll.pdOut ∧
      after.1.dll.isdu = fresh.1.dll.isdu ∧
      after.2.sent.map replyFields = fresh.2.sent.map replyFields := by
  have hpow := reaches_not_tPdActive hreach (by rw [hstate]; decide) hclock
  have hquiet : ¬ (d.dll.lastActivityMs ≠ 0 ∧ env.nowMs - d.dll.lastActivityMs > 1000) :=
    fun h => absurd hms (UInt32.not_le.mpr h.2)
  obtain ⟨stats, events, hp⟩ := polled_eq cfg d env
  simp only [iolinkProcess, polled_atBoundary cfg d env, hp]
  exact dllReceive_resync cfg hrx hstate hmode hcount (fun _ => if_neg hquiet) hpow
    ⟨hidx, henf, hlimit, hlast, hlate⟩ hgaps hlen htype hvalid

/-- A call that reads the microsecond clock at `gapUs` before its receive loop, and
    at `us` for each of `bytes`. -/
def callAt (gapUs us : UInt64) (bytes : List UInt8) : CallEnv :=
  { callWith false [] with
    gapUs := gapUs
    rx := bytes.map fun b => ⟨b, us, 0, us, us, us⟩ }

/-- A Type 1 device in OPERATE with the timing checks on has received two bytes of
    a frame at 1 ms. -/
def twoBytesIn : List Call :=
  startupCalls .type11 ++ [.setTimingEnforcement true, .process (callAt 1000 1000 [0x00, 0x11])]

/-- The device after these calls. -/
def partialDevice : Device :=
  (deviceMachine {}).final (iolinkInit {} (sampleConfig .type11) true 0 none storeInit) twoBytesIn

theorem gap_resynchronises_type11 :
    let d := partialDevice
    let env := callAt 6000 6000 (cyclicFrame 0x00 0 [0x5A] [0x80])
    d.dll.frameIndex = 2 ∧ (iolinkProcess {} d env).1.dll.pdOut 0 = 0x5A ∧
      (iolinkProcess {} d env).2.sent.map replyFields =
        (iolinkProcess {} d.atBoundary env).2.sent.map replyFields := by
  have hzero : ∀ e, Call.process e ∈ twoBytesIn → e.tPdUs = 0 := by
    simp [twoBytesIn, startupCalls, callWith, callAt]
  have h := gap_resynchronises {} (sampleConfig .type11) true twoBytesIn partialDevice
    ⟨0, none, storeInit, rfl⟩
    (by decide +kernel) (by decide +kernel) (by decide +kernel) (by decide +kernel)
    (by decide +kernel) (by decide +kernel) (by decide +kernel)
    (callAt 6000 6000 (cyclicFrame 0x00 0 [0x5A] [0x80])) _ _ rfl (by decide +kernel)
    (by decide +kernel)
    (fun e he => by rw [hzero e he]; exact UInt64.zero_le) (by decide +kernel) (by decide +kernel)
    (by decide +kernel) (by decide +kernel)
  exact ⟨by decide +kernel, by decide +kernel, h.2.2.2⟩

/-! ## The two checks -/

section Checks

variable (cfg : BuildConfig) (c : DllCtx) (rx : RxByte)

/-- Only failed frames are counted as retries. -/
theorem totalRetries_dllHandleFrame :
    (dllHandleFrame cfg c rx).1.stats.totalRetries =
      c.stats.totalRetries + if Failed c then 1 else 0 := by
  have hcyc : (cycleStart cfg c rx.procUs).stats.totalRetries = c.stats.totalRetries := by
    simp only [cycleStart]
    split_ifs <;> rfl
  obtain ⟨_, _, he, -⟩ := cycleStart_eq cfg c rx.procUs
  have hsame : Failed (cycleStart cfg c rx.procUs) ↔ Failed c := by rw [he]; rfl
  simp only [dllHandleFrame, ← hsame, ← hcyc]
  generalize cycleStart cfg c rx.procUs = c₁
  by_cases hcrc : frameCrcOk c₁ = true
  · rw [if_pos hcrc, dllAcceptFrame_eq]
    cases hk : frameKind c₁.state c₁.reqLen (c₁.frameBuf 0) with
    | refused =>
      rw [if_pos (.inr hk)]
      dsimp only
      rw [stats_dllEnterFallback]
      rfl
    | ignored | transition | type0 =>
      rw [if_neg (by simp [Failed, hcrc, hk])]
      exact (UInt32.add_zero _).symm
    | type12 =>
      rw [if_neg (by simp [Failed, hcrc, hk]), UInt32.add_zero]
      simp only [dllHandleOperateType12, afterSend]
      split_ifs <;> rfl
  · rw [if_neg hcrc, if_pos (.inl (Bool.eq_false_iff.mpr hcrc))]
    dsimp only [dllRejectFrame]
    rw [stats_dllEnterFallback]
    rfl

variable {c} in
/-- A byte received at the boundary of a frame. It is a whole frame if the
    expected length has wrapped around. -/
theorem rxByte_at_boundary (hidx : c.frameIndex = 0) :
    ((rxByte cfg c rx).1.frameIndex, (rxByte cfg c rx).1.stats.totalRetries) =
      if dllReqLen c rx.byte ≤ 1 then
        (0, c.stats.totalRetries + if Failed (c.withFrame rx []) then 1 else 0)
      else (1, c.stats.totalRetries) := by
  have hfull : frameComplete (c.withFrame rx []) = true ↔ dllReqLen c rx.byte ≤ 1 := by
    rw [frameComplete_iff]
    exact and_iff_right Nat.one_pos
  simp only [rxByte, rxAssemble_first cfg hidx, hfull]
  split_ifs with hshort
  · exact Prod.ext rfl ((totalRetries_dllHandleFrame cfg (c.withFrame rx []) rx).trans
      (congrArg _ (if_pos ‹_›)))
  · exact Prod.ext rfl ((totalRetries_dllHandleFrame cfg (c.withFrame rx []) rx).trans
      (congrArg _ (if_neg ‹_›)))
  · rfl

variable {c} in
/-- A byte after a fallback at the boundary, and without the fallback: one retry
    more, or a frame less. -/
theorem fallback_shows (hidx : c.frameIndex = 0) :
    ((rxByte cfg (dllEnterFallback cfg c) rx).1.frameIndex,
        (rxByte cfg (dllEnterFallback cfg c) rx).1.stats.totalRetries) ≠
      ((rxByte cfg c rx).1.frameIndex, (rxByte cfg c rx).1.stats.totalRetries) := by
  obtain ⟨hidx', hafter⟩ : (dllEnterFallback cfg c).frameIndex = 0 ∧
      ((dllEnterFallback cfg c).baudrate = .com1 ∨
        dllReqLen (dllEnterFallback cfg c) rx.byte = dllReqLen c rx.byte ∧
          (Failed ((dllEnterFallback cfg c).withFrame rx []) ↔ Failed (c.withFrame rx []))) := by
    obtain ⟨_, _, _, _, _, he | ⟨-, -, he⟩ | ⟨-, he⟩⟩ := dllEnterFallback_cases cfg c
    · rw [he]
      exact ⟨rfl, .inl rfl⟩
    · rw [he]
      exact ⟨hidx, .inl rfl⟩
    · rw [he]
      exact ⟨hidx, .inr ⟨rfl, Iff.rfl⟩⟩
  have hretries : (dllEnterFallback cfg c).stats.totalRetries = c.stats.totalRetries + 1 := by
    rw [stats_dllEnterFallback]
  rw [rxByte_at_boundary cfg rx hidx, rxByte_at_boundary cfg rx hidx', hretries]
  rcases hafter with hcom1 | ⟨hlen, hfailed⟩
  · have htwo : dllReqLen (dllEnterFallback cfg c) rx.byte = 2 := if_pos hcom1
    rw [htwo, if_neg (by decide)]
    split_ifs <;> simp
  · simp only [hlen, hfailed]
    split_ifs <;> simp

end Checks

theorem awaitingDelay_dllEnterFallback (cfg : BuildConfig) (c : DllCtx) (nowUs : UInt64) :
    awaitingDelay (dllEnterFallback cfg c) nowUs = false := by
  obtain ⟨_, _, _, _, _, he | ⟨-, -, he⟩ | ⟨hs | hs, he⟩⟩ := dllEnterFallback_cases cfg c
  all_goals
    rw [he]
    simp [awaitingDelay, *]

/-- One late byte in a call, noticed by the one or the other check. -/
theorem dllReceive_late_byte (cfg : BuildConfig) {c : DllCtx} {env : CallEnv} {rx : RxByte}
    (hrx : env.rx = [rx]) (hmode : c.phyMode = .sdci)
    (hquiet : ¬ (c.lastActivityMs ≠ 0 ∧ env.nowMs - c.lastActivityMs > 1000))
    (hpow : dllTPdActive c env.tPdUs = false) (hawait : awaitingDelay c env.awaitUs = false)
    (hbyte : Late c rx.nowUs) :
    (dllReceive cfg c env).ctx =
      if Late c env.gapUs then (rxByte cfg (dllEnterFallback cfg (dropPartial cfg c)) rx).1
      else (rxByte cfg (dropPartial cfg c) rx).1 := by
  have hreset : inactivityReset c env.nowMs = c := if_neg hquiet
  have hloop : ∀ c', callGap cfg c env.gapUs = c' → awaitingDelay c' env.awaitUs = false →
      (dllReceive cfg c env).ctx = (rxByte cfg c' rx).1 := by
    intro c' hgap hnot
    have hstart : loopStart cfg c env = some c' := by
      simp only [loopStart, hreset, hgap, hnot, hpow, hmode, reduceCtorEq, Bool.false_eq_true,
        if_false]
    rw [dllReceive_of_loopStart cfg hstart, hrx]
    rfl
  split_ifs with hgap
  · exact hloop _ (callGap_of_late cfg hgap) (awaitingDelay_dllEnterFallback cfg _ _)
  · rw [hloop c (callGap_of_not_late cfg hgap) hawait, rxByte_of_late cfg hbyte]

/-- **The two checks never have the same effect.** A device in SDCI mode has a
    partial frame, and a late byte arrives. Two calls differ only in the clock
    reading before the receive loop: it is after the limit, or still before it.
    After the calls the numbers of retries differ or, if the expected length of a
    frame has wrapped around, the positions in the frame. -/
theorem gap_checks_differ (cfg : BuildConfig) (d : Device) (hmode : d.dll.phyMode = .sdci)
    (env env' : CallEnv) (hsame : env' = { env with gapUs := env'.gapUs }) (rx : RxByte)
    (hrx : env.rx = [rx])
    (hquiet : ¬ (d.dll.lastActivityMs ≠ 0 ∧ env.nowMs - d.dll.lastActivityMs > 1000))
    (hpow : dllTPdActive d.dll env.tPdUs = false)
    (hawait : awaitingDelay d.dll env.awaitUs = false) (hbyte : Late d.dll rx.nowUs)
    (hlate : Late d.dll env.gapUs) (hearly : ¬ Late d.dll env'.gapUs) :
    let outside := (iolinkProcess cfg d env).1.dll
    let inside := (iolinkProcess cfg d env').1.dll
    ¬ (outside.frameIndex = inside.frameIndex ∧
      outside.stats.totalRetries = inside.stats.totalRetries) := by
  intro outside inside
  obtain ⟨stats, events, hp⟩ := polled_eq cfg d env
  generalize hc : dllPollDiagnostics cfg (deviceIsduProcess cfg d).dll env = c at hp
  have hc' : dllPollDiagnostics cfg (deviceIsduProcess cfg d).dll env' = c := by
    rw [hsame, ← hc]
    rfl
  have hiff : ∀ nowUs, Late c nowUs ↔ Late d.dll nowUs := by
    intro nowUs
    rw [hp]
    rfl
  have houtside : outside = (rxByte cfg (dllEnterFallback cfg (dropPartial cfg c)) rx).1 := by
    have h : outside = (dllReceive cfg c env).ctx := by rw [← hc]; rfl
    rw [h, dllReceive_late_byte cfg hrx (by rw [hp]; exact hmode) (by rw [hp]; exact hquiet)
      (by rw [hp]; exact hpow) (by rw [hp]; exact hawait) ((hiff _).mpr hbyte),
      if_pos ((hiff _).mpr hlate)]
  have hinside : inside = (rxByte cfg (dropPartial cfg c) rx).1 := by
    have h : inside = (dllReceive cfg c env').ctx := by rw [← hc']; rfl
    rw [h, dllReceive_late_byte cfg (by rw [hsame]; exact hrx) (by rw [hp]; exact hmode)
      (by rw [hp, hsame]; exact hquiet) (by rw [hp, hsame]; exact hpow)
      (by rw [hp, hsame]; exact hawait) ((hiff _).mpr hbyte), if_neg (mt (hiff _).mp hearly)]
  rw [houtside, hinside]
  rintro ⟨hindex, hretries⟩
  exact fallback_shows cfg rx (c := dropPartial cfg c) rfl (Prod.ext hindex hretries)

/-- The clock is read before the receive loop at 1.5 ms or at 1.4 ms, and inside it
    at 1.6 ms; the limit is crossed at 1.416 ms. -/
theorem gap_checks_differ_type11 :
    let outside := (iolinkProcess {} partialDevice (callAt 1500 1600 [0x00])).1.dll
    let inside := (iolinkProcess {} partialDevice (callAt 1400 1600 [0x00])).1.dll
    ¬ (outside.frameIndex = inside.frameIndex ∧
      outside.stats.totalRetries = inside.stats.totalRetries) :=
  gap_checks_differ {} partialDevice (by decide +kernel) (callAt 1500 1600 [0x00])
    (callAt 1400 1600 [0x00]) rfl ⟨0x00, 1600, 0, 1600, 1600, 1600⟩ rfl (by decide +kernel)
    (by decide +kernel) (by decide +kernel) (by decide +kernel) (by decide +kernel)
    (by decide +kernel)

/-- The same byte at the same time: the fallback is counted or not. -/
theorem gap_checks_effects :
    let outside := (iolinkProcess {} partialDevice (callAt 1500 1600 [0x00])).1.dll
    let inside := (iolinkProcess {} partialDevice (callAt 1400 1600 [0x00])).1.dll
    partialDevice.dll.phyMode = .sdci ∧ Late partialDevice.dll 1600 ∧ Late partialDevice.dll 1500 ∧
      ¬ Late partialDevice.dll 1400 ∧ outside.fallbackCount = 1 ∧ inside.fallbackCount = 0 ∧
      outside.stats.totalRetries = 1 ∧ inside.stats.totalRetries = 0 := by
  decide +kernel

end Iolinki
