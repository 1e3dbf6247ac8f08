import Iolinki.Dll.Statistics
import Iolinki.Dll.Fallback

/-!
# Events for communication errors

The error counters and `iolink_event_trigger` are next to each other for the timing
errors only. A frame with a wrong checksum and a frame that is refused for its MC
byte are counted and left to `dll_enter_fallback`, which triggers an event when it
switches to SIO mode and not before. A byte that finds the frame buffer full is only
counted.

What is counted and triggered while a byte or a timeout is handled is a list of
notices (`Handled`).

* `raised_byteNotices_iff`: one received byte.
* `error_raises_event_iff`: runs from `iolink_init`.
-/

namespace Iolinki

open Iolinki.Lib

/-- An error counter is incremented, or `iolink_event_trigger` is called. -/
inductive Notice
  | crcError
  | framingError
  | timingError
  | event (e : Event)
  deriving DecidableEq, Repr

/-- If an error is counted, an event is triggered. -/
def Raised (log : List Notice) : Prop :=
  (∃ n ∈ log, n = .crcError ∨ n = .framingError ∨ n = .timingError) → ∃ e, .event e ∈ log

/-- How often `n` stands in the list, as a counter of 32 bits would say. -/
def noticeCount (log : List Notice) (n : Notice) : UInt32 := UInt32.ofNat (log.count n)

theorem noticeCount_append (log log' : List Notice) (n : Notice) :
    noticeCount (log ++ log') n = noticeCount log n + noticeCount log' n := by
  rw [noticeCount, List.count_append, UInt32.ofNat_add]
  rfl

/-- The counters after what the list says. -/
structure Counted (s s' : DllStats) (log : List Notice) : Prop where
  crc : s'.crcErrors = s.crcErrors + noticeCount log .crcError
  framing : s'.framingErrors = s.framingErrors + noticeCount log .framingError
  timing : s'.timingErrors = s.timingErrors + noticeCount log .timingError

theorem Counted.refl (s : DllStats) : Counted s s [] :=
  ⟨(UInt32.add_zero _).symm, (UInt32.add_zero _).symm, (UInt32.add_zero _).symm⟩

theorem Counted.trans {s s' s'' : DllStats} {log log' : List Notice} (h : Counted s s' log)
    (h' : Counted s' s'' log') : Counted s s'' (log ++ log') where
  crc := by rw [h'.crc, h.crc, noticeCount_append, UInt32.add_assoc]
  framing := by rw [h'.framing, h.framing, noticeCount_append, UInt32.add_assoc]
  timing := by rw [h'.timing, h.timing, noticeCount_append, UInt32.add_assoc]

/-- The queue after the events of the list. -/
def triggered (n : ℕ) (q : EventsCtx) (log : List Notice) : EventsCtx :=
  log.foldl (fun q notice => match notice with
    | .event e => eventTrigger n q e.code e.type
    | _ => q) q

/-- Between `c` and `c'` the counters are incremented and events triggered as the
    list says, and nothing else happens to them. -/
structure Logged (cfg : BuildConfig) (c c' : DllCtx) (log : List Notice) : Prop where
  counted : Counted c.stats c'.stats log
  events : c'.events = triggered cfg.eventQueueSize c.events log

namespace Logged

variable {cfg : BuildConfig} {c c' c'' : DllCtx} {log log' : List Notice}

theorem refl (c : DllCtx) : Logged cfg c c [] := ⟨.refl _, rfl⟩

theorem trans (h : Logged cfg c c' log) (h' : Logged cfg c' c'' log') :
    Logged cfg c c'' (log ++ log') where
  counted := h.counted.trans h'.counted
  events := by rw [h'.events, h.events, triggered, triggered, triggered, List.foldl_append]

/-- Other fields do not matter. -/
theorem keep (h : Logged cfg c c' log) (hs : c''.stats = c'.stats) (he : c''.events = c'.events) :
    Logged cfg c c'' log where
  counted := hs ▸ h.counted
  events := he.trans h.events

end Logged

/-! ## The places that count and trigger -/

/-- The notices of a timing violation. -/
def timingNotices : List Notice := [.timingError, .event ⟨eventCommTiming, .warning⟩]

/-- The notices of `dll_enter_fallback`. -/
def fallbackNotices (c : DllCtx) : List Notice :=
  if (c.fallbackCount + 1) % 256 ≥ c.sioFallbackThreshold then
    [.event ⟨eventCodeCommErrFraming, .warning⟩]
  else []

section Places

variable (cfg : BuildConfig) (c : DllCtx)

theorem logged_framingError : Logged cfg c (framingError c) [.framingError] :=
  ⟨⟨(UInt32.add_zero _).symm, rfl, (UInt32.add_zero _).symm⟩, rfl⟩

theorem logged_crcError :
    Logged cfg c { c with stats := { c.stats with crcErrors := c.stats.crcErrors + 1 } }
      [.crcError] :=
  ⟨⟨rfl, (UInt32.add_zero _).symm, (UInt32.add_zero _).symm⟩, rfl⟩

theorem logged_timingViolation {count : DllStats → DllStats}
    (hcount : ∀ s : DllStats, count s = { s with tRenViolations := s.tRenViolations + 1 } ∨
      count s = { s with tCycleViolations := s.tCycleViolations + 1 } ∨
      count s = { s with tByteViolations := s.tByteViolations + 1 } ∨
      count s = { s with tPdViolations := s.tPdViolations + 1 }) :
    Logged cfg c (timingViolation cfg c count) timingNotices := by
  refine ⟨?_, rfl⟩
  show Counted c.stats (count { c.stats with timingErrors := c.stats.timingErrors + 1 }) _
  rcases hcount { c.stats with timingErrors := c.stats.timingErrors + 1 } with he | he | he | he
  all_goals
    rw [he]
    exact ⟨(UInt32.add_zero _).symm, (UInt32.add_zero _).symm, rfl⟩

theorem logged_dllEnterFallback : Logged cfg c (dllEnterFallback cfg c) (fallbackNotices c) := by
  have hsame : Counted c.stats { c.stats with totalRetries := c.stats.totalRetries + 1 } [] :=
    ⟨(UInt32.add_zero _).symm, (UInt32.add_zero _).symm, (UInt32.add_zero _).symm⟩
  unfold dllEnterFallback fallbackNotices
  dsimp only
  split_ifs
  · exact ⟨⟨hsame.crc, hsame.framing, hsame.timing⟩, rfl⟩
  · exact ⟨hsame, rfl⟩
  · exact ⟨hsame, rfl⟩

end Places

/-! ## A received byte and the timeouts -/

/-- The inter-byte timeout strikes (lines 302–305 and 327–330). -/
def ByteLate (c : DllCtx) (nowUs : UInt64) : Prop :=
  c.frameIndex > 0 ∧ c.enforceTiming ∧ c.tByteLimitUs > 0 ∧ c.lastByteUs ≠ 0 ∧
    nowUs - c.lastByteUs > c.tByteLimitUs.toUInt64

instance (c : DllCtx) (nowUs : UInt64) : Decidable (ByteLate c nowUs) :=
  inferInstanceAs (Decidable (_ ∧ _))

/-- The minimum cycle time is violated (lines 379–381). -/
def CycleShort (c : DllCtx) (procUs : UInt64) : Prop :=
  c.enforceTiming ∧ c.minCycleTimeUs > 0 ∧ c.lastCycleStartUs ≠ 0 ∧
    procUs - c.lastCycleStartUs < c.minCycleTimeUs.toUInt64

instance (c : DllCtx) (procUs : UInt64) : Decidable (CycleShort c procUs) :=
  inferInstanceAs (Decidable (_ ∧ _))

/-- The response that ends at `txUs` is late (lines 180–184). -/
def RenLate (c : DllCtx) (txUs : UInt64) : Prop :=
  c.enforceTiming ∧ dllGetTRenLimitUs c > 0 ∧
    txUs.toUInt32 - c.lastCycleStartUs.toUInt32 > dllGetTRenLimitUs c

instance (c : DllCtx) (txUs : UInt64) : Decidable (RenLate c txUs) :=
  inferInstanceAs (Decidable (_ ∧ _))

/-- The frame in the buffer is answered late. -/
def ResponseLate (c : DllCtx) (rx : RxByte) : Prop :=
  frameKind c.state c.reqLen (c.frameBuf 0) = .type12 ∧ c.hasSend = true ∧
    RenLate { c with lastCycleStartUs := rx.procUs } rx.txUs

instance (c : DllCtx) (rx : RxByte) : Decidable (ResponseLate c rx) :=
  inferInstanceAs (Decidable (_ ∧ _))

/-- The notices of an inter-byte timeout. -/
def gapNotices (c : DllCtx) (nowUs : UInt64) : List Notice :=
  if ByteLate c nowUs then timingNotices ++ [.framingError] else []

/-- The notices of a complete frame. -/
def frameNotices (c : DllCtx) (rx : RxByte) : List Notice :=
  (if CycleShort c rx.procUs then timingNotices else []) ++
    if Failed c then
      (if frameCrcOk c then [] else [.crcError]) ++ [.framingError] ++ fallbackNotices c
    else if ResponseLate c rx then timingNotices else []

/-- The notices of a received byte. -/
def byteNotices (cfg : BuildConfig) (c : DllCtx) (rx : RxByte) : List Notice :=
  gapNotices c rx.nowUs ++
    (if (beforeAssemble cfg c rx).frameIndex < frameBufSize then [] else [.framingError]) ++
    if frameComplete (rxAssemble cfg c rx) then frameNotices (rxAssemble cfg c rx) rx else []

section Byte

variable (cfg : BuildConfig) (c : DllCtx)

/-- What both timeout checks do first. -/
theorem logged_gap :
    Logged cfg c { framingError (timingViolation cfg c fun s =>
      { s with tByteViolations := s.tByteViolations + 1 }) with frameIndex := 0 }
      (timingNotices ++ [.framingError]) :=
  ((logged_timingViolation cfg c fun _ => .inr (.inr (.inl rfl))).trans
    (logged_framingError cfg _)).keep rfl rfl

theorem logged_byteGap (nowUs : UInt64) :
    Logged cfg c (byteGap cfg c nowUs) (gapNotices c nowUs) := by
  unfold gapNotices
  by_cases hlate : ByteLate c nowUs
  · rw [if_pos hlate, byteGap, if_pos (by exact hlate)]
    exact logged_gap cfg c
  · rw [if_neg hlate, byteGap, if_neg (by exact hlate)]
    exact .refl c

theorem logged_assemble (byte : UInt8) (nowUs : UInt64) :
    Logged cfg c (assemble c byte nowUs)
      (if c.frameIndex < frameBufSize then [] else [.framingError]) := by
  unfold assemble
  by_cases h0 : c.frameIndex = 0
  · rw [if_pos h0, if_pos (by rw [h0]; decide)]
    exact (Logged.refl c).keep rfl rfl
  · rw [if_neg h0]
    split_ifs
    · exact (Logged.refl c).keep rfl rfl
    · exact (logged_framingError cfg c).keep rfl rfl

theorem logged_rxAssemble (rx : RxByte) :
    Logged cfg c (rxAssemble cfg c rx) (gapNotices c rx.nowUs ++
      if (beforeAssemble cfg c rx).frameIndex < frameBufSize then [] else [.framingError]) := by
  have hbyte := logged_byteGap cfg { c with lastActivityMs := rx.nowMs } rx.nowUs
  have hgap : Logged cfg c (beforeAssemble cfg c rx) (gapNotices c rx.nowUs) :=
    ⟨hbyte.counted, hbyte.events⟩
  exact hgap.trans (logged_assemble cfg _ rx.byte rx.nowUs)

theorem logged_cycleStart (procUs : UInt64) :
    Logged cfg c (cycleStart cfg c procUs) (if CycleShort c procUs then timingNotices else []) := by
  by_cases hshort : CycleShort c procUs
  · rw [if_pos hshort, cycleStart, if_pos (by exact hshort)]
    exact (logged_timingViolation cfg c fun _ => .inr (.inl rfl)).keep rfl rfl
  · rw [if_neg hshort, cycleStart, if_neg (by exact hshort)]
    exact (Logged.refl c).keep rfl rfl

theorem logged_afterSend (txUs : UInt64) :
    Logged cfg c (afterSend cfg c txUs) (if RenLate c txUs then timingNotices else []) := by
  by_cases hlate : RenLate c txUs
  · rw [if_pos hlate, afterSend, if_pos (by exact hlate)]
    exact (logged_timingViolation cfg _ fun _ => .inl rfl).keep rfl rfl
  · rw [if_neg hlate, afterSend, if_neg (by exact hlate)]
    exact ⟨.refl _, rfl⟩

theorem logged_dllHandleOperateType12 (rx : RxByte) :
    Logged cfg c (dllHandleOperateType12 cfg c rx).1
      (if c.hasSend = true ∧ RenLate c rx.txUs then timingNotices else []) := by
  unfold dllHandleOperateType12
  dsimp only
  by_cases hsend : c.hasSend = true
  · have hsent := logged_afterSend cfg { c with
      pdOut := if c.pdOutLenCurrent > 0 then blit c.pdOut 0 (pdField c) else c.pdOut
      isdu := odMachine.final c.isdu (odField c) } rx.txUs
    rw [if_pos hsend, if_congr (and_iff_right hsend) rfl rfl]
    exact ⟨hsent.counted, hsent.events⟩
  · have hno : ¬ (c.hasSend = true ∧ RenLate c rx.txUs) := fun hall => hsend hall.1
    rw [if_neg hsend, if_neg hno]
    exact ⟨.refl _, rfl⟩

/-- A frame with a right checksum; `cycleStart` has stored the clock. -/
theorem logged_dllAcceptFrame (rx : RxByte) (hstart : c.lastCycleStartUs = rx.procUs) :
    Logged cfg c (dllAcceptFrame cfg c rx).1
      (if frameKind c.state c.reqLen (c.frameBuf 0) = .refused then
        [.framingError] ++ fallbackNotices c
      else if ResponseLate c rx then timingNotices else []) := by
  rw [dllAcceptFrame_eq]
  cases hk : frameKind c.state c.reqLen (c.frameBuf 0) with
  | refused =>
    rw [if_pos rfl]
    exact (logged_framingError cfg c).trans (logged_dllEnterFallback cfg (framingError c))
  | ignored | transition | type0 =>
    rw [if_neg (by decide), if_neg (fun hlate => by simp [ResponseLate, hk] at hlate)]
    exact ⟨.refl _, rfl⟩
  | type12 =>
    have hsent := logged_dllHandleOperateType12 cfg { c with state := .operate } rx
    have hlate : ResponseLate c rx ↔ c.hasSend = true ∧ RenLate c rx.txUs := by
      rw [ResponseLate, ← hstart]
      exact and_iff_right hk
    rw [if_neg (by decide), if_congr hlate rfl rfl]
    exact ⟨hsent.counted, hsent.events⟩

/-- **A complete frame.** -/
theorem logged_dllHandleFrame (rx : RxByte) :
    Logged cfg c (dllHandleFrame cfg c rx).1 (frameNotices c rx) := by
  have hcycle := logged_cycleStart cfg c rx.procUs
  obtain ⟨stats, events, he, -⟩ := cycleStart_eq cfg c rx.procUs
  refine hcycle.trans ?_
  simp only [dllHandleFrame, he]
  by_cases hcrc : frameCrcOk c = true
  · have haccept := logged_dllAcceptFrame cfg { c with
      stats := stats, events := events, lastCycleStartUs := rx.procUs } rx rfl
    rw [if_pos (by exact hcrc)]
    by_cases hk : frameKind c.state c.reqLen (c.frameBuf 0) = .refused
    · rw [if_pos (show Failed c from .inr hk), if_pos hcrc]
      rw [if_pos (by exact hk)] at haccept
      exact haccept
    · have hno : ¬ Failed c := by
        rintro (hbad | hbad)
        · exact Bool.false_ne_true (hbad.symm.trans hcrc)
        · exact hk hbad
      rw [if_neg hno]
      rw [if_neg (by exact hk)] at haccept
      exact haccept
  · rw [if_neg (by exact hcrc), if_pos (show Failed c from .inl (Bool.eq_false_iff.mpr hcrc)),
      if_neg hcrc]
    exact (((logged_crcError cfg _).trans (logged_framingError cfg _)).trans
      (logged_dllEnterFallback cfg _))

/-- **A received byte.** -/
theorem logged_rxByte (rx : RxByte) : Logged cfg c (rxByte cfg c rx).1 (byteNotices cfg c rx) := by
  have hassemble := logged_rxAssemble cfg c rx
  unfold rxByte byteNotices
  dsimp only
  by_cases hfull : frameComplete (rxAssemble cfg c rx) = true
  · rw [if_pos hfull, if_pos hfull]
    exact (hassemble.trans (logged_dllHandleFrame cfg _ rx)).keep rfl rfl
  · rw [if_neg hfull, if_neg hfull]
    exact hassemble.trans (.refl _)

end Byte

/-! ## Errors with an event -/

theorem raised_of_mem {log : List Notice} {e : Event} (h : .event e ∈ log) : Raised log :=
  fun _ => ⟨e, h⟩

theorem raised_nil : Raised [] := fun ⟨_, hn, _⟩ => absurd hn List.not_mem_nil

theorem event_mem_timingNotices : .event ⟨eventCommTiming, .warning⟩ ∈ timingNotices :=
  List.mem_cons_of_mem _ List.mem_cons_self

/-- A complete frame: if it fails, the event is the one of the switch to SIO mode or
    the one for the cycle time. -/
theorem raised_frameNotices_iff (c : DllCtx) (rx : RxByte) :
    Raised (frameNotices c rx) ↔ (Failed c → SwitchesToSio c ∨ CycleShort c rx.procUs) := by
  unfold frameNotices
  by_cases hshort : CycleShort c rx.procUs
  · rw [if_pos hshort]
    exact iff_of_true (raised_of_mem (List.mem_append_left _ event_mem_timingNotices))
      fun _ => .inr hshort
  rw [if_neg hshort, List.nil_append]
  by_cases hf : Failed c
  · rw [if_pos hf, fallbackNotices]
    by_cases hlast : (c.fallbackCount + 1) % 256 ≥ c.sioFallbackThreshold
    · rw [if_pos hlast]
      exact iff_of_true (raised_of_mem (List.mem_append_right _ List.mem_cons_self))
        fun _ => .inl ⟨hf, hlast⟩
    · rw [if_neg hlast, List.append_nil]
      refine iff_of_false (fun hraised => ?_) fun hsio => ?_
      · obtain ⟨e, he⟩ := hraised ⟨.framingError, by simp, .inr (.inl rfl)⟩
        split_ifs at he <;> simp at he
      · rcases hsio hf with hswitch | hcycle
        · exact hlast hswitch.2
        · exact hshort hcycle
  · rw [if_neg hf]
    refine iff_of_true ?_ fun h => absurd h hf
    split_ifs
    · exact raised_of_mem event_mem_timingNotices
    · exact raised_nil

/-- The inter-byte timeout strikes, or a frame that the byte completes and that fails
    switches the PHY to SIO mode or comes too early after the last one. -/
def Reported (cfg : BuildConfig) (c : DllCtx) (rx : RxByte) : Prop :=
  ByteLate c rx.nowUs ∨ (frameComplete (rxAssemble cfg c rx) = true → Failed (rxAssemble cfg c rx) →
    SwitchesToSio (rxAssemble cfg c rx) ∨ CycleShort (rxAssemble cfg c rx) rx.procUs)

/-- **A received byte raises an event for its errors exactly if it is `Reported`.** -/
theorem raised_byteNotices_iff (cfg : BuildConfig) {c : DllCtx} (hb : Bounded c) (rx : RxByte) :
    Raised (byteNotices cfg c rx) ↔ Reported cfg c rx := by
  -- the frame buffer is never full
  have hroom : (beforeAssemble cfg c rx).frameIndex < frameBufSize := by
    have hshort := (bounded_beforeAssemble cfg hb rx).short
    rw [frameBufSize]
    by_contra hfull
    obtain ⟨hlt, hmax⟩ := hshort (by omega)
    omega
  unfold byteNotices Reported gapNotices
  rw [if_pos hroom, List.append_nil]
  by_cases hlate : ByteLate c rx.nowUs
  · rw [if_pos hlate]
    exact iff_of_true (raised_of_mem (List.mem_append_left _
      (List.mem_append_left _ event_mem_timingNotices))) (.inl hlate)
  rw [if_neg hlate, List.nil_append, or_iff_right hlate]
  by_cases hfull : frameComplete (rxAssemble cfg c rx) = true
  · rw [if_pos hfull, raised_frameNotices_iff]
    exact ⟨fun h _ => h, fun h => h hfull⟩
  · rw [if_neg hfull]
    exact iff_of_true raised_nil fun h => absurd h hfull

/-! ## Whole runs -/

/-- A byte or a timeout that has been handled. -/
structure Handled (cfg : BuildConfig) where
  before : DllCtx
  after : DllCtx
  notices : List Notice
  logged : Logged cfg before after notices

/-- The notices of the timeout check before the receive loop. -/
def callGapNotices (c : DllCtx) (nowUs : UInt64) : List Notice :=
  if ByteLate c nowUs then timingNotices ++ [.framingError] ++ fallbackNotices c else []

section Call

variable (cfg : BuildConfig) (c : DllCtx)

theorem logged_callGap (nowUs : UInt64) :
    Logged cfg c (callGap cfg c nowUs) (callGapNotices c nowUs) := by
  unfold callGapNotices
  by_cases hlate : ByteLate c nowUs
  · have hgap := logged_gap cfg c
    obtain ⟨stats, events, he⟩ := byteTimeout_eq cfg c
    rw [he] at hgap
    rw [if_pos hlate, callGap, if_pos (by exact hlate), he]
    exact hgap.trans (logged_dllEnterFallback cfg _)
  · rw [if_neg hlate, callGap, if_neg (by exact hlate)]
    exact .refl c

theorem logged_drainRx (rxs : List RxByte) :
    Logged cfg c (drainRx cfg c rxs) (if rxs.isEmpty then [] else timingNotices) := by
  unfold drainRx
  split_ifs
  · exact .refl c
  · exact logged_timingViolation cfg c fun _ => .inr (.inr (.inr rfl))

def handledByte (rx : RxByte) : Handled cfg :=
  ⟨c, (rxByte cfg c rx).1, byteNotices cfg c rx, logged_rxByte cfg c rx⟩

def handledGap (nowUs : UInt64) : Handled cfg :=
  ⟨c, callGap cfg c nowUs, callGapNotices c nowUs, logged_callGap cfg c nowUs⟩

def handledDrain (rxs : List RxByte) : Handled cfg :=
  ⟨c, drainRx cfg c rxs, if rxs.isEmpty then [] else timingNotices, logged_drainRx cfg c rxs⟩

/-- The timeouts and bytes that `iolink_dll_process` handles. -/
def handledReceive (env : CallEnv) : List (Handled cfg) :=
  (let c := inactivityReset c env.nowMs
    if dllTPdActive c env.tPdUs then [handledDrain cfg c env.rx] else []) ++
    noteGap (fun c nowUs => [handledGap cfg c nowUs]) c env ++
    noteReceive cfg (fun c rx => [handledByte cfg c rx]) c env

end Call

/-- The timeouts and bytes of one call. -/
def handledCall (cfg : BuildConfig) (d : Device) : Call → List (Handled cfg)
  | .process env =>
    handledReceive cfg (dllPollDiagnostics cfg (deviceIsduProcess cfg d).dll env) env
  | _ => []

/-- The bytes that the receive loop gets in a run, each with the context before it. -/
def receivedBytes (cfg : BuildConfig) (d : Device) (calls : List Call) : List (DllCtx × RxByte) :=
  (deviceMachine cfg).collect (noteCall cfg fun c rx => [(c, rx)]) d calls

theorem counted_dllReceive (cfg : BuildConfig) (c : DllCtx) (env : CallEnv) :
    Counted c.stats (dllReceive cfg c env).ctx.stats
      ((handledReceive cfg c env).flatMap Handled.notices) := by
  have hreset : (inactivityReset c env.nowMs).stats = c.stats := by
    unfold inactivityReset
    dsimp only
    split_ifs <;> rfl
  have hgap := (logged_callGap cfg (inactivityReset c env.nowMs) env.gapUs).counted
  rw [hreset] at hgap
  unfold handledReceive noteReceive noteGap
  rcases dllReceive_cases cfg c env with ⟨hpd, hs, he⟩ | ⟨hpd, hm, hs, he⟩ | ⟨hpd, hm, hs, he⟩ |
    ⟨hpd, hm, hs, he⟩
  all_goals simp only [hs, he, hpd, if_true, if_false, Bool.false_eq_true, List.append_nil,
    List.nil_append]
  · have hdrain := (logged_drainRx cfg (inactivityReset c env.nowMs) env.rx).counted
    rw [hreset] at hdrain
    rw [List.flatMap_singleton]
    exact hdrain
  · have hwake : (detectWakeup (inactivityReset c env.nowMs) env).stats = c.stats := by
      rw [← hreset, detectWakeup]
      split_ifs <;> rfl
    rw [if_pos hm, hwake]
    exact .refl _
  · rw [if_neg hm, List.flatMap_singleton]
    exact hgap
  · rw [if_neg hm]
    refine (rxMachine cfg).final_collect_induct
      (P := fun c' log => Counted c.stats c'.stats (log.flatMap Handled.notices)) ?_ ?_ env.rx
    · intro c' rx log hc
      rw [List.flatMap_append, List.flatMap_singleton]
      exact hc.trans (logged_rxByte cfg c' rx).counted
    · rw [List.flatMap_singleton]
      exact hgap

theorem counted_dllPollDiagnostics (cfg : BuildConfig) (c : DllCtx) (env : CallEnv) :
    Counted c.stats (dllPollDiagnostics cfg c env).stats [] := by
  have hshort : ∀ c' : DllCtx, Counted c.stats c'.stats [] →
      Counted c.stats (if env.shortCircuit then trigger cfg { c' with
        stats := { c'.stats with shortCircuits := c'.stats.shortCircuits + 1 } }
        eventPhyShortCircuit .error else c').stats [] := by
    intro c' hc
    split_ifs
    · exact ⟨hc.crc, hc.framing, hc.timing⟩
    · exact hc
  have hsame := Counted.refl c.stats
  unfold dllPollDiagnostics
  cases env.voltageMv with
  | none => exact hshort c hsame
  | some v =>
    dsimp only
    refine hshort _ ?_
    split_ifs
    · exact ⟨hsame.crc, hsame.framing, hsame.timing⟩
    · exact hsame

/-- **One call**: the counters say what has been handled. -/
theorem counted_deviceStep (cfg : BuildConfig) (d : Device) (call : Call) :
    Counted d.dll.stats (deviceStep cfg d call).1.dll.stats
      ((handledCall cfg d call).flatMap Handled.notices) := by
  cases call with
  | process env =>
    have hpoll : Counted d.dll.stats
        (dllPollDiagnostics cfg (deviceIsduProcess cfg d).dll env).stats [] := by
      have hisdu : (deviceIsduProcess cfg d).dll.stats = d.dll.stats := stats_isduProcess cfg _ _
      rw [← hisdu]
      exact counted_dllPollDiagnostics cfg _ env
    have hcall := hpoll.trans (counted_dllReceive cfg _ env)
    rw [List.nil_append] at hcall
    exact hcall
  | pdInputUpdate data valid =>
    simp only [deviceStep, pdInputUpdate, handledCall, List.flatMap_nil]
    split_ifs <;> exact .refl _
  | _ =>
    simp only [handledCall, List.flatMap_nil]
    exact .refl _

/-- **One call**: the timing errors always come with their event. -/
theorem raised_handledCall_iff (cfg : BuildConfig) {d : Device} (hb : Bounded d.dll) (call : Call) :
    (∀ u ∈ handledCall cfg d call, Raised u.notices) ↔
      ∀ p ∈ noteCall cfg (fun c rx => [(c, rx)]) d call, Reported cfg p.1 p.2 := by
  cases call with
  | process env =>
    have hloop := (bounded_dllReceive cfg (bounded_polled cfg hb env) env).2
    simp only [handledCall, noteCall, handledReceive]
    generalize dllPollDiagnostics cfg (deviceIsduProcess cfg d).dll env = c at hloop
    have hdrain : ∀ u ∈ (if dllTPdActive (inactivityReset c env.nowMs) env.tPdUs then
        [handledDrain cfg (inactivityReset c env.nowMs) env.rx] else []), Raised u.notices := by
      intro u hu
      split_ifs at hu
      · rw [List.mem_singleton.mp hu]
        show Raised (if env.rx.isEmpty then [] else timingNotices)
        split_ifs
        · exact raised_nil
        · exact raised_of_mem event_mem_timingNotices
      · exact absurd hu List.not_mem_nil
    have hgap : ∀ u ∈ noteGap (fun c nowUs => [handledGap cfg c nowUs]) c env,
        Raised u.notices := by
      intro u hu
      unfold noteGap at hu
      dsimp only at hu
      split_ifs at hu
      · exact absurd hu List.not_mem_nil
      · exact absurd hu List.not_mem_nil
      · rw [List.mem_singleton.mp hu]
        show Raised (callGapNotices _ _)
        unfold callGapNotices
        split_ifs
        · exact raised_of_mem (List.mem_append_left _
            (List.mem_append_left _ event_mem_timingNotices))
        · exact raised_nil
    rw [List.forall_mem_append, List.forall_mem_append, and_iff_right ⟨hdrain, hgap⟩]
    unfold noteReceive
    cases hs : loopStart cfg c env with
    | none => simp
    | some c' =>
      refine (rxMachine cfg).collect_forall_iff (P := Bounded)
        (fun _ rx hc => bounded_rxByte cfg hc rx) (fun c rx hc => ?_) (hloop c' hs) env.rx
      rw [List.forall_mem_singleton, List.forall_mem_singleton]
      exact raised_byteNotices_iff cfg hc rx
  | _ => simp [handledCall, noteCall]

/-- **Errors with an event in every run from `iolink_init`**, for output data of at most 32
    bytes (more of them would overwrite the counters). The notices are complete: they add up
    to the counters. Each byte and each timeout that counts an error triggers an event
    exactly if every received byte is `Reported`. -/
theorem error_raises_event_iff (cfg : BuildConfig) (config : Config) (hout : config.pdOutLen ≤ 32)
    (hasSend : Bool) (nowUs : UInt64) (image : Option ParamsNvm) (store : Store)
    (calls : List Call) :
    let d₀ := iolinkInit cfg config hasSend nowUs image store
    let s := dllGetStats ((deviceMachine cfg).final d₀ calls).dll
    let handled := (deviceMachine cfg).collect (handledCall cfg) d₀ calls
    let notices := handled.flatMap Handled.notices
    s.crcErrors = noticeCount notices .crcError ∧
      s.framingErrors = noticeCount notices .framingError ∧
      s.timingErrors = noticeCount notices .timingError ∧
      ((∀ u ∈ handled, Raised u.notices) ↔
        ∀ p ∈ receivedBytes cfg d₀ calls, Reported cfg p.1 p.2) := by
  intro d₀ s handled notices
  have hinit : Counted {} d₀.dll.stats (([] : List (Handled cfg)).flatMap Handled.notices) :=
    .refl _
  have hrun := (deviceMachine cfg).final_collect_induct (f := handledCall cfg)
    (P := fun d log => Counted {} d.dll.stats (log.flatMap Handled.notices))
    (fun d call log hd => by
      rw [List.flatMap_append]
      exact hd.trans (counted_deviceStep cfg d call))
    hinit calls
  rw [List.nil_append] at hrun
  refine ⟨hrun.crc.trans (UInt32.zero_add _), hrun.framing.trans (UInt32.zero_add _),
    hrun.timing.trans (UInt32.zero_add _), ?_⟩
  exact (deviceMachine cfg).collect_forall_iff (P := fun d => Bounded d.dll)
    (fun _ call hd => bounded_deviceStep cfg hd call)
    (fun _ call hd => raised_handledCall_iff cfg hd call)
    (bounded_iolinkInit cfg hout hasSend nowUs image store) calls

/-- A frame with a wrong checksum in OPERATE. -/
def wrongChecksumCalls : List Call :=
  startupCalls .type11 ++ [.process (callWith false [0, 0, 0, 0, 0xFF])]

/-- The frame with the wrong checksum is counted twice, and no event is triggered. -/
theorem wrong_checksum_without_event :
    let d₀ := iolinkInit {} (sampleConfig .type11) true 0 none storeInit
    let d := (deviceMachine {}).final d₀ wrongChecksumCalls
    d.dll.stats.crcErrors = 1 ∧ d.dll.stats.framingErrors = 1 ∧ eventsPending d.dll.events = false ∧
      ¬ ∀ u ∈ (deviceMachine {}).collect (handledCall {}) d₀ wrongChecksumCalls,
        Raised u.notices := by
  refine ⟨by decide +kernel, by decide +kernel, by decide +kernel, fun hall => ?_⟩
  have hmem : [.crcError, .framingError] ∈ ((deviceMachine {}).collect (handledCall {})
      (iolinkInit {} (sampleConfig .type11) true 0 none storeInit) wrongChecksumCalls).map
        Handled.notices := by decide +kernel
  obtain ⟨u, hu, hnotices⟩ := List.mem_map.mp hmem
  have hraised := hall u hu
  rw [hnotices] at hraised
  obtain ⟨e, he⟩ := hraised ⟨.crcError, List.mem_cons_self, .inl rfl⟩
  simp at he

/-- A device with one output byte, in its start-up. -/
theorem error_raises_event_startup :
    let d₀ := iolinkInit {} (sampleConfig .type11) true 0 none storeInit
    (sampleConfig .type11).pdOutLen ≤ 32 ∧
      ((∀ u ∈ (deviceMachine {}).collect (handledCall {}) d₀ (startupCalls .type11),
          Raised u.notices) ↔
        ∀ p ∈ receivedBytes {} d₀ (startupCalls .type11), Reported {} p.1 p.2) :=
  ⟨by decide, (error_raises_event_iff {} (sampleConfig .type11) (by decide) true 0 none storeInit
    (startupCalls .type11)).2.2.2⟩

end Iolinki
