import Iolinki.Dll.Bounds
import Iolinki.Isdu.DsCommands

/-!
# The statistics of the data link layer

The error counters are incremented at nine places. Two kinds of mishaps have no
counter of their own: a frame with a right checksum that is refused for its MC
byte, and an inter-byte timeout that is noticed before the receive loop. They are
listed along a run (`mishaps`); with their numbers the counters are balanced.

* `balanced_rxByte`: one received byte. A stored byte never finds the frame
  buffer full, which would be one framing error more.
* `stats_consistent`: the counters in every run from `iolink_init`.
-/

namespace Iolinki

open Iolinki.Lib

/-- `iolink_dll_get_stats` (lines 517–531). -/
def dllGetStats (c : DllCtx) : DllStats := c.stats

/-- What goes wrong without a counter of its own. -/
inductive Mishap
  /-- A frame with a right checksum is refused for its MC byte in ESTAB_COM or
      OPERATE. -/
  | refused
  /-- An inter-byte timeout is noticed before the receive loop. -/
  | earlyTimeout
  deriving DecidableEq, Repr

/-- A frame that is refused for its MC byte when the byte completes it. -/
def refusedAt (cfg : BuildConfig) (c : DllCtx) (rx : RxByte) : List Mishap :=
  let c := rxAssemble cfg c rx
  if frameComplete c = true ∧ frameCrcOk c = true ∧
      frameKind c.state c.reqLen (c.frameBuf 0) = .refused then [.refused] else []

/-- The timeout check before the receive loop (lines 302–305). -/
def earlyTimeoutAt (c : DllCtx) (nowUs : UInt64) : List Mishap :=
  if c.frameIndex > 0 ∧ ¬ GapOk c c.lastByteUs nowUs then [.earlyTimeout] else []

/-- The mishaps of one call. -/
def mishapsOf (cfg : BuildConfig) (d : Device) : Call → List Mishap
  | .process env =>
    let c := dllPollDiagnostics cfg (deviceIsduProcess cfg d).dll env
    noteGap earlyTimeoutAt c env ++ noteReceive cfg (refusedAt cfg) c env
  | _ => []

/-- The mishaps of a run. -/
def mishaps (cfg : BuildConfig) (d : Device) (calls : List Call) : List Mishap :=
  (deviceMachine cfg).collect (mishapsOf cfg) d calls

/-- How often a mishap has happened, as a counter of 32 bits would say. -/
def mishapCount (log : List Mishap) (m : Mishap) : UInt32 := UInt32.ofNat (log.count m)

theorem mishapCount_append (log log' : List Mishap) (m : Mishap) :
    mishapCount (log ++ log') m = mishapCount log m + mishapCount log' m := by
  rw [mishapCount, List.count_append, UInt32.ofNat_add]
  rfl

/-! ## The balance -/

/-- The counters against each other and against the mishaps. -/
structure Balanced (s : DllStats) (log : List Mishap) : Prop where
  timing : s.timingErrors =
    s.tRenViolations + s.tCycleViolations + s.tByteViolations + s.tPdViolations
  framing : s.framingErrors = s.crcErrors + s.tByteViolations + mishapCount log .refused
  retries : s.totalRetries =
    s.crcErrors + mishapCount log .refused + mishapCount log .earlyTimeout

section Balance

variable {s : DllStats} {log : List Mishap} (h : Balanced s log)

include h

/-- A timing violation that is not about the gap between two bytes. -/
theorem Balanced.violation {count : DllStats → DllStats}
    (hcount : ∀ s : DllStats, count s = { s with tRenViolations := s.tRenViolations + 1 } ∨
      count s = { s with tCycleViolations := s.tCycleViolations + 1 } ∨
      count s = { s with tPdViolations := s.tPdViolations + 1 }) :
    Balanced (count { s with timingErrors := s.timingErrors + 1 }) log := by
  have htiming := h.timing
  rcases hcount { s with timingErrors := s.timingErrors + 1 } with he | he | he
  all_goals
    rw [he]
    refine ⟨?_, h.framing, h.retries⟩
    dsimp only
    rw [htiming]
    ac_rfl

/-- The inter-byte timeout. -/
theorem Balanced.byteTimeout :
    Balanced { s with
      timingErrors := s.timingErrors + 1
      tByteViolations := s.tByteViolations + 1
      framingErrors := s.framingErrors + 1 } log := by
  refine ⟨?_, ?_, h.retries⟩
  · dsimp only
    rw [h.timing]
    ac_rfl
  · dsimp only
    rw [h.framing]
    ac_rfl

/-- A fallback after a timeout that is noticed before the receive loop. -/
theorem Balanced.early :
    Balanced { s with totalRetries := s.totalRetries + 1 } (log ++ [.earlyTimeout]) := by
  refine ⟨h.timing, ?_, ?_⟩
  · rw [mishapCount_append]
    show _ = s.crcErrors + s.tByteViolations + (mishapCount log .refused + 0)
    rw [UInt32.add_zero]
    exact h.framing
  · rw [mishapCount_append, mishapCount_append]
    dsimp only
    rw [h.retries]
    show _ = s.crcErrors + (mishapCount log .refused + 0) + (mishapCount log .earlyTimeout + 1)
    rw [UInt32.add_zero]
    ac_rfl

/-- A frame that is refused for its MC byte. -/
theorem Balanced.refused :
    Balanced { s with
      framingErrors := s.framingErrors + 1
      totalRetries := s.totalRetries + 1 } (log ++ [.refused]) := by
  refine ⟨h.timing, ?_, ?_⟩
  · rw [mishapCount_append]
    dsimp only
    rw [h.framing]
    show _ = s.crcErrors + s.tByteViolations + (mishapCount log .refused + 1)
    ac_rfl
  · rw [mishapCount_append, mishapCount_append]
    dsimp only
    rw [h.retries]
    show _ = s.crcErrors + (mishapCount log .refused + 1) + (mishapCount log .earlyTimeout + 0)
    rw [UInt32.add_zero]
    ac_rfl

/-- A frame with a wrong checksum. -/
theorem Balanced.rejected :
    Balanced { s with
      crcErrors := s.crcErrors + 1
      framingErrors := s.framingErrors + 1
      totalRetries := s.totalRetries + 1 } log := by
  refine ⟨h.timing, ?_, ?_⟩
  · dsimp only
    rw [h.framing]
    ac_rfl
  · dsimp only
    rw [h.retries]
    ac_rfl

end Balance

/-! ## One received byte -/

theorem stats_dllEnterFallback (cfg : BuildConfig) (c : DllCtx) :
    (dllEnterFallback cfg c).stats = { c.stats with totalRetries := c.stats.totalRetries + 1 } := by
  unfold dllEnterFallback
  dsimp only
  split_ifs <;> rfl

section Byte

variable (cfg : BuildConfig) {c : DllCtx} {log : List Mishap}

theorem balanced_rxAssemble (hb : Bounded c) (h : Balanced c.stats log) (rx : RxByte) :
    Balanced (rxAssemble cfg c rx).stats log := by
  have hgap : Balanced (beforeAssemble cfg c rx).stats log := by
    simp only [beforeAssemble, byteGap]
    split_ifs
    · exact h.byteTimeout
    · exact h
  have hbounded := bounded_beforeAssemble cfg hb rx
  show Balanced (assemble (beforeAssemble cfg c rx) rx.byte rx.nowUs).stats log
  generalize beforeAssemble cfg c rx = g at hgap hbounded
  unfold assemble
  split_ifs with h0 h48
  · exact hgap
  · exact hgap
  · -- the frame buffer is never full
    obtain ⟨hlt, hmax⟩ := hbounded.short (Nat.pos_of_ne_zero h0)
    rw [frameBufSize] at h48
    omega

theorem balanced_cycleStart (h : Balanced c.stats log) (procUs : UInt64) :
    Balanced (cycleStart cfg c procUs).stats log := by
  simp only [cycleStart]
  split_ifs
  · exact h.violation fun _ => .inr (.inl rfl)
  · exact h

theorem balanced_afterSend (h : Balanced c.stats log) (txUs : UInt64) :
    Balanced (afterSend cfg c txUs).stats log := by
  simp only [afterSend]
  split_ifs
  · exact h.violation fun _ => .inl rfl
  · exact h

theorem balanced_dllHandleOperateType12 (h : Balanced c.stats log) (rx : RxByte) :
    Balanced (dllHandleOperateType12 cfg c rx).1.stats log := by
  unfold dllHandleOperateType12
  dsimp only
  by_cases hsend : c.hasSend = true
  · rw [if_pos hsend]
    exact balanced_afterSend cfg (c := { c with
      pdOut := if c.pdOutLenCurrent > 0 then blit c.pdOut 0 (pdField c) else c.pdOut
      isdu := odMachine.final c.isdu (odField c) }) h rx.txUs
  · rw [if_neg hsend]
    exact h

/-- A frame with a right checksum. -/
theorem balanced_dllAcceptFrame (h : Balanced c.stats log) (rx : RxByte) :
    Balanced (dllAcceptFrame cfg c rx).1.stats
      (log ++ if frameKind c.state c.reqLen (c.frameBuf 0) = .refused then [.refused] else []) := by
  rw [dllAcceptFrame_eq]
  cases hk : frameKind c.state c.reqLen (c.frameBuf 0) with
  | refused =>
    rw [if_pos rfl]
    show Balanced (dllEnterFallback cfg (framingError c)).stats _
    rw [stats_dllEnterFallback]
    exact h.refused
  | type12 =>
    rw [if_neg (by decide), List.append_nil]
    exact balanced_dllHandleOperateType12 cfg (c := { c with state := .operate }) h rx
  | ignored | transition | type0 =>
    rw [if_neg (by decide), List.append_nil]
    exact h

/-- A complete frame. -/
theorem balanced_dllHandleFrame (h : Balanced c.stats log) (rx : RxByte) :
    Balanced (dllHandleFrame cfg c rx).1.stats
      (log ++ if frameCrcOk c = true ∧ frameKind c.state c.reqLen (c.frameBuf 0) = .refused then
        [.refused] else []) := by
  have hcyc := balanced_cycleStart cfg h rx.procUs
  obtain ⟨_, _, he, -⟩ := cycleStart_eq cfg c rx.procUs
  have hcrc : frameCrcOk (cycleStart cfg c rx.procUs) = frameCrcOk c := by rw [he]; rfl
  simp only [dllHandleFrame, hcrc]
  by_cases hok : frameCrcOk c = true
  · have hacc := balanced_dllAcceptFrame cfg hcyc rx
    rw [if_pos hok]
    simp only [hok, true_and]
    rw [he] at hacc ⊢
    exact hacc
  · rw [if_neg hok, if_neg fun hboth => hok hboth.1, List.append_nil]
    show Balanced (dllEnterFallback cfg _).stats log
    rw [stats_dllEnterFallback]
    exact hcyc.rejected

/-- **One received byte keeps the balance.** -/
theorem balanced_rxByte (hb : Bounded c) (h : Balanced c.stats log) (rx : RxByte) :
    Balanced (rxByte cfg c rx).1.stats (log ++ refusedAt cfg c rx) := by
  have ha := balanced_rxAssemble cfg hb h rx
  simp only [rxByte, refusedAt]
  generalize rxAssemble cfg c rx = c' at ha
  by_cases hfull : frameComplete c' = true
  · simp only [hfull, if_true, true_and]
    exact balanced_dllHandleFrame cfg ha rx
  · rw [if_neg hfull, if_neg fun hall => hfull hall.1, List.append_nil]
    exact ha

end Byte

/-! ## Whole runs -/

theorem balanced_callGap (cfg : BuildConfig) {c : DllCtx} {log : List Mishap}
    (h : Balanced c.stats log) (nowUs : UInt64) :
    Balanced (callGap cfg c nowUs).stats (log ++ earlyTimeoutAt c nowUs) := by
  simp only [callGap, earlyTimeoutAt, GapOk, not_not]
  split_ifs
  · rw [stats_dllEnterFallback]
    exact h.byteTimeout.early
  · rw [List.append_nil]
    exact h

theorem balanced_dllReceive (cfg : BuildConfig) {c : DllCtx} {log : List Mishap} (hb : Bounded c)
    (h : Balanced c.stats log) (env : CallEnv) :
    Balanced (dllReceive cfg c env).ctx.stats
      (log ++ (noteGap earlyTimeoutAt c env ++ noteReceive cfg (refusedAt cfg) c env)) := by
  refine (dllReceive_collect_induct cfg (f := refusedAt cfg) (g := earlyTimeoutAt)
    (P := fun c log => Bounded c ∧ Balanced c.stats log)
    (Q := fun c log => Bounded c ∧ Balanced c.stats log)
    ?_ ?_ ?_ ?_ ?_ (fun _ _ hq => hq) ⟨hb, h⟩ env).2
  · rintro c nowMs log ⟨hb, h⟩
    refine ⟨bounded_inactivityReset hb nowMs, ?_⟩
    unfold inactivityReset
    dsimp only
    split_ifs <;> exact h
  · rintro c rxs log ⟨hb, h⟩
    refine ⟨bounded_drainRx cfg hb rxs, ?_⟩
    unfold drainRx
    split_ifs
    · exact h
    · exact h.violation fun _ => .inr (.inr rfl)
  · rintro c env log ⟨hb, h⟩ -
    refine ⟨bounded_detectWakeup hb env, ?_⟩
    unfold detectWakeup
    split_ifs <;> exact h
  · rintro c nowUs log ⟨hb, h⟩ -
    exact ⟨bounded_callGap cfg hb nowUs, balanced_callGap cfg h nowUs⟩
  · rintro c rx log ⟨hb, h⟩
    exact ⟨bounded_rxByte cfg hb rx, balanced_rxByte cfg hb h rx⟩

/-- The engine reads the counters only. -/
theorem stats_isduProcess (cfg : BuildConfig) (h : Host) (c : IsduCtx) :
    (isduProcess cfg h c).1.stats = h.stats := by
  by_cases hs : c.state = .serviceExecute
  · rw [isduProcess_fst cfg h hs]
    by_cases hi : c.header.index = idxSystemCommand
    · unfold handleStandardCommands
      rw [if_pos hi]
      split_ifs
      · simp only [handleSystemCommand, apply_ite (fun r : Host × IsduCtx => r.1.stats),
          apply_ite Host.stats, ite_self]
      · rfl
      · obtain ⟨_, hevent⟩ := host_handleEventRead cfg h c
        rw [hevent]
    · rw [onlyStore_handleStandardCommands cfg h hi]
  · rw [isduProcess_of_ne cfg h hs]

theorem balanced_dllPollDiagnostics (cfg : BuildConfig) {c : DllCtx} {log : List Mishap}
    (h : Balanced c.stats log) (env : CallEnv) :
    Balanced (dllPollDiagnostics cfg c env).stats log := by
  have hshort : ∀ c : DllCtx, Balanced c.stats log →
      Balanced (if env.shortCircuit then trigger cfg { c with
        stats := { c.stats with shortCircuits := c.stats.shortCircuits + 1 } }
        eventPhyShortCircuit .error else c).stats log := by
    intro c hc
    split_ifs
    · exact ⟨hc.timing, hc.framing, hc.retries⟩
    · exact hc
  unfold dllPollDiagnostics
  cases env.voltageMv with
  | none => exact hshort c h
  | some v =>
    dsimp only
    refine hshort _ ?_
    split_ifs
    · exact ⟨h.timing, h.framing, h.retries⟩
    · exact h

/-- **One call keeps the balance.** -/
theorem balanced_deviceStep (cfg : BuildConfig) {d : Device} {log : List Mishap}
    (hb : Bounded d.dll) (h : Balanced d.dll.stats log) (call : Call) :
    Balanced (deviceStep cfg d call).1.dll.stats (log ++ mishapsOf cfg d call) := by
  cases call with
  | process env =>
    refine balanced_dllReceive cfg (bounded_polled cfg hb env) ?_ env
    refine balanced_dllPollDiagnostics cfg ?_ env
    show Balanced (isduProcess cfg d.host d.dll.isdu).1.stats log
    rw [stats_isduProcess]
    exact h
  | pdInputUpdate data valid =>
    simp only [deviceStep, pdInputUpdate, mishapsOf, List.append_nil]
    split_ifs <;> exact h
  | _ =>
    simp only [mishapsOf, List.append_nil]
    exact h

/-- **The statistics are consistent.** In every run from `iolink_init`, modulo
    2^32. -/
theorem stats_consistent (cfg : BuildConfig) (config : Config) (hout : config.pdOutLen ≤ 32)
    (hasSend : Bool) (nowUs : UInt64) (image : Option ParamsNvm) (store : Store)
    (calls : List Call) :
    let d₀ := iolinkInit cfg config hasSend nowUs image store
    let s := dllGetStats ((deviceMachine cfg).final d₀ calls).dll
    let refused := mishapCount (mishaps cfg d₀ calls) .refused
    let early := mishapCount (mishaps cfg d₀ calls) .earlyTimeout
    s.timingErrors =
        s.tRenViolations + s.tCycleViolations + s.tByteViolations + s.tPdViolations ∧
      s.framingErrors = s.crcErrors + s.tByteViolations + refused ∧
      s.totalRetries = s.crcErrors + refused + early := by
  intro d₀ s refused early
  have hinit : Bounded d₀.dll ∧ Balanced d₀.dll.stats [] :=
    ⟨bounded_iolinkInit cfg hout hasSend nowUs image store, ⟨rfl, rfl, rfl⟩⟩
  have hrun := (deviceMachine cfg).final_collect_induct (f := mishapsOf cfg)
    (P := fun d log => Bounded d.dll ∧ Balanced d.dll.stats log)
    (fun d call log hd =>
      ⟨bounded_deviceStep cfg hd.1 call, balanced_deviceStep cfg hd.1 hd.2 call⟩)
    hinit calls
  rw [List.nil_append] at hrun
  exact ⟨hrun.2.timing, hrun.2.framing, hrun.2.retries⟩

/-- A run to OPERATE, then a frame on a forbidden channel and one with a wrong
    checksum. -/
def refusedCalls : List Call :=
  startupCalls .type11 ++ [.process (callWith false (cyclicFrame 0x20 0 [0] [0])),
    .process (callWith false [0, 0, 0, 0, 0xFF])]

theorem stats_consistent_refused :
    let d₀ := iolinkInit {} (sampleConfig .type11) true 0 none storeInit
    let s := dllGetStats ((deviceMachine {}).final d₀ refusedCalls).dll
    s.crcErrors = 1 ∧ mishaps {} d₀ refusedCalls = [.refused] ∧
      s.framingErrors = s.crcErrors + s.tByteViolations + 1 := by
  have hlog : mishaps {} (iolinkInit {} (sampleConfig .type11) true 0 none storeInit) refusedCalls =
      [.refused] := by decide +kernel
  have h := stats_consistent {} (sampleConfig .type11) (by decide) true 0 none storeInit
    refusedCalls
  simp only [hlog] at h
  exact ⟨by decide +kernel, hlog, h.2.1⟩

end Iolinki
