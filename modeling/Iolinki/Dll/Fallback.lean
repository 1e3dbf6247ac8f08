import Iolinki.Dll.Frames
import Iolinki.Dll.Loop
import Iolinki.Lib.Streak

/-!
# The fallback counter

`fallback_count` is meant to count failures in a row: frames with a wrong
checksum and frames that are refused for their MC byte. The transition command
and a reply to a Type 1 or Type 2 frame reset it. A Type 0 frame that is accepted
and answered does not, so that failures with good Type 0 frames between them add
up.

* `fallbackCount_rxByte`: the counter after a received byte.
* `fallback_consecutive`: as long as no frame is accepted with the counter above
  0 and left there, a switch to SIO mode follows a full row of failures.
-/

namespace Iolinki

open Iolinki.Lib

/-! ## Complete frames -/

/-- The frame in the buffer has a wrong checksum or is refused for its MC
    byte. -/
def Failed (c : DllCtx) : Prop :=
  frameCrcOk c = false ∨ frameKind c.state c.reqLen (c.frameBuf 0) = .refused

instance : DecidablePred Failed := fun _ => inferInstanceAs (Decidable (_ ∨ _))

/-- `dll_enter_fallback` is called for the frame and switches the PHY to SIO mode
    (line 94). -/
def SwitchesToSio (c : DllCtx) : Prop :=
  Failed c ∧ (c.fallbackCount + 1) % 256 ≥ c.sioFallbackThreshold

instance : DecidablePred SwitchesToSio := fun _ => inferInstanceAs (Decidable (_ ∧ _))

/-- The frame is accepted, and `fallback_count` is not reset: it is a Type 0
    frame, or `phy->send` is NULL. -/
def KeepsCount (c : DllCtx) : Prop :=
  ¬ Failed c ∧ (frameKind c.state c.reqLen (c.frameBuf 0) = .ignored ∨
    frameKind c.state c.reqLen (c.frameBuf 0) = .type0 ∨
    (frameKind c.state c.reqLen (c.frameBuf 0) = .type12 ∧ c.hasSend = false))

instance : DecidablePred KeepsCount := fun _ => inferInstanceAs (Decidable (_ ∧ _))

/-- The context with a complete frame, if the byte completes one. -/
def completeAt (cfg : BuildConfig) (c : DllCtx) (rx : RxByte) : List DllCtx :=
  if frameComplete (rxAssemble cfg c rx) then [rxAssemble cfg c rx] else []

/-- The complete frames of a run. -/
def completeFrames (cfg : BuildConfig) (d : Device) (calls : List Call) : List DllCtx :=
  (deviceMachine cfg).collect (noteCall cfg (completeAt cfg)) d calls

/-- A failed frame is only counted. -/
theorem dllHandleFrame_of_failed (cfg : BuildConfig) {c : DllCtx} (h : Failed c) (rx : RxByte) :
    ∃ stats events, dllHandleFrame cfg c rx = (dllEnterFallback cfg
      { c with stats := stats, events := events, lastCycleStartUs := rx.procUs }, none) := by
  obtain ⟨stats, events, he, -⟩ := cycleStart_eq cfg c rx.procUs
  simp only [dllHandleFrame, he]
  split_ifs with hcrc
  · have hkind : frameKind c.state c.reqLen (c.frameBuf 0) = .refused :=
      h.resolve_left fun hbad => Bool.false_ne_true (hbad.symm.trans hcrc)
    rw [dllAcceptFrame_eq]
    simp only [hkind]
    exact ⟨_, _, rfl⟩
  · exact ⟨_, _, rfl⟩

theorem phyMode_dllEnterFallback (cfg : BuildConfig) (c : DllCtx) :
    (dllEnterFallback cfg c).phyMode =
      if (c.fallbackCount + 1) % 256 ≥ c.sioFallbackThreshold then .sio else c.phyMode := by
  unfold dllEnterFallback
  dsimp only
  split_ifs <;> rfl

/-- `SwitchesToSio` are the frames after which a device in SDCI mode is in SIO
    mode. -/
theorem switchesToSio_iff (cfg : BuildConfig) {c : DllCtx} (hmode : c.phyMode ≠ .sio)
    (rx : RxByte) : SwitchesToSio c ↔ (dllHandleFrame cfg c rx).1.phyMode = .sio := by
  by_cases hf : Failed c
  · obtain ⟨_, _, he⟩ := dllHandleFrame_of_failed cfg hf rx
    rw [he, phyMode_dllEnterFallback]
    dsimp only
    split_ifs with hlast
    · exact ⟨fun _ => rfl, fun _ => ⟨hf, hlast⟩⟩
    · exact ⟨fun hs => absurd hs.2 hlast, fun hm => absurd hm hmode⟩
  · refine ⟨fun hs => absurd hs.1 hf, fun hm => absurd ?_ hmode⟩
    cases frameOutcome_dllHandleFrame cfg c rx with
    | ignored _ _ _ phyMode | transition _ _ _ phyMode | type0 _ _ _ phyMode
    | type12 _ _ _ phyMode => exact phyMode.symm.trans hm
    | sio bad | restart bad | counted bad => exact absurd bad hf

/-! ## The counter -/

/-- The counter, the threshold and the switch for the timing checks are the same
    in both contexts. -/
structure SameCount (c c' : DllCtx) : Prop where
  fallbackCount : c'.fallbackCount = c.fallbackCount
  threshold : c'.sioFallbackThreshold = c.sioFallbackThreshold
  enforceTiming : c'.enforceTiming = c.enforceTiming

theorem sameCount_rxAssemble (cfg : BuildConfig) (c : DllCtx) (rx : RxByte) :
    SameCount c (rxAssemble cfg c rx) := by
  simp only [rxAssemble, assemble, byteGap]
  split_ifs <;> exact ⟨rfl, rfl, rfl⟩

theorem sameCount_inactivityReset (c : DllCtx) (nowMs : UInt32) :
    SameCount c (inactivityReset c nowMs) := by
  unfold inactivityReset
  dsimp only
  split_ifs <;> exact ⟨rfl, rfl, rfl⟩

theorem sameCount_drainRx (cfg : BuildConfig) (c : DllCtx) (rxs : List RxByte) :
    SameCount c (drainRx cfg c rxs) := by
  unfold drainRx
  split_ifs <;> exact ⟨rfl, rfl, rfl⟩

theorem sameCount_detectWakeup (c : DllCtx) (env : CallEnv) : SameCount c (detectWakeup c env) := by
  unfold detectWakeup
  split_ifs <;> exact ⟨rfl, rfl, rfl⟩

/-- The counter after a complete frame. -/
structure CountAfter (c c' : DllCtx) : Prop where
  threshold : c'.sioFallbackThreshold = c.sioFallbackThreshold
  enforceTiming : c'.enforceTiming = c.enforceTiming
  switched : SwitchesToSio c → c'.fallbackCount = 0
  failed : Failed c → ¬ SwitchesToSio c → c'.fallbackCount = (c.fallbackCount + 1) % 256
  kept : KeepsCount c → c'.fallbackCount = c.fallbackCount
  reset : ¬ Failed c → ¬ KeepsCount c → c'.fallbackCount = 0

theorem countAfter_dllEnterFallback (cfg : BuildConfig) {c c₁ : DllCtx} (h : SameCount c c₁)
    (hf : Failed c) : CountAfter c (dllEnterFallback cfg c₁) := by
  have hcount := h.fallbackCount
  have hthr := h.threshold
  have henf := h.enforceTiming
  unfold dllEnterFallback
  dsimp only
  split_ifs with hlast hstate
  · rw [hcount, hthr] at hlast
    exact ⟨hthr, henf, fun _ => rfl, fun _ hno => absurd ⟨hf, hlast⟩ hno, fun hk => absurd hf hk.1,
      fun hno => absurd hf hno⟩
  all_goals
    rw [hcount, hthr] at hlast
    exact ⟨hthr, henf, fun hs => absurd hs.2 hlast,
      fun _ _ => congrArg (fun n => (n + 1) % 256) hcount, fun hk => absurd hf hk.1,
      fun hno => absurd hf hno⟩

/-- A Type 1 or Type 2 frame resets the counter if it is answered. -/
theorem fallbackCount_dllHandleOperateType12 (cfg : BuildConfig) (c : DllCtx) (rx : RxByte) :
    let c' := (dllHandleOperateType12 cfg c rx).1
    c'.fallbackCount = (if c.hasSend then 0 else c.fallbackCount) ∧
      c'.sioFallbackThreshold = c.sioFallbackThreshold ∧ c'.enforceTiming = c.enforceTiming := by
  unfold dllHandleOperateType12
  dsimp only
  by_cases hsend : c.hasSend = true
  · rw [if_pos hsend, if_pos hsend]
    obtain ⟨_, _, _, he, -⟩ := afterSend_eq cfg { c with
      pdOut := if c.pdOutLenCurrent > 0 then blit c.pdOut 0 (pdField c) else c.pdOut
      isdu := odMachine.final c.isdu (odField c) } rx.txUs
    rw [he]
    exact ⟨rfl, rfl, rfl⟩
  · rw [if_neg hsend, if_neg hsend]
    exact ⟨rfl, rfl, rfl⟩

/-- **The counter after a complete frame.** -/
theorem countAfter_dllHandleFrame (cfg : BuildConfig) (c : DllCtx) (rx : RxByte) :
    CountAfter c (dllHandleFrame cfg c rx).1 := by
  by_cases hf : Failed c
  · obtain ⟨_, _, he⟩ := dllHandleFrame_of_failed cfg hf rx
    rw [he]
    exact countAfter_dllEnterFallback cfg ⟨rfl, rfl, rfl⟩ hf
  · have hcrc : frameCrcOk c = true := by
      by_contra hbad
      exact hf (.inl (Bool.eq_false_iff.mpr hbad))
    obtain ⟨stats, events, he, -⟩ := cycleStart_eq cfg c rx.procUs
    simp only [dllHandleFrame, he]
    rw [if_pos (show frameCrcOk { c with
      stats := stats, events := events, lastCycleStartUs := rx.procUs } = true from hcrc),
      dllAcceptFrame_eq]
    dsimp only
    cases hk : frameKind c.state c.reqLen (c.frameBuf 0) with
    | refused => exact absurd (.inr hk) hf
    | ignored | type0 =>
      exact ⟨rfl, rfl, fun hs => absurd hs.1 hf, fun h => absurd h hf, fun _ => rfl,
        fun _ hkeep => absurd ⟨hf, by simp [hk]⟩ hkeep⟩
    | transition =>
      refine ⟨rfl, rfl, fun hs => absurd hs.1 hf, fun h => absurd h hf, ?_, fun _ _ => rfl⟩
      rintro ⟨-, hkind⟩
      simp [hk] at hkind
    | type12 =>
      obtain ⟨hcount, hthr, henf⟩ := fallbackCount_dllHandleOperateType12 cfg
        { c with
          stats := stats, events := events, lastCycleStartUs := rx.procUs, state := .operate }
        rx
      dsimp only at hcount hthr henf
      refine ⟨hthr, henf, fun hs => absurd hs.1 hf, fun h => absurd h hf, ?_, ?_⟩
      · rintro ⟨-, hkind⟩
        have hnone : c.hasSend = false := by simpa [hk] using hkind
        exact hcount.trans (if_neg (Bool.eq_false_iff.mp hnone))
      · intro _ hkeep
        have hsome : c.hasSend = true := by
          by_contra hnone
          exact hkeep ⟨hf, .inr (.inr ⟨hk, Bool.eq_false_iff.mpr hnone⟩)⟩
        exact hcount.trans (if_pos hsome)

/-! ## Rows of failures -/

/-- The counter is the length of a row of failures at the end of the log, and
    every switch to SIO mode in the log came after a full row. -/
structure Rows (c : DllCtx) (log : List DllCtx) : Prop where
  threshold : c.sioFallbackThreshold = 3
  below : c.fallbackCount < 3
  row : EndsIn Failed c.fallbackCount log
  switches : ∀ pre f, pre ++ [f] <+: log → SwitchesToSio f →
    EndsIn Failed f.sioFallbackThreshold (pre ++ [f])

/-- Every frame that leaves the counter alone finds it at 0. -/
def NoneKept (log : List DllCtx) : Prop := ∀ f ∈ log, KeepsCount f → f.fallbackCount = 0

instance (log : List DllCtx) : Decidable (NoneKept log) :=
  inferInstanceAs (Decidable (∀ f ∈ log, KeepsCount f → f.fallbackCount = 0))

theorem Rows.of_count {c c' : DllCtx} {log : List DllCtx} (h : Rows c log)
    (hc : c'.fallbackCount = c.fallbackCount)
    (ht : c'.sioFallbackThreshold = c.sioFallbackThreshold) : Rows c' log :=
  ⟨ht.trans h.threshold, hc ▸ h.below, hc ▸ h.row, h.switches⟩

/-- The counter goes back to 0, or a failure is added to it. -/
theorem Rows.count {f c' : DllCtx} {log : List DllCtx} (h : Rows f log) (ha : CountAfter f c')
    (hkept : KeepsCount f → f.fallbackCount = 0) :
    c'.fallbackCount = 0 ∨
      (Failed f ∧ c'.fallbackCount = f.fallbackCount + 1 ∧ f.fallbackCount + 1 < 3) := by
  have hthr := h.threshold
  have hbelow := h.below
  by_cases hs : SwitchesToSio f
  · exact .inl (ha.switched hs)
  · by_cases hf : Failed f
    · have hlt : ¬ (f.fallbackCount + 1) % 256 ≥ f.sioFallbackThreshold := fun hge => hs ⟨hf, hge⟩
      refine .inr ⟨hf, ?_, by omega⟩
      rw [ha.failed hf hs]
      exact Nat.mod_eq_of_lt (by omega)
    · by_cases hk : KeepsCount f
      · exact .inl ((ha.kept hk).trans (hkept hk))
      · exact .inl (ha.reset hf hk)

/-- A switch to SIO mode ends a full row. -/
theorem Rows.switch {f : DllCtx} {log : List DllCtx} (h : Rows f log) (hs : SwitchesToSio f) :
    EndsIn Failed f.sioFallbackThreshold (log ++ [f]) := by
  obtain ⟨hf, hge⟩ := hs
  have hthr := h.threshold
  have hbelow := h.below
  rw [hthr] at hge ⊢
  obtain htwo : f.fallbackCount = 2 := by omega
  have hrow := h.row.concat hf
  rw [htwo] at hrow
  exact hrow

/-- A further frame in the log. -/
theorem Rows.frame {f c' : DllCtx} {log : List DllCtx} (h : Rows f log) (ha : CountAfter f c')
    (hkept : KeepsCount f → f.fallbackCount = 0) : Rows c' (log ++ [f]) := by
  have hthr := ha.threshold.trans h.threshold
  have hswitches : ∀ pre g, pre ++ [g] <+: log ++ [f] → SwitchesToSio g →
      EndsIn Failed g.sioFallbackThreshold (pre ++ [g]) := by
    intro pre g hpre hg
    rcases concat_prefix_concat_iff.mp hpre with ⟨rfl, rfl⟩ | hpre
    · exact h.switch hg
    · exact h.switches pre g hpre hg
  rcases h.count ha hkept with hzero | ⟨hf, hsucc, hlt⟩
  · refine ⟨hthr, hzero ▸ Nat.zero_lt_succ 2, ?_, hswitches⟩
    rw [hzero]
    exact endsIn_zero _ _
  · refine ⟨hthr, hsucc ▸ hlt, ?_, hswitches⟩
    rw [hsucc]
    exact h.row.concat hf

/-- **One received byte.** -/
theorem rows_rxByte (cfg : BuildConfig) {c : DllCtx} {log : List DllCtx} (h : Rows c log)
    (rx : RxByte) (hkept : NoneKept (completeAt cfg c rx)) :
    Rows (rxByte cfg c rx).1 (log ++ completeAt cfg c rx) := by
  have ha := h.of_count (sameCount_rxAssemble cfg c rx).1 (sameCount_rxAssemble cfg c rx).2
  simp only [rxByte, completeAt] at hkept ⊢
  generalize rxAssemble cfg c rx = f at ha hkept
  by_cases hfull : frameComplete f = true
  · rw [if_pos hfull] at hkept
    rw [if_pos hfull, if_pos hfull]
    have hcount := countAfter_dllHandleFrame cfg f rx
    exact ha.frame ⟨hcount.1, hcount.2, hcount.3, hcount.4, hcount.5, hcount.6⟩
      (hkept f (List.mem_singleton.mpr rfl))
  · rw [if_neg hfull, if_neg hfull, List.append_nil]
    exact ha

/-- The timing checks are off, and the frames that count are in rows. -/
def RowsOff (c : DllCtx) (log : List DllCtx) : Prop :=
  c.enforceTiming = false ∧ (NoneKept log → Rows c log)

theorem RowsOff.of_sameCount {c c' : DllCtx} {log : List DllCtx} (h : RowsOff c log)
    (hs : SameCount c c') : RowsOff c' log :=
  ⟨hs.enforceTiming.trans h.1, fun hkept => (h.2 hkept).of_count hs.1 hs.2⟩

/-- One call of `iolink_dll_process`. -/
theorem rows_dllReceive (cfg : BuildConfig) {c : DllCtx} {log : List DllCtx} (h : RowsOff c log)
    (env : CallEnv) :
    RowsOff (dllReceive cfg c env).ctx (log ++ noteReceive cfg (completeAt cfg) c env) := by
  refine dllReceive_note_induct cfg (P := RowsOff)
    (fun c nowMs _ hc => hc.of_sameCount (sameCount_inactivityReset c nowMs))
    (fun c rxs _ hc => hc.of_sameCount (sameCount_drainRx cfg c rxs))
    (fun c env _ hc => hc.of_sameCount (sameCount_detectWakeup c env)) ?_ ?_ h env
  · -- the timeout before the loop is off
    intro c nowUs log hc
    have hoff : callGap cfg c nowUs = c := by simp [callGap, hc.1]
    rw [hoff]
    exact hc
  · intro c rx log hc
    refine ⟨(kept_rxByte cfg c rx).enforceTiming.trans hc.1, fun hkept => ?_⟩
    exact rows_rxByte cfg (hc.2 fun f hf => hkept f (List.mem_append_left _ hf)) rx
      fun f hf => hkept f (List.mem_append_right _ hf)

/-- **One call of the application**, with the timing checks off in
    `iolink_process`. -/
theorem rows_deviceStep (cfg : BuildConfig) {d : Device} {log : List DllCtx}
    (h : NoneKept log → Rows d.dll log) {call : Call}
    (hoff : ∀ env, call = .process env → d.dll.enforceTiming = false)
    (hkept : NoneKept (log ++ noteCall cfg (completeAt cfg) d call)) :
    Rows (deviceStep cfg d call).1.dll (log ++ noteCall cfg (completeAt cfg) d call) := by
  cases call with
  | process env =>
    have hpolled : RowsOff (dllPollDiagnostics cfg (deviceIsduProcess cfg d).dll env) log := by
      obtain ⟨_, _, hp⟩ := polled_eq cfg d env
      rw [hp]
      exact ⟨hoff env rfl, fun hk => (h hk).of_count rfl rfl⟩
    exact (rows_dllReceive cfg hpolled env).2 hkept
  | pdInputUpdate data valid =>
    simp only [noteCall, List.append_nil] at hkept ⊢
    simp only [deviceStep, pdInputUpdate]
    split_ifs <;> exact (h hkept).of_count rfl rfl
  | _ =>
    simp only [noteCall, List.append_nil] at hkept ⊢
    exact (h hkept).of_count rfl rfl

/-- **A switch to SIO mode follows a full row of failures**, in every run from
    `iolink_init` with the timing checks off, if no frame is accepted that leaves
    the counter above 0. -/
theorem fallback_consecutive (cfg : BuildConfig) (config : Config) (hasSend : Bool)
    (nowUs : UInt64) (image : Option ParamsNvm) (store : Store) (calls : List Call) :
    let d₀ := iolinkInit cfg config hasSend nowUs image store
    (∀ pre env, pre ++ [Call.process env] <+: calls →
      ((deviceMachine cfg).final d₀ pre).dll.enforceTiming = false) →
    NoneKept (completeFrames cfg d₀ calls) →
    ∀ pre f, pre ++ [f] <+: completeFrames cfg d₀ calls → SwitchesToSio f →
      EndsIn Failed f.sioFallbackThreshold (pre ++ [f]) := by
  intro d₀ hoff hkept
  have hinit : NoneKept [] → Rows d₀.dll [] := by
    intro _
    refine ⟨rfl, Nat.zero_lt_succ 2, endsIn_zero _ _, ?_⟩
    intro pre f hpre
    simp at hpre
  have hsteps : ∀ pre call, pre ++ [call] <+: calls → ∀ env, call = .process env →
      ((deviceMachine cfg).final d₀ pre).dll.enforceTiming = false := by
    intro pre call hpre env hcall
    rw [hcall] at hpre
    exact hoff pre env hpre
  have hrun := (deviceMachine cfg).final_collect_of_steps (f := noteCall cfg (completeAt cfg))
    (P := fun d log => NoneKept log → Rows d.dll log)
    (Q := fun d call => ∀ env, call = .process env → d.dll.enforceTiming = false)
    (fun d call log hd hq hk => rows_deviceStep cfg hd hq hk) hinit hsteps
  rw [List.nil_append] at hrun
  exact (hrun hkept).switches

/-- A wake-up, then Type 0 frames in one burst. -/
def burstAfterWakeup (bytes : List UInt8) : List Call :=
  [.process (callWith true []), .process (callWith false bytes)]

/-- The complete frames of such a run. -/
def framesAfterWakeup (bytes : List UInt8) : List DllCtx :=
  completeFrames {} (iolinkInit {} (sampleConfig .type11) true 0 none storeInit)
    (burstAfterWakeup bytes)

/-- Three frames in a row with a wrong checksum. -/
theorem fallback_consecutive_three :
    let log := framesAfterWakeup [0x00, 0xFF, 0x00, 0xFF, 0x00, 0xFF]
    NoneKept log ∧ (∃ f ∈ log, SwitchesToSio f) ∧ EndsIn Failed 3 log := by
  intro log
  have hoff : ∀ pre ∈ (burstAfterWakeup [0x00, 0xFF, 0x00, 0xFF, 0x00, 0xFF]).inits,
      ((deviceMachine {}).final (iolinkInit {} (sampleConfig .type11) true 0 none storeInit)
        pre).dll.enforceTiming = false := by
    decide +kernel
  have hkept : NoneKept log := by decide +kernel
  have hne : log ≠ [] := by decide +kernel
  have hlast : ∀ h : log ≠ [], SwitchesToSio (log.getLast h) ∧
      (log.getLast h).sioFallbackThreshold = 3 := by
    decide +kernel
  have hpre : log.dropLast ++ [log.getLast hne] <+: log := by
    rw [List.dropLast_append_getLast hne]
  have h := fallback_consecutive {} (sampleConfig .type11) true 0 none storeInit
    (burstAfterWakeup [0x00, 0xFF, 0x00, 0xFF, 0x00, 0xFF])
    (fun pre env hp => hoff pre ((List.mem_inits _ _).mpr ((List.prefix_append pre _).trans hp)))
    hkept log.dropLast (log.getLast hne) hpre (hlast hne).1
  rw [List.dropLast_append_getLast hne, (hlast hne).2] at h
  exact ⟨hkept, ⟨_, List.getLast_mem hne, (hlast hne).1⟩, h⟩

/-- Three wrong checksums with an answered Type 0 frame after the first and the
    second. -/
def scatteredFailures : List UInt8 :=
  [0x00, 0xFF, 0x00, checksumCk 0x00 0, 0x00, 0xFF, 0x00, checksumCk 0x00 0, 0x00, 0xFF]

/-- Failures with good Type 0 frames between them add up. -/
theorem fallback_not_consecutive :
    let d₀ := iolinkInit {} (sampleConfig .type11) true 0 none storeInit
    let calls := burstAfterWakeup scatteredFailures
    let log := completeFrames {} d₀ calls
    (∀ pre ∈ calls.inits, ((deviceMachine {}).final d₀ pre).dll.enforceTiming = false) ∧
      ((deviceMachine {}).final d₀ calls).dll.phyMode = .sio ∧
      ∃ pre f, pre ++ [f] <+: log ∧ SwitchesToSio f ∧
        ¬ EndsIn Failed f.sioFallbackThreshold (pre ++ [f]) := by
  intro d₀ calls log
  have hne : log ≠ [] := by decide +kernel
  have hlast : ∀ h : log ≠ [], SwitchesToSio (log.getLast h) ∧
      ¬ EndsIn Failed (log.getLast h).sioFallbackThreshold log := by
    decide +kernel
  refine ⟨by decide +kernel, by decide +kernel, log.dropLast, log.getLast hne, ?_, (hlast hne).1,
    ?_⟩
  · rw [List.dropLast_append_getLast hne]
  · rw [List.dropLast_append_getLast hne]
    exact (hlast hne).2

end Iolinki
