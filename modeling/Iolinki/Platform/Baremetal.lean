import Iolinki.Dll.Gap

/-!
# The clock of the bare-metal port

Model of `src/platform/baremetal/time_utils.c`. The port has a 32-bit tick counter
of milliseconds. Its microsecond clock widens the counter to 64 bits, so that the
difference of two readings does not cancel a wrap-around of the counter, as the
difference of two 32-bit readings does.

`iolink_dll_process` takes three decisions from two readings of that clock: that
the gap between two bytes is too long (`Late`), that the delay after a wake-up is
not over (`awaitingDelay`), and that a cycle is too short (`TooSoon`). They are
compared with the true times, in milliseconds since the start.

* `late_right_iff`, `awaitingDelay_right_iff`, `tooSoon_right_iff`: each decision.
* `baremetal_decisions_iff`: all of them.
-/

namespace Iolinki.Baremetal

/-- `g_iolink_ticks_ms`, `t` ms after the start. -/
def gIolinkTicksMs (t : ℕ) : UInt32 := UInt32.ofNat t

/-- `iolink_us_from_ms` (`include/iolinki/time_utils.h`, lines 19–22). -/
def iolinkUsFromMs (ms : UInt32) : UInt64 := ms.toUInt64 * 1000

/-- `iolink_time_get_us` (lines 27–31), `t` ms after the start. -/
def iolinkTimeGetUs (t : ℕ) : UInt64 := iolinkUsFromMs (gIolinkTicksMs t)

/-! ## The decisions -/

/-- The minimum cycle time is violated (lines 379–381 of `src/dll.c`). -/
def TooSoon (c : DllCtx) (procUs : UInt64) : Prop :=
  c.enforceTiming ∧ c.minCycleTimeUs > 0 ∧ c.lastCycleStartUs ≠ 0 ∧
    procUs - c.lastCycleStartUs < c.minCycleTimeUs.toUInt64

instance (c : DllCtx) (procUs : UInt64) : Decidable (TooSoon c procUs) :=
  inferInstanceAs (Decidable (_ ∧ _))

theorem cycleStart_of_tooSoon (cfg : BuildConfig) (c : DllCtx) (procUs : UInt64) :
    cycleStart cfg c procUs = { (if TooSoon c procUs then timingViolation cfg c fun s =>
      { s with tCycleViolations := s.tCycleViolations + 1 } else c) with
        lastCycleStartUs := procUs } :=
  rfl

/-- A partial frame, the last byte of which was received at `t`. -/
structure ByteAt (c : DllCtx) (t : ℕ) : Prop where
  enforceTiming : c.enforceTiming = true
  frameIndex : 0 < c.frameIndex
  limit : c.tByteLimitUs > 0
  lastByteUs : c.lastByteUs = iolinkTimeGetUs t

/-- A device that has detected a wake-up at `t`. -/
structure WokenAt (c : DllCtx) (t : ℕ) : Prop where
  enforceTiming : c.enforceTiming = true
  state : c.state = .awaitingComm
  deadline : c.wakeupDeadlineUs = iolinkTimeGetUs t + tDwuUs

/-- A device the last cycle of which has started at `t`. -/
structure CycleAt (c : DllCtx) (t : ℕ) : Prop where
  enforceTiming : c.enforceTiming = true
  minimum : c.minCycleTimeUs > 0
  lastCycleStartUs : c.lastCycleStartUs = iolinkTimeGetUs t

/-! ## Two readings of the clock -/

section Readings

variable {t₁ t₂ : ℕ}

theorem toNat_iolinkTimeGetUs (t : ℕ) : (iolinkTimeGetUs t).toNat = t % 2 ^ 32 * 1000 := by
  have hlt := Nat.mod_lt t (show 0 < 2 ^ 32 by decide)
  simp only [iolinkTimeGetUs, iolinkUsFromMs, gIolinkTicksMs, UInt64.toNat_mul,
    UInt32.toNat_toUInt64, UInt32.toNat_ofNat']
  show t % 2 ^ 32 * 1000 % 2 ^ 64 = _
  omega

theorem iolinkTimeGetUs_eq_zero_iff {t : ℕ} : iolinkTimeGetUs t = 0 ↔ t % 2 ^ 32 = 0 := by
  rw [← UInt64.toNat_inj, toNat_iolinkTimeGetUs]
  show t % 2 ^ 32 * 1000 = 0 ↔ _
  omega

/-- Two times less than 2^31 ms apart are in the same period of the counter, or the
    counter has wrapped around once. -/
theorem period_cases (hle : t₁ ≤ t₂) (hlt : t₂ - t₁ < 2 ^ 31) :
    (t₁ / 2 ^ 32 = t₂ / 2 ^ 32 ∧ t₂ % 2 ^ 32 = t₁ % 2 ^ 32 + (t₂ - t₁)) ∨
      (t₁ / 2 ^ 32 ≠ t₂ / 2 ^ 32 ∧ t₂ % 2 ^ 32 + 2 ^ 31 < t₁ % 2 ^ 32) := by
  omega

/-- The difference of two readings. -/
theorem toNat_elapsed (hle : t₁ ≤ t₂) (hlt : t₂ - t₁ < 2 ^ 31) :
    (t₁ / 2 ^ 32 = t₂ / 2 ^ 32 ∧
      (iolinkTimeGetUs t₂ - iolinkTimeGetUs t₁).toNat = 1000 * (t₂ - t₁)) ∨
    (t₁ / 2 ^ 32 ≠ t₂ / 2 ^ 32 ∧ t₁ % 2 ^ 32 ≠ 0 ∧
      2 ^ 32 ≤ (iolinkTimeGetUs t₂ - iolinkTimeGetUs t₁).toNat) := by
  have h₁ := Nat.mod_lt t₁ (show 0 < 2 ^ 32 by decide)
  rw [UInt64.toNat_sub, toNat_iolinkTimeGetUs, toNat_iolinkTimeGetUs]
  rcases period_cases hle hlt with ⟨hsame, hmod⟩ | ⟨hother, hmod⟩
  · refine .inl ⟨hsame, ?_⟩
    rw [hmod]
    omega
  · refine .inr ⟨hother, by omega, ?_⟩
    rw [Nat.mod_eq_of_lt (by omega)]
    omega

end Readings

/-! ## The decisions against the true times -/

section Decisions

variable {c : DllCtx} {t₁ t₂ : ℕ} (hle : t₁ ≤ t₂) (hlt : t₂ - t₁ < 2 ^ 31)

include hle hlt

/-- **The inter-byte gap.** After a wrap-around it always counts as too long; after
    a byte at a reading of 0 it never does. -/
theorem late_right_iff (h : ByteAt c t₁) :
    (Late c (iolinkTimeGetUs t₂) ↔ c.tByteLimitUs.toNat < 1000 * (t₂ - t₁)) ↔
      (t₁ / 2 ^ 32 = t₂ / 2 ^ 32 ∧ (t₁ % 2 ^ 32 = 0 → ¬ c.tByteLimitUs.toNat < 1000 * (t₂ - t₁))) ∨
        (t₁ / 2 ^ 32 ≠ t₂ / 2 ^ 32 ∧ c.tByteLimitUs.toNat < 1000 * (t₂ - t₁)) := by
  have hmax := c.tByteLimitUs.toNat_lt
  have hlate : Late c (iolinkTimeGetUs t₂) ↔ t₁ % 2 ^ 32 ≠ 0 ∧
      c.tByteLimitUs.toNat < (iolinkTimeGetUs t₂ - iolinkTimeGetUs t₁).toNat := by
    unfold Late
    rw [h.lastByteUs, ne_eq, iolinkTimeGetUs_eq_zero_iff, gt_iff_lt (x := iolinkTimeGetUs t₂ - _),
      UInt64.lt_iff_toNat_lt, UInt32.toNat_toUInt64]
    simp only [h.frameIndex, h.enforceTiming, h.limit, true_and]
  rw [hlate]
  rcases toNat_elapsed hle hlt with ⟨hsame, he⟩ | ⟨hother, hne, he⟩
  · rw [he]
    simp only [hsame, true_and, ne_eq, not_true_eq_false, false_and, or_false]
    tauto
  · have hover : c.tByteLimitUs.toNat < (iolinkTimeGetUs t₂ - iolinkTimeGetUs t₁).toNat := by omega
    simp only [hother, hne, hover, ne_eq, not_false_eq_true, true_and, false_and, false_or,
      true_iff]

/-- **The delay after a wake-up.** After a wrap-around it is never over. -/
theorem awaitingDelay_right_iff (h : WokenAt c t₁) :
    (awaitingDelay c (iolinkTimeGetUs t₂) = true ↔ 1000 * t₂ < 1000 * t₁ + tDwuUs.toNat) ↔
      t₁ / 2 ^ 32 = t₂ / 2 ^ 32 := by
  have h₁ := Nat.mod_lt t₁ (show 0 < 2 ^ 32 by decide)
  have hdead : (iolinkTimeGetUs t₁ + tDwuUs).toNat = t₁ % 2 ^ 32 * 1000 + 80 := by
    rw [UInt64.toNat_add, toNat_iolinkTimeGetUs]
    show (t₁ % 2 ^ 32 * 1000 + 80) % 2 ^ 64 = _
    omega
  have hwait : awaitingDelay c (iolinkTimeGetUs t₂) = true ↔
      t₂ % 2 ^ 32 * 1000 < t₁ % 2 ^ 32 * 1000 + 80 := by
    have hne : c.wakeupDeadlineUs ≠ 0 := by
      rw [h.deadline, ← UInt64.toNat_inj.ne, hdead]
      exact Nat.succ_ne_zero _
    unfold awaitingDelay
    simp only [h.state, h.enforceTiming, hne, ne_eq, not_false_eq_true, decide_true, Bool.and_self,
      Bool.true_and, decide_eq_true_eq]
    rw [h.deadline, UInt64.lt_iff_toNat_lt, hdead, toNat_iolinkTimeGetUs]
  rw [hwait, show tDwuUs.toNat = 80 from rfl]
  rcases period_cases hle hlt with ⟨hsame, hmod⟩ | ⟨hother, hmod⟩
  · simp only [hsame, iff_true]
    omega
  · simp only [hother, iff_false]
    omega

/-- **The minimum cycle time.** After a wrap-around, and after a cycle that started
    at a reading of 0, no violation is seen. -/
theorem tooSoon_right_iff (h : CycleAt c t₁) :
    (TooSoon c (iolinkTimeGetUs t₂) ↔ 1000 * (t₂ - t₁) < c.minCycleTimeUs.toNat) ↔
      (t₁ / 2 ^ 32 = t₂ / 2 ^ 32 ∧ t₁ % 2 ^ 32 ≠ 0) ∨
        ¬ 1000 * (t₂ - t₁) < c.minCycleTimeUs.toNat := by
  have hmax := c.minCycleTimeUs.toNat_lt
  have hsoon : TooSoon c (iolinkTimeGetUs t₂) ↔ t₁ % 2 ^ 32 ≠ 0 ∧
      (iolinkTimeGetUs t₂ - iolinkTimeGetUs t₁).toNat < c.minCycleTimeUs.toNat := by
    unfold TooSoon
    rw [h.lastCycleStartUs, ne_eq, iolinkTimeGetUs_eq_zero_iff, UInt64.lt_iff_toNat_lt,
      UInt32.toNat_toUInt64]
    simp only [h.enforceTiming, h.minimum, true_and]
  rw [hsoon]
  rcases toNat_elapsed hle hlt with ⟨hsame, he⟩ | ⟨hother, -, he⟩
  · rw [he]
    simp only [hsame, true_and]
    tauto
  · have hno : ¬ (iolinkTimeGetUs t₂ - iolinkTimeGetUs t₁).toNat <
        c.minCycleTimeUs.toNat := by omega
    simp only [hother, hno, and_false, false_and, false_or, false_iff]

end Decisions

/-- **The three decisions are right exactly within a period of the counter**, and
    after a reading of 0 only if the gap is not too long and the cycle not too
    short. -/
theorem baremetal_decisions_iff (t₁ t₂ : ℕ) (hle : t₁ ≤ t₂) (hlt : t₂ - t₁ < 2 ^ 31)
    (byte woken cycle : DllCtx) (hbyte : ByteAt byte t₁) (hwoken : WokenAt woken t₁)
    (hcycle : CycleAt cycle t₁) :
    ((Late byte (iolinkTimeGetUs t₂) ↔ byte.tByteLimitUs.toNat < 1000 * (t₂ - t₁)) ∧
      (awaitingDelay woken (iolinkTimeGetUs t₂) = true ↔ 1000 * t₂ < 1000 * t₁ + tDwuUs.toNat) ∧
      (TooSoon cycle (iolinkTimeGetUs t₂) ↔ 1000 * (t₂ - t₁) < cycle.minCycleTimeUs.toNat)) ↔
    t₁ / 2 ^ 32 = t₂ / 2 ^ 32 ∧
      (t₁ % 2 ^ 32 = 0 → ¬ byte.tByteLimitUs.toNat < 1000 * (t₂ - t₁) ∧
        ¬ 1000 * (t₂ - t₁) < cycle.minCycleTimeUs.toNat) := by
  rw [late_right_iff hle hlt hbyte, awaitingDelay_right_iff hle hlt hwoken,
    tooSoon_right_iff hle hlt hcycle]
  by_cases hsame : t₁ / 2 ^ 32 = t₂ / 2 ^ 32
  · simp only [hsame, true_and, ne_eq, not_true_eq_false, false_and, or_false]
    tauto
  · simp only [hsame, false_and, and_false]

/-- Contexts with the timing checks on and all time stamps at `t`. -/
def byteAt (t : ℕ) : DllCtx :=
  { dllInit {} true with enforceTiming := true, frameIndex := 1, lastByteUs := iolinkTimeGetUs t }

def wokenAt (t : ℕ) : DllCtx :=
  { dllInit {} true with
    enforceTiming := true, state := .awaitingComm, wakeupDeadlineUs := iolinkTimeGetUs t + tDwuUs }

def cycleAt (t : ℕ) : DllCtx :=
  { dllInit {} true with
    enforceTiming := true, minCycleTimeUs := 2000, lastCycleStartUs := iolinkTimeGetUs t }

/-- One millisecond in the middle of a period. -/
theorem baremetal_decisions_five :
    (Late (byteAt 5) (iolinkTimeGetUs 6) ↔ (byteAt 5).tByteLimitUs.toNat < 1000 * (6 - 5)) ∧
      (awaitingDelay (wokenAt 5) (iolinkTimeGetUs 6) = true ↔ 1000 * 6 < 1000 * 5 + tDwuUs.toNat) ∧
      (TooSoon (cycleAt 5) (iolinkTimeGetUs 6) ↔
        1000 * (6 - 5) < (cycleAt 5).minCycleTimeUs.toNat) :=
  (baremetal_decisions_iff 5 6 (by decide) (by decide) (byteAt 5) (wokenAt 5) (cycleAt 5)
    ⟨rfl, by decide, by decide, rfl⟩ ⟨rfl, rfl, rfl⟩ ⟨rfl, by decide, rfl⟩).mpr (by decide)

/-- The device has detected a wake-up one millisecond before the counter wraps
    around. -/
def wokenBeforeWrap : Device :=
  (deviceMachine {}).final (iolinkInit {} (sampleConfig .type11) true 0 none storeInit)
    [.setTimingEnforcement true,
      .process { callWith true [] with wakeupUs := iolinkTimeGetUs (2 ^ 32 - 1) }]

/-- One millisecond later the delay of 80 µs is still not over for the device, and
    the bytes that have arrived are not read. -/
theorem baremetal_delay_wrapped :
    let env := { callWith false [0x00, checksumCk 0x00 0] with
      awaitUs := iolinkTimeGetUs (2 ^ 32) }
    wokenBeforeWrap.dll.state = .awaitingComm ∧
      wokenBeforeWrap.dll.wakeupDeadlineUs = iolinkTimeGetUs (2 ^ 32 - 1) + tDwuUs ∧
      awaitingDelay wokenBeforeWrap.dll (iolinkTimeGetUs (2 ^ 32)) = true ∧
      ¬ 1000 * 2 ^ 32 < 1000 * (2 ^ 32 - 1) + tDwuUs.toNat ∧
      (iolinkProcess {} wokenBeforeWrap env).2.unread.length = 2 := by
  decide +kernel

end Iolinki.Baremetal
