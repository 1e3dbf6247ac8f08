import Iolinki.Dll.Gap

/-!
# Silence on the line

A device that has not received a byte for a second goes back to STARTUP. The time
of the last byte is kept in `last_activity_ms`, a reading of a 32-bit millisecond
counter, where 0 stands for "no byte yet". A wake-up does not write it. So the
reset does not come if no byte has been received since the last one, or if the
reading was 0.

A run is timed by the true times of its clock readings, in milliseconds
(`TimedCall`); the readings are these times modulo 2^32. What has happened on the
line is a list of times: of the bytes that were read and of the wake-ups that
were detected (`lineLog`).

* `tracked_timedStep`: one call of the application.
* `silence_returns`: a call after more than a second of silence.
-/

namespace Iolinki

open Iolinki.Lib

/-! ## Timed runs -/

/-- A call with the true times of the millisecond readings in it. -/
structure TimedCall where
  call : Call
  /-- The time of `now_ms` (line 270). -/
  ms : ℕ
  /-- The times of the received bytes (line 326). -/
  rxMs : List ℕ

/-- The times in a call, in the order of the readings. -/
def TimedCall.times (tc : TimedCall) : List ℕ := tc.ms :: tc.rxMs

/-- The readings are the times modulo 2^32. -/
def TimedCall.Reads (tc : TimedCall) : Prop :=
  ∀ env, tc.call = .process env →
    env.nowMs = UInt32.ofNat tc.ms ∧ env.rx.map RxByte.nowMs = tc.rxMs.map UInt32.ofNat

/-- A wake-up is detected in the call. -/
def wakesUp (c : DllCtx) (env : CallEnv) : Bool :=
  let c := inactivityReset c env.nowMs
  !dllTPdActive c env.tPdUs && c.phyMode = .sio && c.frameIndex = 0 && env.wakeup

/-- The times at which a call has received a byte or detected a wake-up. -/
def lineEvents (cfg : BuildConfig) (d : Device) (tc : TimedCall) : List ℕ :=
  match tc.call with
  | .process env =>
    let c := dllPollDiagnostics cfg (deviceIsduProcess cfg d).dll env
    if wakesUp c env then [tc.ms] else if (loopStart cfg c env).isSome then tc.rxMs else []
  | _ => []

/-- The device as a machine on timed calls. -/
def timedMachine (cfg : BuildConfig) : Machine Device TimedCall CallOut where
  step d tc := deviceStep cfg d tc.call

/-- The times of the received bytes and of the wake-ups in a run. -/
def lineLog (cfg : BuildConfig) (d : Device) (calls : List TimedCall) : List ℕ :=
  (timedMachine cfg).collect (lineEvents cfg) d calls

/-! ## The millisecond counter -/

/-- The difference of two readings. -/
theorem toNat_sub_ofNat {a b : ℕ} (h : b ≤ a) :
    (UInt32.ofNat a - UInt32.ofNat b).toNat = (a - b) % 2 ^ 32 := by
  rw [← UInt32.ofNat_sub h, UInt32.toNat_ofNat']

theorem gt_1000_iff {a b : ℕ} (h : b ≤ a) :
    UInt32.ofNat a - UInt32.ofNat b > 1000 ↔ 1000 < (a - b) % 2 ^ 32 := by
  rw [gt_iff_lt, UInt32.lt_iff_toNat_lt, toNat_sub_ofNat h]
  rfl

/-- A time stamp other than 0 is the time of the last byte, and a wake-up after it
    has come within a second. -/
def Tracked (c : DllCtx) (log : List ℕ) : Prop :=
  c.lastActivityMs ≠ 0 → ∃ last byte, log.getLast? = some last ∧
    c.lastActivityMs = UInt32.ofNat byte ∧ byte ≤ last ∧ (last - byte) % 2 ^ 32 ≤ 1000

theorem Tracked.of_eq {c c' : DllCtx} {log : List ℕ} (h : Tracked c log)
    (he : c'.lastActivityMs = c.lastActivityMs) : Tracked c' log := by
  unfold Tracked
  rw [he]
  exact h

theorem lastActivityMs_callGap (cfg : BuildConfig) (c : DllCtx) (nowUs : UInt64) :
    (callGap cfg c nowUs).lastActivityMs = c.lastActivityMs := by
  unfold callGap
  split_ifs
  · exact lastActivityMs_dllEnterFallback cfg _
  · rfl

theorem lastActivityMs_inactivityReset {c : DllCtx} {nowMs : UInt32}
    (h : (inactivityReset c nowMs).lastActivityMs ≠ 0) :
    (inactivityReset c nowMs).lastActivityMs = c.lastActivityMs ∧
      ¬ nowMs - c.lastActivityMs > 1000 := by
  unfold inactivityReset at h ⊢
  by_cases hreset : c.lastActivityMs ≠ 0 ∧ nowMs - c.lastActivityMs > 1000
  · rw [if_pos hreset] at h
    dsimp only at h
    split_ifs at h <;> exact absurd rfl h
  · rw [if_neg hreset] at h ⊢
    exact ⟨rfl, fun hgt => hreset ⟨h, hgt⟩⟩

section Call

variable (cfg : BuildConfig) {c : DllCtx} {log : List ℕ} {env : CallEnv} {ms : ℕ} {rxMs : List ℕ}

theorem tracked_inactivityReset (h : Tracked c log) (nowMs : UInt32) :
    Tracked (inactivityReset c nowMs) log := by
  intro hne
  obtain ⟨he, -⟩ := lastActivityMs_inactivityReset hne
  rw [he] at hne ⊢
  exact h hne

/-- A wake-up is detected in a call. -/
theorem tracked_wakeup (h : Tracked c log) (hnow : env.nowMs = UInt32.ofNat ms)
    (hlast : ∀ last, log.getLast? = some last → last ≤ ms) :
    Tracked (inactivityReset c env.nowMs) (log ++ [ms]) := by
  intro hne
  obtain ⟨he, hsoon⟩ := lastActivityMs_inactivityReset hne
  rw [he] at hne ⊢
  obtain ⟨last, byte, hlog, hbyte, hle, -⟩ := h hne
  have hms : byte ≤ ms := hle.trans (hlast last hlog)
  rw [hbyte, hnow, gt_1000_iff hms] at hsoon
  exact ⟨ms, byte, List.getLast?_concat, hbyte, hms, Nat.not_lt.mp hsoon⟩

/-- The bytes of a call are read. -/
theorem tracked_rxs (h : Tracked c log) (hrx : env.rx.map RxByte.nowMs = rxMs.map UInt32.ofNat) :
    Tracked ((rxMachine cfg).final c env.rx) (log ++ rxMs) := by
  have hact := lastActivityMs_rxs cfg c env.rx
  rw [← List.getLast?_map, hrx, List.getLast?_map] at hact
  cases hms : rxMs.getLast? with
  | none =>
    rw [hms] at hact
    rw [List.getLast?_eq_none_iff.mp hms, List.append_nil]
    exact h.of_eq hact
  | some last =>
    rw [hms] at hact
    intro _
    refine ⟨last, last, ?_, hact, le_refl _, ?_⟩
    · rw [List.getLast?_append, hms]
      rfl
    · rw [Nat.sub_self]
      decide

/-- **One call of `iolink_dll_process`.** -/
theorem tracked_dllReceive (h : Tracked c log) (hnow : env.nowMs = UInt32.ofNat ms)
    (hrx : env.rx.map RxByte.nowMs = rxMs.map UInt32.ofNat)
    (hlast : ∀ last, log.getLast? = some last → last ≤ ms) :
    Tracked (dllReceive cfg c env).ctx (log ++ if wakesUp c env then [ms] else
      if (loopStart cfg c env).isSome then rxMs else []) := by
  have hreset := tracked_inactivityReset h env.nowMs
  rcases dllReceive_cases cfg c env with ⟨hpd, hs, he⟩ | ⟨hpd, hm, hs, he⟩ | ⟨hpd, hm, hs, he⟩ |
    ⟨hpd, hm, hs, he⟩
  · have hno : wakesUp c env = false := by simp [wakesUp, hpd]
    rw [he, hs, hno]
    simp only [Bool.false_eq_true, if_false, Option.isSome_none, List.append_nil]
    refine hreset.of_eq ?_
    unfold drainRx
    split_ifs <;> rfl
  · have hact : (detectWakeup (inactivityReset c env.nowMs) env).lastActivityMs =
        (inactivityReset c env.nowMs).lastActivityMs := by
      unfold detectWakeup
      split_ifs <;> rfl
    rw [he, hs]
    by_cases hwake : wakesUp c env = true
    · rw [if_pos hwake]
      exact (tracked_wakeup h hnow hlast).of_eq hact
    · rw [if_neg hwake, if_neg (by decide), List.append_nil]
      exact hreset.of_eq hact
  · have hno : wakesUp c env = false := by simp [wakesUp, hm]
    rw [he, hs, hno]
    simp only [Bool.false_eq_true, if_false, Option.isSome_none, List.append_nil]
    exact hreset.of_eq (lastActivityMs_callGap cfg _ _)
  · have hno : wakesUp c env = false := by simp [wakesUp, hm]
    rw [he, hs, hno]
    simp only [Bool.false_eq_true, if_false, Option.isSome_some, if_true]
    exact tracked_rxs cfg (hreset.of_eq (lastActivityMs_callGap cfg _ _)) hrx

end Call

/-! ## Runs -/

theorem lineEvents_subset (cfg : BuildConfig) (d : Device) (tc : TimedCall) :
    lineEvents cfg d tc ⊆ tc.times := by
  unfold lineEvents TimedCall.times
  split
  · dsimp only
    split_ifs
    · exact List.cons_subset_cons _ (List.nil_subset _)
    · exact List.subset_cons_self _ _
    · exact List.nil_subset _
  · exact List.nil_subset _

/-- **One call of the application.** -/
theorem tracked_timedStep (cfg : BuildConfig) {d : Device} {log : List ℕ} (h : Tracked d.dll log)
    {tc : TimedCall} (hreads : tc.Reads)
    (hlast : ∀ last, log.getLast? = some last → last ≤ tc.ms) :
    Tracked (deviceStep cfg d tc.call).1.dll (log ++ lineEvents cfg d tc) := by
  obtain ⟨call, ms, rxMs⟩ := tc
  cases call with
  | process env =>
    obtain ⟨hnow, hrx⟩ := hreads env rfl
    refine tracked_dllReceive cfg (h.of_eq ?_) hnow hrx hlast
    obtain ⟨_, _, hp⟩ := polled_eq cfg d env
    rw [hp]
  | pdInputUpdate data valid =>
    simp only [lineEvents, List.append_nil, deviceStep, pdInputUpdate]
    split_ifs <;> exact h.of_eq rfl
  | _ =>
    simp only [lineEvents, List.append_nil]
    exact h.of_eq rfl

/-- **A run.** -/
theorem tracked_final (cfg : BuildConfig) {d : Device} {log : List ℕ} (h : Tracked d.dll log)
    {calls : List TimedCall} {now : ℕ} (hreads : ∀ tc ∈ calls, tc.Reads)
    (hmono : (calls.flatMap TimedCall.times ++ [now]).Pairwise (· ≤ ·))
    (hlast : ∀ last, log.getLast? = some last →
      ∀ t ∈ calls.flatMap TimedCall.times ++ [now], last ≤ t) :
    Tracked ((timedMachine cfg).final d calls).dll (log ++ lineLog cfg d calls) ∧
      ∀ last, (log ++ lineLog cfg d calls).getLast? = some last → last ≤ now := by
  induction calls generalizing d log with
  | nil =>
    rw [lineLog, Machine.collect_nil, List.append_nil]
    exact ⟨h, fun last hl => hlast last hl now (List.mem_singleton.mpr rfl)⟩
  | cons tc calls ih =>
    rw [List.flatMap_cons, List.append_assoc] at hmono hlast
    obtain ⟨-, hrest, hcross⟩ := List.pairwise_append.mp hmono
    rw [lineLog, Machine.collect_cons, ← List.append_assoc]
    refine ih (tracked_timedStep cfg h (hreads tc List.mem_cons_self) ?_)
      (fun tc' hmem => hreads tc' (List.mem_cons_of_mem _ hmem)) hrest ?_
    · intro last hl
      exact hlast last hl tc.ms (List.mem_append_left _ List.mem_cons_self)
    · intro last hl t ht
      rw [List.getLast?_append] at hl
      cases hev : (lineEvents cfg d tc).getLast? with
      | none =>
        rw [hev] at hl
        exact hlast last hl t (List.mem_append_right _ ht)
      | some x =>
        rw [hev] at hl
        have hx : last = x := (Option.some.inj hl).symm
        rw [hx]
        exact hcross x (lineEvents_subset cfg d tc (List.mem_of_getLast? hev)) t ht

/-- The device is back in STARTUP. -/
def InStartup (c : DllCtx) : Prop := c.state = .startup ∧ c.phyMode = .sio ∧ c.frameIndex = 0

instance : DecidablePred InStartup := fun _ => inferInstanceAs (Decidable (_ ∧ _))

/-- The reset in a call that detects no wake-up. -/
theorem inStartup_of_reset (cfg : BuildConfig) {c : DllCtx} {env : CallEnv}
    (hmode : c.phyMode = .sdci) (hwake : env.wakeup = false) (hact : c.lastActivityMs ≠ 0)
    (hsilent : env.nowMs - c.lastActivityMs > 1000) : InStartup (dllReceive cfg c env).ctx := by
  have hreset : InStartup (inactivityReset c env.nowMs) := by
    unfold inactivityReset
    rw [if_pos ⟨hact, hsilent⟩]
    dsimp only
    rw [if_pos (by rw [hmode]; decide)]
    exact ⟨rfl, rfl, rfl⟩
  rcases dllReceive_cases cfg c env with ⟨-, -, he⟩ | ⟨-, -, -, he⟩ | ⟨-, hm, -⟩ | ⟨-, hm, -⟩
  · rw [he]
    unfold drainRx
    dsimp only
    split_ifs
    · exact hreset
    · exact ⟨hreset.1, hreset.2.1, hreset.2.2⟩
  · rw [he]
    unfold detectWakeup
    rw [if_neg (by simp [hwake])]
    exact hreset
  · exact absurd hreset.2.1 hm
  · exact absurd hreset.2.1 hm

/-- Without a time stamp nothing happens in a call that brings no byte. -/
theorem phyMode_of_no_stamp (cfg : BuildConfig) {c : DllCtx} {env : CallEnv}
    (hmode : c.phyMode = .sdci) (hact : c.lastActivityMs = 0) (hrx : env.rx = [])
    (hgap : ¬ Late c env.gapUs) : (dllReceive cfg c env).ctx.phyMode = .sdci := by
  have hreset : inactivityReset c env.nowMs = c := if_neg fun h => h.1 hact
  have hsame := callGap_of_not_late cfg hgap
  rcases dllReceive_cases cfg c env with ⟨-, -, he⟩ | ⟨-, hm, -⟩ | ⟨-, -, -, he⟩ | ⟨-, -, -, he⟩
  · rw [he, hreset, hrx]
    exact hmode
  · rw [hreset, hmode] at hm
    cases hm
  · rw [he, hreset, hsame]
    exact hmode
  · rw [he, hreset, hsame, hrx]
    exact hmode

/-- **Silence returns the device to STARTUP** if it has a time stamp. In a run from
    `iolink_init`, timed by a counter that may wrap around, `since` is the time of
    the last byte or wake-up. The device is in SDCI mode, and the next call comes
    more than a second and less than 2^31 ms later and detects no wake-up. If
    `last_activity_ms` is not 0, the device is back in STARTUP after the call. If it
    is 0, a call that brings no byte and notices no inter-byte timeout leaves the
    device where it is. -/
theorem silence_returns (cfg : BuildConfig) (config : Config) (hasSend : Bool) (nowUs : UInt64)
    (image : Option ParamsNvm) (store : Store) (calls : List TimedCall) (env : CallEnv)
    (now since : ℕ) (hreads : ∀ tc ∈ calls, tc.Reads) (hnow : env.nowMs = UInt32.ofNat now)
    (hmono : (calls.flatMap TimedCall.times ++ [now]).Pairwise (· ≤ ·)) :
    let d₀ := iolinkInit cfg config hasSend nowUs image store
    let d := (timedMachine cfg).final d₀ calls
    let after := (iolinkProcess cfg d env).1.dll
    d.dll.phyMode = .sdci → (lineLog cfg d₀ calls).getLast? = some since →
    1000 < now - since → now - since < 2 ^ 31 → env.wakeup = false →
    (d.dll.lastActivityMs ≠ 0 → InStartup after) ∧
      (env.rx = [] → ¬ Late d.dll env.gapUs → (InStartup after ↔ d.dll.lastActivityMs ≠ 0)) := by
  intro d₀ d after hmode hsince hlong hwrap hwake
  have hinit : Tracked d₀.dll [] := fun hne => absurd rfl hne
  obtain ⟨htrack, hle⟩ := tracked_final cfg hinit hreads hmono (fun last hl => absurd hl (by simp))
  rw [List.nil_append] at htrack hle
  obtain ⟨_, _, hp⟩ := polled_eq cfg d env
  have hback : d.dll.lastActivityMs ≠ 0 → InStartup after := by
    intro hact
    have hsilent : env.nowMs - d.dll.lastActivityMs > 1000 := by
      obtain ⟨last, byte, hlog, hbyte, hbefore, hsoon⟩ := htrack hact
      rw [hsince] at hlog
      obtain rfl := Option.some.inj hlog
      have hnext := hle since hsince
      rw [hbyte, hnow, gt_1000_iff (by omega)]
      omega
    simp only [after, iolinkProcess, hp]
    exact inStartup_of_reset cfg hmode hwake hact hsilent
  refine ⟨hback, fun hrx hgap => ⟨fun hin => ?_, hback⟩⟩
  intro hact
  have hstay : after.phyMode = .sdci := by
    simp only [after, iolinkProcess, hp]
    exact phyMode_of_no_stamp cfg hmode hact hrx hgap
  rw [hin.2.1] at hstay
  cases hstay

/-- A call at `ms` that receives `bytes` at the same time. -/
def callAtMs (ms : ℕ) (wakeup : Bool) (bytes : List UInt8) : CallEnv :=
  { callWith wakeup [] with
    nowMs := UInt32.ofNat ms
    rx := bytes.map fun b => ⟨b, 0, UInt32.ofNat ms, 0, 0, 0⟩ }

/-- The call with its times. -/
def timedCallAt (ms : ℕ) (wakeup : Bool) (bytes : List UInt8) : TimedCall :=
  ⟨.process (callAtMs ms wakeup bytes), ms, bytes.map fun _ => ms⟩

theorem reads_timedCallAt (ms : ℕ) (wakeup : Bool) (bytes : List UInt8) :
    (timedCallAt ms wakeup bytes).Reads := by
  intro env he
  obtain rfl := Call.process.inj he
  simp [callAtMs, timedCallAt, Function.comp_def]

/-- A wake-up, then a frame 20 ms before the counter wraps around; the next call
    comes 1.5 s later. -/
theorem silence_returns_wrapped :
    let d₀ := iolinkInit {} (sampleConfig .type11) true 0 none storeInit
    let d := (timedMachine {}).final d₀ [timedCallAt (2 ^ 32 - 30) true [],
      timedCallAt (2 ^ 32 - 20) false [0x00, checksumCk 0x00 0]]
    d.dll.phyMode = .sdci ∧
      InStartup (iolinkProcess {} d (callAtMs (2 ^ 32 + 1480) false [])).1.dll := by
  intro d₀ d
  have h := silence_returns {} (sampleConfig .type11) true 0 none storeInit
    [timedCallAt (2 ^ 32 - 30) true [], timedCallAt (2 ^ 32 - 20) false [0x00, checksumCk 0x00 0]]
    (callAtMs (2 ^ 32 + 1480) false []) (2 ^ 32 + 1480) (2 ^ 32 - 20)
    (by simp [reads_timedCallAt]) rfl (by decide +kernel) (by decide +kernel) (by decide +kernel)
    (by decide) (by decide) rfl
  exact ⟨by decide +kernel, h.1 (by decide +kernel)⟩

/-- After a wake-up that is not followed by a byte the device waits for ever. -/
theorem silence_after_wakeup :
    let d₀ := iolinkInit {} (sampleConfig .type11) true 0 none storeInit
    let calls := [timedCallAt 10 true []]
    let d := (timedMachine {}).final d₀ calls
    let after := (iolinkProcess {} d (callAtMs 1500 false [])).1.dll
    (timedCallAt 10 true []).Reads ∧ (calls.flatMap TimedCall.times ++ [1500]).Pairwise (· ≤ ·) ∧
      d.dll.phyMode = .sdci ∧ (lineLog {} d₀ calls).getLast? = some 10 ∧
      dllTPdActive d.dll (callAtMs 1500 false []).tPdUs = false ∧
      after.state = .awaitingComm ∧ after.phyMode = .sdci ∧ ¬ InStartup after := by
  refine ⟨reads_timedCallAt 10 true [], ?_⟩
  decide +kernel

end Iolinki
