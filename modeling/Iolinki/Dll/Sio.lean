import Iolinki.Dll.Loop
import Iolinki.Dll.Type0

/-!
# SIO mode

A fallback can switch the PHY to SIO mode in the middle of a burst. The receive
loop does not look at the mode: it goes on with the bytes that are left, which
can establish communication again and be answered while the PHY is in SIO mode.
The next call then returns before the receive loop, and a frame that was
started is never completed.

* `sio_means_startup`: as long as no byte is read in SIO mode, SIO mode means
  STARTUP without a partial frame, and nothing is sent in SIO mode.
* `sio_in_preoperate`: a burst that breaks this.
-/

namespace Iolinki

open Iolinki.Lib

/-- The modes of the PHY in which the receive loop reads the bytes of a run. -/
def readModes (cfg : BuildConfig) (d : Device) (calls : List Call) : List PhyMode :=
  (deviceMachine cfg).collect (noteCall cfg fun c _ => [c.phyMode]) d calls

/-- The modes of the PHY before and after each byte at which something is
    sent. -/
def sentModes (cfg : BuildConfig) (d : Device) (calls : List Call) : List PhyMode :=
  (deviceMachine cfg).collect (noteCall cfg fun c rx =>
    if (rxByte cfg c rx).2.isSome then [c.phyMode, (rxByte cfg c rx).1.phyMode] else []) d calls

/-- In SIO mode the device is in STARTUP and has no partial frame. -/
def SioQuiet (c : DllCtx) : Prop := c.phyMode = .sio → c.state = .startup ∧ c.frameIndex = 0

/-- A byte that is read in SDCI mode. -/
theorem sioQuiet_rxByte (cfg : BuildConfig) {c : DllCtx} (h : c.phyMode ≠ .sio) (rx : RxByte) :
    SioQuiet (rxByte cfg c rx).1 := by
  have hm : (rxAssemble cfg c rx).phyMode ≠ .sio := by
    rw [(link_rxAssemble cfg c rx).2.1]
    exact h
  intro hsio
  rcases rxByte_cases cfg c rx with ⟨-, he⟩ | ⟨-, hidx, ho⟩
  · rw [he] at hsio
    exact absurd hsio hm
  · cases ho with
    | sio _ _ hs => exact ⟨hs, hidx⟩
    | ignored _ _ _ hp | transition _ _ _ hp | type0 _ _ _ hp | type12 _ _ _ hp | restart _ _ _ hp
    | counted _ _ _ hp =>
      rw [hp] at hsio
      exact absurd hsio hm

/-- A byte at which something is sent leaves the mode alone. -/
theorem phyMode_of_sent (cfg : BuildConfig) {c : DllCtx} {rx : RxByte}
    (h : (rxByte cfg c rx).2.isSome = true) : (rxByte cfg c rx).1.phyMode = c.phyMode := by
  have hm := (link_rxAssemble cfg c rx).2.1
  rcases rxByte_cases cfg c rx with ⟨-, he⟩ | ⟨-, -, ho⟩
  · rw [he] at h
    cases h
  · cases ho with
    | type0 _ _ _ hp | type12 _ _ _ hp => exact hp.trans hm
    | ignored _ _ _ _ _ hr | transition _ _ _ _ _ hr | sio _ _ _ _ _ hr | restart _ _ _ _ _ hr
    | counted _ _ _ _ _ hr =>
      rw [hr] at h
      cases h

theorem sioQuiet_callGap (cfg : BuildConfig) {c : DllCtx} (h : c.phyMode ≠ .sio)
    (nowUs : UInt64) : SioQuiet (callGap cfg c nowUs) := by
  obtain he | ⟨_, _, _, _, _, he | ⟨-, -, he⟩ | ⟨-, he⟩⟩ := callGap_cases cfg c nowUs <;> rw [he]
  · exact fun hm => absurd hm h
  · exact fun _ => ⟨rfl, rfl⟩
  · exact fun hm => absurd hm h
  · exact fun hm => absurd hm h

theorem sioQuiet_inactivityReset {c : DllCtx} (h : SioQuiet c) (nowMs : UInt32) :
    SioQuiet (inactivityReset c nowMs) := by
  unfold inactivityReset
  split_ifs
  · exact fun _ => ⟨rfl, rfl⟩
  · exact h

theorem sioQuiet_drainRx (cfg : BuildConfig) {c : DllCtx} (h : SioQuiet c) (rxs : List RxByte) :
    SioQuiet (drainRx cfg c rxs) := by
  unfold drainRx
  split_ifs <;> exact h

theorem sioQuiet_detectWakeup {c : DllCtx} (h : SioQuiet c) (env : CallEnv) :
    SioQuiet (detectWakeup c env) := by
  unfold detectWakeup
  split_ifs
  · exact fun hm => PhyMode.noConfusion hm
  · exact h

/-- A call in which all bytes are read in SDCI mode. -/
theorem sioQuiet_dllReceive (cfg : BuildConfig) {c : DllCtx} (h : SioQuiet c) {env : CallEnv}
    (hread : ∀ m ∈ noteReceive cfg (fun c _ => [c.phyMode]) c env, m ≠ .sio) :
    SioQuiet (dllReceive cfg c env).ctx := by
  have hr := sioQuiet_inactivityReset h env.nowMs
  rcases dllReceive_cases cfg c env with ⟨-, -, he⟩ | ⟨-, -, -, he⟩ | ⟨-, hm, -, he⟩ |
    ⟨-, hm, hs, he⟩
  · rw [he]
    exact sioQuiet_drainRx cfg hr env.rx
  · rw [he]
    exact sioQuiet_detectWakeup hr env
  · rw [he]
    exact sioQuiet_callGap cfg hm env.gapUs
  · rw [he]
    simp only [noteReceive, hs] at hread
    exact (rxMachine cfg).final_of_collect (P := SioQuiet)
      (fun c rx _ hc => sioQuiet_rxByte cfg (hc c.phyMode (by simp)) rx)
      (sioQuiet_callGap cfg hm env.gapUs) hread

theorem sioQuiet_deviceStep (cfg : BuildConfig) {d : Device} (h : SioQuiet d.dll) {call : Call}
    (hread : ∀ m ∈ noteCall cfg (fun c _ => [c.phyMode]) d call, m ≠ .sio) :
    SioQuiet (deviceStep cfg d call).1.dll := by
  cases call with
  | process env =>
    refine sioQuiet_dllReceive cfg ?_ hread
    obtain ⟨_, _, hp⟩ := polled_eq cfg d env
    rw [hp]
    exact h
  | pdInputUpdate data valid =>
    simp only [deviceStep, pdInputUpdate]
    split_ifs <;> exact h
  | _ => exact h

/-- What is sent is sent in a mode in which a byte is read. -/
theorem sentModes_subset (cfg : BuildConfig) (d : Device) (calls : List Call) :
    sentModes cfg d calls ⊆ readModes cfg d calls := by
  refine (deviceMachine cfg).collect_mono (noteCall_mono cfg fun c rx => ?_) d calls
  split_ifs with hsent
  · rw [phyMode_of_sent cfg hsent]
    simp
  · simp

/-- **SIO mode means STARTUP.** In every run from `iolink_init` in which no byte is read in SIO
    mode, the device is in STARTUP and has no partial frame whenever it is in SIO mode, and
    nothing is sent in SIO mode. -/
theorem sio_means_startup (cfg : BuildConfig) (config : Config) (hasSend : Bool) (nowUs : UInt64)
    (image : Option ParamsNvm) (store : Store) (calls : List Call)
    (hread : .sio ∉ readModes cfg (iolinkInit cfg config hasSend nowUs image store) calls) :
    let d₀ := iolinkInit cfg config hasSend nowUs image store
    (∀ n, let d := (deviceMachine cfg).final d₀ (calls.take n)
      d.dll.phyMode = .sio → d.dll.state = .startup ∧ d.dll.frameIndex = 0) ∧
    .sio ∉ sentModes cfg d₀ calls := by
  intro d₀
  refine ⟨fun n => ?_, fun hsent => hread (sentModes_subset cfg d₀ calls hsent)⟩
  have hprefix : ∀ m ∈ readModes cfg d₀ (calls.take n), m ≠ .sio := by
    rintro m hm rfl
    apply hread
    rw [readModes, ← List.take_append_drop n calls, Machine.collect_append]
    exact List.mem_append_left _ hm
  exact (deviceMachine cfg).final_of_collect (P := fun d => SioQuiet d.dll)
    (fun d call hd hnote => sioQuiet_deviceStep cfg hd hnote) (fun _ => ⟨rfl, rfl⟩) hprefix

/-- Three frames with a wrong checksum in a burst of their own. -/
def sioCalls : List Call :=
  [.process (callWith true []), .process (callWith false [0x00, 0xFF, 0x00, 0xFF, 0x00, 0xFF])]

theorem sio_means_startup_three_errors :
    (deviceAfter sioCalls).dll.phyMode = .sio ∧ (deviceAfter sioCalls).dll.state = .startup ∧
      (deviceAfter sioCalls).dll.frameIndex = 0 := by
  have hmode : (deviceAfter sioCalls).dll.phyMode = .sio := by decide +kernel
  have h := (sio_means_startup {} (sampleConfig .type11) true 0 none storeInit sioCalls
    (by decide +kernel)).1 2
  exact ⟨hmode, h hmode⟩

/-- With one more frame in the same burst the device is in PREOPERATE, and the frame is answered,
    while the PHY is in SIO mode. One more byte leaves a partial frame behind. -/
theorem sio_in_preoperate :
    (deviceAfter fallbackCalls).dll.phyMode = .sio ∧
      (deviceAfter fallbackCalls).dll.state = .preoperate ∧
      .sio ∈ sentModes {} (iolinkInit {} (sampleConfig .type11) true 0 none storeInit)
        fallbackCalls ∧
      (let d := deviceAfter [.process (callWith true []),
        .process (callWith false [0x00, 0xFF, 0x00, 0xFF, 0x00, 0xFF, 0x00])]
       d.dll.phyMode = .sio ∧ d.dll.frameIndex = 1) := by
  refine ⟨by decide +kernel, by decide +kernel, by decide +kernel, by decide +kernel⟩

end Iolinki
