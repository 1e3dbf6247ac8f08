import Iolinki.Dll.Framewise

/-!
# The virtual PHY

Model of `src/phy_virtual.c`. The bytes that the other end of the pseudo terminal has
written wait in a queue. `recv_byte` takes them one by one, `detect_wakeup` takes them
up to the first `0x55`. The bytes that a call of `iolink_process` can see are those in
the queue before it and those that arrive while it runs.

* `queue_of_unread`: what the receive loop leaves is left in the queue.
-/

namespace Iolinki

open Iolinki.Lib

/-! ## Reading -/

/-- `virtual_detect_wakeup` (lines 95–109): whether a wake-up is found, and the bytes
    that are left. -/
def virtualDetectWakeup : List UInt8 → Bool × List UInt8
  | [] => (false, [])
  | b :: queue => if b = 0x55 then (true, queue) else virtualDetectWakeup queue

/-- The clock readings of one call of `iolink_process`; `stamp i` are those while the
    `i`-th byte is handled. -/
structure CallClocks where
  nowMs : UInt32
  tPdUs : UInt64
  wakeupUs : UInt64
  gapUs : UInt64
  awaitUs : UInt64
  stamp : ℕ → UInt8 → RxByte
  stamp_byte : ∀ i b, (stamp i b).byte = b

/-- What a call reads from the clocks and from the virtual PHY, which has neither
    `get_voltage_mv` nor `is_short_circuit`. -/
def virtualEnv (clocks : CallClocks) (queue : List UInt8) : CallEnv where
  voltageMv := none
  shortCircuit := false
  nowMs := clocks.nowMs
  tPdUs := clocks.tPdUs
  wakeup := (virtualDetectWakeup queue).1
  wakeupUs := clocks.wakeupUs
  gapUs := clocks.gapUs
  awaitUs := clocks.awaitUs
  rx := queue.zipIdx.map fun (b, i) => clocks.stamp i b

/-- A call asks for a wake-up in SIO mode, between two frames. -/
def asksForWakeup (c : DllCtx) (env : CallEnv) : Bool :=
  let c := inactivityReset c env.nowMs
  !dllTPdActive c env.tPdUs && c.phyMode = .sio && c.frameIndex = 0

/-- `iolink_process` over the virtual PHY: the device, what is sent and the bytes left
    in the queue. -/
def virtualProcess (cfg : BuildConfig) (clocks : CallClocks) (d : Device) (queue : List UInt8) :
    Device × List (List UInt8) × List UInt8 :=
  let env := virtualEnv clocks queue
  let r := iolinkProcess cfg d env
  (r.1, r.2.sent,
    if asksForWakeup (dllPollDiagnostics cfg (deviceIsduProcess cfg d).dll env) env then
      (virtualDetectWakeup queue).2
    else r.2.unread.map RxByte.byte)

/-! ## What is left in the queue -/

section Queue

variable (cfg : BuildConfig)

theorem bytes_virtualEnv (clocks : CallClocks) (queue : List UInt8) :
    (Call.process (virtualEnv clocks queue)).bytes = queue := by
  rw [Call.bytes, virtualEnv, List.map_map]
  have hstamp : (RxByte.byte ∘ fun (x : UInt8 × ℕ) => clocks.stamp x.2 x.1) = Prod.fst :=
    funext fun x => clocks.stamp_byte x.2 x.1
  show queue.zipIdx.map (RxByte.byte ∘ fun (x : UInt8 × ℕ) => clocks.stamp x.2 x.1) = queue
  rw [hstamp, List.zipIdx_map_fst]

/-- If the call leaves no byte unread, then none is left in the queue. -/
theorem queue_of_unread (clocks : CallClocks) (d : Device) (queue : List UInt8)
    (hread : (iolinkProcess cfg d (virtualEnv clocks queue)).2.unread = []) :
    (virtualProcess cfg clocks d queue).2.2 = [] := by
  unfold virtualProcess
  dsimp only
  split_ifs with hask
  · have hsio : (iolinkProcess cfg d (virtualEnv clocks queue)).2.unread =
        (virtualEnv clocks queue).rx := by
      unfold iolinkProcess
      dsimp only
      generalize dllPollDiagnostics cfg (deviceIsduProcess cfg d).dll _ = c at hask ⊢
      simp only [asksForWakeup, Bool.and_eq_true, Bool.not_eq_true', decide_eq_true_eq] at hask
      rcases dllReceive_cases cfg c (virtualEnv clocks queue) with
        ⟨hpd, -, -⟩ | ⟨-, -, -, he⟩ | ⟨-, hm, -, -⟩ | ⟨-, hm, -, -⟩
      · rw [hask.1.1] at hpd
        cases hpd
      · rw [he]
      · exact absurd hask.1.2 hm
      · exact absurd hask.1.2 hm
    have hnil : queue = [] := by
      rw [← bytes_virtualEnv clocks queue, Call.bytes, ← hsio, hread]
      rfl
    rw [hnil]
    rfl
  · rw [hread]
    rfl

end Queue

end Iolinki
