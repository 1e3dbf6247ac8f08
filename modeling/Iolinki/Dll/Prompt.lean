import Iolinki.Dll.Loop

/-!
# Calls in which no time passes

The clock readings of a call can be chosen such that no timeout strikes and no
delay is active: they are the time stamps of the context. Such calls bring any
bytes to the receive loop, and complete any partial frame.

* `iolinkProcess_prompt`: the call receives all its bytes.
* `rx_complete`: a partial frame can be completed with a right checksum.
-/

namespace Iolinki

open Iolinki.Lib

/-! ## Prompt calls -/

/-- A call in which no time has passed since the last byte, no delay is active
    and `bytes` arrive at once. -/
def promptCall (c : DllCtx) (wakeup : Bool) (rx : List RxByte) : CallEnv where
  voltageMv := none
  shortCircuit := false
  nowMs := c.lastActivityMs
  tPdUs := c.tPdDeadlineUs
  wakeup := wakeup
  wakeupUs := 0
  gapUs := c.lastByteUs
  awaitUs := c.wakeupDeadlineUs
  rx := rx

/-- A byte that arrives together with the last one. -/
def promptByte (c : DllCtx) (b : UInt8) : RxByte := ⟨b, c.lastByteUs, c.lastActivityMs, 0, 0, 0⟩

theorem inactivityReset_prompt (c : DllCtx) : inactivityReset c c.lastActivityMs = c := by
  unfold inactivityReset
  rw [if_neg]
  rintro ⟨-, h⟩
  simp at h

theorem dllTPdActive_prompt (c : DllCtx) : dllTPdActive c c.tPdDeadlineUs = false := by
  simp [dllTPdActive]

theorem callGap_prompt (cfg : BuildConfig) (c : DllCtx) : callGap cfg c c.lastByteUs = c := by
  unfold callGap
  rw [if_neg]
  rintro ⟨-, -, -, -, h⟩
  simp at h

theorem awaitingDelay_prompt (c : DllCtx) : awaitingDelay c c.wakeupDeadlineUs = false := by
  simp [awaitingDelay]

theorem loopStart_prompt (cfg : BuildConfig) {c : DllCtx} (h : c.phyMode ≠ .sio) (wakeup : Bool)
    (rx : List RxByte) : loopStart cfg c (promptCall c wakeup rx) = some c := by
  simp [loopStart, promptCall, inactivityReset_prompt, dllTPdActive_prompt, callGap_prompt,
    awaitingDelay_prompt, h]

/-- The context in which a prompt call of `iolink_process` receives. -/
def polledCtx (cfg : BuildConfig) (d : Device) : DllCtx := (deviceIsduProcess cfg d).dll

theorem iolinkProcess_prompt (cfg : BuildConfig) {d : Device} (h : d.dll.phyMode ≠ .sio)
    (wakeup : Bool) (rx : List RxByte) :
    (iolinkProcess cfg d (promptCall d.dll wakeup rx)).1.dll =
      (rxMachine cfg).final (polledCtx cfg d) rx := by
  have hs : loopStart cfg (polledCtx cfg d) (promptCall d.dll wakeup rx) =
      some (polledCtx cfg d) := loopStart_prompt (c := polledCtx cfg d) cfg h wakeup rx
  have hr := dllReceive_of_loopStart cfg hs
  show (dllReceive cfg (polledCtx cfg d) (promptCall d.dll wakeup rx)).ctx = _
  rw [hr]
  rfl

/-! ## Completing a frame -/

theorem rxAssemble_prompt (cfg : BuildConfig) {c : DllCtx} (h0 : 0 < c.frameIndex)
    (h48 : c.frameIndex < frameBufSize) (b : UInt8) :
    rxAssemble cfg c (promptByte c b) = { c with
      frameBuf := Function.update c.frameBuf c.frameIndex b
      frameIndex := c.frameIndex + 1 } := by
  have hgap : byteGap cfg { c with lastActivityMs := c.lastActivityMs } c.lastByteUs = c := by
    unfold byteGap
    rw [if_neg]
    rintro ⟨-, -, -, -, h⟩
    simp at h
  have hne : c.frameIndex ≠ 0 := Nat.pos_iff_ne_zero.mp h0
  simp only [rxAssemble, promptByte, hgap, assemble, hne, h48, if_true, if_false]

/-- Bytes that do not complete the frame are only stored. -/
theorem rx_fill (cfg : BuildConfig) {c : DllCtx} (h0 : 0 < c.frameIndex)
    (h48 : c.reqLen ≤ frameBufSize) (n : ℕ) (hn : c.frameIndex + n < c.reqLen) :
    ∃ f, f 0 = c.frameBuf 0 ∧ (rxMachine cfg).final c (List.replicate n (promptByte c 0)) =
      { c with frameBuf := f, frameIndex := c.frameIndex + n } := by
  induction n generalizing c with
  | zero => exact ⟨c.frameBuf, rfl, rfl⟩
  | succ n ih =>
    have hstep : (rxByte cfg c (promptByte c 0)).1 = { c with
        frameBuf := Function.update c.frameBuf c.frameIndex 0
        frameIndex := c.frameIndex + 1 } := by
      have hasm := rxAssemble_prompt cfg h0 (by omega) 0
      rw [rxByte_short cfg (by rw [hasm]; dsimp only; omega)]
      exact hasm
    obtain ⟨f, hf, hfinal⟩ := ih (c := { c with
      frameBuf := Function.update c.frameBuf c.frameIndex 0
      frameIndex := c.frameIndex + 1 }) (Nat.succ_pos _) h48 (by dsimp only; omega)
    refine ⟨f, hf.trans (Function.update_of_ne (Nat.pos_iff_ne_zero.mp h0).symm _ _), ?_⟩
    rw [List.replicate_succ, Machine.final_cons]
    show (rxMachine cfg).final (rxByte cfg c (promptByte c 0)).1 _ = _
    rw [hstep]
    refine hfinal.trans ?_
    rw [show c.frameIndex + 1 + n = c.frameIndex + (n + 1) by omega]

/-- The last byte of a frame with a right checksum. -/
def closingByte (c : DllCtx) : UInt8 :=
  if c.reqLen = 2 then checksumCk (c.frameBuf 0) 0 else crc6 (slice c.frameBuf 0 (c.reqLen - 1))

/-- The last byte of a frame. -/
theorem rx_close (cfg : BuildConfig) {c : DllCtx} (h0 : 0 < c.frameIndex)
    (hidx : c.frameIndex + 1 = c.reqLen) (h48 : c.reqLen ≤ frameBufSize) :
    let full := { c with
      frameBuf := Function.update c.frameBuf c.frameIndex (closingByte c), frameIndex := c.reqLen }
    frameCrcOk full = true ∧ (rxByte cfg c (promptByte c (closingByte c))).1 =
      { (dllHandleFrame cfg full (promptByte c (closingByte c))).1 with frameIndex := 0 } := by
  intro full
  constructor
  · have hlast : full.frameBuf (c.reqLen - 1) = closingByte c := by
      rw [show c.reqLen - 1 = c.frameIndex by omega]
      exact Function.update_self _ _ _
    have hbody : slice full.frameBuf 0 (c.reqLen - 1) = slice c.frameBuf 0 (c.reqLen - 1) :=
      slice_update_of_le _ _ _ _ _ (by omega)
    have hmc : full.frameBuf 0 = c.frameBuf 0 := Function.update_of_ne (by omega) _ _
    by_cases h2 : full.reqLen = 2
    · have hck : full.frameBuf 1 = closingByte c := by
        rw [← hlast, show c.reqLen = 2 from h2]
      have hclose : closingByte c = checksumCk (c.frameBuf 0) 0 := if_pos h2
      simp [frameCrcOk, h2, hck, hmc, hclose]
    · have hclose : closingByte c = crc6 (slice c.frameBuf 0 (c.reqLen - 1)) := if_neg h2
      have hck : crc6 (slice full.frameBuf 0 (full.reqLen - 1)) =
          full.frameBuf (full.reqLen - 1) := by
        rw [hlast, hbody, hclose]
      simp [frameCrcOk, h2, hck]
  · have hfull : frameComplete full = true := by
      rw [frameComplete_iff]
      show 0 < c.reqLen ∧ c.reqLen ≤ c.reqLen
      omega
    rw [rxByte, rxAssemble_prompt cfg h0 (by omega), hidx, if_pos hfull]

/-- **A partial frame can be completed with a right checksum.** -/
theorem rx_complete (cfg : BuildConfig) {c : DllCtx} (h0 : 0 < c.frameIndex)
    (hlt : c.frameIndex < c.reqLen) (h48 : c.reqLen ≤ frameBufSize) :
    ∃ rxs rx f, f 0 = c.frameBuf 0 ∧
      frameCrcOk { c with frameBuf := f, frameIndex := c.reqLen } = true ∧
      (rxMachine cfg).final c rxs =
        { (dllHandleFrame cfg { c with frameBuf := f, frameIndex := c.reqLen } rx).1 with
          frameIndex := 0 } := by
  obtain ⟨g, hg, hfill⟩ := rx_fill cfg h0 h48 (c.reqLen - 1 - c.frameIndex) (by omega)
  have hidx : c.frameIndex + (c.reqLen - 1 - c.frameIndex) + 1 = c.reqLen := by omega
  generalize c.reqLen - 1 - c.frameIndex = n at hfill hidx
  obtain ⟨hcrc, hclose⟩ := rx_close cfg
    (c := { c with frameBuf := g, frameIndex := c.frameIndex + n }) (by dsimp only; omega) hidx h48
  refine ⟨List.replicate n (promptByte c 0) ++ [promptByte c (closingByte
    { c with frameBuf := g, frameIndex := c.frameIndex + n })], _, _, ?_, hcrc,
    (by rw [Machine.final_append, hfill]; exact hclose)⟩
  rw [Function.update_of_ne (by dsimp only; omega)]
  exact hg

end Iolinki
