import Iolinki.Dll.Invariant
import Iolinki.Isdu.Request

/-!
# ISDU transport in Type 0 frames

In PREOPERATE every Type 0 frame carries one byte of the ISDU stream in its MC
byte. The MC byte is also where the transition command `0x0F` stands, and the
device looks for that first: the byte `0x0F` never reaches the ISDU engine and
ends PREOPERATE.

* `process_type0`: the call that receives one Type 0 frame.
* `type0_transparent_iff`: a sequence of frames is transported transparently
  exactly when none of its bytes is the transition command.
* `type0_not_transparent`: a well-formed request with such a byte.
-/

namespace Iolinki

open Iolinki.Lib

/-! ## One frame -/

/-- The Type 0 frame that carries `b`. -/
def type0Frame (b : UInt8) : List UInt8 := [b, checksumCk b 0]

/-- The device waits for a Type 0 frame. -/
structure Preoperating (c : DllCtx) : Prop where
  state : c.state = .preoperate
  phyMode : c.phyMode = .sdci
  frameIndex : c.frameIndex = 0

theorem dllReqLen_preoperate {c : DllCtx} (h : c.state = .preoperate) (byte : UInt8) :
    dllReqLen c byte = 2 := by
  simp [dllReqLen, h]

theorem frameCrcOk_type0 {c : DllCtx} {f : ℕ → UInt8} {b : UInt8}
    (hbuf : c.frameBuf = blit f 0 (type0Frame b)) (hreq : c.reqLen = 2) : frameCrcOk c = true := by
  simp [frameCrcOk, hreq, hbuf, blit, type0Frame]

/-- A Type 0 frame in the buffer: its checksum is right, its MC byte is `b`, and it
    is handled by its kind. -/
theorem dllHandleFrame_short (cfg : BuildConfig) {c : DllCtx} {first last : RxByte} {b : UInt8}
    (hreq : dllReqLen c first.byte = 2) (hrx : [first, last].map RxByte.byte = type0Frame b) :
    frameCrcOk (c.withFrame first [last]) = true ∧ (c.withFrame first [last]).frameBuf 0 = b ∧
      ∃ stats events, dllHandleFrame cfg (c.withFrame first [last]) last =
        dllAcceptFrame cfg { c.withFrame first [last] with
          stats := stats, events := events, lastCycleStartUs := last.procUs } last := by
  have hbuf : (c.withFrame first [last]).frameBuf = blit c.frameBuf 0 (type0Frame b) := by
    rw [← hrx]
    rfl
  have hcrc : frameCrcOk (c.withFrame first [last]) = true := frameCrcOk_type0 hbuf hreq
  obtain ⟨stats, events, hcyc, -⟩ := cycleStart_eq cfg (c.withFrame first [last]) last.procUs
  refine ⟨hcrc, ?_, stats, events, ?_⟩
  · rw [hbuf]
    simp [blit, type0Frame]
  · simp only [dllHandleFrame, hcyc]
    exact if_pos hcrc

/-- The ISDU engine after `iolink_isdu_process`, `iolink_isdu_collect_byte` and
    `iolink_isdu_get_response_byte`, called one after the other on `isdu` in the
    surroundings of `d`. -/
def directCalls (cfg : BuildConfig) (d : Device) (isdu : IsduCtx) (b : UInt8) : IsduCtx :=
  (isduGetResponseByte (isduCollectByte (isduProcess cfg d.host isdu).2 b).1).1

/-- **The call that receives one Type 0 frame in PREOPERATE.** -/
theorem process_type0 (cfg : BuildConfig) {d : Device} (hpre : Preoperating d.dll) {env : CallEnv}
    (ht : Timely d.dll env) {b : UInt8} (hrx : env.rx.map RxByte.byte = type0Frame b) :
    if b = mcTransitionCommand then (iolinkProcess cfg d env).1.dll.state = .estabCom
    else Preoperating (iolinkProcess cfg d env).1.dll ∧
      (iolinkProcess cfg d env).1.dll.isdu = directCalls cfg d d.dll.isdu b := by
  obtain ⟨stats₀, events₀, hpoll⟩ := polled_eq cfg d env
  set c₀ : DllCtx := { d.dll with
    ds := (isduProcess cfg d.host d.dll.isdu).1.ds
    isdu := (isduProcess cfg d.host d.dll.isdu).2
    stats := stats₀
    events := events₀ } with hc₀
  have hpre₀ : Preoperating c₀ := { hpre with }
  have ht₀ : Timely c₀ env := { ht with }
  obtain ⟨first, last, hsplit⟩ : ∃ first last, env.rx = [first, last] :=
    List.length_eq_two.mp (by rw [← List.length_map (f := RxByte.byte), hrx]; rfl)
  have hreq := dllReqLen_preoperate hpre₀.state first.byte
  obtain ⟨hfinal, -⟩ := rx_frame cfg hpre₀.frameIndex first [] last
    (by simpa [hsplit] using ht₀.gaps) (by rw [hreq]; rfl) (by rw [hreq]; decide)
  obtain ⟨-, hmc, stats₁, events₁, hframe⟩ :=
    dllHandleFrame_short cfg (c := c₀) (b := b) hreq (by rw [← hrx, hsplit])
  have hloop := dllReceive_timely cfg ht₀ hpre₀.frameIndex (by rw [hpre₀.phyMode]; decide)
    (by rw [hpre₀.state]; decide)
  have hctx : (iolinkProcess cfg d env).1.dll =
      { (dllAcceptFrame cfg { c₀.withFrame first [last] with
          stats := stats₁, events := events₁, lastCycleStartUs := last.procUs } last).1 with
        frameIndex := 0 } := by
    simp only [List.nil_append, hframe] at hfinal
    simp only [iolinkProcess, hpoll, hloop, hsplit, hfinal]
  have hkind : frameKind (c₀.withFrame first [last]).state (c₀.withFrame first [last]).reqLen
      ((c₀.withFrame first [last]).frameBuf 0) =
      if b = mcTransitionCommand then .transition else .type0 := by
    rw [hmc]
    show frameKind c₀.state (dllReqLen c₀ first.byte) b = _
    rw [hpre₀.state, hreq]
    rfl
  rw [hctx, dllAcceptFrame_eq]
  simp only [hkind]
  by_cases hb : b = mcTransitionCommand
  · simp only [if_pos hb]
  · simp only [if_neg hb]
    refine ⟨⟨?_, hpre₀.phyMode, rfl⟩, ?_⟩
    · show establishedState c₀.state = .preoperate
      rw [hpre₀.state]
      rfl
    · show (odExchange c₀.isdu ((c₀.withFrame first [last]).frameBuf 0)).1 = _
      rw [hmc]
      rfl

/-! ## Sequences of frames -/

/-- Every call of the run reads the bytes that have arrived. -/
def TimelyRun (cfg : BuildConfig) : Device → List CallEnv → Prop
  | _, [] => True
  | d, env :: envs => Timely d.dll env ∧ TimelyRun cfg (iolinkProcess cfg d env).1 envs

instance instDecidableTimelyRun (cfg : BuildConfig) :
    ∀ (d : Device) (envs : List CallEnv), Decidable (TimelyRun cfg d envs)
  | _, [] => inferInstanceAs (Decidable True)
  | d, env :: envs =>
    have := instDecidableTimelyRun cfg (iolinkProcess cfg d env).1 envs
    inferInstanceAs (Decidable (Timely d.dll env ∧ TimelyRun cfg (iolinkProcess cfg d env).1 envs))

/-- The device after calls of `iolink_process`. -/
def processAll (cfg : BuildConfig) (d : Device) (envs : List CallEnv) : Device :=
  (deviceMachine cfg).final d (envs.map .process)

/-- The ISDU engine after direct calls for the bytes that the calls of the run
    carry, each in the surroundings that the run has at that moment. -/
def directRun (cfg : BuildConfig) : Device → IsduCtx → List (UInt8 × CallEnv) → IsduCtx
  | _, isdu, [] => isdu
  | d, isdu, (b, env) :: frames =>
    directRun cfg (iolinkProcess cfg d env).1 (directCalls cfg d isdu b) frames

/-- After the frames the device is still in PREOPERATE, and its ISDU engine is
    the one that direct calls lead to. -/
def Transparent (cfg : BuildConfig) (d : Device) (frames : List (UInt8 × CallEnv)) : Prop :=
  (processAll cfg d (frames.map Prod.snd)).dll.state = .preoperate ∧
    (processAll cfg d (frames.map Prod.snd)).dll.isdu = directRun cfg d d.dll.isdu frames

theorem transparent_cons (cfg : BuildConfig) {d : Device} {b : UInt8} {env : CallEnv}
    {frames : List (UInt8 × CallEnv)}
    (h : (iolinkProcess cfg d env).1.dll.isdu = directCalls cfg d d.dll.isdu b) :
    Transparent cfg d ((b, env) :: frames) ↔
      Transparent cfg (iolinkProcess cfg d env).1 frames := by
  simp only [Transparent, directRun, ← h]
  rfl

/-- **Type 0 transport is transparent exactly when no byte is the transition command.** `frames` are
    the bytes of the stream with the calls that receive them. Every prefix is transported
    transparently if and only if the stream is free of `0x0F`. -/
theorem type0_transparent_iff (cfg : BuildConfig) (d : Device)
    (hstate : d.dll.state = .preoperate) (hmode : d.dll.phyMode = .sdci)
    (hidx : d.dll.frameIndex = 0) (frames : List (UInt8 × CallEnv))
    (hrx : ∀ f ∈ frames, f.2.rx.map RxByte.byte = type0Frame f.1)
    (ht : TimelyRun cfg d (frames.map Prod.snd)) :
    (∀ n, Transparent cfg d (frames.take n)) ↔ ∀ f ∈ frames, f.1 ≠ mcTransitionCommand := by
  have hpre : Preoperating d.dll := ⟨hstate, hmode, hidx⟩
  clear hstate hmode hidx
  induction frames generalizing d with
  | nil => simp [Transparent, processAll, directRun, hpre.state]
  | cons f frames ih =>
    obtain ⟨b, env⟩ := f
    have hstep := process_type0 cfg hpre ht.1 (hrx (b, env) (by simp))
    by_cases hb : b = mcTransitionCommand
    · -- The device leaves PREOPERATE with this frame.
      rw [if_pos hb] at hstep
      have hnot : ¬ Transparent cfg d (((b, env) :: frames).take 1) := by
        rintro ⟨hs, -⟩
        have hs' : (iolinkProcess cfg d env).1.dll.state = .preoperate := hs
        rw [hstep] at hs'
        cases hs'
      exact ⟨fun h => absurd (h 1) hnot, fun h => absurd hb (h (b, env) (by simp))⟩
    · rw [if_neg hb] at hstep
      have ih' := ih (iolinkProcess cfg d env).1 (fun f hf => hrx f (by simp [hf])) ht.2 hstep.1
      rw [List.forall_mem_cons]
      constructor
      · intro h
        refine ⟨hb, ih'.mp fun n => ?_⟩
        have hn := h (n + 1)
        rw [List.take_succ_cons] at hn
        exact (transparent_cons cfg hstep.2).mp hn
      · rintro ⟨-, h⟩ n
        cases n with
        | zero => exact ⟨hpre.state, rfl⟩
        | succ n =>
          rw [List.take_succ_cons]
          exact (transparent_cons cfg hstep.2).mpr (ih'.mpr h n)

/-! ## Requests with a transition command -/

/-- A device in PREOPERATE. -/
def preoperateCalls : List Call :=
  [.process (callWith true []), .process (callWith false (type0Frame 0x00))]

/-- Three frames with a wrong checksum and one with a right one in a single
    burst: the device is in PREOPERATE, but in SIO mode. -/
def fallbackCalls : List Call :=
  [.process (callWith true []),
    .process (callWith false ([0x00, 0xFF, 0x00, 0xFF, 0x00, 0xFF] ++ type0Frame 0x00))]

/-- The device after these calls. -/
def deviceAfter (calls : List Call) : Device :=
  (deviceMachine {}).final (iolinkInit {} (sampleConfig .type11) true 0 none storeInit) calls

/-- The bytes as Type 0 frames, one call for each. -/
def type0Calls (bytes : List UInt8) : List (UInt8 × CallEnv) :=
  bytes.map fun b => (b, callWith false (type0Frame b))

/-- A read of index 0x0010 is transported transparently. -/
theorem type0_transparent_vendorName :
    Transparent {} (deviceAfter preoperateCalls) ((type0Calls
      (segments true 0 [(false, 0x80), (false, 0x00), (false, 0x10), (true, 0x00)])).take 8) :=
  (type0_transparent_iff {} (deviceAfter preoperateCalls) (by decide +kernel) (by decide +kernel)
    (by decide +kernel) (type0Calls _) (by decide +kernel) (by decide +kernel)).mpr
    (by decide +kernel) 8

/-- The read of subindex 0x0F is a well-formed request, and its last byte takes the device to
    ESTAB_COM instead of completing the request. A device in PREOPERATE that is in SIO mode does not
    read the frame at all, and one with a partial frame takes it for the rest of that frame. -/
theorem type0_not_transparent :
    let segs := [(false, 0x80), (false, 0x00), (false, 0x10), (true, 0x0F)]
    let d := deviceAfter preoperateCalls
    let d' := processAll {} d ((type0Calls (segments true 0 segs)).map Prod.snd)
    segs.map Prod.snd = (Request.read 0x0010 0x0F).dataBytes ∧ d.dll.state = .preoperate ∧
    d.dll.phyMode = .sdci ∧ d.dll.frameIndex = 0 ∧ d'.dll.state = .estabCom ∧
    d'.dll.isdu.state = .headerSubindex ∧
    (directRun {} d d.dll.isdu (type0Calls (segments true 0 segs))).state = .serviceExecute ∧
    ¬ Transparent {} d (type0Calls (segments true 0 segs)) ∧
    (let sio := deviceAfter fallbackCalls
     sio.dll.state = .preoperate ∧ sio.dll.phyMode = .sio ∧
      (iolinkProcess {} sio (callWith false (type0Frame 0x80))).2.unread.length = 2) ∧
    (let partialFrame := deviceAfter (preoperateCalls ++ [.process (callWith false [0x00])])
     partialFrame.dll.state = .preoperate ∧ partialFrame.dll.frameIndex = 1 ∧
      (iolinkProcess {} partialFrame (callWith false (type0Frame 0x80))).1.dll.state =
      .startup) := by
  refine ⟨by decide, by decide +kernel, by decide +kernel, by decide +kernel, by decide +kernel,
    by decide +kernel, by decide +kernel, fun h => ?_, by decide +kernel, by decide +kernel⟩
  have hstate := h.1
  revert hstate
  decide +kernel

end Iolinki
