import Iolinki.Dll.PdLength

/-!
# The layout of a frame

`req_len` is fixed at the first byte of a frame, while the handler computes where
the process data ends from the length that is in force at the last byte. A run is
followed by a `Reception`, which keeps the bytes of the frame under way and the
length that was in force at its first byte, and takes the fields of the frame
apart with that length.

* `decoded_rxByte`: one received byte keeps device and reception in step.
* `layout_preserved`: they agree as long as the length is not changed while a frame
  is under way.
* `layout_mixed`: a change between two bytes of a frame.
-/

namespace Iolinki

open Iolinki.Lib

/-! ## The reception -/

/-- The frame under way and the effects of the frames so far. -/
structure Reception where
  /-- The bytes of the frame under way. -/
  bytes : List UInt8
  /-- The length of the output process data when its first byte was received. -/
  pdLen : ℕ
  /-- The output process data, copied from the PD fields of accepted frames. -/
  pdOut : ℕ → UInt8
  /-- An ISDU engine that is fed with the OD fields of accepted frames. -/
  isdu : IsduCtx

/-- The reception after `iolink_init`. -/
def Reception.init : Reception := ⟨[], 0, fun _ => 0, isduWired⟩

/-- A further byte, stored in the context `c`. -/
def Reception.hear (r : Reception) (c : DllCtx) (byte : UInt8) : Reception :=
  if c.frameIndex = 0 then { r with bytes := [byte], pdLen := c.pdOutLenCurrent }
  else { r with bytes := r.bytes ++ [byte] }

/-- The frame under way is complete and has a right checksum. -/
def Reception.accept (r : Reception) (state : DllState) : Reception :=
  { r with
    pdOut := if carriesPd state r.bytes then blit r.pdOut 0 (pdOf r.pdLen r.bytes) else r.pdOut
    isdu := odMachine.final r.isdu (isduBytesOf state r.pdLen r.bytes) }

/-- One received byte. -/
def receiveByte (cfg : BuildConfig) (r : Reception) (c : DllCtx) (rx : RxByte) : Reception :=
  let r := r.hear (beforeAssemble cfg c rx) rx.byte
  if frameComplete (rxAssemble cfg c rx) && checksumOk r.bytes then r.accept c.state else r

/-- The receive loop together with the reception. -/
def receivingRx (cfg : BuildConfig) : Machine (DllCtx × Reception) RxByte (Option (List UInt8)) :=
  (rxMachine cfg).withHistory (receiveByte cfg)

/-- One call. -/
def receiveCall (cfg : BuildConfig) (r : Reception) (d : Device) : LengthCall → Reception
  | .call (.process env) =>
    let r := { r with isdu := (isduProcess cfg d.host r.isdu).2 }
    match loopStart cfg (dllPollDiagnostics cfg (deviceIsduProcess cfg d).dll env) env with
    | some c => ((receivingRx cfg).final (c, r) env.rx).2
    | none => r
  | _ => r

/-- The device together with the reception. -/
def receivingDevice (cfg : BuildConfig) : Machine (Device × Reception) LengthCall CallOut :=
  (lengthMachine cfg).withHistory (receiveCall cfg)

/-! ## One received byte -/

/-- The reception explains the frame under way and its effects so far. -/
structure Explains (r : Reception) (c : DllCtx) : Prop where
  bytes : slice c.frameBuf 0 c.frameIndex = r.bytes
  pdLen : r.pdLen = c.pdOutLenCurrent
  reqLen : c.reqLen = 2 ∨ c.reqLen = c.pdOutLenCurrent + c.odLen + 3

/-- Device and reception are in step. -/
structure Decoded (c : DllCtx) (r : Reception) : Prop where
  bounded : Bounded c
  frame : 0 < c.frameIndex → Explains r c
  pdOut : c.pdOut = r.pdOut
  isdu : c.isdu = r.isdu

/-- A step that leaves the partial frame alone or drops it. -/
theorem Decoded.of_untouched {c c' : DllCtx} {r : Reception} (h : Decoded c r)
    (hb : Bounded c') (hun : Untouched c c')
    (hframe : (c'.frameIndex = c.frameIndex ∧ c'.reqLen = c.reqLen ∧ c'.frameBuf = c.frameBuf) ∨
      c'.frameIndex = 0) : Decoded c' r := by
  refine ⟨hb, fun h0 => ?_, hun.pdOut.trans h.pdOut, hun.isdu.trans h.isdu⟩
  rcases hframe with ⟨hi, hr, hbuf⟩ | hi
  · obtain ⟨h1, h2, h3⟩ := h.frame (hi ▸ h0)
    refine ⟨?_, ?_, ?_⟩
    · rw [hi, hbuf]; exact h1
    · rw [hun.pdOutLenCurrent]; exact h2
    · rw [hr, hun.pdOutLenCurrent, hun.odLen]; exact h3
  · omega

theorem decoded_beforeAssemble (cfg : BuildConfig) {c : DllCtx} {r : Reception} (h : Decoded c r)
    (rx : RxByte) : Decoded (beforeAssemble cfg c rx) r := by
  have hun := untouched_byteGap cfg { c with lastActivityMs := rx.nowMs } rx.nowUs
  refine h.of_untouched (bounded_beforeAssemble cfg h.bounded rx)
    ⟨{ hun.toSameConfig with }, hun.isdu, hun.pdOut⟩ ?_
  simp only [beforeAssemble, byteGap]
  split_ifs
  · exact .inr rfl
  · exact .inl ⟨rfl, rfl, rfl⟩

/-- The byte is stored in the frame buffer and heard by the reception. -/
theorem explains_rxAssemble (cfg : BuildConfig) {c : DllCtx} {r : Reception} (h : Decoded c r)
    (rx : RxByte) :
    Explains (r.hear (beforeAssemble cfg c rx) rx.byte) (rxAssemble cfg c rx) := by
  have hb := decoded_beforeAssemble cfg h rx
  have he : rxAssemble cfg c rx = assemble (beforeAssemble cfg c rx) rx.byte rx.nowUs := rfl
  rw [he]
  generalize beforeAssemble cfg c rx = g at hb
  unfold assemble Reception.hear
  split_ifs with h0 h48
  · refine ⟨?_, rfl, dllReqLen_cases hb.bounded.pdOut hb.bounded.odLe rx.byte⟩
    show slice (Function.update g.frameBuf 0 rx.byte) 0 (0 + 1) = [rx.byte]
    rw [slice_update_end, slice_zero, List.nil_append]
  · obtain ⟨h1, h2, h3⟩ := hb.frame (Nat.pos_of_ne_zero h0)
    refine ⟨?_, h2, h3⟩
    show slice (Function.update g.frameBuf g.frameIndex rx.byte) 0 (g.frameIndex + 1) = _
    rw [slice_update_end, h1]
  · obtain ⟨hlt, hmax⟩ := hb.bounded.short (Nat.pos_of_ne_zero h0)
    rw [frameBufSize] at h48
    omega

/-- A complete frame that the reception has heard. -/
theorem decoded_dllHandleFrame (cfg : BuildConfig) {c : DllCtx} {r : Reception} (ha : Assembled c)
    (hfull : frameComplete c = true) (hex : Explains r c) (hpd : c.pdOut = r.pdOut)
    (hisdu : c.isdu = r.isdu) (rx : RxByte) :
    (dllHandleFrame cfg c rx).1.pdOut = (if checksumOk r.bytes then r.accept c.state else r).pdOut ∧
      (dllHandleFrame cfg c rx).1.isdu =
        (if checksumOk r.bytes then r.accept c.state else r).isdu := by
  have hidx : c.frameIndex = c.reqLen := by
    exact le_antisymm ha.size.1 (frameComplete_iff.mp hfull).2
  have hframe : frameOf c = r.bytes := by rw [frameOf, ← hidx, hex.bytes]
  obtain ⟨stats, events, hcyc, -⟩ := cycleStart_eq cfg c rx.procUs
  have hcrc : frameCrcOk (cycleStart cfg c rx.procUs) = checksumOk r.bytes := by
    rw [hcyc, ← hframe]
    exact frameCrcOk_eq ha.reqLen
  simp only [dllHandleFrame, hcrc]
  by_cases hok : checksumOk r.bytes = true
  · rw [if_pos hok, if_pos hok]
    obtain ⟨h1, h2⟩ := dllAcceptFrame_effect cfg (c := cycleStart cfg c rx.procUs)
      (by rw [hcyc]; exact hex.reqLen) rx
    have hsame : frameOf (cycleStart cfg c rx.procUs) = r.bytes := by rw [hcyc]; exact hframe
    rw [hsame, hcyc] at h1 h2
    rw [hcyc]
    simp only [Reception.accept, hex.pdLen, ← hpd, ← hisdu]
    exact ⟨h2, h1⟩
  · rw [if_neg hok, if_neg hok]
    have hun := (untouched_cycleStart cfg c rx.procUs).trans (untouched_dllRejectFrame cfg _)
    exact ⟨hun.pdOut.trans hpd, hun.isdu.trans hisdu⟩

/-- **One received byte keeps device and reception in step.** -/
theorem decoded_rxByte (cfg : BuildConfig) {c : DllCtx} {r : Reception} (h : Decoded c r)
    (rx : RxByte) : Decoded (rxByte cfg c rx).1 (receiveByte cfg r c rx) := by
  have hb := bounded_rxByte cfg h.bounded rx
  have ha := assembled_rxAssemble cfg h.bounded rx
  have hex := explains_rxAssemble cfg h rx
  have hun := untouched_rxAssemble cfg c rx
  have hstate := (link_rxAssemble cfg c rx).1
  have hpd : (r.hear (beforeAssemble cfg c rx) rx.byte).pdOut = r.pdOut := by
    unfold Reception.hear
    split_ifs <;> rfl
  have hisdu : (r.hear (beforeAssemble cfg c rx) rx.byte).isdu = r.isdu := by
    unfold Reception.hear
    split_ifs <;> rfl
  have hpd' := hun.pdOut.trans (h.pdOut.trans hpd.symm)
  have hisdu' := hun.isdu.trans (h.isdu.trans hisdu.symm)
  simp only [receiveByte]
  generalize r.hear (beforeAssemble cfg c rx) rx.byte = r' at hex hpd' hisdu'
  simp only [rxByte] at hb ⊢
  rw [← hstate]
  generalize rxAssemble cfg c rx = a at ha hex hpd' hisdu' hb
  by_cases hfull : frameComplete a = true
  · rw [if_pos hfull] at hb ⊢
    obtain ⟨h1, h2⟩ := decoded_dllHandleFrame cfg ha hfull hex hpd' hisdu' rx
    rw [hfull, Bool.true_and]
    exact ⟨hb, fun h0 => absurd h0 (lt_irrefl 0), h1, h2⟩
  · rw [if_neg hfull] at hb ⊢
    rw [Bool.eq_false_iff.mpr hfull, Bool.false_and]
    exact ⟨hb, fun _ => hex, hpd', hisdu'⟩

/-! ## Whole calls -/

/-- The steps of a call before its receive loop. -/
theorem decoded_loopStart (cfg : BuildConfig) {c : DllCtx} {r : Reception} (h : Decoded c r)
    (env : CallEnv) :
    (loopStart cfg c env = none → Decoded (dllReceive cfg c env).ctx r) ∧
      ∀ c', loopStart cfg c env = some c' → Decoded c' r := by
  have hr : Decoded (inactivityReset c env.nowMs) r := by
    refine h.of_untouched (bounded_inactivityReset h.bounded env.nowMs)
      (untouched_inactivityReset c env.nowMs) ?_
    unfold inactivityReset
    split_ifs
    · exact .inr rfl
    · exact .inl ⟨rfl, rfl, rfl⟩
  generalize hc₁ : inactivityReset c env.nowMs = c₁ at hr
  have hg : Decoded (callGap cfg c₁ env.gapUs) r := by
    refine hr.of_untouched (bounded_callGap cfg hr.bounded env.gapUs)
      (untouched_callGap cfg c₁ env.gapUs) ?_
    unfold callGap
    split_ifs
    · exact .inr (frameIndex_dllEnterFallback cfg rfl)
    · exact .inl ⟨rfl, rfl, rfl⟩
  have hcases := dllReceive_cases cfg c env
  rw [hc₁] at hcases
  rcases hcases with ⟨-, hs, he⟩ | ⟨-, -, hs, he⟩ | ⟨-, -, hs, he⟩ | ⟨-, -, hs, -⟩
  all_goals rw [hs]
  · refine ⟨fun _ => ?_, fun c' hn => absurd hn (Option.some_ne_none c').symm⟩
    rw [he]
    refine hr.of_untouched (bounded_drainRx cfg hr.bounded env.rx) (untouched_drainRx cfg c₁ env.rx)
      (.inl ?_)
    unfold drainRx
    split_ifs <;> exact ⟨rfl, rfl, rfl⟩
  · refine ⟨fun _ => ?_, fun c' hn => absurd hn (Option.some_ne_none c').symm⟩
    rw [he]
    refine hr.of_untouched (bounded_detectWakeup hr.bounded env) (untouched_detectWakeup c₁ env)
      (.inl ?_)
    unfold detectWakeup
    split_ifs <;> exact ⟨rfl, rfl, rfl⟩
  · refine ⟨fun _ => ?_, fun c' hn => absurd hn (Option.some_ne_none c').symm⟩
    rw [he]
    exact hg
  · refine ⟨fun hn => absurd hn (Option.some_ne_none _), fun c' hc' => ?_⟩
    rw [← Option.some.inj hc']
    exact hg

theorem decoded_process (cfg : BuildConfig) {d : Device} {r : Reception} (h : Decoded d.dll r)
    (env : CallEnv) :
    Decoded (iolinkProcess cfg d env).1.dll (receiveCall cfg r d (.call (.process env))) := by
  obtain ⟨_, _, hp⟩ := polled_eq cfg d env
  have hpoll : Decoded (dllPollDiagnostics cfg (deviceIsduProcess cfg d).dll env)
      { r with isdu := (isduProcess cfg d.host r.isdu).2 } := by
    refine ⟨bounded_polled cfg h.bounded env, ?_, ?_, ?_⟩
    · rw [hp]
      intro h0
      obtain ⟨h1, h2, h3⟩ := h.frame h0
      exact ⟨h1, h2, h3⟩
    · rw [hp]
      exact h.pdOut
    · rw [hp, ← h.isdu]
  obtain ⟨hnone, hsome⟩ := decoded_loopStart cfg hpoll env
  simp only [iolinkProcess, receiveCall]
  cases hs : loopStart cfg (dllPollDiagnostics cfg (deviceIsduProcess cfg d).dll env) env with
  | none => exact hnone hs
  | some c' =>
    rw [dllReceive_of_loopStart cfg hs]
    have hrun := (receivingRx cfg).final_invariant (P := fun s => Decoded s.1 s.2)
      (fun s rx hc => decoded_rxByte cfg hc rx) (s := (c', _)) (hsome c' hs) env.rx
    rwa [receivingRx, Machine.final_withHistory_fst] at hrun

/-- The length is not changed while a frame is under way. -/
def KeepsLayout (d : Device) : LengthCall → Prop
  | .setPdLength pdInLen pdOutLen =>
    d.dll.frameIndex = 0 ∨ pdOutLen.toNat = d.dll.pdOutLenCurrent ∨
      pdInLen.toNat > pdInMaxSize ∨ pdOutLen.toNat > pdOutMaxSize
  | .call _ => True

instance (d : Device) : DecidablePred (KeepsLayout d)
  | .setPdLength _ _ => inferInstanceAs (Decidable (_ ∨ _))
  | .call _ => inferInstanceAs (Decidable True)

theorem decoded_lengthStep (cfg : BuildConfig) {d : Device} {r : Reception} (h : Decoded d.dll r)
    {call : LengthCall} (hkeep : KeepsLayout d call) :
    Decoded (lengthStep cfg d call).1.dll (receiveCall cfg r d call) := by
  cases call with
  | call call =>
    cases call with
    | process env => exact decoded_process cfg h env
    | pdInputUpdate data valid =>
      simp only [lengthStep, deviceStep, pdInputUpdate]
      split_ifs
      · exact h
      · exact ⟨{ h.bounded with }, fun h0 => ⟨(h.frame h0).1, (h.frame h0).2, (h.frame h0).3⟩,
          h.pdOut, h.isdu⟩
    | _ =>
      exact ⟨{ h.bounded with }, fun h0 => ⟨(h.frame h0).1, (h.frame h0).2, (h.frame h0).3⟩,
        h.pdOut, h.isdu⟩
  | setPdLength pdInLen pdOutLen =>
    simp only [lengthStep, dllSetPdLength]
    split_ifs with hlen
    · exact h
    · rw [not_or, Nat.not_lt, Nat.not_lt] at hlen
      refine ⟨⟨hlen.2, h.bounded.odPos, h.bounded.odLe, h.bounded.short, h.bounded.operate,
        h.bounded.type0⟩, fun h0 => ?_, h.pdOut, h.isdu⟩
      have hsame : pdOutLen.toNat = d.dll.pdOutLenCurrent := by
        rcases hkeep with hz | hsame | hin | hout
        · exact absurd h0 (by dsimp only; omega)
        · exact hsame
        · omega
        · omega
      obtain ⟨h1, h2, h3⟩ := h.frame h0
      exact ⟨h1, h2.trans hsame.symm, by dsimp only; rw [hsame]; exact h3⟩

/-! ## Whole runs -/

/-- The calls of a run, each with the device it is made on. -/
def lengthSteps (cfg : BuildConfig) (d : Device) (calls : List LengthCall) :
    List (Device × LengthCall) :=
  (lengthMachine cfg).collect (fun d call => [(d, call)]) d calls

theorem decoded_run (cfg : BuildConfig) {d : Device} {r : Reception} (h : Decoded d.dll r)
    {calls : List LengthCall} (hkeep : ∀ s ∈ lengthSteps cfg d calls, KeepsLayout s.1 s.2) :
    Decoded ((lengthMachine cfg).final d calls).dll
      ((receivingDevice cfg).final (d, r) calls).2 := by
  induction calls generalizing d r with
  | nil => exact h
  | cons call calls ih =>
    obtain ⟨hcall, hcalls⟩ := List.forall_mem_append.mp hkeep
    exact ih (decoded_lengthStep cfg h (hcall (d, call) (by simp))) hcalls

/-- **Frames are taken apart as they were received.** In every run from `iolink_init` in which
    `iolink_dll_set_pd_length` does not change the length of the output data while a frame is
    under way, the output data and the ISDU engine are those of the reception: they depend on
    the accepted frames only through the fields that the length in force at the first byte of
    each frame gives. -/
theorem layout_preserved (cfg : BuildConfig) (config : Config) (hout : config.pdOutLen ≤ 32)
    (hasSend : Bool) (nowUs : UInt64) (image : Option ParamsNvm) (store : Store)
    (calls : List LengthCall)
    (hkeep : ∀ s ∈ lengthSteps cfg (iolinkInit cfg config hasSend nowUs image store) calls,
      KeepsLayout s.1 s.2) :
    let d₀ := iolinkInit cfg config hasSend nowUs image store
    let d := (lengthMachine cfg).final d₀ calls
    let r := (receivingDevice cfg).final (d₀, Reception.init) calls
    r.1 = d ∧ d.dll.pdOut = r.2.pdOut ∧ d.dll.isdu = r.2.isdu := by
  intro d₀ d r
  have hinit : Decoded d₀.dll Reception.init :=
    ⟨bounded_iolinkInit cfg hout hasSend nowUs image store, fun h0 => absurd h0 (lt_irrefl 0), rfl,
    rfl⟩
  have h := decoded_run cfg hinit hkeep
  exact ⟨(lengthMachine cfg).final_withHistory_fst (receiveCall cfg) d₀ _ calls, h.pdOut, h.isdu⟩

/-- A device in OPERATE whose length is changed between two frames. -/
def changeBetweenFrames : List LengthCall :=
  (startupCalls .type1V).map .call ++ [.setPdLength 1 2,
    .call (.process (callWith false (cyclicFrame 0 0 [0x11, 0x22] [0])))]

theorem layout_preserved_between_frames :
    let d₀ := iolinkInit {} (sampleConfig .type1V) true 0 none storeInit
    let r := (receivingDevice {}).final (d₀, Reception.init) changeBetweenFrames
    slice r.2.pdOut 0 2 = [0x11, 0x22] ∧
      ((lengthMachine {}).final d₀ changeBetweenFrames).dll.pdOut = r.2.pdOut :=
  ⟨by decide +kernel, (layout_preserved {} (sampleConfig .type1V) (by decide) true 0 none storeInit
    changeBetweenFrames (by decide +kernel)).2.1⟩

/-- The length is changed from 1 to `pdOutLen` after the first byte of the second frame. -/
def changeInFrame (pdOutLen : UInt8) : List LengthCall :=
  (startupCalls .type1V).map .call ++
    [.call (.process (callWith false (cyclicFrame 0 0 [0x80] [0x00]))),
      .call (.process (callWith false [0x00])), .setPdLength 1 pdOutLen,
      .call (.process (callWith false ((cyclicFrame 0 0 [0x80] [0x00]).drop 1)))]

/-- After the change to 0 the process data byte is fed to the ISDU engine, which takes it for the
    start of a request. After the change to 3 the byte that is fed stands behind the frame, and the
    OD field and the checksum are taken for process data. -/
theorem layout_mixed :
    let d₀ := iolinkInit {} (sampleConfig .type1V) true 0 none storeInit
    (((lengthMachine {}).final d₀ (changeInFrame 0)).dll.isdu.state = .headerInitial ∧
      ((receivingDevice {}).final (d₀, Reception.init) (changeInFrame 0)).2.isdu.state = .idle) ∧
    (slice ((lengthMachine {}).final d₀ (changeInFrame 3)).dll.pdOut 0 3 =
        (cyclicFrame 0 0 [0x80] [0x00]).drop 2 ∧
      slice ((receivingDevice {}).final (d₀, Reception.init) (changeInFrame 3)).2.pdOut 0 3 =
        [0x80, 0, 0]) := by
  refine ⟨⟨by decide +kernel, by decide +kernel⟩, by decide +kernel, by decide +kernel⟩

end Iolinki
