import Iolinki.Dll.Invariant

/-!
# Only accepted frames have effects

A run of the device is recorded in a `History`: the bytes read by the receive
loop and the timeouts between them, the complete frames with a right checksum
and what was sent at the end of each, the process data of the last accepted
Type 1 or Type 2 frame, and a second ISDU engine. That engine makes the same
calls of `iolink_isdu_process` as the device, but is fed only from frames with a
right checksum. A frame is taken from the received bytes, not from the frame
buffer.

The history of a run of the receive loop is updated byte by byte; a run that
stops after some byte of a burst is the run in which the burst ends there, so a
statement about the end of every run is one about every moment.

* `frameInv_rxAssemble`: the bytes in the frame buffer are the last ones that
  were received, without a timeout between them.
* `recorded_rxByte`: one received byte keeps device and history in step.
* `accepted_frames_only`: the history explains the process data, the ISDU engine
  and everything that is sent, in every run from `iolink_init`.
-/

namespace Iolinki

open Iolinki.Lib

/-! ## Frames as lists of bytes -/

/-- The checksum of a complete frame is right. -/
def checksumOk (frame : List UInt8) : Bool :=
  if frame.length = 2 then checksumCk (frame.getD 0 0) 0 = frame.getD 1 0
  else crc6 frame.dropLast = frame.getLastD 0

/-- A Type 1 or Type 2 frame that passes the checks of its MC byte in ESTAB_COM
    or OPERATE. -/
def carriesPd (state : DllState) (frame : List UInt8) : Bool :=
  let mc := frame.getD 0 0
  frame.length > 2 && (state = .estabCom || (state = .operate && mc ≠ mcTransitionCommand)) &&
    !forbiddenChannel mc

/-- The PD field of a frame. -/
def pdOf (pdLen : ℕ) (frame : List UInt8) : List UInt8 := (frame.drop mSeqHeaderLen).take pdLen

/-- The bytes of a frame with a right checksum that are meant for the ISDU
    engine: the OD field of a Type 1 or Type 2 frame, the MC byte of a Type 0
    frame. -/
def isduBytesOf (state : DllState) (pdLen : ℕ) (frame : List UInt8) : List UInt8 :=
  match frameKind state frame.length (frame.getD 0 0) with
  | .type0 => [frame.getD 0 0]
  | .type12 => (frame.drop (mSeqHeaderLen + pdLen)).dropLast
  | _ => []

/-! ## The history of a run -/

/-- What happens on the line: a byte is read, or a timeout has passed since the
    last one. -/
inductive Heard
  | byte (b : UInt8)
  | timeout
  deriving DecidableEq, Repr

/-- What is recorded of a run. -/
structure History where
  /-- The bytes read in the receive loop and the timeouts between them. -/
  heard : List Heard
  /-- The PD field of the last accepted Type 1 or Type 2 frame. -/
  pd : Option (List UInt8)
  /-- The ISDU engine that is fed from frames with a right checksum only. -/
  isdu : IsduCtx
  /-- The complete frames with a right checksum, each with what was sent. -/
  replies : List (List UInt8 × Option (List UInt8))

/-- The history after `iolink_init`. -/
def History.init : History := ⟨[], none, isduWired, []⟩

/-- A further entry of the line. -/
def History.hear (hist : History) (x : Heard) : History :=
  { hist with heard := hist.heard ++ [x] }

/-- The inter-byte timeout, whether a frame has been started or not. -/
def History.hearGap (hist : History) (c : DllCtx) (nowUs : UInt64) : History :=
  if GapOk c c.lastByteUs nowUs then hist else hist.hear .timeout

/-- The bytes among the last `n` entries. -/
def lastBytes (n : ℕ) (heard : List Heard) : List UInt8 :=
  (heard.drop (heard.length - n)).filterMap fun
    | .byte b => some b
    | .timeout => none

/-- A complete frame with a right checksum, handled in the context `c`. -/
def History.accept (hist : History) (c : DllCtx) (frame : List UInt8)
    (sent : Option (List UInt8)) : History :=
  { hist with
    pd := if carriesPd c.state frame then some (pdOf c.pdOutLen frame) else hist.pd
    isdu := odMachine.final hist.isdu (isduBytesOf c.state c.pdOutLen frame)
    replies := hist.replies ++ [(frame, sent)] }

/-- One received byte. A frame ends with it if the frame buffer is then full. -/
def recordByte (cfg : BuildConfig) (hist : History) (c : DllCtx) (rx : RxByte) : History :=
  let hist := (hist.hearGap c rx.nowUs).hear (.byte rx.byte)
  let c' := rxAssemble cfg c rx
  let frame := lastBytes c'.reqLen hist.heard
  if frameComplete c' && checksumOk frame then hist.accept c' frame (rxByte cfg c rx).2 else hist

/-- The receive loop together with the history. -/
def recordingRx (cfg : BuildConfig) : Machine (DllCtx × History) RxByte (Option (List UInt8)) :=
  (rxMachine cfg).withHistory (recordByte cfg)

/-- A call of `iolink_dll_process` after its polls: the bytes are heard if the
    call gets to the receive loop. -/
def recordReceive (cfg : BuildConfig) (hist : History) (c : DllCtx) (env : CallEnv) : History :=
  let hist := if c.lastActivityMs ≠ 0 ∧ env.nowMs - c.lastActivityMs > 1000 then
    hist.hear .timeout else hist
  let c := inactivityReset c env.nowMs
  if dllTPdActive c env.tPdUs then hist
  else if c.phyMode = .sio then hist
  else
    let hist := hist.hearGap c env.gapUs
    let c := callGap cfg c env.gapUs
    if awaitingDelay c env.awaitUs then hist
    else ((recordingRx cfg).final (c, hist) env.rx).2

/-- One call of the application. -/
def recordCall (cfg : BuildConfig) (hist : History) (d : Device) : Call → History
  | .process env =>
    recordReceive cfg { hist with isdu := (isduProcess cfg d.host hist.isdu).2 }
      (dllPollDiagnostics cfg (deviceIsduProcess cfg d).dll env) env
  | _ => hist

/-- The device together with the history. -/
def recordingDevice (cfg : BuildConfig) : Machine (Device × History) Call CallOut :=
  (deviceMachine cfg).withHistory (recordCall cfg)

/-- What a call of the application gives to `phy->send`. -/
def CallOut.sent : CallOut → List (List UInt8)
  | .processed p => p.sent
  | _ => []

/-- Everything that is sent in a run. -/
def sentFrames (outs : List CallOut) : List (List UInt8) := outs.flatMap CallOut.sent

/-- The frames stand in what was heard one after the other, each in one piece
    and without a timeout inside. -/
inductive Framing : List (List UInt8) → List Heard → Prop
  | nil : Framing [] []
  | skip {frames : List (List UInt8)} {heard : List Heard} (x : Heard) :
    Framing frames heard → Framing frames (heard ++ [x])
  | frame {frames : List (List UInt8)} {heard : List Heard} (f : List UInt8) :
    Framing frames heard → Framing (frames ++ [f]) (heard ++ f.map .byte)

theorem Framing.append {frames : List (List UInt8)} {heard : List Heard} (h : Framing frames heard)
    (more : List Heard) : Framing frames (heard ++ more) := by
  induction more using List.reverseRecOn with
  | nil => simpa using h
  | append_singleton more x ih =>
    rw [← List.append_assoc]
    exact ih.skip x

/-! ## The frame buffer holds the last received bytes -/

/-- The partial frame in the buffer against what was heard. -/
structure FrameInv (c : DllCtx) (frames : List (List UInt8)) (heard : List Heard) : Prop where
  heard : ∃ pre, Framing frames pre ∧ heard = pre ++ (slice c.frameBuf 0 c.frameIndex).map .byte
  size : 0 < c.frameIndex →
    c.frameIndex ≤ c.reqLen ∧ (c.reqLen = 2 ∨ c.reqLen = c.pdOutLenCurrent + c.odLen + 3)

/-- The lengths that `iolink_init` has set. -/
structure Sized (c : DllCtx) : Prop where
  pdOut : c.pdOutLenCurrent = c.pdOutLen
  pdOutLe : c.pdOutLen ≤ 32
  odLe : c.odLen ≤ 2
  odPos : 1 ≤ c.odLen

theorem Sized.of_sameConfig {c c' : DllCtx} (h : Sized c) (hc : SameConfig c c') : Sized c' := by
  refine ⟨?_, ?_, ?_, ?_⟩
  · rw [hc.pdOutLenCurrent, hc.pdOutLen]; exact h.pdOut
  · rw [hc.pdOutLen]; exact h.pdOutLe
  · rw [hc.odLen]; exact h.odLe
  · rw [hc.odLen]; exact h.odPos

theorem dllReqLen_cases {c : DllCtx} (hpd : c.pdOutLenCurrent ≤ 32) (hod : c.odLen ≤ 2)
    (byte : UInt8) :
    dllReqLen c byte = 2 ∨ dllReqLen c byte = c.pdOutLenCurrent + c.odLen + 3 := by
  simp only [dllReqLen, mSeqHeaderLen]
  split_ifs <;> omega

theorem FrameInv.framing {c : DllCtx} {frames : List (List UInt8)} {heard : List Heard}
    (h : FrameInv c frames heard) : Framing frames heard := by
  obtain ⟨pre, hpre, rfl⟩ := h.heard
  exact hpre.append _

/-- Without a partial frame only the frames so far count. -/
theorem frameInv_of_framing {c : DllCtx} {frames : List (List UInt8)} {heard : List Heard}
    (h : Framing frames heard) (hidx : c.frameIndex = 0) : FrameInv c frames heard :=
  ⟨⟨heard, h, by simp [hidx]⟩, fun hi => by omega⟩

theorem lastBytes_append_map (pre : List Heard) (bytes : List UInt8) :
    lastBytes bytes.length (pre ++ bytes.map .byte) = bytes := by
  have hlen : (pre ++ bytes.map Heard.byte).length - bytes.length = pre.length := by simp
  rw [lastBytes, hlen, List.drop_left, List.filterMap_map]
  exact List.filterMap_some

/-- The inter-byte timeout drops a partial frame. -/
theorem frameInv_gap (cfg : BuildConfig) {c : DllCtx} {hist : History} {frames : List (List UInt8)}
    (h : FrameInv c frames hist.heard) (hshort : 0 < c.frameIndex → c.frameIndex < c.reqLen)
    (nowMs : UInt32) (nowUs : UInt64) :
    let g := byteGap cfg { c with lastActivityMs := nowMs } nowUs
    FrameInv g frames (hist.hearGap c nowUs).heard ∧
    (0 < g.frameIndex → g.frameIndex < g.reqLen) := by
  intro g
  by_cases hgap : GapOk c c.lastByteUs nowUs
  · have hg : g = { c with lastActivityMs := nowMs } := by
      simp only [g, byteGap]
      rw [if_neg]
      rintro ⟨-, hlate⟩
      exact hgap hlate
    rw [hg, History.hearGap, if_pos hgap]
    exact ⟨{ h with }, hshort⟩
  · have hg : g.frameIndex = 0 := by
      simp only [g, byteGap]
      split_ifs with hlate
      · rfl
      · simp only [GapOk, not_not] at hgap
        by_contra hne
        exact hlate ⟨Nat.pos_of_ne_zero hne, hgap⟩
    rw [History.hearGap, if_neg hgap]
    exact ⟨frameInv_of_framing (h.framing.skip _) hg, fun hi => by omega⟩

/-- **The bytes in the frame buffer are the last ones that were received.** -/
theorem frameInv_rxAssemble (cfg : BuildConfig) {c : DllCtx} {hist : History}
    {frames : List (List UInt8)} (h : FrameInv c frames hist.heard)
    (hshort : 0 < c.frameIndex → c.frameIndex < c.reqLen) (hs : Sized c) (rx : RxByte) :
    FrameInv (rxAssemble cfg c rx) frames
      ((hist.hearGap c rx.nowUs).hear (.byte rx.byte)).heard := by
  obtain ⟨hgi, hgp⟩ := frameInv_gap cfg h hshort rx.nowMs rx.nowUs
  have hgs : Sized (byteGap cfg { c with lastActivityMs := rx.nowMs } rx.nowUs) := by
    have hs' : Sized { c with lastActivityMs := rx.nowMs } := { hs with }
    exact hs'.of_sameConfig (untouched_byteGap cfg _ rx.nowUs).toSameConfig
  simp only [rxAssemble, History.hear]
  generalize byteGap cfg { c with lastActivityMs := rx.nowMs } rx.nowUs = g at hgi hgp hgs ⊢
  generalize (hist.hearGap c rx.nowUs).heard = heard at hgi ⊢
  simp only [assemble]
  split_ifs with h0 h48
  · -- The first byte of a frame.
    refine ⟨⟨heard, hgi.framing, ?_⟩, fun _ => ?_⟩
    · have h1 := slice_update_end g.frameBuf 0 rx.byte
      rw [slice_zero] at h1
      show heard ++ [Heard.byte rx.byte] = heard ++
        (slice (Function.update g.frameBuf 0 rx.byte) 0 (0 + 1)).map Heard.byte
      rw [h1]
      rfl
    · have hreq := dllReqLen_cases (c := { g with lastByteUs := rx.nowUs })
        (hgs.pdOut ▸ hgs.pdOutLe) hgs.odLe rx.byte
      refine ⟨?_, hreq⟩
      show 1 ≤ dllReqLen { g with lastByteUs := rx.nowUs } rx.byte
      rcases hreq with hr | hr <;> rw [hr] <;> omega
  · -- A further byte.
    have hpos : 0 < g.frameIndex := Nat.pos_of_ne_zero h0
    obtain ⟨pre, hpre, hheard⟩ := hgi.heard
    refine ⟨⟨pre, hpre, ?_⟩, fun _ => ⟨?_, (hgi.size hpos).2⟩⟩
    · show heard ++ [Heard.byte rx.byte] = pre ++
        (slice (Function.update g.frameBuf g.frameIndex rx.byte) 0
          (g.frameIndex + 1)).map Heard.byte
      rw [slice_update_end, hheard, List.map_append, List.append_assoc]
      rfl
    · have := hgp hpos
      show g.frameIndex + 1 ≤ g.reqLen
      omega
  · exact frameInv_of_framing (hgi.framing.skip _) rfl

/-! ## Complete frames -/

/-- The frame in the buffer. -/
def frameOf (c : DllCtx) : List UInt8 := slice c.frameBuf 0 c.reqLen

@[simp] theorem length_frameOf (c : DllCtx) : (frameOf c).length = c.reqLen := length_slice _ _ _

theorem frameOf_head {c : DllCtx} (h : 0 < c.reqLen) : (frameOf c).getD 0 0 = c.frameBuf 0 := by
  rw [frameOf, getD_slice _ _ h, Nat.zero_add]

/-- The frame that ends with the byte just heard is the one in the buffer. -/
theorem FrameInv.complete {c : DllCtx} {frames : List (List UInt8)} {heard : List Heard}
    (h : FrameInv c frames heard) (hfull : frameComplete c = true) :
    lastBytes c.reqLen heard = frameOf c ∧ Framing (frames ++ [frameOf c]) heard ∧
      (c.reqLen = 2 ∨ c.reqLen = c.pdOutLenCurrent + c.odLen + 3) := by
  obtain ⟨hpos, hge⟩ := frameComplete_iff.mp hfull
  obtain ⟨hle, hreq⟩ := h.size hpos
  have hidx : c.frameIndex = c.reqLen := le_antisymm hle hge
  obtain ⟨pre, hpre, rfl⟩ := h.heard
  rw [hidx]
  refine ⟨?_, hpre.frame (frameOf c), hreq⟩
  have hlast := lastBytes_append_map pre (frameOf c)
  rwa [length_frameOf] at hlast

theorem frameCrcOk_eq {c : DllCtx} (h : 2 ≤ c.reqLen) : frameCrcOk c = checksumOk (frameOf c) := by
  obtain ⟨n, hn⟩ := Nat.exists_eq_add_of_le' (show 1 ≤ c.reqLen by omega)
  have hbody : (frameOf c).dropLast = slice c.frameBuf 0 n := by
    rw [frameOf, hn, slice_succ, List.dropLast_concat]
  have hlast : (frameOf c).getLastD 0 = c.frameBuf n := by
    rw [frameOf, hn, slice_succ, Nat.zero_add, List.getLastD_concat]
  have hsnd : (frameOf c).getD 1 0 = c.frameBuf 1 := by
    rw [frameOf, List.getD_eq_getElem?_getD, getElem?_slice, if_pos (by omega)]
    rfl
  rw [frameCrcOk, checksumOk, length_frameOf, frameOf_head (by omega), hsnd, hbody, hlast, hn,
    Nat.add_sub_cancel]

/-- The fields of a Type 1 or Type 2 frame in the buffer. -/
theorem fields_eq {c : DllCtx} (hreq : c.reqLen = c.pdOutLenCurrent + c.odLen + 3) :
    pdField c = pdOf c.pdOutLenCurrent (frameOf c) ∧
      odField c = ((frameOf c).drop (mSeqHeaderLen + c.pdOutLenCurrent)).dropLast := by
  constructor
  · rw [pdField, pdOf, frameOf, drop_slice, take_slice, hreq, Nat.zero_add,
      Nat.min_eq_left (by rw [mSeqHeaderLen]; omega)]
  · rw [odField, frameOf, drop_slice, List.dropLast_eq_take, length_slice, take_slice, hreq,
      Nat.zero_add]
    congr 1
    rw [mSeqHeaderLen]
    omega

theorem carriesPd_iff {c : DllCtx} (h : 2 ≤ c.reqLen) :
    carriesPd c.state (frameOf c) = true ↔
      frameKind c.state c.reqLen (c.frameBuf 0) = .type12 := by
  rw [carriesPd, length_frameOf, frameOf_head (by omega)]
  cases c.state with
  | startup | awaitingComm | preoperate =>
    simp only [frameKind]
    split_ifs <;> simp
  | estabCom =>
    simp only [frameKind]
    split_ifs <;> simp_all
  | operate =>
    simp only [frameKind]
    split_ifs with hmc hlen
    · rcases hmc with hmc | hmc <;> simp [hmc]
    · simp [hlen]
    · rw [not_or] at hmc
      have hgt : 2 < c.reqLen := by omega
      simp [hmc, hgt]
  | fallback => simp [frameKind]

/-- **What a frame with a right checksum changes.** -/
theorem dllAcceptFrame_effect (cfg : BuildConfig) {c : DllCtx}
    (hreq : c.reqLen = 2 ∨ c.reqLen = c.pdOutLenCurrent + c.odLen + 3) (rx : RxByte) :
    (dllAcceptFrame cfg c rx).1.isdu =
        odMachine.final c.isdu (isduBytesOf c.state c.pdOutLenCurrent (frameOf c)) ∧
      (dllAcceptFrame cfg c rx).1.pdOut = if carriesPd c.state (frameOf c) then
        blit c.pdOut 0 (pdOf c.pdOutLenCurrent (frameOf c)) else c.pdOut := by
  have hge : 2 ≤ c.reqLen := by omega
  have hpd : carriesPd c.state (frameOf c) =
      decide (frameKind c.state c.reqLen (c.frameBuf 0) = .type12) := by
    rw [Bool.eq_iff_iff, carriesPd_iff hge, decide_eq_true_eq]
  rw [dllAcceptFrame_eq, isduBytesOf, length_frameOf, frameOf_head (by omega), hpd]
  cases hk : frameKind c.state c.reqLen (c.frameBuf 0) with
  | ignored | transition | type0 => exact ⟨rfl, rfl⟩
  | refused =>
    have hu := untouched_dllEnterFallback cfg (framingError c)
    exact ⟨hu.isdu, hu.pdOut⟩
  | type12 =>
    have hlong : c.reqLen = c.pdOutLenCurrent + c.odLen + 3 := by
      refine hreq.resolve_left fun h2 => ?_
      rw [← carriesPd_iff hge, carriesPd, length_frameOf, h2] at hk
      simp at hk
    obtain ⟨hpdf, hodf⟩ := fields_eq hlong
    obtain ⟨_, _, _, _, he, -⟩ := dllHandleOperateType12_eq cfg { c with state := .operate } rx
    simp only [he, decide_true, if_true]
    refine ⟨congrArg (odMachine.final c.isdu) hodf, ?_⟩
    show (if c.pdOutLenCurrent > 0 then blit c.pdOut 0 (pdField c) else c.pdOut) = _
    rw [← hpdf]
    split_ifs with hz
    · rfl
    · have hnil : pdField c = [] := by rw [pdField, show c.pdOutLenCurrent = 0 by omega, slice_zero]
      rw [hnil, blit_nil]

/-! ## One received byte -/

/-- The output process data against the recorded PD field. -/
def PdExplained (c : DllCtx) : Option (List UInt8) → Prop
  | none => ∀ i, c.pdOut i = 0
  | some pd => slice c.pdOut 0 c.pdOutLen = pd

/-- The history explains the device, up to the frame in the buffer that may
    be complete. -/
structure Explained (c : DllCtx) (hist : History) : Prop where
  sized : Sized c
  frame : FrameInv c (hist.replies.map Prod.fst) hist.heard
  isdu : c.isdu = hist.isdu
  pd : PdExplained c hist.pd
  checked : ∀ r ∈ hist.replies, checksumOk r.1 = true

/-- The history explains the device between two bytes. -/
structure Recorded (c : DllCtx) (hist : History) : Prop extends Explained c hist where
  short : 0 < c.frameIndex → c.frameIndex < c.reqLen

/-- The frames sent since an earlier history are those of the new replies. -/
def SentSince (hist hist' : History) (sent : List (List UInt8)) : Prop :=
  ∃ new, hist'.replies = hist.replies ++ new ∧ sent = new.filterMap Prod.snd

theorem SentSince.trans {h₁ h₂ h₃ : History} {s s' : List (List UInt8)} (h : SentSince h₁ h₂ s)
    (h' : SentSince h₂ h₃ s') : SentSince h₁ h₃ (s ++ s') := by
  obtain ⟨new, hr, rfl⟩ := h
  obtain ⟨new', hr', rfl⟩ := h'
  exact ⟨new ++ new', by rw [hr', hr, List.append_assoc], by rw [List.filterMap_append]⟩

theorem sentSince_of_replies {hist hist' : History} (h : hist'.replies = hist.replies) :
    SentSince hist hist' [] := ⟨[], by rw [h, List.append_nil], rfl⟩

/-- Only what was heard changes. -/
theorem hearGap_eq (hist : History) (c : DllCtx) (nowUs : UInt64) :
    ∃ heard, hist.hearGap c nowUs = { hist with heard := heard } := by
  unfold History.hearGap
  split_ifs
  · exact ⟨_, rfl⟩
  · exact ⟨_, rfl⟩

theorem PdExplained.congr {c c' : DllCtx} {pd : Option (List UInt8)} (h : PdExplained c pd)
    (hout : c'.pdOut = c.pdOut) (hlen : c'.pdOutLen = c.pdOutLen) : PdExplained c' pd := by
  cases pd with
  | none => intro i; rw [hout]; exact h i
  | some pd => rw [PdExplained, hout, hlen]; exact h

theorem PdExplained.of_untouched {c c' : DllCtx} {pd : Option (List UInt8)} (h : PdExplained c pd)
    (hu : Untouched c c') : PdExplained c' pd :=
  h.congr hu.pdOut hu.pdOutLen

theorem length_pdOf {c : DllCtx} (hs : Sized c) (h : c.reqLen = c.pdOutLenCurrent + c.odLen + 3) :
    (pdOf c.pdOutLen (frameOf c)).length = c.pdOutLen := by
  have hlen := hs.pdOut
  rw [pdOf, List.length_take, List.length_drop, length_frameOf, h, mSeqHeaderLen]
  omega

/-- A frame with a right checksum and its entry in the history. -/
theorem pdExplained_dllAcceptFrame (cfg : BuildConfig) {c : DllCtx} (hs : Sized c)
    (hreq : c.reqLen = 2 ∨ c.reqLen = c.pdOutLenCurrent + c.odLen + 3) (rx : RxByte)
    {pd : Option (List UInt8)} (h : PdExplained c pd) :
    PdExplained (dllAcceptFrame cfg c rx).1 (if carriesPd c.state (frameOf c) then
      some (pdOf c.pdOutLen (frameOf c)) else pd) := by
  have hout := (dllAcceptFrame_effect cfg hreq rx).2
  rw [hs.pdOut] at hout
  have hlen := (sameConfig_dllAcceptFrame cfg c rx).pdOutLen
  by_cases hc : carriesPd c.state (frameOf c) = true
  · rw [if_pos hc] at hout ⊢
    have hlong : c.reqLen = c.pdOutLenCurrent + c.odLen + 3 := by
      refine hreq.resolve_left fun h2 => ?_
      rw [carriesPd, length_frameOf, h2] at hc
      simp at hc
    have hpd := slice_blit c.pdOut 0 (pdOf c.pdOutLen (frameOf c))
    rw [length_pdOf hs hlong] at hpd
    rw [PdExplained, hout, hlen, hpd]
  · rw [if_neg hc] at hout ⊢
    exact h.congr hout hlen

theorem explained_rxAssemble (cfg : BuildConfig) {c : DllCtx} {hist : History} (h : Recorded c hist)
    (rx : RxByte) :
    Explained (rxAssemble cfg c rx) ((hist.hearGap c rx.nowUs).hear (.byte rx.byte)) := by
  have hframe := frameInv_rxAssemble cfg h.frame h.short h.sized rx
  have hun := untouched_rxAssemble cfg c rx
  obtain ⟨heard, hgap⟩ := hearGap_eq hist c rx.nowUs
  rw [hgap] at hframe ⊢
  exact ⟨h.sized.of_sameConfig hun.toSameConfig, hframe, hun.isdu.trans h.isdu,
    h.pd.of_untouched hun, h.checked⟩

/-- A complete frame leaves a trace in the history only if its checksum is
    right, and is answered only then. -/
theorem recorded_dllHandleFrame (cfg : BuildConfig) {c : DllCtx} {hist : History}
    (h : Explained c hist) (hfull : frameComplete c = true) (rx : RxByte) :
    let r := dllHandleFrame cfg c rx
    Recorded { r.1 with frameIndex := 0 }
        (if checksumOk (frameOf c) then hist.accept c (frameOf c) r.2 else hist) ∧
      (checksumOk (frameOf c) = false → r.2 = none) := by
  obtain ⟨-, hframing, hreq⟩ := h.frame.complete hfull
  obtain ⟨stats, events, hcyc, -⟩ := cycleStart_eq cfg c rx.procUs
  -- The check of the cycle time changes nothing that is compared here.
  set c' := cycleStart cfg c rx.procUs with hc'
  have hun : Untouched c c' := untouched_cycleStart cfg c rx.procUs
  have hs : Sized c' := h.sized.of_sameConfig hun.toSameConfig
  have hreq' : c'.reqLen = 2 ∨ c'.reqLen = c'.pdOutLenCurrent + c'.odLen + 3 := by
    rw [hcyc]; exact hreq
  have hframe : frameOf c' = frameOf c := by rw [hcyc]; rfl
  have hstate : c'.state = c.state := by rw [hcyc]
  have hpd := h.pd.of_untouched hun
  have hcrc : frameCrcOk c' = checksumOk (frameOf c) := by rw [frameCrcOk_eq (by omega), hframe]
  simp only [dllHandleFrame, ← hc', hcrc]
  by_cases hok : checksumOk (frameOf c) = true
  · rw [if_pos hok, if_pos hok]
    refine ⟨⟨⟨?_, frameInv_of_framing ?_ rfl, ?_, ?_, ?_⟩, fun hi => absurd hi (lt_irrefl 0)⟩, ?_⟩
    · exact { hs.of_sameConfig (sameConfig_dllAcceptFrame cfg c' rx) with }
    · show Framing ((hist.replies ++ [_]).map Prod.fst) hist.heard
      rw [List.map_append]
      exact hframing
    · have heff := (dllAcceptFrame_effect cfg hreq' rx).1
      rw [hframe, hstate, hs.pdOut, hun.pdOutLen, hun.isdu, h.isdu] at heff
      exact heff
    · have hout := pdExplained_dllAcceptFrame cfg hs hreq' rx hpd
      rw [hframe, hstate, hun.pdOutLen] at hout
      exact hout.of_untouched ⟨⟨rfl, rfl, rfl, rfl, rfl, rfl, rfl, id⟩, rfl, rfl⟩
    · intro r hr
      rcases List.mem_append.mp hr with hr | hr
      · exact h.checked r hr
      · rw [List.mem_singleton.mp hr]
        exact hok
    · intro hbad
      rw [hok] at hbad
      exact absurd hbad (by decide)
  · rw [if_neg hok, if_neg hok]
    have hrej := hun.trans (untouched_dllRejectFrame cfg c')
    refine ⟨⟨⟨?_, frameInv_of_framing h.frame.framing rfl, ?_, ?_, h.checked⟩,
      fun hi => absurd hi (lt_irrefl 0)⟩, fun _ => rfl⟩
    · exact { h.sized.of_sameConfig hrej.toSameConfig with }
    · exact hrej.isdu.trans h.isdu
    · exact h.pd.of_untouched ⟨{ hrej.toSameConfig with }, hrej.isdu, hrej.pdOut⟩

/-- **One received byte keeps device and history in step.** -/
theorem recorded_rxByte (cfg : BuildConfig) {c : DllCtx} {hist : History} (h : Recorded c hist)
    (rx : RxByte) : Recorded (rxByte cfg c rx).1 (recordByte cfg hist c rx) ∧
      SentSince hist (recordByte cfg hist c rx) (rxByte cfg c rx).2.toList := by
  have hasm := explained_rxAssemble cfg h rx
  have hrep : ((hist.hearGap c rx.nowUs).hear (.byte rx.byte)).replies = hist.replies := by
    obtain ⟨_, hgap⟩ := hearGap_eq hist c rx.nowUs
    rw [hgap]
    rfl
  simp only [recordByte]
  generalize (hist.hearGap c rx.nowUs).hear (.byte rx.byte) = hist₁ at hasm hrep ⊢
  simp only [rxByte]
  generalize rxAssemble cfg c rx = c' at hasm ⊢
  by_cases hfull : frameComplete c' = true
  · obtain ⟨hlast, -, -⟩ := hasm.frame.complete hfull
    obtain ⟨hrec, hnone⟩ := recorded_dllHandleFrame cfg hasm hfull rx
    simp only [hfull, if_true, Bool.true_and, hlast]
    refine ⟨hrec, ?_⟩
    by_cases hok : checksumOk (frameOf c') = true
    · rw [if_pos hok]
      refine ⟨[(frameOf c', (dllHandleFrame cfg c' rx).2)], by rw [← hrep]; rfl, ?_⟩
      cases (dllHandleFrame cfg c' rx).2 <;> rfl
    · rw [if_neg hok, hnone (Bool.eq_false_iff.mpr hok)]
      exact sentSince_of_replies hrep
  · simp only [hfull, Bool.false_and]
    refine ⟨⟨hasm, fun hi => ?_⟩, sentSince_of_replies hrep⟩
    rw [frameComplete_iff, not_and] at hfull
    exact Nat.lt_of_not_ge (hfull hi)

/-- The receive loop keeps device and history in step. -/
theorem recorded_rx (cfg : BuildConfig) {c : DllCtx} {hist : History} (h : Recorded c hist)
    (rxs : List RxByte) :
    let r := (recordingRx cfg).final (c, hist) rxs
    Recorded ((rxMachine cfg).final c rxs) r.2 ∧
      SentSince hist r.2 (((rxMachine cfg).outputs c rxs).filterMap id) := by
  induction rxs generalizing c hist with
  | nil => exact ⟨h, sentSince_of_replies rfl⟩
  | cons rx rxs ih =>
    obtain ⟨hrec, hsent⟩ := recorded_rxByte cfg h rx
    obtain ⟨hrec', hsent'⟩ := ih hrec
    refine ⟨hrec', ?_⟩
    have happ := hsent.trans hsent'
    have houts : ((rxMachine cfg).outputs c (rx :: rxs)).filterMap id =
        (rxByte cfg c rx).2.toList ++
        ((rxMachine cfg).outputs (rxByte cfg c rx).1 rxs).filterMap id := by
      rw [Machine.outputs_cons]
      show List.filterMap id ((rxByte cfg c rx).2 :: _) = _
      cases (rxByte cfg c rx).2 <;> rfl
    rw [houts]
    exact happ

/-! ## One call -/

/-- A step that leaves the partial frame alone. -/
theorem Recorded.of_untouched {c c' : DllCtx} {hist : History} (h : Recorded c hist)
    (hun : Untouched c c') (hbuf : c'.frameBuf = c.frameBuf) (hidx : c'.frameIndex = c.frameIndex)
    (hreq : c'.reqLen = c.reqLen) : Recorded c' hist := by
  refine ⟨⟨h.sized.of_sameConfig hun.toSameConfig, ⟨?_, ?_⟩, hun.isdu.trans h.isdu,
    h.pd.of_untouched hun, h.checked⟩, ?_⟩
  · rw [hbuf, hidx]
    exact h.frame.heard
  · rw [hidx, hreq, hun.pdOutLenCurrent, hun.odLen]
    exact h.frame.size
  · rw [hidx, hreq]
    exact h.short

/-- A step after which no partial frame is left. -/
theorem Recorded.dropped {c c' : DllCtx} {hist : History} (h : Recorded c hist)
    (hun : Untouched c c') (hidx : c'.frameIndex = 0) : Recorded c' (hist.hear .timeout) :=
  ⟨⟨h.sized.of_sameConfig hun.toSameConfig, frameInv_of_framing (h.frame.framing.skip _) hidx,
    hun.isdu.trans h.isdu, h.pd.of_untouched hun, h.checked⟩, fun hi => by omega⟩

theorem recorded_inactivityReset {c : DllCtx} {hist : History} (h : Recorded c hist)
    (nowMs : UInt32) :
    Recorded (inactivityReset c nowMs)
      (if c.lastActivityMs ≠ 0 ∧ nowMs - c.lastActivityMs > 1000 then hist.hear .timeout
        else hist) := by
  have hun := untouched_inactivityReset c nowMs
  unfold inactivityReset at hun ⊢
  by_cases hlate : c.lastActivityMs ≠ 0 ∧ nowMs - c.lastActivityMs > 1000
  · rw [if_pos hlate] at hun ⊢
    rw [if_pos hlate]
    exact h.dropped hun rfl
  · rw [if_neg hlate, if_neg hlate]
    exact h

theorem recorded_callGap (cfg : BuildConfig) {c : DllCtx} {hist : History} (h : Recorded c hist)
    (nowUs : UInt64) : Recorded (callGap cfg c nowUs) (hist.hearGap c nowUs) := by
  have hun := untouched_callGap cfg c nowUs
  by_cases hgap : GapOk c c.lastByteUs nowUs
  · have hsame : callGap cfg c nowUs = c := by
      unfold callGap
      rw [if_neg]
      rintro ⟨-, hlate⟩
      exact hgap hlate
    rw [hsame, History.hearGap, if_pos hgap]
    exact h
  · rw [History.hearGap, if_neg hgap]
    refine h.dropped hun ?_
    unfold callGap
    split_ifs with hlate
    · exact frameIndex_dllEnterFallback cfg rfl
    · simp only [GapOk, not_not] at hgap
      by_contra hne
      exact hlate ⟨Nat.pos_of_ne_zero hne, hgap⟩

/-- The rest of `iolink_dll_process` keeps device and history in step. -/
theorem recorded_dllReceive (cfg : BuildConfig) {c : DllCtx} {hist : History} (h : Recorded c hist)
    (env : CallEnv) :
    Recorded (dllReceive cfg c env).ctx (recordReceive cfg hist c env) ∧
      SentSince hist (recordReceive cfg hist c env) (dllReceive cfg c env).sent := by
  have hreset := recorded_inactivityReset h env.nowMs
  simp only [dllReceive, recordReceive]
  have hrep : (if c.lastActivityMs ≠ 0 ∧ env.nowMs - c.lastActivityMs > 1000 then
      hist.hear .timeout else hist).replies = hist.replies := by
    split_ifs <;> rfl
  generalize (if c.lastActivityMs ≠ 0 ∧ env.nowMs - c.lastActivityMs > 1000 then
    hist.hear .timeout else hist) = hist₁ at hreset hrep ⊢
  generalize inactivityReset c env.nowMs = c₁ at hreset ⊢
  split_ifs with hpd hsio hwait
  · refine ⟨hreset.of_untouched (untouched_drainRx cfg c₁ env.rx) ?_ ?_ ?_,
      sentSince_of_replies hrep⟩ <;> (unfold drainRx; split_ifs <;> rfl)
  · refine ⟨hreset.of_untouched (untouched_detectWakeup c₁ env) ?_ ?_ ?_,
      sentSince_of_replies hrep⟩ <;> (unfold detectWakeup; split_ifs <;> rfl)
  all_goals
    have hgap := recorded_callGap cfg hreset env.gapUs
    have hrep₂ : (hist₁.hearGap c₁ env.gapUs).replies = hist.replies := by
      obtain ⟨_, he⟩ := hearGap_eq hist₁ c₁ env.gapUs
      rw [he]
      exact hrep
  · exact ⟨hgap, sentSince_of_replies hrep₂⟩
  · obtain ⟨hrec, hsent⟩ := recorded_rx cfg hgap env.rx
    exact ⟨hrec, (sentSince_of_replies hrep₂).trans hsent⟩

/-- The polls at the start of `iolink_dll_process`. -/
theorem recorded_polled (cfg : BuildConfig) {d : Device} {hist : History} (h : Recorded d.dll hist)
    (env : CallEnv) :
    Recorded (dllPollDiagnostics cfg (deviceIsduProcess cfg d).dll env)
      { hist with isdu := (isduProcess cfg d.host hist.isdu).2 } := by
  obtain ⟨stats, events, hp⟩ := polled_eq cfg d env
  rw [hp, ← h.isdu]
  exact ⟨⟨{ h.sized with }, { h.frame with }, rfl, h.pd.congr rfl rfl, h.checked⟩, h.short⟩

/-- **One call keeps device and history in step.** -/
theorem recorded_deviceStep (cfg : BuildConfig) {d : Device} {hist : History}
    (h : Recorded d.dll hist) (call : Call) :
    Recorded (deviceStep cfg d call).1.dll (recordCall cfg hist d call) ∧
      SentSince hist (recordCall cfg hist d call) (deviceStep cfg d call).2.sent := by
  cases call with
  | process env =>
    obtain ⟨hrec, new, hrep, hsent⟩ := recorded_dllReceive cfg (recorded_polled cfg h env) env
    exact ⟨hrec, new, hrep, hsent⟩
  | pdInputUpdate data valid =>
    refine ⟨?_, ?_⟩
    · refine h.of_untouched ?_ ?_ ?_ ?_ <;> simp only [deviceStep, pdInputUpdate] <;>
        split_ifs <;> first | rfl | exact ⟨⟨rfl, rfl, rfl, rfl, rfl, rfl, rfl, id⟩, rfl, rfl⟩
    · exact sentSince_of_replies rfl
  | _ =>
    exact ⟨h.of_untouched ⟨⟨rfl, rfl, rfl, rfl, rfl, rfl, rfl, id⟩, rfl, rfl⟩ rfl rfl rfl,
      sentSince_of_replies rfl⟩

/-! ## Whole runs -/

theorem recorded_run (cfg : BuildConfig) {d : Device} {hist : History} (h : Recorded d.dll hist)
    (calls : List Call) :
    let r := (recordingDevice cfg).final (d, hist) calls
    Recorded r.1.dll r.2 ∧
      SentSince hist r.2 (sentFrames ((deviceMachine cfg).outputs d calls)) := by
  induction calls generalizing d hist with
  | nil => exact ⟨h, sentSince_of_replies rfl⟩
  | cons call calls ih =>
    obtain ⟨hrec, hsent⟩ := recorded_deviceStep cfg h call
    obtain ⟨hrec', hsent'⟩ := ih hrec
    exact ⟨hrec', hsent.trans hsent'⟩

theorem recorded_iolinkInit (cfg : BuildConfig) {config : Config} (hlen : config.pdOutLen ≤ 32)
    (hasSend : Bool) (nowUs : UInt64) (image : Option ParamsNvm) (store : Store) :
    Recorded (iolinkInit cfg config hasSend nowUs image store).dll History.init := by
  have hod := odLenOf_le config.mSeqType
  refine ⟨⟨⟨rfl, hlen, hod, ?_⟩, frameInv_of_framing .nil rfl, rfl, fun _ => rfl, nofun⟩,
    fun hi => absurd hi (lt_irrefl 0)⟩
  show 1 ≤ odLenOf config.mSeqType
  unfold odLenOf
  split_ifs <;> omega

/-- **Only accepted frames have effects.** In every run from `iolink_init` the
    output process data is all zero or the PD field of the last accepted Type 1
    or Type 2 frame, the ISDU engine is the one that has been fed only from
    frames with a right checksum, and what has been sent is at most one reply to
    each of these frames. The frames have been received in one piece, one after
    the other. -/
theorem accepted_frames_only (cfg : BuildConfig) (config : Config) (hlen : config.pdOutLen ≤ 32)
    (hasSend : Bool) (nowUs : UInt64) (image : Option ParamsNvm) (store : Store)
    (calls : List Call) :
    let d₀ := iolinkInit cfg config hasSend nowUs image store
    let d := (deviceMachine cfg).final d₀ calls
    let r := (recordingDevice cfg).final (d₀, History.init) calls
    r.1 = d ∧
      (match r.2.pd with
        | none => ∀ i, d.dll.pdOut i = 0
        | some pd => slice d.dll.pdOut 0 config.pdOutLen = pd) ∧
      d.dll.isdu = r.2.isdu ∧
      sentFrames ((deviceMachine cfg).outputs d₀ calls) = r.2.replies.filterMap Prod.snd ∧
      Framing (r.2.replies.map Prod.fst) r.2.heard ∧
      ∀ reply ∈ r.2.replies, checksumOk reply.1 = true := by
  intro d₀ d r
  have hdev : r.1 = d := (deviceMachine cfg).final_withHistory_fst (recordCall cfg) d₀ _ calls
  obtain ⟨hrec, new, hrep, hsent⟩ :=
    recorded_run cfg (recorded_iolinkInit cfg hlen hasSend nowUs image store) calls
  have hpdLen : d.dll.pdOutLen = config.pdOutLen := (sameConfig_final cfg d₀ calls).pdOutLen
  change Recorded r.1.dll r.2 at hrec
  rw [hdev] at hrec
  refine ⟨hdev, ?_, hrec.isdu, ?_, hrec.frame.framing, hrec.checked⟩
  · have hpd := hrec.pd
    cases hp : r.2.pd with
    | none =>
      rw [hp] at hpd
      exact hpd
    | some pd =>
      rw [hp, PdExplained, hpdLen] at hpd
      exact hpd
  · rw [hsent]
    change r.2.replies = [] ++ new at hrep
    rw [hrep, List.nil_append]

/-- A run to OPERATE, then a good frame and one with a wrong checksum. -/
def mixedCalls : List Call :=
  startupCalls .type11 ++ [.process (callWith false (cyclicFrame 0 0 [0x55] [0])),
    .process (callWith false [0, 0, 0x66, 0, 0])]

theorem accepted_frames_only_mixed :
    ((recordingDevice {}).final (iolinkInit {} (sampleConfig .type11) true 0 none storeInit,
        History.init) mixedCalls).2.pd = some [0x55] ∧
      slice ((deviceMachine {}).final (iolinkInit {} (sampleConfig .type11) true 0 none storeInit)
        mixedCalls).dll.pdOut 0 (sampleConfig .type11).pdOutLen = [0x55] := by
  have hpd : ((recordingDevice {}).final
      (iolinkInit {} (sampleConfig .type11) true 0 none storeInit,
      History.init) mixedCalls).2.pd = some [0x55] := by decide +kernel
  have h := accepted_frames_only {} (sampleConfig .type11) (by decide) true 0 none storeInit
    mixedCalls
  simp only [hpd] at h
  exact ⟨hpd, h.2.1⟩

end Iolinki
