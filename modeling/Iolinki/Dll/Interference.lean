import Iolinki.Dll.Channels

/-!
# Process data and ISDU do not interfere

Two runs start in the same state of OPERATE and receive cyclic frames that differ
in one channel only, in the same calls and at the same clock readings.

As long as each byte is read in OPERATE and no timeout drops a partial frame,
both runs see the frames where the master has put them (`MidFrame`). Then the other
channel is the same in both (`Abreast`): its part of the context and its field of
every reply. Outside OPERATE the device looks for frames of two bytes and can
find one anywhere, and after a timeout it takes the rest of a frame for the
beginning of the next.

* `abreast_rxByte`: one received byte.
* `abreast_dllReceive`: one call of `iolink_dll_process`.
* `channels_independent`: two runs.
-/

namespace Iolinki

open Iolinki.Lib

/-! ## Cyclic frames -/

/-- The length of the cyclic frames. -/
def frameLen (config : Config) : ℕ := config.pdOutLen + odLenOf config.mSeqType + 3

/-- A frame of that length with a right checksum. -/
structure CyclicFrame (config : Config) (frame : List UInt8) : Prop where
  length : frame.length = frameLen config
  checksum : checksumOk frame = true

/-- The OD field of a frame. -/
def odOf (pdLen : ℕ) (frame : List UInt8) : List UInt8 :=
  (frame.drop (mSeqHeaderLen + pdLen)).dropLast

/-- The frames agree in the MC byte and the field of the other channel. -/
def SameElsewhere (config : Config) : Channel → List UInt8 → List UInt8 → Prop
  | .pd, f, f' => f'.getD 0 0 = f.getD 0 0 ∧ odOf config.pdOutLen f' = odOf config.pdOutLen f
  | .od, f, f' => f'.getD 0 0 = f.getD 0 0 ∧ pdOf config.pdOutLen f' = pdOf config.pdOutLen f

/-- The frames that two runs receive instead of each other. -/
structure FramePair (config : Config) (k : Channel) (f f' : List UInt8) : Prop where
  left : CyclicFrame config f
  right : CyclicFrame config f'
  same : SameElsewhere config k f f'

/-- A device in OPERATE that has received the bytes `part` of the current frame. -/
structure MidFrame (config : Config) (c : DllCtx) (part : List UInt8) : Prop where
  state : c.state = .operate
  baudrate : c.baudrate = .com2
  mSeqType : c.mSeqType = config.mSeqType
  odLen : c.odLen = odLenOf config.mSeqType
  pdOutLen : c.pdOutLenCurrent = config.pdOutLen
  pdInLen : c.pdInLenCurrent = config.pdInLen
  frameIndex : c.frameIndex = part.length
  reqLen : 0 < c.frameIndex → c.reqLen = frameLen config
  short : part.length < frameLen config
  buffer : slice c.frameBuf 0 part.length = part

/-- The byte is read in OPERATE, and no timeout strikes before it inside a
    frame. -/
structure OnTime (c : DllCtx) (rx : RxByte) : Prop where
  state : c.state = .operate
  gap : 0 < c.frameIndex → GapOk c c.lastByteUs rx.nowUs

/-- The context with a further byte of a cyclic frame in the buffer. -/
def DllCtx.stored (c : DllCtx) (config : Config) (rx : RxByte) : DllCtx :=
  { c with
    lastActivityMs := rx.nowMs
    lastByteUs := rx.nowUs
    lastFrameUs := if c.frameIndex = 0 then rx.nowUs else c.lastFrameUs
    frameBuf := Function.update c.frameBuf c.frameIndex rx.byte
    frameIndex := c.frameIndex + 1
    reqLen := frameLen config }

section Byte

variable (cfg : BuildConfig) {config : Config} (htype : config.mSeqType ≠ .type0)
  (hlen : config.pdOutLen ≤ 32) {c c' : DllCtx} {part part' : List UInt8} {rx rx' : RxByte}

include hlen in
theorem frameLen_le : frameLen config ≤ 37 := by
  have := odLenOf_le config.mSeqType
  unfold frameLen
  omega

theorem le_frameLen (config : Config) : 4 ≤ frameLen config := by
  have := odLenOf_pos config.mSeqType
  unfold frameLen
  omega

include htype hlen in
theorem dllReqLen_of_midFrame (h : MidFrame config c part) (byte : UInt8) :
    dllReqLen c byte = frameLen config := by
  have hmulti := frameLen_le hlen
  unfold frameLen at hmulti ⊢
  unfold dllReqLen
  rw [if_neg (by rw [h.baudrate]; decide), if_pos ⟨by rw [h.mSeqType]; exact htype, h.state⟩,
    h.pdOutLen, h.odLen, mSeqHeaderLen]
  omega

include htype hlen in
/-- The byte is put where it belongs. -/
theorem rxAssemble_of_midFrame (h : MidFrame config c part) (hon : OnTime c rx) :
    rxAssemble cfg c rx = c.stored config rx := by
  have hno : byteGap cfg { c with lastActivityMs := rx.nowMs } rx.nowUs =
      { c with lastActivityMs := rx.nowMs } := by
    unfold byteGap
    rw [if_neg]
    rintro ⟨hpos, hgap⟩
    exact hon.gap hpos hgap
  have hreq := dllReqLen_of_midFrame htype hlen h rx.byte
  have hmax := frameLen_le hlen
  have hshort := h.short
  have hidx := h.frameIndex
  simp only [rxAssemble, hno, assemble, DllCtx.stored]
  by_cases hzero : c.frameIndex = 0
  · rw [if_pos hzero, if_pos hzero, ← hreq]
    simp only [hzero]
    rfl
  · rw [if_neg hzero, if_neg hzero, if_pos (by rw [frameBufSize]; omega),
      h.reqLen (Nat.pos_of_ne_zero hzero)]

/-- A byte that does not complete the frame. -/
theorem MidFrame.stored (h : MidFrame config c part) (hmore : part.length + 1 < frameLen config) :
    MidFrame config (c.stored config rx) (part ++ [rx.byte]) where
  state := h.state
  baudrate := h.baudrate
  mSeqType := h.mSeqType
  odLen := h.odLen
  pdOutLen := h.pdOutLen
  pdInLen := h.pdInLen
  frameIndex := by
    show c.frameIndex + 1 = _
    rw [h.frameIndex, List.length_append]
    rfl
  reqLen _ := rfl
  short := by
    rw [List.length_append]
    exact hmore
  buffer := by
    show slice (Function.update c.frameBuf c.frameIndex rx.byte) 0 _ = _
    rw [h.frameIndex, List.length_append]
    refine (slice_update_end c.frameBuf part.length rx.byte).trans ?_
    rw [h.buffer]

theorem apart_stored {k : Channel} (h : Apart k c c') (hclk : rx'.clocks = rx.clocks) :
    Apart k (c.stored config rx) (c'.stored config rx') := by
  obtain ⟨b, rfl⟩ := exists_byte hclk
  cases k with
  | pd =>
    obtain ⟨buf, p, rfl⟩ : ∃ buf p, c' = c.exchange buf p c.odPart := ⟨_, _, h⟩
    rfl
  | od =>
    obtain ⟨buf, q, rfl⟩ : ∃ buf q, c' = c.exchange buf c.pdPart q := ⟨_, _, h⟩
    rfl

end Byte

/-! ## Complete frames -/

/-- A cyclic frame stands in the buffer. -/
structure Loaded (config : Config) (c : DllCtx) (frame : List UInt8) : Prop where
  state : c.state = .operate
  odLen : c.odLen = odLenOf config.mSeqType
  pdOutLen : c.pdOutLenCurrent = config.pdOutLen
  reqLen : c.reqLen = frameLen config
  frame : frameOf c = frame

section Complete

variable (cfg : BuildConfig) {config : Config} {k : Channel} {c c' : DllCtx}
  {part frame frame' : List UInt8} {rx rx' : RxByte}

theorem MidFrame.loaded (h : MidFrame config c part) (hfull : part.length + 1 = frameLen config) :
    Loaded config (c.stored config rx) (part ++ [rx.byte]) where
  state := h.state
  odLen := h.odLen
  pdOutLen := h.pdOutLen
  reqLen := rfl
  frame := by
    show slice (Function.update c.frameBuf c.frameIndex rx.byte) 0 (frameLen config) = _
    rw [h.frameIndex, ← hfull, slice_update_end, h.buffer]

theorem loaded_cycleStart (h : Loaded config c frame) (procUs : UInt64) :
    Loaded config (cycleStart cfg c procUs) frame := by
  obtain ⟨_, _, he, -⟩ := cycleStart_eq cfg c procUs
  rw [he]
  exact ⟨h.state, h.odLen, h.pdOutLen, h.reqLen, h.frame⟩

theorem Loaded.mc (h : Loaded config c frame) : c.frameBuf 0 = frame.getD 0 0 := by
  have hpos := le_frameLen config
  rw [← h.frame, frameOf_head (by rw [h.reqLen]; omega)]

theorem Loaded.crc (h : Loaded config c frame) (hf : CyclicFrame config frame) :
    frameCrcOk c = true := by
  have hpos := le_frameLen config
  rw [frameCrcOk_eq (by rw [h.reqLen]; omega), h.frame]
  exact hf.checksum

theorem Loaded.fields (h : Loaded config c frame) :
    pdField c = pdOf config.pdOutLen frame ∧ odField c = odOf config.pdOutLen frame := by
  have hreq : c.reqLen = c.pdOutLenCurrent + c.odLen + 3 := by
    rw [h.reqLen, h.pdOutLen, h.odLen, frameLen]
  obtain ⟨hpd, hod⟩ := fields_eq hreq
  rw [hpd, hod, h.frame, h.pdOutLen]
  exact ⟨rfl, rfl⟩

theorem Loaded.sameField (h : Loaded config c frame) (h' : Loaded config c' frame')
    (hs : SameElsewhere config k frame frame') : SameField k c c' := by
  cases k with
  | pd =>
    show odField c' = odField c
    rw [h.fields.2, h'.fields.2]
    exact hs.2
  | od =>
    show pdField c' = pdField c
    rw [h.fields.1, h'.fields.1]
    exact hs.2

/-- A cyclic frame is refused for its MC byte, or both channels are exchanged. -/
theorem dllHandleFrame_of_loaded (h : Loaded config c frame) (hf : CyclicFrame config frame) :
    dllHandleFrame cfg c rx =
      if frame.getD 0 0 = mcTransitionCommand ∨ forbiddenChannel (frame.getD 0 0) then
        (dllEnterFallback cfg (framingError (cycleStart cfg c rx.procUs)), none)
      else dllHandleOperateType12 cfg (cycleStart cfg c rx.procUs) rx := by
  have hc := loaded_cycleStart cfg h rx.procUs
  have hpos := le_frameLen config
  simp only [dllHandleFrame, hc.crc hf, if_true, dllAcceptFrame, hc.state, hc.mc,
    reduceCtorEq, or_self, if_false]
  rw [if_neg (show ¬(cycleStart cfg c rx.procUs).reqLen = 2 by rw [hc.reqLen]; omega)]

theorem apart_dllHandleFrame (h : Apart k c c') (hl : Loaded config c frame)
    (hl' : Loaded config c' frame') (hf : CyclicFrame config frame)
    (hf' : CyclicFrame config frame') (hs : SameElsewhere config k frame frame')
    (hclk : rx'.clocks = rx.clocks) :
    Apart k (dllHandleFrame cfg c rx).1 (dllHandleFrame cfg c' rx').1 ∧
      (dllHandleFrame cfg c' rx').2.map (otherReply k c'.pdInLenCurrent) =
        (dllHandleFrame cfg c rx).2.map (otherReply k c.pdInLenCurrent) := by
  have hmc : frame'.getD 0 0 = frame.getD 0 0 := by
    cases k with
    | pd => exact hs.1
    | od => exact hs.1
  have hproc : rx'.procUs = rx.procUs := by
    obtain ⟨b, rfl⟩ := exists_byte hclk
    rfl
  have hcyc := (linkStep_cycleStart cfg rx.procUs).apart h
  rw [dllHandleFrame_of_loaded cfg hl hf, dllHandleFrame_of_loaded cfg hl' hf', hmc, hproc]
  by_cases hrefuse : frame.getD 0 0 = mcTransitionCommand ∨ forbiddenChannel (frame.getD 0 0) = true
  · rw [if_pos hrefuse, if_pos hrefuse]
    exact ⟨(linkStep_refused cfg).apart hcyc, rfl⟩
  · rw [if_neg hrefuse, if_neg hrefuse]
    have hin : ∀ c : DllCtx, (cycleStart cfg c rx.procUs).pdInLenCurrent = c.pdInLenCurrent :=
      fun c => (untouched_cycleStart cfg c rx.procUs).pdInLenCurrent
    have hfield := (loaded_cycleStart cfg hl rx.procUs).sameField
      (loaded_cycleStart cfg hl' rx.procUs) hs
    have hboth := apart_dllHandleOperateType12 cfg hcyc hfield hclk
    rw [hin, hin] at hboth
    exact hboth

end Complete

/-! ## Two runs, byte by byte -/

/-- Two contexts that differ in one channel only. As long as the device is in
    OPERATE, `fut` and `fut'` continue the frames that have been started. -/
structure Abreast (config : Config) (k : Channel) (c c' : DllCtx) (fut fut' : List UInt8) :
    Prop where
  apart : Apart k c c'
  tracks : c.state = .operate → ∃ part part' frames frames',
    MidFrame config c part ∧ MidFrame config c' part' ∧
      List.Forall₂ (FramePair config k) frames frames' ∧
      part ++ fut <+: frames.flatten ∧ part' ++ fut' <+: frames'.flatten

/-- The byte that completes a frame. -/
theorem frame_complete {part fut f fs : List UInt8} {b : UInt8} (h : part ++ b :: fut <+: f ++ fs)
    (hlen : part.length + 1 = f.length) : part ++ [b] = f ∧ fut <+: fs := by
  obtain ⟨t, ht⟩ := h
  rw [← List.singleton_append, ← List.append_assoc, List.append_assoc _ fut] at ht
  obtain ⟨hf, hfs⟩ := List.append_inj ht (by rw [List.length_append]; exact hlen)
  exact ⟨hf, t, hfs⟩

section Runs

variable (cfg : BuildConfig) {config : Config} (htype : config.mSeqType ≠ .type0)
  (hlen : config.pdOutLen ≤ 32) {k : Channel} {c c' : DllCtx} {part fut fut' : List UInt8}
  {rx rx' : RxByte}

include htype hlen in
/-- A byte that does not complete the frame is only stored. -/
theorem rxByte_of_more (h : MidFrame config c part) (hon : OnTime c rx)
    (hmore : part.length + 1 < frameLen config) : rxByte cfg c rx = (c.stored config rx, none) := by
  have hasm := rxAssemble_of_midFrame cfg htype hlen h hon
  rw [rxByte_short cfg, hasm]
  rw [hasm]
  show c.frameIndex + 1 < frameLen config
  rw [h.frameIndex]
  exact hmore

theorem MidFrame.frameComplete_stored (h : MidFrame config c part)
    (hfull : part.length + 1 = frameLen config) : frameComplete (c.stored config rx) = true := by
  refine frameComplete_iff.mpr ⟨Nat.succ_pos _, ?_⟩
  show frameLen config ≤ c.frameIndex + 1
  rw [h.frameIndex, hfull]

include htype hlen in
/-- A byte that completes the frame lets it be handled. -/
theorem rxByte_of_full (h : MidFrame config c part) (hon : OnTime c rx)
    (hfull : part.length + 1 = frameLen config) :
    rxByte cfg c rx = ({ (dllHandleFrame cfg (c.stored config rx) rx).1 with frameIndex := 0 },
      (dllHandleFrame cfg (c.stored config rx) rx).2) := by
  simp only [rxByte, rxAssemble_of_midFrame cfg htype hlen h hon]
  rw [if_pos (h.frameComplete_stored hfull)]

include htype hlen in
/-- After a complete frame a device in OPERATE waits for the next one. -/
theorem midFrame_rxByte (h : MidFrame config c part) (hon : OnTime c rx)
    (hfull : part.length + 1 = frameLen config) (hop : (rxByte cfg c rx).1.state = .operate) :
    MidFrame config (rxByte cfg c rx).1 [] := by
  have hcfg := sameConfig_rxByte cfg c rx
  have hpos := le_frameLen config
  have hidx : (rxByte cfg c rx).1.frameIndex = 0 := by
    rw [rxByte_of_full cfg htype hlen h hon hfull]
  have hcom : (rxByte cfg c rx).1.baudrate = .com2 := by
    have hbaud := (link_rxAssemble cfg c rx).2.2.trans h.baudrate
    rcases rxByte_cases cfg c rx with ⟨-, he⟩ | ⟨-, -, ho⟩
    · rw [he]
      exact hbaud
    · cases ho with
      | ignored _ _ _ _ hb | transition _ _ _ _ hb | type0 _ _ _ _ hb | type12 _ _ _ _ hb
      | counted _ _ _ _ hb => rw [hb, hbaud]
      | sio _ _ hs | restart _ _ hs =>
        rw [hs] at hop
        cases hop
  exact ⟨hop, hcom, hcfg.mSeqType.trans h.mSeqType, hcfg.odLen.trans h.odLen,
    hcfg.pdOutLenCurrent.trans h.pdOutLen, hcfg.pdInLenCurrent.trans h.pdInLen, hidx,
    fun hi => absurd hi (by rw [hidx]; decide), Nat.lt_of_lt_of_le (by decide) hpos, rfl⟩

include htype hlen in
/-- **One byte in both runs.** -/
theorem abreast_rxByte (h : Abreast config k c c' (rx.byte :: fut) (rx'.byte :: fut'))
    (hon : OnTime c rx) (hclk : rx'.clocks = rx.clocks) :
    Abreast config k (rxByte cfg c rx).1 (rxByte cfg c' rx').1 fut fut' ∧
      (rxByte cfg c' rx').2.map (otherReply k config.pdInLen) =
        (rxByte cfg c rx).2.map (otherReply k config.pdInLen) := by
  obtain ⟨part, part', frames, frames', ht, ht', hframes, hpre, hpre'⟩ := h.tracks hon.state
  have hon' : OnTime c' rx' := by
    obtain ⟨b, rfl⟩ := exists_byte hclk
    rw [h.apart.exchange]
    exact ⟨hon.state, hon.gap⟩
  have hsize : part'.length = part.length := by
    rw [← ht.frameIndex, ← ht'.frameIndex, h.apart.frameIndex]
  have hstored : Apart k (c.stored config rx) (c'.stored config rx') := apart_stored h.apart hclk
  by_cases hmore : part.length + 1 < frameLen config
  · have hmore' : part'.length + 1 < frameLen config := by rw [hsize]; exact hmore
    rw [rxByte_of_more cfg htype hlen ht hon hmore, rxByte_of_more cfg htype hlen ht' hon' hmore']
    refine ⟨⟨hstored, fun _ => ?_⟩, rfl⟩
    refine ⟨_, _, frames, frames', ht.stored hmore, ht'.stored hmore', hframes, ?_, ?_⟩
    · rw [List.append_assoc]
      exact hpre
    · rw [List.append_assoc]
      exact hpre'
  · have hfull : part.length + 1 = frameLen config := Nat.le_antisymm ht.short (Nat.not_lt.mp hmore)
    have hfull' : part'.length + 1 = frameLen config := by rw [hsize]; exact hfull
    -- the frame that the master is sending is complete now
    cases hframes with
    | nil => simp at hpre
    | cons hf hfs =>
      obtain ⟨hcyc, hcyc', hsame⟩ := hf
      rw [List.flatten_cons] at hpre hpre'
      obtain ⟨rfl, hrest⟩ := frame_complete hpre (hfull.trans hcyc.length.symm)
      obtain ⟨rfl, hrest'⟩ := frame_complete hpre' (hfull'.trans hcyc'.length.symm)
      obtain ⟨hapart, hreply⟩ :=
        apart_dllHandleFrame cfg hstored (ht.loaded hfull) (ht'.loaded hfull') hcyc hcyc' hsame hclk
      have hnext := midFrame_rxByte cfg htype hlen ht hon hfull
      have hnext' := midFrame_rxByte cfg htype hlen ht' hon' hfull'
      rw [rxByte_of_full cfg htype hlen ht hon hfull] at hnext ⊢
      rw [rxByte_of_full cfg htype hlen ht' hon' hfull'] at hnext' ⊢
      have hstart := linkStep_frameIndex.apart hapart
      refine ⟨⟨hstart, fun hop => ?_⟩, ?_⟩
      · exact ⟨[], [], _, _, hnext hop, hnext' (hstart.state.trans hop), hfs, hrest, hrest'⟩
      · have hin : (c.stored config rx).pdInLenCurrent = config.pdInLen := ht.pdInLen
        have hin' : (c'.stored config rx').pdInLenCurrent = config.pdInLen := ht'.pdInLen
        rw [hin, hin'] at hreply
        exact hreply

theorem map_filterMap_cons {α β : Type*} (f : α → β) (o : Option α) (os : List (Option α)) :
    ((o :: os).filterMap id).map f = (o.map f).toList ++ (os.filterMap id).map f := by
  cases o <;> rfl

include htype hlen in
/-- **A burst in both runs.** -/
theorem abreast_rx {rxs rxs' : List RxByte} (hclk : rxs'.map RxByte.clocks = rxs.map RxByte.clocks)
    (h : Abreast config k c c' (rxs.map RxByte.byte ++ fut) (rxs'.map RxByte.byte ++ fut'))
    (hon : ∀ x ∈ (rxMachine cfg).collect (fun c rx => [(c, rx)]) c rxs, OnTime x.1 x.2) :
    Abreast config k ((rxMachine cfg).final c rxs) ((rxMachine cfg).final c' rxs') fut fut' ∧
      (((rxMachine cfg).outputs c' rxs').filterMap id).map (otherReply k config.pdInLen) =
        (((rxMachine cfg).outputs c rxs).filterMap id).map (otherReply k config.pdInLen) := by
  induction rxs generalizing rxs' c c' with
  | nil =>
    cases rxs' with
    | nil => exact ⟨h, rfl⟩
    | cons rx' rxs' => cases hclk
  | cons rx rxs ih =>
    cases rxs' with
    | nil => cases hclk
    | cons rx' rxs' =>
      obtain ⟨hbyte, hrest⟩ := List.cons.inj hclk
      rw [Machine.collect_cons, List.forall_mem_append] at hon
      obtain ⟨hstep, hreply⟩ :=
        abreast_rxByte cfg htype hlen h (hon.1 (c, rx) (List.mem_singleton.mpr rfl)) hbyte
      obtain ⟨hfinal, hreplies⟩ := ih hrest hstep hon.2
      refine ⟨hfinal, ?_⟩
      rw [Machine.outputs_cons, Machine.outputs_cons, map_filterMap_cons, map_filterMap_cons]
      exact congrArg₂ (fun o replies => Option.toList o ++ replies) hreply hreplies

end Runs

/-! ## Two runs, call by call -/

/-- The clock readings and the answers of the PHY in a call, without the bytes. -/
def CallEnv.clocks (env : CallEnv) : CallEnv := { env with rx := env.rx.map RxByte.clocks }

theorem exists_rx {env env' : CallEnv} (h : env'.clocks = env.clocks) :
    ∃ rxs, rxs.map RxByte.clocks = env.rx.map RxByte.clocks ∧ env' = { env with rx := rxs } := by
  have hmk : env' = { env'.clocks with rx := env'.rx } := rfl
  have hrx : env'.rx.map RxByte.clocks = env.rx.map RxByte.clocks := by
    show env'.clocks.rx = _
    rw [h]
    rfl
  rw [h] at hmk
  exact ⟨env'.rx, hrx, hmk⟩

/-- The bytes that come with a call are read in OPERATE, and no timeout drops a
    partial frame. -/
structure InStep (cfg : BuildConfig) (c : DllCtx) (env : CallEnv) : Prop where
  read : env.rx ≠ [] → (loopStart cfg c env).isSome = true
  gap : 0 < (inactivityReset c env.nowMs).frameIndex →
    GapOk (inactivityReset c env.nowMs) (inactivityReset c env.nowMs).lastByteUs env.gapUs
  onTime : ∀ x ∈ noteReceive cfg (fun c rx => [(c, rx)]) c env, OnTime x.1 x.2

section Calls

variable (cfg : BuildConfig) {config : Config} (htype : config.mSeqType ≠ .type0)
  (hlen : config.pdOutLen ≤ 32) {k : Channel} {c c' : DllCtx} {fut fut' : List UInt8}

/-- The fields that matter for the assembly of a frame. -/
structure FrameKept (c c' : DllCtx) : Prop where
  state : c'.state = c.state
  baudrate : c'.baudrate = c.baudrate
  mSeqType : c'.mSeqType = c.mSeqType
  odLen : c'.odLen = c.odLen
  pdOutLen : c'.pdOutLenCurrent = c.pdOutLenCurrent
  pdInLen : c'.pdInLenCurrent = c.pdInLenCurrent
  frameIndex : c'.frameIndex = c.frameIndex
  reqLen : c'.reqLen = c.reqLen
  frameBuf : c'.frameBuf = c.frameBuf

theorem MidFrame.congr {part : List UInt8} (h : MidFrame config c part) (hk : FrameKept c c') :
    MidFrame config c' part where
  state := hk.state.trans h.state
  baudrate := hk.baudrate.trans h.baudrate
  mSeqType := hk.mSeqType.trans h.mSeqType
  odLen := hk.odLen.trans h.odLen
  pdOutLen := hk.pdOutLen.trans h.pdOutLen
  pdInLen := hk.pdInLen.trans h.pdInLen
  frameIndex := hk.frameIndex.trans h.frameIndex
  reqLen := by
    rw [hk.frameIndex, hk.reqLen]
    exact h.reqLen
  short := h.short
  buffer := by
    rw [hk.frameBuf]
    exact h.buffer

/-- Steps that let a device in OPERATE go on with its frame. -/
theorem Abreast.of_kept {e e' : DllCtx} (h : Abreast config k c c' fut fut') (ha : Apart k e e')
    (hk : e.state = .operate → FrameKept c e) (hk' : e'.state = .operate → FrameKept c' e') :
    Abreast config k e e' fut fut' where
  apart := ha
  tracks hop := by
    obtain ⟨part, part', frames, frames', ht, ht', hrest⟩ :=
      h.tracks ((hk hop).state.symm.trans hop)
    exact ⟨part, part', frames, frames', ht.congr (hk hop),
      ht'.congr (hk' (ha.state.trans hop)), hrest⟩

theorem frameKept_inactivityReset {nowMs : UInt32}
    (h : (inactivityReset c nowMs).state = .operate) : FrameKept c (inactivityReset c nowMs) := by
  unfold inactivityReset at h ⊢
  by_cases hreset : c.lastActivityMs ≠ 0 ∧ nowMs - c.lastActivityMs > 1000
  · rw [if_pos hreset] at h
    cases h
  · rw [if_neg hreset]
    exact ⟨rfl, rfl, rfl, rfl, rfl, rfl, rfl, rfl, rfl⟩

theorem abreast_inactivityReset (h : Abreast config k c c' fut fut') (nowMs : UInt32) :
    Abreast config k (inactivityReset c nowMs) (inactivityReset c' nowMs) fut fut' :=
  h.of_kept ((linkStep_inactivityReset nowMs).apart h.apart) frameKept_inactivityReset
    frameKept_inactivityReset

theorem frameKept_detectWakeup {env : CallEnv} (h : (detectWakeup c env).state = .operate) :
    FrameKept c (detectWakeup c env) := by
  unfold detectWakeup at h ⊢
  split_ifs at h ⊢
  · cases h
  · exact ⟨rfl, rfl, rfl, rfl, rfl, rfl, rfl, rfl, rfl⟩

theorem abreast_detectWakeup (h : Abreast config k c c' fut fut') (env : CallEnv) :
    Abreast config k (detectWakeup c env) (detectWakeup c' env) fut fut' :=
  h.of_kept ((linkStep_detectWakeup env).apart h.apart) frameKept_detectWakeup
    frameKept_detectWakeup

theorem callGap_of_gapOk {nowUs : UInt64} (h : 0 < c.frameIndex → GapOk c c.lastByteUs nowUs) :
    callGap cfg c nowUs = c := by
  unfold callGap
  rw [if_neg]
  rintro ⟨hpos, hgap⟩
  exact h hpos hgap

/-- The ways through a call in which no timeout drops a partial frame. -/
theorem dllReceive_of_gapOk {c₁ : DllCtx} (env : CallEnv) (hc₁ : inactivityReset c env.nowMs = c₁)
    (hgap : callGap cfg c₁ env.gapUs = c₁) :
    dllReceive cfg c env =
      if dllTPdActive c₁ env.tPdUs then ⟨drainRx cfg c₁ env.rx, [], []⟩
      else if c₁.phyMode = .sio then ⟨detectWakeup c₁ env, [], env.rx⟩
      else if awaitingDelay c₁ env.awaitUs then ⟨c₁, [], env.rx⟩
      else ⟨(rxMachine cfg).final c₁ env.rx,
        ((rxMachine cfg).outputs c₁ env.rx).filterMap id, []⟩ := by
  simp only [dllReceive, hc₁, hgap]

theorem loopStart_of_gapOk {c₁ : DllCtx} {env : CallEnv} (hc₁ : inactivityReset c env.nowMs = c₁)
    (hgap : callGap cfg c₁ env.gapUs = c₁) :
    loopStart cfg c env =
      if dllTPdActive c₁ env.tPdUs then none
      else if c₁.phyMode = .sio then none
      else if awaitingDelay c₁ env.awaitUs then none
      else some c₁ := by
  simp only [loopStart, hc₁, hgap]

variable {cfg} in
/-- A call that stops before the loop comes with no bytes. -/
theorem InStep.rx_nil {env : CallEnv} (h : InStep cfg c env) (hstop : loopStart cfg c env = none) :
    env.rx = [] := by
  by_contra hne
  have hsome := h.read hne
  rw [hstop] at hsome
  cases hsome

include htype hlen in
/-- **A call of `iolink_dll_process` in both runs.** -/
theorem abreast_dllReceive {env env' : CallEnv} (hclk : env'.clocks = env.clocks)
    (h : Abreast config k c c' (env.rx.map RxByte.byte ++ fut) (env'.rx.map RxByte.byte ++ fut'))
    (hin : InStep cfg c env) :
    Abreast config k (dllReceive cfg c env).ctx (dllReceive cfg c' env').ctx fut fut' ∧
      (dllReceive cfg c' env').sent.map (otherReply k config.pdInLen) =
        (dllReceive cfg c env).sent.map (otherReply k config.pdInLen) := by
  obtain ⟨rxs, hrxs, rfl⟩ := exists_rx hclk
  -- the context after the inactivity reset, in both runs
  obtain ⟨c₁, hc₁⟩ : ∃ c₁, inactivityReset c env.nowMs = c₁ := ⟨_, rfl⟩
  obtain ⟨c₁', hc₁'⟩ : ∃ c₁', inactivityReset c' env.nowMs = c₁' := ⟨_, rfl⟩
  have h₁ : Abreast config k c₁ c₁' (env.rx.map RxByte.byte ++ fut) (rxs.map RxByte.byte ++ fut') :=
    hc₁ ▸ hc₁' ▸ abreast_inactivityReset h env.nowMs
  have hapart : Apart k c₁ c₁' := h₁.apart
  have hgap : callGap cfg c₁ env.gapUs = c₁ := callGap_of_gapOk cfg (hc₁ ▸ hin.gap)
  have hgap' : callGap cfg c₁' env.gapUs = c₁' := by
    refine callGap_of_gapOk cfg ?_
    rw [hapart.exchange]
    exact hc₁ ▸ hin.gap
  have hpd : dllTPdActive c₁' env.tPdUs = dllTPdActive c₁ env.tPdUs := by rw [hapart.exchange]; rfl
  have hmode : c₁'.phyMode = c₁.phyMode := by rw [hapart.exchange]; rfl
  have hwait : awaitingDelay c₁' env.awaitUs = awaitingDelay c₁ env.awaitUs := by
    rw [hapart.exchange]
    rfl
  have hquiet : loopStart cfg c env = none → env.rx = [] ∧ rxs = [] := by
    intro hstop
    have hrx : env.rx = [] := hin.rx_nil hstop
    rw [hrx] at hrxs
    exact ⟨hrx, List.map_eq_nil_iff.mp hrxs⟩
  have hstart := loopStart_of_gapOk cfg hc₁ hgap
  have honTime := hin.onTime
  rw [dllReceive_of_gapOk cfg env hc₁ hgap,
    dllReceive_of_gapOk cfg { env with rx := rxs } hc₁' hgap',
    hpd, hmode, hwait]
  simp only [noteReceive] at honTime
  by_cases h1 : dllTPdActive c₁ env.tPdUs = true
  · rw [if_pos h1] at hstart
    obtain ⟨hrx, rfl⟩ := hquiet hstart
    rw [hrx] at h₁ ⊢
    rw [if_pos h1, if_pos h1]
    exact ⟨h₁, rfl⟩
  rw [if_neg h1] at hstart
  rw [if_neg h1, if_neg h1]
  by_cases h2 : c₁.phyMode = .sio
  · rw [if_pos h2] at hstart
    obtain ⟨hrx, rfl⟩ := hquiet hstart
    rw [hrx] at h₁ ⊢
    rw [if_pos h2, if_pos h2]
    exact ⟨abreast_detectWakeup h₁ env, rfl⟩
  rw [if_neg h2] at hstart
  rw [if_neg h2, if_neg h2]
  by_cases h3 : awaitingDelay c₁ env.awaitUs = true
  · rw [if_pos h3] at hstart
    obtain ⟨hrx, rfl⟩ := hquiet hstart
    rw [hrx] at h₁ ⊢
    rw [if_pos h3, if_pos h3]
    exact ⟨h₁, rfl⟩
  · rw [if_neg h3] at hstart
    rw [if_neg h3, if_neg h3]
    rw [hstart] at honTime
    exact abreast_rx cfg htype hlen hrxs h₁ honTime

end Calls

/-! ## Two runs of the device -/

/-- The bytes that come with a call. -/
def Call.bytes : Call → List UInt8
  | .process env => env.rx.map RxByte.byte
  | _ => []

/-- Two runs with the same clock readings. If they are to differ in the process
    data, each may have updates of its own. -/
inductive SameLine : Channel → List Call → List Call → Prop
  | nil (k : Channel) : SameLine k [] []
  | process {k : Channel} {calls calls' : List Call} {env env' : CallEnv}
    (clocks : env'.clocks = env.clocks) (rest : SameLine k calls calls') :
    SameLine k (.process env :: calls) (.process env' :: calls')
  | update {k : Channel} {calls calls' : List Call} (data : List UInt8) (valid : Bool)
    (rest : SameLine k calls calls') :
    SameLine k (.pdInputUpdate data valid :: calls) (.pdInputUpdate data valid :: calls')
  | left {calls calls' : List Call} (data : List UInt8) (valid : Bool)
    (rest : SameLine .pd calls calls') : SameLine .pd (.pdInputUpdate data valid :: calls) calls'
  | right {calls calls' : List Call} (data : List UInt8) (valid : Bool)
    (rest : SameLine .pd calls calls') : SameLine .pd calls (.pdInputUpdate data valid :: calls')

/-- The context in which a call of `iolink_process` enters `dllReceive`. -/
def polled (cfg : BuildConfig) (d : Device) (env : CallEnv) : DllCtx :=
  dllPollDiagnostics cfg (deviceIsduProcess cfg d).dll env

/-- The calls of `iolink_process`, with the contexts in which they start to
    receive. -/
def polls (cfg : BuildConfig) (d : Device) : Call → List (DllCtx × CallEnv)
  | .process env => [(polled cfg d env, env)]
  | _ => []

/-- Two devices that differ in one channel only, and what they will receive. -/
structure AbreastDevices (config : Config) (k : Channel) (d d' : Device) (fut fut' : List UInt8) :
    Prop where
  dll : Abreast config k d.dll d'.dll fut fut'
  store : k = .pd → d'.store = d.store

section Devices

variable (cfg : BuildConfig) {config : Config} (htype : config.mSeqType ≠ .type0)
  (hlen : config.pdOutLen ≤ 32) {k : Channel} {d d' : Device} {fut fut' : List UInt8}

theorem host_eq (h : Apart .pd d.dll d'.dll) (hs : d'.store = d.store) : d'.host = d.host := by
  have hq := h.odPart
  have hevents : d'.dll.events = d.dll.events := congrArg OdPart.events hq
  have hds : d'.dll.ds = d.dll.ds := congrArg OdPart.ds hq
  have hstats : d'.dll.stats = d.dll.stats := congrArg OdPart.stats hq
  unfold Device.host
  rw [hevents, hds, hstats, hs]

/-- `iolink_isdu_process` in both runs. -/
theorem abreast_deviceIsduProcess (h : AbreastDevices config k d d' fut fut') :
    AbreastDevices config k (deviceIsduProcess cfg d) (deviceIsduProcess cfg d') fut fut' := by
  have hkept : ∀ d : Device, FrameKept d.dll (deviceIsduProcess cfg d).dll := fun d =>
    ⟨rfl, rfl, rfl, rfl, rfl, rfl, rfl, rfl, rfl⟩
  have ha := h.dll.apart
  cases k with
  | pd =>
    have hhost := host_eq ha (h.store rfl)
    have hisdu : d'.dll.isdu = d.dll.isdu := congrArg OdPart.isdu ha.odPart
    refine ⟨h.dll.of_kept ?_ (fun _ => hkept d) fun _ => hkept d', fun _ => ?_⟩
    · show (deviceIsduProcess cfg d').dll = _
      unfold deviceIsduProcess
      rw [hhost, hisdu, ha.exchange]
      rfl
    · show (isduProcess cfg d'.host d'.dll.isdu).1.store = _
      rw [hhost, hisdu]
      rfl
  | od =>
    refine ⟨h.dll.of_kept ?_ (fun _ => hkept d) fun _ => hkept d', fun hk => Channel.noConfusion hk⟩
    obtain ⟨q, hq⟩ : ∃ q, (deviceIsduProcess cfg d').dll.odPart = q := ⟨_, rfl⟩
    have hlink : d'.dll = d.dll.exchange d'.dll.frameBuf d.dll.pdPart d'.dll.odPart := ha
    calc (deviceIsduProcess cfg d').dll
      _ = d'.dll.exchange d'.dll.frameBuf d'.dll.pdPart q := by rw [← hq]; rfl
      _ = (d.dll.exchange d'.dll.frameBuf d.dll.pdPart d'.dll.odPart).exchange d'.dll.frameBuf
            d'.dll.pdPart q :=
        congrArg (fun c : DllCtx => c.exchange d'.dll.frameBuf d'.dll.pdPart q) hlink
      _ = (deviceIsduProcess cfg d).dll.exchange d'.dll.frameBuf d.dll.pdPart q := by
        rw [ha.pdPart]
        rfl
      _ = _ := by rw [← hq]; rfl

/-- The polls at the beginning of a call in both runs. -/
theorem abreast_polled (h : AbreastDevices config k d d' fut fut') {env env' : CallEnv}
    (hclk : env'.clocks = env.clocks) :
    Abreast config k (polled cfg d env) (polled cfg d' env') fut fut' := by
  obtain ⟨rxs, -, rfl⟩ := exists_rx hclk
  have hkept : ∀ c : DllCtx, FrameKept c (dllPollDiagnostics cfg c env) := by
    intro c
    obtain ⟨_, _, he⟩ := dllPollDiagnostics_eq cfg c env
    rw [he]
    exact ⟨rfl, rfl, rfl, rfl, rfl, rfl, rfl, rfl, rfl⟩
  have hisdu := (abreast_deviceIsduProcess cfg h).dll
  exact hisdu.of_kept ((linkStep_dllPollDiagnostics cfg env).apart hisdu.apart) (fun _ => hkept _)
    fun _ => hkept _

include htype hlen in
/-- **A call of `iolink_process` in both runs.** -/
theorem abreast_iolinkProcess {env env' : CallEnv} (hclk : env'.clocks = env.clocks)
    (h : AbreastDevices config k d d' (env.rx.map RxByte.byte ++ fut)
      (env'.rx.map RxByte.byte ++ fut')) (hin : InStep cfg (polled cfg d env) env) :
    AbreastDevices config k (iolinkProcess cfg d env).1 (iolinkProcess cfg d' env').1 fut fut' ∧
      (iolinkProcess cfg d' env').2.sent.map (otherReply k config.pdInLen) =
        (iolinkProcess cfg d env).2.sent.map (otherReply k config.pdInLen) := by
  obtain ⟨hdll, hsent⟩ := abreast_dllReceive cfg htype hlen hclk (abreast_polled cfg h hclk) hin
  exact ⟨⟨hdll, (abreast_deviceIsduProcess cfg h).store⟩, hsent⟩

theorem pdInputUpdate_eq (c : DllCtx) (data : List UInt8) (valid : Bool) :
    ∃ p, (pdInputUpdate c data valid).1 = c.exchange c.frameBuf p c.odPart := by
  unfold pdInputUpdate
  split_ifs
  · exact ⟨c.pdPart, rfl⟩
  · exact ⟨⟨_, _, _, _, _⟩, rfl⟩

theorem frameKept_pdInputUpdate (c : DllCtx) (data : List UInt8) (valid : Bool) :
    FrameKept c (pdInputUpdate c data valid).1 := by
  obtain ⟨p, hp⟩ := pdInputUpdate_eq c data valid
  rw [hp]
  exact ⟨rfl, rfl, rfl, rfl, rfl, rfl, rfl, rfl, rfl⟩

/-- The device after `iolink_pd_input_update`. -/
def Device.updated (d : Device) (data : List UInt8) (valid : Bool) : Device :=
  { d with dll := (pdInputUpdate d.dll data valid).1 }

section Update

variable (data : List UInt8) (valid : Bool)

theorem abreast_left (h : AbreastDevices config .pd d d' fut fut') :
    AbreastDevices config .pd (d.updated data valid) d' fut fut' := by
  refine ⟨h.dll.of_kept ?_ (fun _ => frameKept_pdInputUpdate d.dll data valid)
    fun _ => ⟨rfl, rfl, rfl, rfl, rfl, rfl, rfl, rfl, rfl⟩, h.store⟩
  obtain ⟨p, hp⟩ := pdInputUpdate_eq d.dll data valid
  show d'.dll = (pdInputUpdate d.dll data valid).1.exchange d'.dll.frameBuf d'.dll.pdPart
    (pdInputUpdate d.dll data valid).1.odPart
  rw [hp]
  exact h.dll.apart

theorem abreast_right (h : AbreastDevices config .pd d d' fut fut') :
    AbreastDevices config .pd d (d'.updated data valid) fut fut' := by
  refine ⟨h.dll.of_kept ?_ (fun _ => ⟨rfl, rfl, rfl, rfl, rfl, rfl, rfl, rfl, rfl⟩)
    fun _ => frameKept_pdInputUpdate d'.dll data valid, h.store⟩
  obtain ⟨p, hp⟩ := pdInputUpdate_eq d'.dll data valid
  show (pdInputUpdate d'.dll data valid).1 =
    d.dll.exchange (pdInputUpdate d'.dll data valid).1.frameBuf
    (pdInputUpdate d'.dll data valid).1.pdPart d.dll.odPart
  rw [hp, h.dll.apart.odPart]
  have hlink := h.dll.apart.exchange
  rw [hlink]
  rfl

/-- The same update in both runs. -/
theorem abreast_update (h : AbreastDevices config k d d' fut fut') :
    AbreastDevices config k (d.updated data valid) (d'.updated data valid) fut fut' := by
  cases k with
  | pd => exact abreast_right data valid (abreast_left data valid h)
  | od =>
    refine ⟨h.dll.of_kept ?_ (fun _ => frameKept_pdInputUpdate d.dll data valid)
      (fun _ => frameKept_pdInputUpdate d'.dll data valid), h.store⟩
    obtain ⟨buf, q, hq⟩ : ∃ buf q, d'.dll = d.dll.exchange buf d.dll.pdPart q := ⟨_, _, h.dll.apart⟩
    show (pdInputUpdate d'.dll data valid).1 = _
    rw [hq]
    unfold Device.updated pdInputUpdate
    rw [hq]
    split_ifs <;> rfl

end Update

include htype hlen in
/-- **Two runs.** -/
theorem abreast_run {calls calls' : List Call} (hline : SameLine k calls calls')
    (h : AbreastDevices config k d d' (calls.flatMap Call.bytes) (calls'.flatMap Call.bytes))
    (hin : ∀ x ∈ (deviceMachine cfg).collect (polls cfg) d calls, InStep cfg x.1 x.2) :
    Apart k ((deviceMachine cfg).final d calls).dll ((deviceMachine cfg).final d' calls').dll ∧
      (sentFrames ((deviceMachine cfg).outputs d' calls')).map (otherReply k config.pdInLen) =
        (sentFrames ((deviceMachine cfg).outputs d calls)).map (otherReply k config.pdInLen) := by
  induction hline generalizing d d' with
  | nil k => exact ⟨h.dll.apart, rfl⟩
  | process clocks rest ih =>
    rw [Machine.collect_cons, List.forall_mem_append] at hin
    obtain ⟨hstep, hsent⟩ := abreast_iolinkProcess cfg htype hlen clocks h
      (hin.1 _ (List.mem_singleton.mpr rfl))
    obtain ⟨hfinal, hreplies⟩ := ih hstep hin.2
    refine ⟨hfinal, ?_⟩
    rw [Machine.outputs_cons, Machine.outputs_cons, sentFrames, sentFrames, List.flatMap_cons,
      List.flatMap_cons, List.map_append, List.map_append]
    exact congrArg₂ (· ++ ·) hsent hreplies
  | update data valid rest ih => exact ih (abreast_update data valid h) hin
  | left data valid rest ih => exact ih (abreast_left data valid h) hin
  | right data valid rest ih => exact ih (abreast_right data valid h) hin

end Devices

/-- Two runs that receive cyclic frames with the same MC bytes and the same field
    of the other channel, up to some moment. -/
structure PairedRuns (config : Config) (k : Channel) (calls calls' : List Call) : Prop where
  line : SameLine k calls calls'
  frames : ∃ frames frames', List.Forall₂ (FramePair config k) frames frames' ∧
    calls.flatMap Call.bytes <+: frames.flatten ∧ calls'.flatMap Call.bytes <+: frames'.flatten

/-- A reachable device in OPERATE waits for a cyclic frame. -/
theorem reaches_midFrame {cfg : BuildConfig} {config : Config} {hasSend : Bool} {before : List Call}
    {d : Device} (hreach : Reaches cfg config hasSend before d) (hstate : d.dll.state = .operate)
    (hidx : d.dll.frameIndex = 0) : MidFrame config d.dll [] := by
  have hbaud := (reaches_linkInv hreach).operate hstate
  obtain ⟨nowUs, image, store, rfl⟩ := hreach
  have hc := sameConfig_final cfg (iolinkInit cfg config hasSend nowUs image store) before
  have hpos := le_frameLen config
  exact ⟨hstate, hbaud, hc.mSeqType, hc.odLen, hc.pdOutLenCurrent, hc.pdInLenCurrent, hidx,
    fun hi => absurd hi (by rw [hidx]; decide), Nat.lt_of_lt_of_le (by decide) hpos, rfl⟩

/-- **The channels are independent.** Two runs start in the same state of OPERATE without a
    partial frame, with process data of at most 32 bytes each way, and in one of them the bytes
    are read in OPERATE and no timeout drops a partial frame. If the runs differ in the process
    data only, the ISDU engines and the OD bytes of the replies are the same; if they differ in
    the OD bytes only, `pd_out` and the process data of the replies are the same. -/
theorem channels_independent (cfg : BuildConfig) {config : Config} {hasSend : Bool}
    {before : List Call} {d : Device} (hreach : Reaches cfg config hasSend before d)
    (hcyc : Cyclic config) (hstate : d.dll.state = .operate) (hidx : d.dll.frameIndex = 0)
    (calls calls' : List Call)
    (hin : ∀ x ∈ (deviceMachine cfg).collect (polls cfg) d calls, InStep cfg x.1 x.2) :
    let run := (deviceMachine cfg).final d
    let replies := fun calls => sentFrames ((deviceMachine cfg).outputs d calls)
    (PairedRuns config .pd calls calls' →
      (run calls').dll.isdu = (run calls).dll.isdu ∧
        (replies calls').map (replyOd config.pdInLen) =
          (replies calls).map (replyOd config.pdInLen)) ∧
    (PairedRuns config .od calls calls' →
      (run calls').dll.pdOut = (run calls).dll.pdOut ∧
        (replies calls').map (replyPd config.pdInLen) =
          (replies calls).map (replyPd config.pdInLen)) := by
  intro run replies
  have ht := reaches_midFrame hreach hstate hidx
  have hboth : ∀ k, PairedRuns config k calls calls' → Apart k (run calls).dll (run calls').dll ∧
      (replies calls').map (otherReply k config.pdInLen) =
        (replies calls).map (otherReply k config.pdInLen) := by
    intro k hp
    obtain ⟨frames, frames', hframes, hrx, hrx'⟩ := hp.frames
    refine abreast_run cfg hcyc.type hcyc.pdOut hp.line
      ⟨⟨.refl k d.dll, fun _ => ?_⟩, fun _ => rfl⟩ hin
    exact ⟨[], [], frames, frames', ht, ht, hframes, hrx, hrx'⟩
  constructor
  · intro hp
    obtain ⟨hapart, hreplies⟩ := hboth .pd hp
    exact ⟨congrArg OdPart.isdu hapart.odPart, hreplies⟩
  · intro hp
    obtain ⟨hapart, hreplies⟩ := hboth .od hp
    exact ⟨congrArg PdPart.pdOut hapart.pdPart, hreplies⟩

instance (c : DllCtx) (rx : RxByte) : Decidable (OnTime c rx) :=
  decidable_of_iff (c.state = .operate ∧ (0 < c.frameIndex → GapOk c c.lastByteUs rx.nowUs))
    ⟨fun h => ⟨h.1, h.2⟩, fun h => ⟨h.1, h.2⟩⟩

instance (cfg : BuildConfig) (c : DllCtx) (env : CallEnv) : Decidable (InStep cfg c env) :=
  decidable_of_iff ((env.rx ≠ [] → (loopStart cfg c env).isSome = true) ∧
    (0 < (inactivityReset c env.nowMs).frameIndex → GapOk (inactivityReset c env.nowMs)
      (inactivityReset c env.nowMs).lastByteUs env.gapUs) ∧
    ∀ x ∈ noteReceive cfg (fun c rx => [(c, rx)]) c env, OnTime x.1 x.2)
    ⟨fun h => ⟨h.1, h.2.1, h.2.2⟩, fun h => ⟨h.1, h.2, h.3⟩⟩

section Sample

variable {config : Config} {mc ckt ckt' : UInt8} {pd pd' od od' : List UInt8}

theorem length_cyclicFrame (mc ckt : UInt8) (pd od : List UInt8) :
    (cyclicFrame mc ckt pd od).length = pd.length + od.length + 3 := by
  simp only [cyclicFrame, List.length_append, List.length_cons, List.length_nil]
  omega

/-- A frame of the master is a cyclic frame. -/
theorem cyclicFrame_cyclic (hpd : pd.length = config.pdOutLen)
    (hod : od.length = odLenOf config.mSeqType) :
    CyclicFrame config (cyclicFrame mc ckt pd od) := by
  have hlength : (cyclicFrame mc ckt pd od).length = frameLen config := by
    rw [length_cyclicFrame, hpd, hod, frameLen]
  have hpos := le_frameLen config
  refine ⟨hlength, ?_⟩
  rw [checksumOk, if_neg (by rw [hlength]; omega), cyclicFrame, List.dropLast_concat,
    List.getLastD_concat]
  exact decide_eq_true rfl

theorem odOf_cyclicFrame (hpd : pd.length = config.pdOutLen) :
    odOf config.pdOutLen (cyclicFrame mc ckt pd od) = od := by
  have hdrop : (cyclicFrame mc ckt pd od).drop (mSeqHeaderLen + config.pdOutLen) =
      od ++ [crc6 ([mc, ckt] ++ pd ++ od)] := by
    rw [cyclicFrame, List.append_assoc _ od, List.drop_left' (by simp [hpd, mSeqHeaderLen]; omega)]
  rw [odOf, hdrop, List.dropLast_concat]

theorem pdOf_cyclicFrame (hpd : pd.length = config.pdOutLen) :
    pdOf config.pdOutLen (cyclicFrame mc ckt pd od) = pd := by
  have hdrop : (cyclicFrame mc ckt pd od).drop mSeqHeaderLen =
      pd ++ (od ++ [crc6 ([mc, ckt] ++ pd ++ od)]) := by
    rw [cyclicFrame, List.append_assoc, List.append_assoc]
    rfl
  rw [pdOf, hdrop, List.take_left' hpd]

theorem framePair_pd (hpd : pd.length = config.pdOutLen) (hpd' : pd'.length = config.pdOutLen)
    (hod : od.length = odLenOf config.mSeqType) :
    FramePair config .pd (cyclicFrame mc ckt pd od) (cyclicFrame mc ckt' pd' od) :=
  ⟨cyclicFrame_cyclic hpd hod, cyclicFrame_cyclic hpd' hod, rfl, by
    rw [odOf_cyclicFrame hpd, odOf_cyclicFrame hpd']⟩

theorem framePair_od (hpd : pd.length = config.pdOutLen) (hod : od.length = odLenOf config.mSeqType)
    (hod' : od'.length = odLenOf config.mSeqType) :
    FramePair config .od (cyclicFrame mc ckt pd od) (cyclicFrame mc ckt' pd od') :=
  ⟨cyclicFrame_cyclic hpd hod, cyclicFrame_cyclic hpd hod', rfl, by
    rw [pdOf_cyclicFrame hpd, pdOf_cyclicFrame hpd]⟩

theorem map_clocks (nowUs : UInt64) (bytes : List UInt8) :
    (bytes.map fun b => (⟨b, nowUs, 0, 0, 0, 0⟩ : RxByte)).map RxByte.clocks =
      List.replicate bytes.length ⟨0, nowUs, 0, 0, 0, 0⟩ := by
  rw [← List.map_const', List.map_map]
  rfl

theorem clocks_callWith (wakeup : Bool) {bytes bytes' : List UInt8}
    (h : bytes'.length = bytes.length) :
    (callWith wakeup bytes').clocks = (callWith wakeup bytes).clocks := by
  simp only [CallEnv.clocks, callWith, map_clocks, h]

theorem bytes_callWith (wakeup : Bool) (bytes : List UInt8) :
    (Call.process (callWith wakeup bytes)).bytes = bytes := by
  rw [Call.bytes, callWith, List.map_map]
  exact List.map_id bytes

end Sample

/-- A call that receives a cyclic frame with one byte in each field. -/
def sampleCall (mc ckt pd od : UInt8) : Call :=
  .process (callWith false (cyclicFrame mc ckt [pd] [od]))

theorem sampleCall_line {k : Channel} {mc ckt pd od mc' ckt' pd' od' : UInt8}
    {calls calls' : List Call} (rest : SameLine k calls calls') :
    SameLine k (sampleCall mc ckt pd od :: calls) (sampleCall mc' ckt' pd' od' :: calls') :=
  .process (clocks_callWith false (by rw [length_cyclicFrame, length_cyclicFrame]; rfl)) rest

theorem sampleCall_bytes (mc ckt pd od : UInt8) :
    [sampleCall mc ckt pd od].flatMap Call.bytes <+: [cyclicFrame mc ckt [pd] [od]].flatten := by
  rw [List.flatMap_singleton, List.flatten_singleton, sampleCall, bytes_callWith]

/-- An update of the input data and other output data do not reach the ISDU
    engine, which is given the beginning of a request; and the request does not
    reach the output data. -/
theorem channels_independent_start :
    let run := (deviceMachine {}).final (startedDevice .type11)
    (run [.pdInputUpdate [0x55] false, sampleCall 0 0 0x22 0x80]).dll.isdu =
        (run [sampleCall 0 0 0x11 0x80]).dll.isdu ∧
      (run [sampleCall 0 0 0x11 0x00]).dll.pdOut = (run [sampleCall 0 0 0x11 0x80]).dll.pdOut := by
  intro run
  have hop : (startedDevice .type11).dll.state = .operate ∧
      (startedDevice .type11).dll.frameIndex = 0 := by
    decide +kernel
  have hin : ∀ x ∈ (deviceMachine {}).collect (polls {}) (startedDevice .type11)
      [sampleCall 0 0 0x11 0x80], InStep {} x.1 x.2 := by
    decide +kernel
  have hind := fun calls' => channels_independent {} (reaches_startedDevice .type11)
    ⟨⟨by decide, by decide⟩, by decide⟩ hop.1 hop.2 [sampleCall 0 0 0x11 0x80] calls' hin
  constructor
  · refine ((hind _).1 ⟨.right _ _ (sampleCall_line (.nil .pd)), ?_⟩).1
    exact ⟨[cyclicFrame 0 0 [0x11] [0x80]], [cyclicFrame 0 0 [0x22] [0x80]],
      .cons (framePair_pd rfl rfl rfl) .nil, sampleCall_bytes 0 0 0x11 0x80,
      sampleCall_bytes 0 0 0x22 0x80⟩
  · refine ((hind _).2 ⟨sampleCall_line (.nil .od), ?_⟩).1
    exact ⟨[cyclicFrame 0 0 [0x11] [0x80]], [cyclicFrame 0 0 [0x11] [0x00]],
      .cons (framePair_od rfl rfl rfl) .nil, sampleCall_bytes 0 0 0x11 0x80,
      sampleCall_bytes 0 0 0x11 0x00⟩

/-- Three refused frames, a wake-up and one more frame. -/
def afterRefusal (pd : UInt8) : List Call :=
  [sampleCall 0x20 0 0 0, sampleCall 0x20 0 0 0, sampleCall 0x20 0 0 0, .process (callWith true []),
    sampleCall 0x00 (checksumCk 0x00 0) pd (checksumCk 0x80 0)]

/-- Two frames in a burst. The CKT byte of the second is the checksum of the four
    bytes before it if `pd` is zero. -/
def lateBytes (pd : UInt8) : List UInt8 :=
  cyclicFrame 0x00 0 [pd] [0] ++ cyclicFrame 0x80 0x26 [0] [0]

/-- The call that receives the burst, with a pause of 999 us before its third
    byte. -/
def lateEnv (pd : UInt8) : CallEnv :=
  { callWith false [] with
    rx := ((lateBytes pd).take 2).map (fun b => ⟨b, 1, 0, 0, 0, 0⟩) ++
      ((lateBytes pd).drop 2).map fun b => ⟨b, 1000, 0, 0, 0, 0⟩ }

theorem clocks_lateEnv (pd pd' : UInt8) : (lateEnv pd').clocks = (lateEnv pd).clocks := by
  simp only [CallEnv.clocks, lateEnv, List.map_append, map_clocks, List.length_take,
    List.length_drop, lateBytes, List.length_append, length_cyclicFrame, List.length_singleton]

/-- Process data reach the ISDU engine: outside OPERATE as the MC byte of a frame
    of two bytes, and after a timeout as the MC byte of a frame that the master has
    not sent. -/
theorem channels_interfere :
    let run := (deviceMachine {}).final (startedDevice .type11)
    let timed := run [.setTimingEnforcement true]
    let late := (deviceMachine {}).final timed
    ((startedDevice .type11).dll.state = .operate ∧ (startedDevice .type11).dll.frameIndex = 0 ∧
      PairedRuns (sampleConfig .type11) .pd (afterRefusal 0x80) (afterRefusal 0x00) ∧
      (run (afterRefusal 0x80)).dll.isdu.state = .headerInitial ∧
      (run (afterRefusal 0x00)).dll.isdu.state = .idle) ∧
    (timed.dll.state = .operate ∧ timed.dll.frameIndex = 0 ∧
      PairedRuns (sampleConfig .type11) .pd [.process (lateEnv 0x00)] [.process (lateEnv 0x01)] ∧
      (late [.process (lateEnv 0x00)]).dll.isdu.state = .headerInitial ∧
      (late [.process (lateEnv 0x01)]).dll.isdu.state = .idle) := by
  intro run timed late
  have hrefused : FramePair (sampleConfig .type11) .pd (cyclicFrame 0x20 0 [0] [0])
      (cyclicFrame 0x20 0 [0] [0]) := framePair_pd rfl rfl rfl
  refine ⟨⟨by decide +kernel, by decide +kernel, ⟨?_, ?_⟩, by decide +kernel, by decide +kernel⟩,
    by decide +kernel, by decide +kernel, ⟨?_, ?_⟩, by decide +kernel, by decide +kernel⟩
  · exact sampleCall_line
      (sampleCall_line (sampleCall_line (.process rfl (sampleCall_line (.nil .pd)))))
  · refine ⟨[_, _, _, cyclicFrame 0x00 (checksumCk 0x00 0) [0x80] [checksumCk 0x80 0]],
      [_, _, _, cyclicFrame 0x00 (checksumCk 0x00 0) [0x00] [checksumCk 0x80 0]],
      .cons hrefused (.cons hrefused (.cons hrefused (.cons (framePair_pd rfl rfl rfl) .nil))), ?_,
      ?_⟩
    · decide +kernel
    · decide +kernel
  · exact .process (clocks_lateEnv 0x00 0x01) (.nil .pd)
  · refine ⟨[cyclicFrame 0x00 0 [0x00] [0], cyclicFrame 0x80 0x26 [0] [0]],
      [cyclicFrame 0x00 0 [0x01] [0], cyclicFrame 0x80 0x26 [0] [0]],
      .cons (framePair_pd rfl rfl rfl) (.cons (framePair_pd rfl rfl rfl) .nil), ?_, ?_⟩
    · decide +kernel
    · decide +kernel

end Iolinki
