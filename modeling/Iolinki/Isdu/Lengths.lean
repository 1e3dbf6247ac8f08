import Iolinki.Isdu.Alike

/-!
# Where a request ends

The end of a request is decided by its declared length. A write states it in the
service byte or, in the extended form, in a byte of its own; the end of the payload
is looked for when a payload byte has been stored, and only then. The LAST flag of
the control bytes goes to `is_segmented`, which nothing reads.

* `declared_length_iff`: a write consumes its declared length exactly if that is not
  zero; the empty write swallows one more data byte.
* `last_flag_ignored`: the LAST flags of a stream change nothing.
-/

namespace Iolinki

open Iolinki.Lib

/-! ## The declared length -/

/-- How a write declares its length: in the service byte (0 to 14), or in a byte
    after it (0 to 255). -/
inductive DeclaredLength
  | nibble (n : Fin 15)
  | extended (n : UInt8)

namespace DeclaredLength

/-- The number of payload bytes. -/
def value : DeclaredLength → ℕ
  | nibble n => n
  | extended n => n.toNat

/-- The service byte and what follows it. -/
def bytes : DeclaredLength → List UInt8
  | nibble n => [0x90 ||| UInt8.ofNat n]
  | extended n => [0x9F, n]

end DeclaredLength

/-- The header of a write, in both forms. -/
theorem collects_writeHeader {c : IsduCtx} (hs : c.state = .headerInitial) (len : DeclaredLength)
    {index : UInt16} {subindex : UInt8} {last : Bool} {b : UInt8} {segs : List (Bool × UInt8)}
    (hsegs : ((last, b) :: segs).map Prod.snd = len.bytes ++ addressBytes index subindex) :
    ∃ c', Collects c (b :: segments false (nextSeq c.segmentSeq) segs) c' ∧
      c'.state = .segmentCollect ∧ c'.nextState = .dataCollect ∧
      c'.segmentSeq = nextSeq^[segs.length] c.segmentSeq ∧ c'.bufferIdx = 0 ∧
      c'.header.length.toNat = len.value := by
  cases len with
  | nibble n =>
    simp only [DeclaredLength.bytes, List.map_cons, List.singleton_append, List.cons.injEq] at hsegs
    obtain ⟨rfl, haddr⟩ := hsegs
    obtain ⟨la, lb, lc, rfl⟩ := exists_address haddr
    have hservice := headerInitial_write hs (n := n) (by omega)
    obtain ⟨c', hcol, hs', hn', hseq, hidx, hh⟩ := collects_address
      (c := { c with bufferIdx := 0 }.await
        { c.header with type := .write, length := UInt8.ofNat n } .headerIndexHigh)
      rfl rfl rfl la lb lc (index >>> 8).toUInt8 index.toUInt8 subindex
    refine ⟨c', .cons (by rw [hs]; trivial) hservice hcol, hs', hn', hseq, hidx, ?_⟩
    rw [hh]
    show (UInt8.ofNat n).toNat = n
    rw [UInt8.toNat_ofNat']
    omega
  | extended n =>
    simp only [DeclaredLength.bytes, List.map_cons, List.cons_append, List.nil_append,
      List.cons.injEq] at hsegs
    obtain ⟨rfl, hrest⟩ := hsegs
    obtain ⟨⟨ll, m⟩, segs, rfl⟩ : ∃ seg tail, segs = seg :: tail := by
      cases segs with
      | nil => cases hrest
      | cons seg tail => exact ⟨seg, tail, rfl⟩
    obtain ⟨rfl, haddr⟩ := List.cons.inj hrest
    obtain ⟨la, lb, lc, rfl⟩ := exists_address haddr
    obtain ⟨c', hcol, hs', hn', hseq, hidx, hh⟩ :=
      collects_writeExt hs ll la lb lc m (index >>> 8).toUInt8 index.toUInt8 subindex
    exact ⟨c', hcol, hs', hn', hseq, hidx, by rw [hh]; rfl⟩

/-- The engine has not left the request before its last byte. -/
theorem Parses.collecting_before {c c' : IsduCtx} {bytes : List UInt8} (h : Parses c bytes c') :
    ∀ pre, pre <+: bytes → pre ≠ bytes → (parser.final c pre).state.Collecting := by
  induction h with
  | @done c c' b hc hb =>
    intro pre hpre hne
    cases pre with
    | nil => exact hc
    | cons x pre =>
      obtain ⟨rfl, hnil⟩ := List.cons_prefix_cons.mp hpre
      exact absurd (congrArg _ (List.prefix_nil.mp hnil)) hne
  | @more c c₁ c' b bs hc hb _ ih =>
    intro pre hpre hne
    cases pre with
    | nil => exact hc
    | cons x pre =>
      obtain ⟨rfl, htail⟩ := List.cons_prefix_cons.mp hpre
      have := ih pre htail fun heq => hne (congrArg _ heq)
      simpa [parser, hb] using this

section Start

variable {c : IsduCtx} (hc : c.state.AwaitsStart) {ctrl : UInt8} (hctrl : startBit ctrl = true)
include hc hctrl

theorem parser_start (bytes : List UInt8) :
    parser.final c (ctrl :: bytes) = parser.final (c.startRequest ctrl) bytes := by
  simp only [parser, Machine.final_cons, collectByte_start hc hctrl]

/-- A request is not complete before its last byte. -/
theorem Parses.not_before {c' : IsduCtx} {bytes : List UInt8}
    (h : Parses (c.startRequest ctrl) bytes c') (pre : List UInt8) (hpre : pre <+: ctrl :: bytes)
    (hne : pre ≠ ctrl :: bytes) : (parser.final c pre).state ≠ .serviceExecute := by
  intro hexec
  cases pre with
  | nil => rcases hc with hc | hc <;> rw [Machine.final_nil, hc] at hexec <;> cases hexec
  | cons x pre =>
    obtain ⟨rfl, htail⟩ := List.cons_prefix_cons.mp hpre
    have hcollecting := h.collecting_before pre htail fun heq => hne (congrArg _ heq)
    rw [← parser_start hc hctrl, hexec] at hcollecting
    exact hcollecting

end Start

/-- The stream of a write with the payload `payload` is consumed as declared: the last
    of its bytes, and none before it, leads to SERVICE_EXECUTE, with just the payload in
    the buffer. Whatever follows is not part of the request. -/
structure ConsumesDeclared (c : IsduCtx) (stream payload : List UInt8) : Prop where
  before : ∀ pre, pre <+: stream → pre ≠ stream → (parser.final c pre).state ≠ .serviceExecute
  executes : (parser.final c stream).state = .serviceExecute
  bufferIdx : (parser.final c stream).bufferIdx = payload.length
  buffer : slice (parser.final c stream).buffer 0 payload.length = payload
  following : ∀ bytes, parser.final c (stream ++ bytes) = parser.final c stream

/-- The header of a write leads to the place of the first payload byte. -/
theorem parser_writeHeader (c : IsduCtx) (len : DeclaredLength) {index : UInt16} {subindex : UInt8}
    (s : UInt8) {head : List (Bool × UInt8)}
    (hhead : head.map Prod.snd = len.bytes ++ addressBytes index subindex) :
    ∃ last b segs c', head = (last, b) :: segs ∧
      Collects (c.startRequest (ctrlByte true last s)) (b :: segments false (nextSeq s) segs) c' ∧
      c'.state = .segmentCollect ∧ c'.nextState = .dataCollect ∧
      nextSeq c'.segmentSeq = nextSeq^[segs.length] (nextSeq s) ∧ c'.bufferIdx = 0 ∧
      c'.header.length.toNat = len.value := by
  obtain ⟨⟨last, b⟩, segs, rfl⟩ : ∃ seg tail, head = seg :: tail := by
    cases head with
    | nil => cases len <;> cases hhead
    | cons seg tail => exact ⟨seg, tail, rfl⟩
  obtain ⟨c', hcol, hs', hn', hseq, hidx, hlen⟩ :=
    collects_writeHeader (c := c.startRequest (ctrlByte true last s)) rfl len hhead
  have hstart : (c.startRequest (ctrlByte true last s)).segmentSeq = seqBits s :=
    seqBits_ctrlByte true last s
  rw [hstart, nextSeq_seqBits] at hcol
  refine ⟨last, b, segs, c', rfl, hcol, hs', hn', ?_, hidx, hlen⟩
  rw [hseq, hstart, ← Function.iterate_succ_apply' nextSeq, Function.iterate_succ_apply,
    nextSeq_seqBits]

/-- **A write consumes its declared length exactly if that is not zero.** `head` are
    the service byte, the length byte of the extended form and the address, `payload` as
    many data bytes as declared, each with any LAST bit. -/
theorem declared_length_iff (c : IsduCtx) (hc : c.state = .idle ∨ c.state = .responseReady)
    (len : DeclaredLength) (index : UInt16) (subindex s : UInt8)
    (head payload : List (Bool × UInt8))
    (hhead : head.map Prod.snd = len.bytes ++ addressBytes index subindex)
    (hpayload : payload.length = len.value) :
    ConsumesDeclared c (segments true s (head ++ payload)) (payload.map Prod.snd) ↔
      1 ≤ len.value := by
  obtain ⟨last, b, segs, c', rfl, hcol, hs, hn, hseq, hidx, hlen⟩ :=
    parser_writeHeader c len s hhead
  have hstart := startBit_ctrlByte true last s
  have hstream : segments true s ((last, b) :: segs ++ payload) = ctrlByte true last s ::
      (b :: segments false (nextSeq s) segs ++ segments false (nextSeq c'.segmentSeq) payload) := by
    rw [List.cons_append, segments_cons, segments_append, hseq]
    rfl
  have hfinal := parser_start hc hstart
  rw [hstream]
  constructor
  · intro h
    by_contra hzero
    -- the empty payload leaves the engine where the first payload byte is expected
    have hnil : payload = [] := List.length_eq_zero_iff.mp (by omega)
    have hexec := h.executes
    rw [hfinal, hcol.final_append, hnil, segments_nil, Machine.final_nil, hs] at hexec
    cases hexec
  · intro hpos
    obtain ⟨c'', hp, hs'', -, hbuf⟩ := parses_payload payload hs hn (by omega)
    have hparse := hcol.parses hp
    rw [hidx, slice_zero, List.nil_append] at hbuf
    have hlen'' : c''.bufferIdx = (payload.map Prod.snd).length := by
      rw [← hbuf, length_slice]
    have hend := hparse.final_eq
    refine ⟨hparse.not_before hc hstart, ?_, ?_, ?_, fun bytes => ?_⟩
    · rw [hfinal, hend, hs'']
    · rw [hfinal, hend, hlen'']
    · rw [hfinal, hend, ← hlen'', hbuf]
    · rw [List.cons_append, hfinal, hfinal, Machine.final_append, hend, parser_serviceExecute hs'']

/-- A write of one byte in the extended form. -/
theorem declared_length_one :
    ConsumesDeclared isduInit
      (segments true 0 ([(false, 0x9F), (false, 0x01), (false, 0x00), (false, 0x02),
      (false, 0x00)] ++
        [(true, 0x82)])) [0x82] :=
  (declared_length_iff isduInit (.inl rfl) (.extended 1) 0x0002 0 0
    [(false, 0x9F), (false, 0x01), (false, 0x00), (false, 0x02), (false, 0x00)] [(true, 0x82)]
    (by decide) (by decide)).mpr (by decide)

/-- The empty write to index 0x0002 is not complete after its subindex. The next data
    byte is taken for its payload. -/
theorem empty_write_swallows_byte :
    let stream := segments true 0 [(false, 0x90), (false, 0x00), (false, 0x02), (true, 0x00)]
    (parser.final isduInit stream).state = .segmentCollect ∧
      (parser.final isduInit (stream ++ [0x04, 0x82])).state = .serviceExecute ∧
      (parser.final isduInit (stream ++ [0x04, 0x82])).bufferIdx = 1 ∧
      ¬ConsumesDeclared isduInit stream [] := by
  intro stream
  have hstate : (parser.final isduInit stream).state = .segmentCollect := by decide +kernel
  refine ⟨hstate, by decide +kernel, by decide +kernel, fun h => ?_⟩
  have hexec := h.executes
  rw [hstate] at hexec
  cases hexec

/-! ## The LAST flag -/

/-- `is_control_phase` -/
def IsduState.ControlPhase (s : IsduState) : Prop :=
  s = .idle ∨ s = .segmentCollect ∨ s = .responseReady

/-- The bytes are the same, up to the LAST flag of a control byte. -/
def SameByte (s : IsduState) (b b' : UInt8) : Prop :=
  b' = b ∨ (s.ControlPhase ∧ startBit b' = startBit b ∧ seqBits b' = seqBits b)

/-- The calls are the same along the run, up to the LAST flag of control bytes. -/
inductive SameButLast (cfg : BuildConfig) : IsduCtx × Host → List IsduOp → List IsduOp → Prop
  | nil {s : IsduCtx × Host} : SameButLast cfg s [] []
  | collect {s : IsduCtx × Host} {b b' : UInt8} {ops ops' : List IsduOp} :
      SameByte s.1.state b b' → SameButLast cfg (isduStep cfg s (.collect b)).1 ops ops' →
        SameButLast cfg s (.collect b :: ops) (.collect b' :: ops')
  | process {s : IsduCtx × Host} {ops ops' : List IsduOp} :
      SameButLast cfg (isduStep cfg s .process).1 ops ops' →
        SameButLast cfg s (.process :: ops) (.process :: ops')
  | getResponse {s : IsduCtx × Host} {ops ops' : List IsduOp} :
      SameButLast cfg (isduStep cfg s .getResponse).1 ops ops' →
        SameButLast cfg s (.getResponse :: ops) (.getResponse :: ops')

theorem Alike.setSegmented {c c' : IsduCtx} (h : Alike c c') (x : Bool) :
    Alike c { c' with isSegmented := x } := { h with }

/-- The LAST flag of a control byte goes to `is_segmented` and nowhere else. -/
theorem collectByte_sameByte (c : IsduCtx) {b b' : UInt8} (h : SameByte c.state b b') :
    ∃ x, isduCollectByte c b' =
      ({ (isduCollectByte c b).1 with isSegmented := x }, (isduCollectByte c b).2) := by
  rcases h with rfl | ⟨hs, hstart, hseq⟩
  · exact ⟨_, rfl⟩
  have hawaits (ha : c.state.AwaitsStart) (hb : startBit b = true) : ∃ x, isduCollectByte c b' =
      ({ (isduCollectByte c b).1 with isSegmented := x }, (isduCollectByte c b).2) := by
    rw [collectByte_start ha hb, collectByte_start ha (hstart.trans hb)]
    exact ⟨!lastBit b', by rw [IsduCtx.startRequest, hseq]; rfl⟩
  cases hb : startBit b with
  | true =>
    rcases hs with hs | hs | hs
    · exact hawaits (.inl hs) hb
    · rw [collectByte_segmentCollect_start hs hb,
        collectByte_segmentCollect_start hs (hstart.trans hb)]
      exact ⟨_, rfl⟩
    · exact hawaits (.inr hs) hb
  | false =>
    rcases hs with hs | hs | hs
    · rw [collectByte_idle hs, collectByte_idle hs]
      simp only [isduHandleIdle, hstart, hb]
      exact ⟨_, rfl⟩
    · rw [collectByte_segmentCollect hs hb, collectByte_segmentCollect hs (hstart.trans hb)]
      simp only [isduSegmentControl, hseq]
      split_ifs
      · exact ⟨_, rfl⟩
      · exact ⟨_, rfl⟩
    · rw [collectByte_responseReady hs hb, collectByte_responseReady hs (hstart.trans hb)]
      exact ⟨_, rfl⟩

/-- The return value tells no more than the context. -/
theorem alike_collectByte_ret {c c' : IsduCtx} (h : Alike c c') (b : UInt8) :
    (isduCollectByte c' b).2 = (isduCollectByte c b).2 := by
  have hphase : c.state ≠ .segmentCollect → c.phase = c.state := fun hne => if_neg hne
  have hs' := h.state
  cases hs : c.state with
  | idle =>
    rw [hs] at hs'
    rw [collectByte_idle hs, collectByte_idle hs']
    unfold isduHandleIdle
    split_ifs <;> rfl
  | responseReady =>
    rw [hs] at hs'
    cases hb : startBit b with
    | true => rw [collectByte_start (.inr hs) hb, collectByte_start (.inr hs') hb]
    | false => rw [collectByte_responseReady hs hb, collectByte_responseReady hs' hb]
  | segmentCollect =>
    rw [hs] at hs'
    cases hb : startBit b with
    | true =>
      rw [collectByte_segmentCollect_start hs hb, collectByte_segmentCollect_start hs' hb]
      rfl
    | false =>
      rw [collectByte_segmentCollect hs hb, collectByte_segmentCollect hs' hb]
      unfold isduSegmentControl
      rw [h.segmentSeq]
      split_ifs <;> rfl
  | headerSubindex =>
    rw [hs] at hs'
    have htype := h.type (by rw [hphase (by rw [hs]; decide), hs]; decide)
    cases ht : c.header.type with
    | read => rw [collectByte_headerSubindex_read b hs ht,
        collectByte_headerSubindex_read b hs' (htype.trans ht)]
    | write => rw [collectByte_headerSubindex_write b hs ht,
        collectByte_headerSubindex_write b hs' (htype.trans ht)]
  | dataCollect =>
    rw [hs] at hs'
    have hheader := h.header (by rw [hphase (by rw [hs]; decide), hs]; decide)
    by_cases hlen : c.bufferIdx + 1 < c.header.length.toNat
    · rw [collectByte_dataCollect_more b hs hlen, collectByte_dataCollect_more b hs'
        (by rw [hheader, h.bufferIdx]; exact hlen)]
    · rw [collectByte_dataCollect_last b hs (by omega), collectByte_dataCollect_last b hs'
        (by rw [hheader, h.bufferIdx]; omega)]
  | headerInitial =>
    rw [hs] at hs'
    rw [collectByte_headerInitial b hs, collectByte_headerInitial b hs']
    unfold isduHeaderInitial
    dsimp only
    split_ifs <;> rfl
  | headerExtLen | headerIndexHigh | headerIndexLow | serviceExecute | busy =>
    rw [hs] at hs'
    simp [isduCollectByte, isduCollectData, hs, hs']

/-- **The LAST flags change nothing.** -/
theorem sameButLast_run (cfg : BuildConfig) {c c' : IsduCtx} {host : Host} (h : Alike c c')
    {ops ops' : List IsduOp} (hops : SameButLast cfg (c, host) ops ops') :
    (isduMachine cfg).outputs (c', host) ops' = (isduMachine cfg).outputs (c, host) ops ∧
      Alike ((isduMachine cfg).final (c, host) ops).1 ((isduMachine cfg).final (c', host) ops').1 ∧
      ((isduMachine cfg).final (c', host) ops').2 = ((isduMachine cfg).final (c, host) ops).2 := by
  generalize hstate : (c, host) = s at hops
  induction hops generalizing c c' host with
  | nil =>
    subst hstate
    exact ⟨rfl, h, rfl⟩
  | @collect s b b' ops ops' hb _ ih =>
    subst hstate
    obtain ⟨x, hx⟩ := collectByte_sameByte c' (h.state.symm ▸ hb)
    have hret := alike_collectByte_ret h b
    obtain ⟨hout, hfin, hhost⟩ := ih ((alike_collectByte h b).setSegmented x) rfl
    simp only [isduMachine, Machine.outputs_cons, Machine.final_cons, isduStep, hx, hret] at *
    exact ⟨by rw [hout], hfin, hhost⟩
  | process _ ih =>
    subst hstate
    obtain ⟨hanswer, halike⟩ := sameAnswer_isduProcess cfg host h
    obtain ⟨hout, hfin, hhost⟩ := ih halike rfl
    simp only [isduMachine, Machine.outputs_cons, Machine.final_cons, isduStep, hanswer] at *
    exact ⟨by rw [hout], hfin, hhost⟩
  | getResponse _ ih =>
    subst hstate
    obtain ⟨halike, hbyte⟩ := alike_getResponseByte h
    obtain ⟨hout, hfin, hhost⟩ := ih halike rfl
    simp only [isduMachine, Machine.outputs_cons, Machine.final_cons, isduStep, hbyte] at *
    exact ⟨by rw [hout], hfin, hhost⟩

theorem Alike.refl (c : IsduCtx) : Alike c c := by
  constructor <;> intros <;> rfl

/-- The answer to a segment with a wrong sequence number. -/
theorem collectByte_segmentation_iff (c : IsduCtx) (b : UInt8) :
    isduCollectByte c b = (restartSegments (responseReady (putError c isduErrorSegmentation)), -1) ↔
      c.state = .segmentCollect ∧ startBit b = false ∧ seqBits b ≠ nextSeq c.segmentSeq := by
  constructor
  · intro h
    have hret : (isduCollectByte c b).2 = -1 := by rw [h]
    have hstate : (isduCollectByte c b).1.state = .responseReady := by
      rw [h]
      rfl
    have hcode : (isduCollectByte c b).1.responseBuf 1 = isduErrorSegmentation := by
      rw [h]
      rfl
    cases hs : c.state with
    | segmentCollect =>
      cases hb : startBit b with
      | true =>
        rw [collectByte_segmentCollect_start hs hb] at hret
        cases hret
      | false =>
        refine ⟨rfl, rfl, fun hseq => ?_⟩
        rw [collectByte_segmentCollect hs hb, isduSegmentControl, if_neg (not_not.mpr hseq)] at hret
        cases hret
    | headerInitial =>
      -- the other answer that is given at once has another code
      rw [collectByte_headerInitial b hs, isduHeaderInitial] at hret hcode
      dsimp only at hret hcode
      split_ifs at hret hcode
      cases hcode
    | idle =>
      cases hb : startBit b with
      | true =>
        rw [collectByte_start (.inl hs) hb] at hret
        cases hret
      | false =>
        rw [collectByte_ignored (by rw [hs]; exact id) (by simp [hb]), hs] at hstate
        cases hstate
    | responseReady =>
      cases hb : startBit b with
      | true =>
        rw [collectByte_start (.inr hs) hb] at hret
        cases hret
      | false =>
        rw [collectByte_responseReady hs hb] at hret
        cases hret
    | headerSubindex | dataCollect =>
      rw [collectByte_data (by simp [hs]) (by simp [hs]) (by simp [hs])] at hret
      simp only [isduCollectData, hs] at hret
      split_ifs at hret
    | headerExtLen | headerIndexHigh | headerIndexLow | serviceExecute | busy =>
      simp [isduCollectByte, isduCollectData, hs] at hret
  · rintro ⟨hs, hb, hseq⟩
    rw [collectByte_segmentCollect hs hb, isduSegmentControl, if_pos hseq]

/-- **The declared length delimits a request, and the LAST flag does not.** From IDLE on,
    calls that differ in LAST flags only return the same, deliver the same and execute
    the same requests. A read or a write with a payload is complete with the last of its
    data bytes, whatever LAST flags its control bytes carry; the segmentation error is the
    answer to a wrong sequence number, and to nothing else. -/
theorem length_delimits_request (cfg : BuildConfig) (c : IsduCtx) (host : Host)
    (hc : c.state = .idle) :
    (∀ ops ops', SameButLast cfg (c, host) ops ops' →
      (isduMachine cfg).outputs (c, host) ops' = (isduMachine cfg).outputs (c, host) ops ∧
        ((isduMachine cfg).final (c, host) ops').1.state =
          ((isduMachine cfg).final (c, host) ops).1.state ∧
        ((isduMachine cfg).final (c, host) ops').2 = ((isduMachine cfg).final (c, host) ops).2) ∧
    (∀ (req : Request) (s : UInt8) (segs : List (Bool × UInt8)), segs.map Prod.snd = req.dataBytes →
      (parser.final c (segments true s segs)).state = .serviceExecute ∧
        ∀ pre, pre <+: segments true s segs → pre ≠ segments true s segs →
          (parser.final c pre).state ≠ .serviceExecute) ∧
    ∀ (bytes : List UInt8) (b : UInt8),
      isduCollectByte (parser.final c bytes) b =
          (restartSegments (responseReady (putError (parser.final c bytes) isduErrorSegmentation)),
          -1) ↔
        (parser.final c bytes).state = .segmentCollect ∧ startBit b = false ∧
          seqBits b ≠ nextSeq (parser.final c bytes).segmentSeq := by
  refine ⟨fun ops ops' hops => ?_, fun req s segs hsegs => ?_,
    fun bytes b => collectByte_segmentation_iff (parser.final c bytes) b⟩
  · obtain ⟨hout, hfin, hhost⟩ := sameButLast_run cfg (Alike.refl c) hops
    exact ⟨hout, hfin.state, hhost⟩
  · cases segs with
    | nil => exact absurd hsegs.symm req.dataBytes_ne_nil
    | cons seg segs =>
      obtain ⟨last, b⟩ := seg
      have hstart := startBit_ctrlByte true last s
      obtain ⟨c', hp, hd⟩ :=
        parses_request req (c := c.startRequest (ctrlByte true last s)) rfl hsegs
      have hseq : (c.startRequest (ctrlByte true last s)).segmentSeq = seqBits s :=
        seqBits_ctrlByte true last s
      rw [hseq, nextSeq_seqBits] at hp
      rw [segments_cons]
      refine ⟨?_, hp.not_before (.inl hc) hstart⟩
      rw [parser_start (.inl hc) hstart, hp.final_eq, hd.state]

/-- A read whose control bytes carry LAST on the first and not on the last segment is
    complete with its last byte. -/
theorem length_delimits_request_read :
    (parser.final isduInit
      (segments true 0 [(true, 0x80), (false, 0x00), (false, 0x10), (false, 0x00)])).state =
        .serviceExecute :=
  ((length_delimits_request {} isduInit hostInit rfl).2.1 (.read 0x0010 0) 0
    [(true, 0x80), (false, 0x00), (false, 0x10), (false, 0x00)] (by decide)).1

/-- Requests without LAST on the final segment, and with LAST on an earlier one, reach
    SERVICE_EXECUTE. -/
theorem last_flag_misplaced_executes :
    (parser.final isduInit [0x80, 0x80, 0x01, 0x00, 0x02, 0x10, 0x03, 0x00]).state =
        .serviceExecute ∧
      (parser.final isduInit [0xC0, 0x80, 0x01, 0x00, 0x02, 0x10, 0x43, 0x00]).state =
        .serviceExecute ∧
      (parser.final isduInit [0x80, 0x91, 0x01, 0x00, 0x42, 0x18, 0x03, 0x00, 0x04, 0x41]).state =
        .serviceExecute := by
  decide +kernel

end Iolinki
