import Iolinki.Dll.Loop

/-!
# Array bounds of the data link layer

Arrays are functions of the index in the model, so that an access outside of an
array is not seen in what the functions compute. The accesses are listed here:
`MemOp` is an access to a range of cells or a cast to `uint8_t`, and for each
piece of code there is the list of its operations, in the order of the source.

`iolink_init` takes over the lengths of the configuration without a check;
`iolink_dll_set_pd_length` checks them. `Bounded` is the invariant that the
checked lengths give: no partial frame is longer than 37 bytes, and the
handlers stay inside of their arrays.

* `bounded_rxByte`, `ok_rxOps`: one received byte keeps the invariant and stays in
  bounds.
* `ok_memOps`: every run of a device whose lengths fit stays in bounds.
-/

namespace Iolinki

open Iolinki.Lib

/-! ## Memory operations -/

/-- The arrays of `iolink_dll_ctx_t` and of its handlers. -/
inductive DllArray
  | frameBuf | pdIn | pdOut
  /-- `od_in` of `dll_handle_operate_type1_2` -/
  | odIn
  /-- `od_out` of `dll_handle_operate_type1_2` -/
  | odOut
  /-- `resp` of `dll_handle_operate_type1_2` -/
  | resp
  /-- `resp` of `dll_handle_operate_type0` -/
  | type0Resp
  deriving DecidableEq, Repr

/-- The declared sizes. -/
def DllArray.size : DllArray → ℕ
  | .frameBuf => frameBufSize
  | .pdIn => pdInMaxSize
  | .pdOut => pdOutMaxSize
  | .odIn | .odOut | .type0Resp => 2
  | .resp => pdInMaxSize + 5

/-- A read or write of `len` cells from `off` on, or a cast to `uint8_t`. -/
inductive MemOp
  | access (array : DllArray) (off : ℤ) (len : ℕ)
  | castU8 (value : ℤ)
  deriving DecidableEq, Repr

/-- The access is inside of its array, the cast does not change the value. -/
def MemOp.Ok : MemOp → Prop
  | .access array off len => 0 ≤ off ∧ off + len ≤ array.size
  | .castU8 value => 0 ≤ value ∧ value < 256

instance : DecidablePred MemOp.Ok
  | .access _ _ _ => inferInstanceAs (Decidable (_ ∧ _))
  | .castU8 _ => inferInstanceAs (Decidable (_ ∧ _))

/-- `req_len` is computed from the lengths (lines 352–361). -/
def expectsLong (c : DllCtx) (byte : UInt8) : Bool :=
  c.baudrate ≠ .com1 && c.mSeqType ≠ .type0 &&
    (c.state = .operate || (c.state = .estabCom && byte ≠ mcTransitionCommand))

/-- The operations of `assemble` (lines 341–375). -/
def assembleOps (c : DllCtx) (byte : UInt8) : List MemOp :=
  if c.frameIndex = 0 then
    .access .frameBuf 0 1 ::
      if expectsLong c byte then [.castU8 (mSeqHeaderLen + c.pdOutLenCurrent + c.odLen + 1)] else []
  else if c.frameIndex < frameBufSize then [.access .frameBuf c.frameIndex 1]
  else []

/-- The operations of `frameCrcOk` (lines 390–397). -/
def crcOps (c : DllCtx) : List MemOp :=
  if c.reqLen = 2 then [.access .frameBuf 0 1, .access .frameBuf 1 1]
  else
    [.castU8 (c.reqLen - 1), .access .frameBuf 0 ((c.reqLen + 255) % 256),
      .access .frameBuf (c.reqLen - 1) 1]

/-- The operations of `dll_handle_operate_type0` (lines 119–134). -/
def type0Ops (c : DllCtx) : List MemOp :=
  [.access .type0Resp 0 1, .access .type0Resp 0 1, .access .type0Resp 1 1] ++
    if c.hasSend then [.access .type0Resp 0 2] else []

open MemOp in
/-- The operations of `dll_handle_operate_type1_2` (lines 136–176). -/
def type12Ops (c : DllCtx) : List MemOp :=
  let pos := 1 + c.pdInLenCurrent + c.odLen
  (if c.pdOutLenCurrent > 0 then
    [access .frameBuf mSeqHeaderLen c.pdOutLenCurrent, access .pdOut 0 c.pdOutLenCurrent]
    else []) ++
  [access .frameBuf (mSeqHeaderLen + c.pdOutLenCurrent) c.odLen, access .odIn 0 c.odLen] ++
  (List.range c.odLen).flatMap (fun i : ℕ => [access .odIn i 1, access .odOut i 1]) ++
  [access .resp 0 1] ++
  (if c.pdInLenCurrent > 0 then
    [access .pdIn 0 c.pdInLenCurrent, access .resp 1 c.pdInLenCurrent] else []) ++
  [access .odOut 0 c.odLen, access .resp (1 + c.pdInLenCurrent) c.odLen, castU8 pos,
    access .resp 0 (pos % 256), access .resp pos 1] ++
  if c.hasSend then [access .resp 0 (pos + 1)] else []

/-- The operations of `dllHandleFrame` (lines 390–447). -/
def frameOps (c : DllCtx) : List MemOp :=
  crcOps c ++
    if frameCrcOk c then
      .access .frameBuf 0 1 ::
        match frameKind c.state c.reqLen (c.frameBuf 0) with
        | .type0 => type0Ops c
        | .type12 => type12Ops c
        | _ => []
    else []

/-- The context in which the byte is stored. -/
def beforeAssemble (cfg : BuildConfig) (c : DllCtx) (rx : RxByte) : DllCtx :=
  { byteGap cfg { c with lastActivityMs := rx.nowMs } rx.nowUs with lastByteUs := rx.nowUs }

/-- The operations of one iteration of the receive loop. -/
def rxOps (cfg : BuildConfig) (c : DllCtx) (rx : RxByte) : List MemOp :=
  assembleOps (beforeAssemble cfg c rx) rx.byte ++
    if frameComplete (rxAssemble cfg c rx) then frameOps (rxAssemble cfg c rx) else []

/-- The operations of one call: those of the receive loop, of
    `iolink_pd_input_update` and of `iolink_pd_output_read`
    (`src/iolink_core.c`, lines 90–121). -/
def callOps (cfg : BuildConfig) (d : Device) (call : Call) : List MemOp :=
  noteCall cfg (rxOps cfg) d call ++
    match call with
    | .pdInputUpdate data _ =>
      if data.length > pdInMaxSize then []
      else [.access .pdIn 0 data.length, .castU8 data.length]
    | .pdOutputRead len => [.access .pdOut 0 (min len d.dll.pdOutLen)]
    | _ => []

/-- The operations of a run of the device. -/
def memOps (cfg : BuildConfig) (d : Device) (calls : List Call) : List MemOp :=
  (deviceMachine cfg).collect (callOps cfg) d calls

/-! ## The invariant -/

/-- The lengths that a frame is received with are those of their arrays, and so is
    a partial frame. A Type 0 device never gets to the handler of the longer
    frames. -/
structure Bounded (c : DllCtx) : Prop where
  pdOut : c.pdOutLenCurrent ≤ pdOutMaxSize
  odPos : 1 ≤ c.odLen
  odLe : c.odLen ≤ 2
  short : 0 < c.frameIndex → c.frameIndex < c.reqLen ∧ c.reqLen ≤ 37
  operate : c.mSeqType = .type0 → c.state ≠ .operate
  type0 : c.mSeqType = .type0 → 0 < c.frameIndex → c.reqLen = 2

/-- The invariant while a complete frame may stand in the buffer. -/
structure Assembled (c : DllCtx) : Prop where
  pdOut : c.pdOutLenCurrent ≤ pdOutMaxSize
  odPos : 1 ≤ c.odLen
  odLe : c.odLen ≤ 2
  started : 0 < c.frameIndex
  size : c.frameIndex ≤ c.reqLen ∧ c.reqLen ≤ 37
  reqLen : 2 ≤ c.reqLen
  operate : c.mSeqType = .type0 → c.state ≠ .operate
  type0 : c.mSeqType = .type0 → c.reqLen = 2

theorem dllReqLen_bounds {c : DllCtx} (hpd : c.pdOutLenCurrent ≤ pdOutMaxSize) (hod : c.odLen ≤ 2)
    (byte : UInt8) : 2 ≤ dllReqLen c byte ∧ dllReqLen c byte ≤ 37 := by
  simp only [pdOutMaxSize] at hpd
  simp only [dllReqLen, mSeqHeaderLen]
  split_ifs <;> omega

theorem dllReqLen_type0 {c : DllCtx} (h : c.mSeqType = .type0) (byte : UInt8) :
    dllReqLen c byte = 2 := by
  simp [dllReqLen, h]

/-- The input process data of a reply fits, if there are such replies. -/
def InputFits (c : DllCtx) : Prop := c.mSeqType = .type0 ∨ c.pdInLenCurrent ≤ pdInMaxSize

theorem InputFits.of_sameConfig {c c' : DllCtx} (h : InputFits c) (hc : SameConfig c c') :
    InputFits c' := by
  rw [InputFits, hc.mSeqType, hc.pdInLenCurrent]
  exact h

/-- What the invariant needs of a step that leaves the partial frame alone or
    drops it. -/
theorem Bounded.of_sameConfig {c c' : DllCtx} (h : Bounded c) (hc : SameConfig c c')
    (hframe : (c'.frameIndex = c.frameIndex ∧ c'.reqLen = c.reqLen) ∨ c'.frameIndex = 0)
    (hstate : c'.state = .operate → c.state = .operate) : Bounded c' := by
  refine ⟨?_, ?_, ?_, ?_, ?_, ?_⟩
  · rw [hc.pdOutLenCurrent]; exact h.pdOut
  · rw [hc.odLen]; exact h.odPos
  · rw [hc.odLen]; exact h.odLe
  · rcases hframe with ⟨hi, hr⟩ | hi
    · rw [hi, hr]; exact h.short
    · rw [hi]; exact fun h0 => absurd h0 (lt_irrefl 0)
  · rw [hc.mSeqType]; exact fun ht hs => h.operate ht (hstate hs)
  · rw [hc.mSeqType]
    rcases hframe with ⟨hi, hr⟩ | hi
    · rw [hi, hr]; exact h.type0
    · rw [hi]; exact fun _ h0 => absurd h0 (lt_irrefl 0)

theorem bounded_beforeAssemble (cfg : BuildConfig) {c : DllCtx} (h : Bounded c) (rx : RxByte) :
    Bounded (beforeAssemble cfg c rx) := by
  have hun := untouched_byteGap cfg { c with lastActivityMs := rx.nowMs } rx.nowUs
  refine h.of_sameConfig { hun.toSameConfig with } ?_ ?_
  · simp only [beforeAssemble, byteGap]
    split_ifs
    · exact .inr rfl
    · exact .inl ⟨rfl, rfl⟩
  · simp only [beforeAssemble, byteGap]
    split_ifs <;> exact id

/-- **A stored byte stays inside of the frame.** The branch for a full frame
    buffer is not taken. -/
theorem assembled_rxAssemble (cfg : BuildConfig) {c : DllCtx} (h : Bounded c) (rx : RxByte) :
    Assembled (rxAssemble cfg c rx) := by
  have hb := bounded_beforeAssemble cfg h rx
  have he : rxAssemble cfg c rx = assemble (beforeAssemble cfg c rx) rx.byte rx.nowUs := rfl
  rw [he]
  generalize beforeAssemble cfg c rx = g at hb
  obtain ⟨hge, hle⟩ := dllReqLen_bounds hb.pdOut hb.odLe rx.byte
  unfold assemble
  split_ifs with h0 h48
  · exact ⟨hb.pdOut, hb.odPos, hb.odLe, Nat.one_pos, ⟨Nat.le_of_lt hge, hle⟩, hge,
      hb.operate, fun ht => dllReqLen_type0 ht rx.byte⟩
  · have hpos : 0 < g.frameIndex := Nat.pos_of_ne_zero h0
    obtain ⟨hlt, hmax⟩ := hb.short hpos
    exact ⟨hb.pdOut, hb.odPos, hb.odLe, Nat.succ_pos _, ⟨hlt, hmax⟩,
      (show 2 ≤ g.reqLen by omega), hb.operate, fun ht => hb.type0 ht hpos⟩
  · obtain ⟨hlt, hmax⟩ := hb.short (Nat.pos_of_ne_zero h0)
    rw [frameBufSize] at h48
    omega

/-- Only a device with process data gets to the handler of Type 1 and Type 2
    frames. -/
theorem Assembled.long_of_type12 {c : DllCtx} (h : Assembled c)
    (hk : frameKind c.state c.reqLen (c.frameBuf 0) = .type12) : c.mSeqType ≠ .type0 := by
  intro ht
  have hop := h.operate ht
  rw [h.type0 ht] at hk
  cases hs : c.state with
  | operate => exact hop hs
  | startup | awaitingComm | preoperate | estabCom =>
    simp only [frameKind, hs] at hk
    split_ifs at hk <;> omega
  | fallback => simp [frameKind, hs] at hk

theorem operate_of_dllEnterFallback (cfg : BuildConfig) {c : DllCtx}
    (h : (dllEnterFallback cfg c).state = .operate) : c.state = .operate := by
  obtain ⟨_, _, _, _, _, he | ⟨-, -, he⟩ | ⟨-, he⟩⟩ := dllEnterFallback_cases cfg c
  · rw [he] at h; cases h
  · rw [he] at h; cases h
  · rw [he] at h; exact h

/-- A complete frame leads to OPERATE only through the handler of Type 1 and
    Type 2 frames. -/
theorem operate_of_dllHandleFrame (cfg : BuildConfig) {c : DllCtx} {rx : RxByte}
    (h : (dllHandleFrame cfg c rx).1.state = .operate) :
    c.state = .operate ∨ (frameCrcOk c = true ∧
      frameKind c.state c.reqLen (c.frameBuf 0) = .type12) := by
  cases frameOutcome_dllHandleFrame cfg c rx with
  | type12 hcrc hk => exact .inr ⟨hcrc, hk⟩
  | counted _ _ hs => exact .inl (hs.symm.trans h)
  | ignored _ _ hs | type0 _ _ hs =>
    rw [h, establishedState] at hs
    split_ifs at hs
    exact .inl hs.symm
  | transition _ _ hs | sio _ _ hs | restart _ _ hs =>
    rw [h] at hs
    cases hs

/-- One iteration of the receive loop keeps the invariant. -/
theorem bounded_rxByte (cfg : BuildConfig) {c : DllCtx} (h : Bounded c) (rx : RxByte) :
    Bounded (rxByte cfg c rx).1 := by
  have ha := assembled_rxAssemble cfg h rx
  simp only [rxByte]
  generalize rxAssemble cfg c rx = c' at ha
  split_ifs with hfull
  · have hs := sameConfig_dllHandleFrame cfg c' rx
    refine ⟨?_, ?_, ?_, fun h0 => absurd h0 (lt_irrefl 0), ?_,
      fun _ h0 => absurd h0 (lt_irrefl 0)⟩
    · show (dllHandleFrame cfg c' rx).1.pdOutLenCurrent ≤ _
      rw [hs.pdOutLenCurrent]; exact ha.pdOut
    · show 1 ≤ (dllHandleFrame cfg c' rx).1.odLen
      rw [hs.odLen]; exact ha.odPos
    · show (dllHandleFrame cfg c' rx).1.odLen ≤ 2
      rw [hs.odLen]; exact ha.odLe
    · intro ht hop
      have ht' : c'.mSeqType = .type0 := hs.mSeqType.symm.trans ht
      rcases operate_of_dllHandleFrame cfg hop with hop | ⟨-, hk⟩
      · exact ha.operate ht' hop
      · exact ha.long_of_type12 hk ht'
  · rw [frameComplete_iff, not_and] at hfull
    exact ⟨ha.pdOut, ha.odPos, ha.odLe,
      fun h0 => ⟨Nat.lt_of_not_ge (hfull h0), ha.size.2⟩, ha.operate, fun ht _ => ha.type0 ht⟩

/-! ## One received byte stays in bounds -/

theorem ok_access_iff {array : DllArray} {off : ℤ} {len : ℕ} :
    (MemOp.access array off len).Ok ↔ 0 ≤ off ∧ off + len ≤ array.size :=
  Iff.rfl

theorem ok_castU8_iff {value : ℤ} : (MemOp.castU8 value).Ok ↔ 0 ≤ value ∧ value < 256 := Iff.rfl

theorem ok_cons_iff {op : MemOp} {ops : List MemOp} :
    (∀ x ∈ op :: ops, x.Ok) ↔ op.Ok ∧ ∀ x ∈ ops, x.Ok :=
  List.forall_mem_cons

theorem ok_nil_iff : (∀ x ∈ ([] : List MemOp), x.Ok) ↔ True :=
  iff_true_intro (List.forall_mem_nil _)

theorem ok_assembleOps {c : DllCtx} (h : Bounded c) (byte : UInt8) :
    ∀ op ∈ assembleOps c byte, op.Ok := by
  have hpd := h.pdOut
  have hod := h.odLe
  rw [pdOutMaxSize] at hpd
  unfold assembleOps
  split_ifs with h0 hlong h48
  · simp only [ok_cons_iff, ok_nil_iff, and_true, ok_access_iff, ok_castU8_iff, DllArray.size,
      frameBufSize, mSeqHeaderLen]
    omega
  · simp only [ok_cons_iff, ok_nil_iff, and_true, ok_access_iff, DllArray.size, frameBufSize]
    omega
  · rw [frameBufSize] at h48
    simp only [ok_cons_iff, ok_nil_iff, and_true, ok_access_iff, DllArray.size, frameBufSize]
    omega
  · exact List.forall_mem_nil _

theorem ok_crcOps {c : DllCtx} (hge : 2 ≤ c.reqLen) (hle : c.reqLen ≤ 37) :
    ∀ op ∈ crcOps c, op.Ok := by
  unfold crcOps
  split_ifs
  · simp only [ok_cons_iff, ok_nil_iff, and_true, ok_access_iff, DllArray.size, frameBufSize]
    omega
  · simp only [ok_cons_iff, ok_nil_iff, and_true, ok_access_iff, ok_castU8_iff, DllArray.size,
      frameBufSize]
    omega

theorem ok_type0Ops (c : DllCtx) : ∀ op ∈ type0Ops c, op.Ok := by
  unfold type0Ops
  split_ifs <;> simp [MemOp.Ok, DllArray.size]

/-- The handler of Type 1 and Type 2 frames stays in bounds if the three lengths
    are those of its arrays. -/
theorem ok_type12Ops {c : DllCtx} (hin : c.pdInLenCurrent ≤ pdInMaxSize)
    (hout : c.pdOutLenCurrent ≤ pdOutMaxSize) (hod : c.odLen ≤ 2) :
    ∀ op ∈ type12Ops c, op.Ok := by
  rw [pdInMaxSize] at hin
  rw [pdOutMaxSize] at hout
  have hloop : ∀ op ∈ (List.range c.odLen).flatMap
      (fun i : ℕ => [MemOp.access .odIn i 1, MemOp.access .odOut i 1]), op.Ok := by
    intro op hop
    obtain ⟨i, hi, hop⟩ := List.mem_flatMap.mp hop
    rw [List.mem_range] at hi
    simp only [List.mem_cons, List.not_mem_nil, or_false] at hop
    rcases hop with rfl | rfl
    · simp only [MemOp.Ok, DllArray.size]
      omega
    · simp only [MemOp.Ok, DllArray.size]
      omega
  unfold type12Ops
  simp only [List.forall_mem_append]
  refine ⟨⟨⟨⟨⟨⟨?_, ?_⟩, hloop⟩, ?_⟩, ?_⟩, ?_⟩, ?_⟩
  · split_ifs
    · simp only [ok_cons_iff, ok_nil_iff, and_true, ok_access_iff, DllArray.size, frameBufSize,
        mSeqHeaderLen, pdOutMaxSize]
      omega
    · exact List.forall_mem_nil _
  · simp only [ok_cons_iff, ok_nil_iff, and_true, ok_access_iff, DllArray.size, frameBufSize,
      mSeqHeaderLen]
    omega
  · simp [MemOp.Ok, DllArray.size, pdInMaxSize]
  · split_ifs
    · simp only [ok_cons_iff, ok_nil_iff, and_true, ok_access_iff, DllArray.size, pdInMaxSize]
      omega
    · exact List.forall_mem_nil _
  · simp only [ok_cons_iff, ok_nil_iff, and_true, ok_access_iff, ok_castU8_iff, DllArray.size,
      pdInMaxSize]
    omega
  · split_ifs
    · simp only [ok_cons_iff, ok_nil_iff, and_true, ok_access_iff, DllArray.size, pdInMaxSize]
      omega
    · exact List.forall_mem_nil _

theorem ok_frameOps {c : DllCtx} (h : Assembled c) (hin : InputFits c) :
    ∀ op ∈ frameOps c, op.Ok := by
  unfold frameOps
  rw [List.forall_mem_append]
  refine ⟨ok_crcOps h.reqLen h.size.2, ?_⟩
  split_ifs
  · rw [List.forall_mem_cons]
    refine ⟨by simp [MemOp.Ok, DllArray.size, frameBufSize], ?_⟩
    cases hk : frameKind c.state c.reqLen (c.frameBuf 0) with
    | type0 => exact ok_type0Ops c
    | type12 =>
      exact ok_type12Ops (hin.resolve_left (h.long_of_type12 hk)) h.pdOut h.odLe
    | ignored | transition | refused => exact List.forall_mem_nil _
  · exact List.forall_mem_nil _

/-- **One received byte stays in bounds.** -/
theorem ok_rxOps (cfg : BuildConfig) {c : DllCtx} (h : Bounded c) (hin : InputFits c)
    (rx : RxByte) : ∀ op ∈ rxOps cfg c rx, op.Ok := by
  unfold rxOps
  rw [List.forall_mem_append]
  refine ⟨ok_assembleOps (bounded_beforeAssemble cfg h rx) rx.byte, ?_⟩
  split_ifs
  · exact ok_frameOps (assembled_rxAssemble cfg h rx)
      (hin.of_sameConfig (untouched_rxAssemble cfg c rx).toSameConfig)
  · exact List.forall_mem_nil _

/-! ## Whole calls -/

theorem bounded_inactivityReset {c : DllCtx} (h : Bounded c) (nowMs : UInt32) :
    Bounded (inactivityReset c nowMs) := by
  refine h.of_sameConfig (untouched_inactivityReset c nowMs).toSameConfig ?_ ?_
  · unfold inactivityReset
    split_ifs
    · exact .inr rfl
    · exact .inl ⟨rfl, rfl⟩
  · unfold inactivityReset
    split_ifs
    · intro hs; cases hs
    · exact id

theorem bounded_drainRx (cfg : BuildConfig) {c : DllCtx} (h : Bounded c) (rxs : List RxByte) :
    Bounded (drainRx cfg c rxs) := by
  refine h.of_sameConfig (untouched_drainRx cfg c rxs).toSameConfig (.inl ?_) ?_
  · unfold drainRx
    split_ifs <;> exact ⟨rfl, rfl⟩
  · unfold drainRx
    split_ifs <;> exact id

theorem bounded_detectWakeup {c : DllCtx} (h : Bounded c) (env : CallEnv) :
    Bounded (detectWakeup c env) := by
  refine h.of_sameConfig (untouched_detectWakeup c env).toSameConfig (.inl ?_) ?_
  · unfold detectWakeup
    split_ifs <;> exact ⟨rfl, rfl⟩
  · unfold detectWakeup
    split_ifs
    · intro hs; cases hs
    · exact id

theorem operate_of_callGap (cfg : BuildConfig) {c : DllCtx} {nowUs : UInt64}
    (h : (callGap cfg c nowUs).state = .operate) : c.state = .operate := by
  unfold callGap at h
  split_ifs at h
  · have hop := operate_of_dllEnterFallback cfg h
    exact hop
  · exact h

theorem bounded_callGap (cfg : BuildConfig) {c : DllCtx} (h : Bounded c) (nowUs : UInt64) :
    Bounded (callGap cfg c nowUs) := by
  refine h.of_sameConfig (untouched_callGap cfg c nowUs).toSameConfig ?_ (operate_of_callGap cfg)
  unfold callGap
  split_ifs
  · exact .inr (frameIndex_dllEnterFallback cfg rfl)
  · exact .inl ⟨rfl, rfl⟩

theorem bounded_dllReceive (cfg : BuildConfig) {c : DllCtx} (h : Bounded c) (env : CallEnv) :
    Bounded (dllReceive cfg c env).ctx ∧ ∀ c', loopStart cfg c env = some c' → Bounded c' :=
  dllReceive_induct cfg (Q := Bounded) (fun _ nowMs hc => bounded_inactivityReset hc nowMs)
    (fun _ rxs hc => bounded_drainRx cfg hc rxs) (fun _ env hc _ => bounded_detectWakeup hc env)
    (fun _ nowUs hc _ => bounded_callGap cfg hc nowUs) (fun _ rx hc => bounded_rxByte cfg hc rx)
    (fun _ hc => hc) h env

theorem bounded_polled (cfg : BuildConfig) {d : Device} (h : Bounded d.dll) (env : CallEnv) :
    Bounded (dllPollDiagnostics cfg (deviceIsduProcess cfg d).dll env) := by
  obtain ⟨_, _, hp⟩ := polled_eq cfg d env
  rw [hp]
  exact { h with }

theorem bounded_deviceStep (cfg : BuildConfig) {d : Device} (h : Bounded d.dll) (call : Call) :
    Bounded (deviceStep cfg d call).1.dll := by
  cases call with
  | process env => exact (bounded_dllReceive cfg (bounded_polled cfg h env) env).1
  | pdInputUpdate data valid =>
    simp only [deviceStep, pdInputUpdate]
    split_ifs
    · exact h
    · exact { h with }
  | _ => exact { h with }

/-- The bounds of a device: what the receive loop and the functions for process data
    rely on. -/
structure Fits (d : Device) : Prop where
  bounded : Bounded d.dll
  pdIn : InputFits d.dll
  pdOut : d.dll.pdOutLen ≤ pdOutMaxSize

theorem sameConfig_loopStart (cfg : BuildConfig) {c c' : DllCtx} {env : CallEnv}
    (h : loopStart cfg c env = some c') : SameConfig c c' :=
  (dllReceive_induct cfg (P := SameConfig c) (Q := SameConfig c)
    (fun _ nowMs hc => hc.trans (untouched_inactivityReset _ nowMs).toSameConfig)
    (fun _ rxs hc => hc.trans (untouched_drainRx cfg _ rxs).toSameConfig)
    (fun _ env hc _ => hc.trans (untouched_detectWakeup _ env).toSameConfig)
    (fun _ nowUs hc _ => hc.trans (untouched_callGap cfg _ nowUs).toSameConfig)
    (fun _ rx hc => hc.trans (sameConfig_rxByte cfg _ rx)) (fun _ hc => hc) (.refl c) env).2 c' h

theorem fits_deviceStep (cfg : BuildConfig) {d : Device} (h : Fits d) (call : Call) :
    Fits (deviceStep cfg d call).1 := by
  have hs := sameConfig_deviceStep cfg d call
  exact ⟨bounded_deviceStep cfg h.bounded call, h.pdIn.of_sameConfig hs, hs.pdOutLen ▸ h.pdOut⟩

/-- **One call stays in bounds.** -/
theorem ok_callOps (cfg : BuildConfig) {d : Device} (h : Fits d) (call : Call) :
    ∀ op ∈ callOps cfg d call, op.Ok := by
  unfold callOps
  rw [List.forall_mem_append]
  constructor
  · cases call with
    | process env =>
      have hb := bounded_dllReceive cfg (bounded_polled cfg h.bounded env) env
      have hin : InputFits (dllPollDiagnostics cfg (deviceIsduProcess cfg d).dll env) := by
        obtain ⟨_, _, hp⟩ := polled_eq cfg d env
        rw [hp]
        exact h.pdIn
      exact noteReceive_induct cfg (Q := fun c => Bounded c ∧ InputFits c)
        (fun c rx hc =>
          ⟨bounded_rxByte cfg hc.1 rx, hc.2.of_sameConfig (sameConfig_rxByte cfg c rx)⟩)
        (fun _ rx hc => ok_rxOps cfg hc.1 hc.2 rx)
        (fun c' hc' => ⟨hb.2 c' hc', hin.of_sameConfig (sameConfig_loopStart cfg hc')⟩)
    | _ => exact List.forall_mem_nil _
  · cases call with
    | pdInputUpdate data valid =>
      dsimp only
      split_ifs with hdata
      · exact List.forall_mem_nil _
      · rw [pdInMaxSize] at hdata
        simp only [ok_cons_iff, ok_nil_iff, and_true, ok_access_iff, ok_castU8_iff, DllArray.size,
          pdInMaxSize]
        omega
    | pdOutputRead len =>
      have hlen := h.pdOut
      rw [pdOutMaxSize] at hlen
      simp only [ok_cons_iff, ok_nil_iff, and_true, ok_access_iff, DllArray.size, pdOutMaxSize]
      omega
    | _ => exact List.forall_mem_nil _

/-- Every run from a device within the bounds stays in bounds. -/
theorem ok_memOps (cfg : BuildConfig) {d : Device} (h : Fits d) (calls : List Call) :
    ∀ op ∈ memOps cfg d calls, op.Ok :=
  (deviceMachine cfg).collect_induct (P := Fits) (fun _ call hd => fits_deviceStep cfg hd call)
    (fun _ call hd => ok_callOps cfg hd call) h calls

theorem bounded_iolinkInit (cfg : BuildConfig) {config : Config}
    (hout : config.pdOutLen ≤ pdOutMaxSize) (hasSend : Bool) (nowUs : UInt64)
    (image : Option ParamsNvm) (store : Store) :
    Bounded (iolinkInit cfg config hasSend nowUs image store).dll :=
  ⟨hout, odLenOf_pos config.mSeqType, odLenOf_le config.mSeqType,
    fun h0 => absurd h0 (lt_irrefl 0), fun _ hs => DllState.noConfusion hs,
    fun _ h0 => absurd h0 (lt_irrefl 0)⟩

theorem fits_iolinkInit (cfg : BuildConfig) {config : Config}
    (hin : config.mSeqType = .type0 ∨ config.pdInLen ≤ pdInMaxSize)
    (hout : config.pdOutLen ≤ pdOutMaxSize) (hasSend : Bool) (nowUs : UInt64)
    (image : Option ParamsNvm) (store : Store) :
    Fits (iolinkInit cfg config hasSend nowUs image store) :=
  ⟨bounded_iolinkInit cfg hout hasSend nowUs image store, hin, hout⟩

theorem reaches_fits {cfg : BuildConfig} {config : Config} {hasSend : Bool} {calls : List Call}
    {d : Device} (hfit : PdFits config) (h : Reaches cfg config hasSend calls d) : Fits d := by
  obtain ⟨nowUs, image, store, rfl⟩ := h
  exact (deviceMachine cfg).final_invariant (P := Fits)
    (fun _ call hd => fits_deviceStep cfg hd call)
    (fits_iolinkInit cfg (.inr hfit.pdIn) hfit.pdOut hasSend nowUs image store) calls

end Iolinki
