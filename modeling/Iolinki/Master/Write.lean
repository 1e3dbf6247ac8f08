import Mathlib.Tactic.IntervalCases
import Iolinki.Isdu.Response
import Iolinki.Master.Model

/-!
# The master's writes and the device's parser

Master and device choose the length encoding of a write independently. The
master uses the low nibble of the service byte up to 15 bytes; the device takes
the nibble 15 as the announcement of an extended length byte.

* `interleaveControl_eq`: the master's control bytes are those of `segments`.
* `write_decoded_iff`: the device decodes a write of the master exactly when its
  payload does not have 15 bytes.
* `write_fifteen_not_decoded`: a write of 15 bytes.
-/

namespace Iolinki

open Iolinki.Lib

/-! ## Control bytes -/

theorem isduControlByteGenerate_eq (start last : Bool) (n : ℕ) :
    isduControlByteGenerate start last n = ctrlByte start last (UInt8.ofNat n) := by
  unfold isduControlByteGenerate
  generalize UInt8.ofNat n = s
  revert start last s
  decide +kernel

theorem zipIdx_flatMap_eq (data : List UInt8) (k n : ℕ) (hn : n = k + data.length) :
    ((data.zipIdx k).flatMap fun (val, i) =>
        [isduControlByteGenerate (i = 0) (i = n - 1) (i % 64), val]) =
      segments (k = 0) (seqAt 0 k) (markLast data) := by
  induction data generalizing k with
  | nil => rfl
  | cons b data ih =>
    simp only [List.length_cons] at hn
    have hlast : decide (k = n - 1) = data.isEmpty := by
      rw [Bool.eq_iff_iff, List.isEmpty_iff_length_eq_zero, decide_eq_true_eq]
      omega
    have hseq : UInt8.ofNat (k % 64) = seqAt 0 k := by simp [seqAt]
    rw [List.zipIdx_cons, List.flatMap_cons, ih (k + 1) (by omega), markLast, segments_cons]
    simp only [isduControlByteGenerate_eq, hlast, hseq, seqAt_succ]
    simp

/-- The master's control bytes count from zero and mark the last byte. -/
theorem interleaveControl_eq (data : List UInt8) :
    interleaveControl data = segments true 0 (markLast data) := by
  have h := zipIdx_flatMap_eq data 0 data.length (by simp)
  simpa [interleaveControl, seqAt] using h

/-! ## Lengths that both sides encode alike -/

theorem writeRequestData_eq (index : UInt16) (subindex : UInt8) (d : Payload)
    (hd : d.1.length ≠ 15) :
    writeRequestData index subindex d.1 = (Request.write index subindex d).dataBytes := by
  by_cases h : d.1.length ≤ 14
  · have hnibble : UInt8.ofNat d.1.length &&& 0x0F = UInt8.ofNat d.1.length := by
      generalize d.1.length = n at h
      interval_cases n <;> rfl
    simp [writeRequestData, Request.dataBytes, writeLength, addressBytes, h, hnibble,
      show ¬ 15 < d.1.length by omega]
  · simp [writeRequestData, Request.dataBytes, writeLength, addressBytes, h,
      show 15 < d.1.length by omega]

/-- The device takes `bytes` for the write of `d`: the last byte is the only one
    that completes a request, and header and buffer hold the write. -/
structure DecodesWrite (c : IsduCtx) (bytes : List UInt8) (index : UInt16) (subindex : UInt8)
    (d : List UInt8) : Prop where
  returns : ∀ i, (parser.outputs c bytes)[i]? = some 1 ↔ i + 1 = bytes.length
  type : (parser.final c bytes).header.type = .write
  index : (parser.final c bytes).header.index = index
  subindex : (parser.final c bytes).header.subindex = subindex
  buffer : slice (parser.final c bytes).buffer 0 (parser.final c bytes).bufferIdx = d

theorem replicate_append_one_getElem? (k i : ℕ) :
    (List.replicate k (0 : Int) ++ [1])[i]? = some 1 ↔ i = k := by
  rcases Nat.lt_trichotomy i k with h | h | h
  · rw [List.getElem?_append_left (by simpa using h), List.getElem?_replicate, if_pos h]
    simp [h.ne]
  · subst h
    simp
  · rw [List.getElem?_append_right (by simpa using h.le), List.getElem?_eq_none (by simp; omega)]
    simp [h.ne']

theorem decodesWrite_of_ne (index : UInt16) (subindex : UInt8) (d : Payload)
    (hd : d.1.length ≠ 15) {c : IsduCtx} (hc : c.state = .idle) :
    DecodesWrite c (writeInterleaved index subindex d.1) index subindex d.1 := by
  have hsegs : (markLast (writeRequestData index subindex d.1)).map Prod.snd =
      (Request.write index subindex d).dataBytes := by
    rw [map_snd_markLast, writeRequestData_eq index subindex d hd]
  rw [writeInterleaved, interleaveControl_eq]
  obtain ⟨hout, hdec⟩ := parser_request (Request.write index subindex d) 0 hsegs (.inl hc)
  refine ⟨fun i => ?_, hdec.type, hdec.index, hdec.subindex, hdec.buffer⟩
  have hpos : (markLast (writeRequestData index subindex d.1)).length ≠ 0 := by
    rw [← List.length_map (f := Prod.snd), hsegs]
    simpa using (Request.write index subindex d).dataBytes_ne_nil
  rw [hout, replicate_append_one_getElem?, length_segments]
  omega

/-! ## The length at which they differ -/

theorem parser_segment {c : IsduCtx} (hs : c.state = .segmentCollect) (last : Bool) (b : UInt8)
    (bs : List UInt8) :
    parser.final c (ctrlByte false last (nextSeq c.segmentSeq) :: b :: bs) =
      parser.final (isduCollectByte (c.resume last) b).1 bs := by
  simp only [parser, Machine.final_cons, collectByte_resume hs last]

/-- Each segment of the payload adds at most one byte to the buffer. -/
theorem bufferIdx_payload_le {c : IsduCtx} (hs : c.state = .segmentCollect)
    (hn : c.nextState = .dataCollect) (segs : List (Bool × UInt8)) :
    (parser.final c (segments false (nextSeq c.segmentSeq) segs)).bufferIdx ≤
      c.bufferIdx + segs.length := by
  induction segs generalizing c with
  | nil => simp
  | cons seg segs ih =>
    obtain ⟨last, b⟩ := seg
    rw [segments_cons, parser_segment hs, List.length_cons]
    by_cases hfull : c.header.length.toNat ≤ c.bufferIdx + 1
    · rw [collectByte_dataCollect_last (c := c.resume last) b hn hfull, parser_serviceExecute rfl]
      show c.bufferIdx + 1 ≤ _
      omega
    · rw [collectByte_dataCollect_more (c := c.resume last) b hn
        (by simpa [IsduCtx.resume] using hfull)]
      have h := ih (c := ((c.resume last).storeByte b).await (c.resume last).header .dataCollect)
        rfl rfl
      refine h.trans (le_of_eq ?_)
      show c.bufferIdx + 1 + segs.length = _
      omega

/-- After the service byte 0x9F the device takes the next byte for the length
    and the fifth for the subindex; the bytes after that go to the buffer. -/
theorem bufferIdx_writeExt_le {c : IsduCtx} (hs : c.state = .idle) (l₀ l₁ l₂ l₃ l₄ : Bool)
    (b₁ b₂ b₃ b₄ : UInt8) (segs : List (Bool × UInt8)) :
    (parser.final c (segments true 0 ((l₀, 0x9F) :: (l₁, b₁) :: (l₂, b₂) :: (l₃, b₃) :: (l₄, b₄) ::
      segs))).bufferIdx ≤ segs.length := by
  have hstart := collectByte_start (c := c) (.inl hs) (startBit_ctrlByte true l₀ 0)
  have hseq : (c.startRequest (ctrlByte true l₀ 0)).segmentSeq = 0 :=
    (seqBits_ctrlByte true l₀ 0).trans rfl
  obtain ⟨c₁, hcol, hs₁, hn₁, hseq₁, hidx, -⟩ :=
    collects_writeExt (c := c.startRequest (ctrlByte true l₀ 0)) rfl l₁ l₂ l₃ l₄ b₁ b₂ b₃ b₄
  have hle := bufferIdx_payload_le hs₁ hn₁ segs
  rw [hseq] at hcol hseq₁
  rw [hidx, Nat.zero_add, hseq₁, ← hcol.final_append, ← Function.iterate_succ_apply' nextSeq,
    Function.iterate_succ_apply, List.cons_append] at hle
  have hsegs := segments_append (nextSeq 0) [(l₁, b₁), (l₂, b₂), (l₃, b₃), (l₄, b₄)] segs
  rw [show List.length _ = 4 from rfl] at hsegs
  rw [← hsegs] at hle
  rw [segments_cons]
  simp only [parser, Machine.final_cons, hstart] at hle ⊢
  exact hle

/-- The bytes of a write of 15 bytes. -/
theorem writeRequestData_fifteen (index : UInt16) (subindex d₀ : UInt8) {tail : List UInt8}
    (hlen : tail.length = 14) :
    writeRequestData index subindex (d₀ :: tail) =
      (0x9F : UInt8) :: (index >>> 8).toUInt8 :: index.toUInt8 :: subindex :: d₀ :: tail := by
  simp [writeRequestData, hlen]
  rfl

theorem not_decodesWrite_fifteen (index : UInt16) (subindex : UInt8) {d : List UInt8}
    (hd : d.length = 15) {c : IsduCtx} (hc : c.state = .idle) :
    ¬ DecodesWrite c (writeInterleaved index subindex d) index subindex d := by
  intro h
  match d, hd with
  | d₀ :: tail, hd =>
    have htail : tail.length = 14 := by simpa using hd
    have hdata := writeRequestData_fifteen index subindex d₀ htail
    have hlen := congrArg List.length h.buffer
    rw [length_slice, hd, writeInterleaved, interleaveControl_eq, hdata] at hlen
    have hle := bufferIdx_writeExt_le hc false false false false tail.isEmpty (index >>> 8).toUInt8
      index.toUInt8 subindex d₀ (markLast tail)
    have hmark : (markLast tail).length = 14 := by
      rw [← htail, ← List.length_map (f := Prod.snd), map_snd_markLast]
    rw [hmark] at hle
    simp only [markLast, List.isEmpty_cons] at hlen
    omega

/-- **The device decodes a write of the master exactly when its payload does not have 15 bytes.** -/
theorem write_decoded_iff (index : UInt16) (subindex : UInt8) (d : Payload) (c : IsduCtx)
    (hc : c.state = .idle) :
    DecodesWrite c (writeInterleaved index subindex d.1) index subindex d.1 ↔ d.1.length ≠ 15 :=
  ⟨fun h hd => not_decodesWrite_fifteen index subindex hd hc h,
    fun hd => decodesWrite_of_ne index subindex d hd hc⟩

/-- A write of two bytes to the location tag. -/
theorem write_decoded_locationTag :
    DecodesWrite isduInit (writeInterleaved 0x001A 0 [0x41, 0x42]) 0x001A 0 [0x41, 0x42] :=
  (write_decoded_iff 0x001A 0 ⟨[0x41, 0x42], by decide⟩ isduInit rfl).mpr (by decide)

/-- The write of fifteen bytes to the location tag: the device takes it for a write of one byte to
    index 0x1A00, subindex 0x41, which is complete at the second payload byte. -/
theorem write_fifteen_not_decoded :
    let bytes := writeInterleaved 0x001A 0 (List.replicate 15 0x41)
    (parser.outputs isduInit bytes)[11]? = some 1 ∧ bytes.length = 38 ∧
      (parser.final isduInit bytes).header = ⟨.write, 0, 0x1A00, 0x41⟩ ∧
      (parser.final isduInit bytes).bufferIdx = 1 ∧
      ¬ DecodesWrite isduInit bytes 0x001A 0 (List.replicate 15 0x41) := by
  refine ⟨by decide +kernel, by decide +kernel, by decide +kernel, by decide +kernel, fun h => ?_⟩
  have hindex := h.index
  revert hindex
  decide +kernel

end Iolinki
