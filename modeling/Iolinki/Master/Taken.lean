import Iolinki.Master.Missed

/-!
# Writes that are taken for other writes

An engine that is not in the middle of a request collects a write of the master. If the
payload has 15 bytes, it takes the first index byte for the length and every later byte for
the one before it (`takenWrite`): the write that it executes has another index and a part of
the payload, and the rest of the payload follows when the request is complete already.

* `parses_takenWrite`, `collects_takenWrite`: the engine.
* `writeIsduOn_taken`: what `write_isdu` returns and which parameters it leaves.
* `writeIsduOn_incomplete`: the same for a payload that is too short.
-/

namespace Iolinki

open Iolinki.Lib

/-! ## The engine -/

/-- The write that the engine takes a write of the master for: its index, its payload and
    the bytes that follow it. `none` if the payload is not complete. -/
def takenWrite (index : UInt16) (subindex : UInt8) (data : List UInt8) :
    Option (UInt16 × List UInt8 × List UInt8) :=
  if data.length ≠ 15 then some (index, data, [])
  else
    let n := max 1 (index >>> 8).toUInt8.toNat
    if n ≤ 14 then
      some (index.toUInt8.toUInt16 <<< 8 ||| subindex.toUInt16, (data.drop 1).take n,
        (data.drop 1).drop n)
    else none

/-- The engine has collected a write of `data` to `index`. -/
structure IsduCtx.HoldsWrite (c : IsduCtx) (index : UInt16) (data : List UInt8) : Prop where
  state : c.state = .serviceExecute
  type : c.header.type = .write
  index : c.header.index = index
  buffer : slice c.buffer 0 c.bufferIdx = data

theorem IsduCtx.HoldsWrite.bufferIdx {c : IsduCtx} {index : UInt16} {data : List UInt8}
    (h : c.HoldsWrite index data) : c.bufferIdx = data.length := by
  rw [← h.buffer, length_slice]

/-- The header of a write of 15 bytes, behind the first control byte. -/
theorem collects_fifteen {c : IsduCtx} (hs : c.state = .headerInitial) (hseq : c.segmentSeq = 0)
    (index : UInt16) (subindex d₀ : UInt8) {tail : List UInt8} (hlen : tail.length = 14) :
    ∃ bytes c₁,
      writeInterleaved index subindex (d₀ :: tail) = ctrlByte true false 0 ::
        (bytes ++ segments false (nextSeq c₁.segmentSeq) (markLast tail)) ∧
      Collects c bytes c₁ ∧ c₁.state = .segmentCollect ∧ c₁.nextState = .dataCollect ∧
      c₁.segmentSeq = nextSeq^[4] 0 ∧ c₁.bufferIdx = 0 ∧
      c₁.header = ⟨.write, (index >>> 8).toUInt8,
        index.toUInt8.toUInt16 <<< 8 ||| subindex.toUInt16, d₀⟩ := by
  obtain ⟨c₁, hcol, hs₁, hn₁, hseq₁, hidx, hh⟩ := collects_writeExt hs false false false
    tail.isEmpty (index >>> 8).toUInt8 index.toUInt8 subindex d₀
  rw [hseq] at hcol hseq₁
  refine ⟨_, c₁, ?_, hcol, hs₁, hn₁, hseq₁, hidx, hh⟩
  rw [writeInterleaved, interleaveControl_eq, writeRequestData_fifteen index subindex d₀ hlen,
    hseq₁]
  rfl

/-- A payload of 15 bytes that is long enough for the length that is taken for its own. -/
theorem parses_fifteen {c : IsduCtx} (hs : c.state = .headerInitial) (hseq : c.segmentSeq = 0)
    (index : UInt16) (subindex d₀ : UInt8) {tail : List UInt8} (hlen : tail.length = 14)
    (hn : max 1 (index >>> 8).toUInt8.toNat ≤ 14) :
    let n := max 1 (index >>> 8).toUInt8.toNat
    ∃ bytes s c', writeInterleaved index subindex (d₀ :: tail) = ctrlByte true false 0 ::
        (bytes ++ segments false s (markLast (tail.drop n))) ∧ Parses c bytes c' ∧
      c'.HoldsWrite (index.toUInt8.toUInt16 <<< 8 ||| subindex.toUInt16) (tail.take n) := by
  intro n
  obtain ⟨bytes, c₁, hbytes, hcol, hs₁, hn₁, -, hidx, hh⟩ :=
    collects_fifteen hs hseq index subindex d₀ hlen
  have htake : ((markLast tail).take n).map Prod.snd = tail.take n := by
    rw [List.map_take, map_snd_markLast]
  have hcount : ((markLast tail).take n).length = n := by
    rw [← List.length_map (f := Prod.snd), htake, List.length_take, hlen]
    exact Nat.min_eq_left hn
  obtain ⟨c', hp, hs', hh', hbuf⟩ := parses_payload ((markLast tail).take n) hs₁ hn₁
    (by rw [hcount, hidx, hh]; exact Nat.zero_add n)
  refine ⟨bytes ++ segments false (nextSeq c₁.segmentSeq) ((markLast tail).take n),
    nextSeq^[((markLast tail).take n).length] (nextSeq c₁.segmentSeq), c', ?_,
    hcol.parses hp, hs', by rw [hh', hh], by rw [hh', hh], ?_⟩
  · rw [hbytes, ← markLast_drop, List.append_assoc, ← segments_append, List.take_append_drop]
  · rw [hbuf, hidx, slice_zero, List.nil_append, htake]

/-- **The write that the engine collects.** -/
theorem parses_takenWrite {index i : UInt16} {subindex : UInt8} {data : Payload}
    {d left : List UInt8} (htaken : takenWrite index subindex data.1 = some (i, d, left))
    {c : IsduCtx} (hs : c.state = .headerInitial) (hseq : c.segmentSeq = 0) :
    (1 ≤ d.length ∧ d.length ≤ 255) ∧ ∃ bytes s c',
      writeInterleaved index subindex data.1 = ctrlByte true false 0 ::
        (bytes ++ segments false s (markLast left)) ∧ Parses c bytes c' ∧ c'.HoldsWrite i d := by
  unfold takenWrite at htaken
  dsimp only at htaken
  split_ifs at htaken with hlen hn
  · obtain ⟨rfl, rfl, rfl⟩ := htaken
    have hreq := writeRequestData_eq index subindex data hlen
    obtain ⟨b, pre, hcons, -⟩ := writeRequestData_eq_cons index subindex data.1
    have hsegs : markLast (writeRequestData index subindex data.1) =
        (false, b) :: markLast (pre ++ subindex :: data.1) := by
      rw [hcons, markLast]
      simp
    have hmap : ((false, b) :: markLast (pre ++ subindex :: data.1)).map Prod.snd =
        (Request.write index subindex data).dataBytes := by
      rw [← hsegs, map_snd_markLast, hreq]
    obtain ⟨c', hp, hd⟩ := parses_request _ hs hmap
    refine ⟨data.2, _, 0, c', ?_, hp, hd.state, hd.type, hd.index, hd.buffer⟩
    rw [writeInterleaved, interleaveControl_eq, hsegs, segments_cons, hseq]
    simp [markLast]
  · obtain ⟨rfl, rfl, rfl⟩ := htaken
    obtain ⟨d₀, tail, hdata⟩ := List.exists_cons_of_length_pos data.2.1
    have htail : tail.length = 14 := by
      rw [hdata, List.length_cons] at hlen
      omega
    rw [hdata, List.drop_one, List.tail_cons]
    refine ⟨?_, parses_fifteen hs hseq index subindex d₀ htail hn⟩
    rw [List.length_take, htail]
    omega

/-- **A payload that is too short** for the length that is taken for its own. -/
theorem collects_takenWrite {index : UInt16} {subindex : UInt8} {data : Payload}
    (htaken : takenWrite index subindex data.1 = none) {c : IsduCtx}
    (hs : c.state = .headerInitial) (hseq : c.segmentSeq = 0) :
    ∃ bytes c', writeInterleaved index subindex data.1 = ctrlByte true false 0 :: bytes ∧
      Collects c bytes c' ∧ c'.state = .segmentCollect ∧ nextSeq c'.segmentSeq ≠ 0 := by
  unfold takenWrite at htaken
  dsimp only at htaken
  split_ifs at htaken with hlen hn
  obtain ⟨d₀, tail, hdata⟩ := List.exists_cons_of_length_pos data.2.1
  have htail : tail.length = 14 := by
    rw [hdata, List.length_cons] at hlen
    omega
  obtain ⟨bytes, c₁, hbytes, hcol, hs₁, hn₁, hseq₁, hidx, hh⟩ :=
    collects_fifteen hs hseq index subindex d₀ htail
  have hcount : (markLast tail).length = 14 := by
    rw [← List.length_map (f := Prod.snd), map_snd_markLast, htail]
  obtain ⟨c', hcol', hs', -, hseq', -⟩ := collects_payload (markLast tail) hs₁ hn₁ (by
    rw [hidx, hh, hcount]
    show 0 + 14 < max (0 + 1) (index >>> 8).toUInt8.toNat
    omega)
  refine ⟨_, c', by rw [hdata, hbytes], hcol.append hcol', hs', ?_⟩
  rw [hseq', hcount, hseq₁]
  decide

/-- A poll where a control byte is due: the control byte of a segmentation error. -/
theorem exchange_incomplete {c : IsduCtx} (hs : c.state = .segmentCollect)
    (hnext : nextSeq c.segmentSeq ≠ 0) : (odExchange c 0x00).2 ≠ 0 := by
  have hzero : seqBits 0x00 = 0 := by decide
  have hcol := collectByte_segmentCollect hs startBit_zero
  rw [isduSegmentControl, hzero, if_pos hnext.symm] at hcol
  have hfetch := (error_fetched (e := (isduCollectByte c 0x00).1) { c with segmentSeq := 0 }
    isduErrorSegmentation (by rw [hcol]; rfl)).1
  show (isduGetResponseByte (isduCollectByte c 0x00).1).2.getD 0 ≠ 0
  rw [hfetch]
  exact (ctrlByte_start_ne_zero _ _).1

/-! ## The link -/

/-- The number of bytes to be delivered for an answer of the given length. -/
def answerLength : Option ℕ → ℕ
  | none => 0
  | some n => max 1 (2 * n)

section Links

variable (cfg : BuildConfig) {L : Type} {send : L → UInt8 → Option DeviceResponse × L}
variable {R S : L → IsduCtx → Host → Prop} {K : Host → Host → Prop}
variable {l : L} {c : IsduCtx} {h : Host} (hsend : Transports cfg [] send R S K)
include hsend

/-- The engine executes a write that it has collected. -/
theorem strayOn_holdsWrite (hR : R l c h) (hw : c.Wired) {i : UInt16} {d : List UInt8}
    (hd : c.HoldsWrite i d) (hlen : 1 ≤ d.length ∧ d.length ≤ 255) :
    (isduProcess cfg h c).1.store = writeStore h.store i d ∧
      ∃ p, StrayOn cfg R K p l (isduProcess cfg h c).1 ∧ Audible 1 p ∧
        p.length = answerLength (writeAnswer cfg h.store i d) := by
  have hidx := hd.bufferIdx
  obtain ⟨hans, hstore⟩ := isduProcess_write cfg h hw hd.state hd.type (by omega) (by omega)
  rw [hd.buffer, hd.index] at hans hstore
  refine ⟨hstore, pending (isduProcess cfg h c).2, ?_⟩
  cases hcase : writeAnswer cfg h.store i d with
  | none =>
    rw [hcase] at hans
    have hpend : pending (isduProcess cfg h c).2 = [] := by simp [pending, hans]
    exact ⟨⟨c, h, hR, hsend.refl _, .inl ⟨.inl hans, rfl⟩⟩,
      audible_of_ne_zero 1 fun b hb => absurd (hpend ▸ hb) List.not_mem_nil, by rw [hpend]; rfl⟩
  | some n =>
    rw [hcase] at hans
    have hn : n ≤ 255 := length_prepared_le cfg h hd.state (by omega) hans
    obtain ⟨hem, hcount, -⟩ := prepared_pending hans hn
    exact ⟨⟨c, h, hR, hsend.refl _, .inl ⟨hem, rfl⟩⟩,
      audible_prepared (Nat.zero_le 1) hans hn, hcount⟩

/-- The bytes that follow a complete request. -/
theorem sendRequestOn_left {p : List UInt8} (hs : StrayOn cfg R K p l h) (s : UInt8)
    (left : List UInt8) :
    let r := sendRequestOn send l (segments false s (markLast left))
    r.1 = true ∧ StrayOn cfg R K (left.foldl (strayNext 0) p) r.2 h := by
  cases left with
  | nil => exact ⟨rfl, hs⟩
  | cons b left =>
    obtain ⟨hu, c', h', hS, hk, hstray⟩ :=
      sendRequestOn_stray cfg hsend nofun (markLast (b :: left)) (List.cons_ne_nil _ _) s hs
    rw [map_snd_markLast] at hstray
    exact ⟨hu, strayOn_of cfg hsend hS hk hstray⟩

variable (hR : R l c h) (hw : c.Wired) (hstart : (isduProcess cfg h c).2.state.AwaitsStart)
variable {index i : UInt16} {subindex : UInt8} {data : Payload} {d left : List UInt8}
include hR hstart

include hw in
/-- **A write that is collected** is executed as the write it is taken for, and reported as
    successful if something is left for the polls. -/
theorem writeIsduOn_taken (htaken : takenWrite index subindex data.1 = some (i, d, left)) :
    let r := writeIsduOn send l index subindex data.1
    ∃ h', K (isduProcess cfg h c).1 h' ∧
      (r.1 = true ↔ Leaves 0 (answerLength (writeAnswer cfg h'.store i d)) left) ∧
      ∃ h₁ c' h'', h₁.store = writeStore h'.store i d ∧ S r.2 c' h'' ∧ K h₁ h'' := by
  obtain ⟨hseq, -⟩ := send_start cfg hsend hR hstart false
  obtain ⟨hlen, bytes, s, c', hbytes, hp, hd⟩ := parses_takenWrite htaken
    (c := (isduProcess cfg h c).2.startRequest (ctrlByte true false 0)) rfl hseq
  obtain ⟨hu, h', hS, hk, hw'⟩ :=
    sendRequestOn_started cfg hsend hR hstart false hp (by rw [hd.state]; decide)
  obtain ⟨hstore, p, hs, haud, hcount⟩ :=
    strayOn_holdsWrite cfg hsend (hsend.weaken hS) (hw' hw) hd hlen
  obtain ⟨hu₂, hs₂⟩ := sendRequestOn_left cfg hsend hs s left
  rw [← sendRequestOn_append hu, List.cons_append, ← hbytes] at hu₂ hs₂
  obtain ⟨hpoll, c'', h'', hS', hk', -⟩ := pollControlOn_stray cfg hsend nofun hs₂ 49
  have hfound := firstControl_foldl_eq_zero_iff (Nat.zero_le 1) left haud
  intro r
  have hr : r = _ := writeIsduOn_sent (Prod.ext hu₂ rfl)
  rw [hr]
  refine ⟨h', hk, ?_, _, c'', h'', hstore, hS', hk'⟩
  rw [decide_eq_true_iff, show maxRetries = 49 + 1 from rfl, hpoll, ← hcount]
  exact (not_congr hfound).trans not_not

/-- **A write whose payload is too short**: the first poll is refused, which is reported as a
    success. -/
theorem writeIsduOn_incomplete (htaken : takenWrite index subindex data.1 = none) :
    let r := writeIsduOn send l index subindex data.1
    r.1 = true ∧ ∃ c' h', S r.2 c' h' ∧ K (isduProcess cfg h c).1 h' := by
  obtain ⟨hseq, -, hu, h₁, hk₁, hR₁⟩ := send_start cfg hsend hR hstart false
  obtain ⟨bytes, c', hbytes, hcol, hs, hnext⟩ := collects_takenWrite htaken
    (c := (isduProcess cfg h c).2.startRequest (ctrlByte true false 0)) rfl hseq
  obtain ⟨hu₂, h₂, hk₂, hR₂⟩ := sendRequestOn_collects cfg hsend hcol (by rw [hs]; decide) hR₁
  obtain ⟨asked, hasked⟩ : ∃ asked,
      sendRequestOn send (send l (ctrlByte true false 0)).2 bytes = (true, asked) :=
    ⟨_, Prod.ext hu₂ rfl⟩
  have hsent : sendRequestOn send l (writeInterleaved index subindex data.1) = (true, asked) := by
    rw [hbytes, sendRequestOn, if_pos hu, hasked]
  rw [hasked] at hR₂
  obtain ⟨hu₃, hod, h₃, hk₃, hS₃⟩ := hsend.single cfg hR₂ 0x00
  rw [isduProcess_of_ne cfg h₂ (by rw [hs]; decide)] at hod hk₃ hS₃
  have hne := exchange_incomplete hs hnext
  rw [← hod] at hne
  intro r
  have hr : r = _ := writeIsduOn_sent hsent
  have hpoll : pollControlOn send asked maxRetries =
      (odOrPayload (send asked 0x00).1, (send asked 0x00).2) := by
    rw [maxRetries, pollControlOn, if_pos ⟨hu₃, hne⟩]
  rw [hr, hpoll]
  exact ⟨decide_eq_true hne, _, h₃, hS₃, hsend.trans hk₁ (hsend.trans hk₂ hk₃)⟩

end Links

end Iolinki
