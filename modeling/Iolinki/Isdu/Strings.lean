import Mathlib.Tactic.IntervalCases
import Iolinki.Isdu.Reads

/-!
# Identification strings

A read of an identification string copies the string to the response buffer, cut at
the size of the buffer, and casts the length to `uint8_t`. With a buffer of 256 bytes
or more a string can be so long that the cast loses part of it.

* `delivered_of_answerData`: an answer goes out byte by byte, each behind a control
  byte, of which only the last one has LAST set.
* `identification_string_iff`: exactly when a string is delivered as far as the
  buffer holds it.
-/

namespace Iolinki

open Iolinki.Lib

/-! ## The bytes of an answer, one by one -/

/-- The answer that stands ready has the data `data`; the calls of
    `iolink_isdu_get_response_byte` deliver a control byte and a data byte in turn, LAST
    is set for the final byte only, and nothing follows. -/
structure Delivered (c : IsduCtx) (data : List UInt8) : Prop where
  prepared : answerData c = some data
  bytes : ∀ i < data.length, ∃ ctrl, responseOf c (2 * i) = some ctrl ∧
    (lastBit ctrl = true ↔ i + 1 = data.length) ∧ responseOf c (2 * i + 1) = data[i]?
  rest : ∀ k, 2 * max 1 data.length ≤ k → responseOf c k = none

theorem getElem?_segments {segs : List (Bool × UInt8)} {i : ℕ} {last : Bool} {b : UInt8}
    (h : segs[i]? = some (last, b)) (start : Bool) (seq : UInt8) :
    (∃ start' seq', (segments start seq segs)[2 * i]? = some (ctrlByte start' last seq')) ∧
      (segments start seq segs)[2 * i + 1]? = some b := by
  induction segs generalizing start seq i with
  | nil => simp at h
  | cons seg segs ih =>
    obtain ⟨last₀, b₀⟩ := seg
    cases i with
    | zero =>
      obtain ⟨rfl, rfl⟩ := Prod.mk.inj (Option.some.inj h)
      exact ⟨⟨start, seq, rfl⟩, rfl⟩
    | succ i => exact ih h false (nextSeq seq)

theorem getElem?_markLast {data : List UInt8} {i : ℕ} {b : UInt8} (h : data[i]? = some b) :
    (markLast data)[i]? = some (decide (i + 1 = data.length), b) := by
  induction data generalizing i with
  | nil => simp at h
  | cons b₀ data ih =>
    cases i with
    | zero =>
      obtain rfl := Option.some.inj h
      have hlast : data.isEmpty = decide (0 + 1 = (b₀ :: data).length) := by cases data <;> simp
      rw [markLast, hlast]
      rfl
    | succ i =>
      rw [markLast, List.getElem?_cons_succ, ih h]
      simp

theorem length_markLast (data : List UInt8) : (markLast data).length = data.length := by
  rw [← List.length_map (f := Prod.snd), map_snd_markLast]

theorem length_answerStream_le (data : List UInt8) :
    (answerStream data).length ≤ 2 * max 1 data.length := by
  unfold answerStream
  split_ifs with hnil
  · simp [hnil]
  · rw [length_segments, length_markLast]
    omega

/-- **An executed request whose answer has at most 255 bytes is delivered whole.** -/
theorem delivered_of_answerData (cfg : BuildConfig) (h : Host) {c : IsduCtx}
    (hs : c.state = .serviceExecute) {data : List UInt8}
    (ha : answerData (isduProcess cfg h c).2 = some data) (hlen : data.length ≤ 255) :
    Delivered (isduProcess cfg h c).2 data := by
  have hstream := responseOf_isduProcess cfg h hs ha hlen
  refine ⟨ha, fun i hi => ?_, fun k hk => ?_⟩
  · have hne : data ≠ [] := by
      rintro rfl
      exact absurd hi (Nat.not_lt_zero i)
    have hget : data[i]? = some data[i] := List.getElem?_eq_getElem hi
    obtain ⟨⟨start, seq, hctrl⟩, hbyte⟩ := getElem?_segments (getElem?_markLast hget) true 0
    rw [hstream, answerStream, if_neg hne]
    refine ⟨_, hctrl, ?_, hbyte.trans hget.symm⟩
    rw [lastBit_ctrlByte, decide_eq_true_eq]
  · rw [hstream]
    exact List.getElem?_eq_none ((length_answerStream_le data).trans hk)

/-! ## The strings -/

/-- The indices `0x0010` to `0x0017` stand for a string. -/
theorem exists_stringOfIndex {index : UInt16} (hlow : 0x0010 ≤ index) (hhigh : index ≤ 0x0017)
    (info : DeviceInfo) : ∃ str, stringOfIndex info index = some str := by
  rw [UInt16.le_iff_toNat_le] at hlow hhigh
  change 16 ≤ index.toNat at hlow
  change index.toNat ≤ 23 at hhigh
  rw [← UInt16.ofNat_toNat (x := index)]
  interval_cases index.toNat <;> exact ⟨_, rfl⟩

/-- A request for one of these indices prepares the string, up to the size of the
    buffer and with its length as a byte. -/
theorem answerData_string (cfg : BuildConfig) (h : Host) {c : IsduCtx}
    (hs : c.state = .serviceExecute) {s : CString}
    (hstr : stringOfIndex (deviceInfoGet h.store).1 c.header.index = some (some s)) :
    answerData (isduProcess cfg h c).2 = some (sentBytes (s.bytes.take cfg.isduBufferSize)) := by
  have hne : ∀ i, stringOfIndex (deviceInfoGet h.store).1 i = none → c.header.index ≠ i := by
    rintro i hi rfl
    rw [hstr] at hi
    cases hi
  have hid : identification cfg (deviceInfoGet h.store).1 c.header.index =
      some (some (s.bytes.take cfg.isduBufferSize)) := by
    unfold identification
    rw [if_neg (hne _ rfl), if_neg (hne _ rfl), if_neg (hne _ rfl), if_neg (hne _ rfl),
      if_neg (hne _ rfl), hstr]
    rfl
  exact (answerData_identification cfg h hs hid).2

/-- **An identification string is delivered as far as the buffer holds it** exactly if
    these are at most 255 bytes. -/
theorem identification_string_iff (cfg : BuildConfig) (h : Host) {c : IsduCtx}
    (hs : c.state = .serviceExecute) (hlow : 0x0010 ≤ c.header.index)
    (hhigh : c.header.index ≤ 0x0017)
    (hnull : stringOfIndex (deviceInfoGet h.store).1 c.header.index ≠ some none) :
    ∃ s : CString, stringOfIndex (deviceInfoGet h.store).1 c.header.index = some (some s) ∧
      (Delivered (isduProcess cfg h c).2 (s.bytes.take (min s.strlen cfg.isduBufferSize)) ↔
        min s.strlen cfg.isduBufferSize ≤ 255) := by
  obtain ⟨str, hstr⟩ := exists_stringOfIndex hlow hhigh (deviceInfoGet h.store).1
  cases str with
  | none => exact absurd hstr hnull
  | some s =>
    refine ⟨s, hstr, ?_⟩
    have htake : s.bytes.take (min s.strlen cfg.isduBufferSize) =
        s.bytes.take cfg.isduBufferSize := by
      rw [CString.strlen, ← List.take_take, List.take_take, Nat.min_comm, ← List.take_take,
        List.take_length]
    have hlen : (s.bytes.take cfg.isduBufferSize).length = min s.strlen cfg.isduBufferSize := by
      rw [List.length_take, Nat.min_comm]
      rfl
    have ha := answerData_string cfg h hs hstr
    rw [htake]
    constructor
    · intro hd
      have hsame := congrArg List.length (Option.some.inj (ha.symm.trans hd.prepared))
      rw [length_sentBytes, hlen] at hsame
      omega
    · intro hle
      refine delivered_of_answerData cfg h hs ?_ (by omega)
      rw [ha, sentBytes, hlen, Nat.mod_eq_of_lt (by omega), ← hlen, List.take_length]

/-- The default vendor name. -/
theorem identification_string_vendorName :
    Delivered (isduProcess {} hostInit (collected (.read 0x0010 0))).2
      (CString.lit "iolinki").bytes := by
  obtain ⟨s, hstr, hiff⟩ := identification_string_iff {} hostInit (c := collected (.read 0x0010 0))
    rfl (by decide) (by decide) (fun hnull => by cases hnull)
  obtain rfl := Option.some.inj (Option.some.inj hstr)
  exact hiff.mpr (by decide)

/-- A device whose vendor name has 256 characters. -/
def longNameHost : Host :=
  { hostInit with store := deviceInfoInit storeInit (some { defaultInfo storeInit with
      vendorName := some (.ofMem (List.replicate 256 0x41)) }) }

/-- Nothing is delivered of it. -/
theorem long_name_lost :
    let s : CString := .ofMem (List.replicate 256 0x41)
    let c := (isduProcess {} longNameHost (collected (.read 0x0010 0))).2
    stringOfIndex (deviceInfoGet longNameHost.store).1 0x0010 = some (some s) ∧
      s.strlen = 256 ∧ answerData c = some [] ∧
      ¬Delivered c (s.bytes.take (min s.strlen ({} : BuildConfig).isduBufferSize)) := by
  intro s c
  have hlen : s.strlen = 256 := by decide +kernel
  have ha : answerData c = some [] := by decide +kernel
  refine ⟨rfl, hlen, ha, fun hd => ?_⟩
  have hsame := congrArg List.length (Option.some.inj (ha.symm.trans hd.prepared))
  rw [List.length_take, hlen] at hsame
  exact absurd (hsame.trans (congrArg (min _) hlen)) (by decide)

end Iolinki
