import Iolinki.Master.Opening

/-!
# Accesses that are not taken for requests

What `read_isdu` and `write_isdu` return when the engine does not take their bytes for a
request, because it is in the middle of another one or because padding bytes are mixed in.
`p` is what the engine has to deliver after the first two bytes (`StrayOn`); the rest
depends on the START bits of the other bytes.

* `writeIsduOn_missed`: `write_isdu` returns `True` if something is left for its polls.
* `readIsduOn_missed`: a read whose subindex has no START bit returns `None`.
* `readIsduOn_refused`, `readIsduOn_stuck`: a read whose subindex has the START bit returns
  an error, or with padding does not return.
-/

namespace Iolinki

open Iolinki.Lib

/-! ## The request -/

theorem sendRequestOn_append {L : Type} {send : L → UInt8 → Option DeviceResponse × L} {l : L}
    {bytes : List UInt8} (h : (sendRequestOn send l bytes).1 = true) (bytes' : List UInt8) :
    sendRequestOn send l (bytes ++ bytes') =
      sendRequestOn send (sendRequestOn send l bytes).2 bytes' := by
  induction bytes generalizing l with
  | nil => rfl
  | cons b bytes ih =>
    simp only [List.cons_append, sendRequestOn] at h ⊢
    split_ifs at h ⊢
    exact ih h

theorem interleaveControl_cons (b : UInt8) {xs : List UInt8} (hne : xs ≠ []) :
    interleaveControl (b :: xs) = [0x80, b] ++ segments false (nextSeq 0) (markLast xs) := by
  have hlast : xs.isEmpty = false := by simpa using hne
  rw [interleaveControl_eq, markLast, segments_cons, hlast]
  rfl

/-- The bytes of a write: the service byte has the START bit, and the request ends in the
    subindex and the payload. -/
theorem writeRequestData_eq_cons (index : UInt16) (subindex : UInt8) (data : List UInt8) :
    ∃ b pre, writeRequestData index subindex data = b :: (pre ++ subindex :: data) ∧
      startBit b = true ∧ 2 ≤ pre.length := by
  have hservice : ∀ n : UInt8, startBit (0x90 ||| (n &&& 0x0F)) = true := by decide +kernel
  unfold writeRequestData
  dsimp only
  split_ifs
  · exact ⟨0x9F, [UInt8.ofNat data.length, (index >>> 8).toUInt8, index.toUInt8], rfl, by decide,
      Nat.le_succ 2⟩
  · exact ⟨_, [(index >>> 8).toUInt8, index.toUInt8], rfl, hservice _, le_rfl⟩

section Missed

variable (cfg : BuildConfig) {L : Type} {send : L → UInt8 → Option DeviceResponse × L}
variable {pad : List UInt8} {R S : L → IsduCtx → Host → Prop} {K : Host → Host → Prop}
variable {l : L} {h : Host} {b : UInt8} {p xs : List UInt8}
variable (hsend : Transports cfg pad send R S K) (hpad : ∀ x ∈ pad, startBit x = false)
variable (hok : (sendRequestOn send l [0x80, b]).1 = true)
variable (hs : StrayOn cfg R K p (sendRequestOn send l [0x80, b]).2 h)
include hsend hpad hok hs

/-- A request that is not taken for one. -/
theorem sendRequestOn_missed (hne : xs ≠ []) :
    let r := sendRequestOn send l (interleaveControl (b :: xs))
    r.1 = true ∧ ∃ c h', S r.2 c h' ∧ K h h' ∧ Stray c (xs.foldl (strayNext pad.length) p) := by
  have hsegs : markLast xs ≠ [] := by
    intro hnil
    rw [← map_snd_markLast xs, hnil] at hne
    exact hne rfl
  have hrest := sendRequestOn_stray cfg hsend hpad (markLast xs) hsegs (nextSeq 0) hs
  rw [map_snd_markLast] at hrest
  rw [interleaveControl_cons b hne, sendRequestOn_append hok]
  exact hrest

/-- **A write that is not taken for one** is reported as successful if something is left for
    the polls. -/
theorem writeIsduOn_missed (hlen : pad.length ≤ 1) (haud : Audible (pad.length + 1) p)
    {index : UInt16} {subindex : UInt8} {data : List UInt8}
    (hdata : writeRequestData index subindex data = b :: xs) (hne : xs ≠ []) :
    let r := writeIsduOn send l index subindex data
    (r.1 = true ↔ Leaves pad.length p.length xs) ∧ ∃ c h', S r.2 c h' ∧ K h h' := by
  obtain ⟨hu, c, h', hS, hk, hstray⟩ := sendRequestOn_missed cfg hsend hpad hok hs hne
  have hreq : sendRequestOn send l (writeInterleaved index subindex data) =
      (true, (sendRequestOn send l (interleaveControl (b :: xs))).2) := by
    rw [writeInterleaved, hdata]
    exact Prod.ext hu rfl
  obtain ⟨hpoll, c', h'', hS', hk', -⟩ :=
    pollControlOn_stray cfg hsend hpad (strayOn_of cfg hsend hS hk hstray) 49
  intro r
  have hr : r = _ := writeIsduOn_sent hreq
  rw [hr]
  refine ⟨?_, c', h'', hS', hk'⟩
  have hfound := firstControl_foldl_eq_zero_iff hlen xs haud
  rw [decide_eq_true_iff, show maxRetries = 49 + 1 from rfl, hpoll]
  exact (not_congr hfound).trans not_not

end Missed

/-! ## Writes -/

/-- Without padding the last two bytes count. -/
theorem leaves_plain {n : ℕ} (hn : n ≤ 4) {pre : List UInt8} (hpre : 2 ≤ pre.length)
    (subindex : UInt8) {data : List UInt8} (hpos : 1 ≤ data.length) :
    Leaves 0 n (pre ++ subindex :: data) ↔
      ∃ b ∈ (subindex :: data).drop (data.length - 1), startBit b = true := by
  have hlen : (pre ++ subindex :: data).length - (2 - 0) = pre.length + (data.length - 1) := by
    rw [List.length_append, List.length_cons]
    omega
  have hmany : ¬ 2 * (0 + 1) * (pre ++ subindex :: data).length < n := by
    rw [List.length_append, List.length_cons]
    omega
  rw [Leaves, hlen, List.drop_append, List.drop_of_length_le (by omega), List.nil_append,
    Nat.add_sub_cancel_left]
  exact or_iff_left fun h => hmany h.2

/-- With padding only the last byte counts, unless much is left from before. -/
theorem leaves_padded (n : ℕ) {xs : List UInt8} (hne : xs ≠ []) :
    Leaves 1 n xs ↔ startBit (xs.getLastD 0) = true ∨
      ((∀ b ∈ xs, startBit b = false) ∧ 4 * xs.length < n) := by
  have hlast : xs.drop (xs.length - (2 - 1)) = [xs.getLastD 0] := by
    rw [List.drop_length_sub_one hne, List.getLastD_eq_getLast?, List.getLast?_eq_some_getLast hne]
    rfl
  rw [Leaves, hlast]
  simp

section Plain

variable (cfg : BuildConfig) {L : Type} {send : L → UInt8 → Option DeviceResponse × L}
variable {R S : L → IsduCtx → Host → Prop} {K : Host → Host → Prop}
variable {l : L} {c : IsduCtx} {h : Host} (hsend : Transports cfg [] send R S K)
include hsend

/-- The first two bytes, without padding, in the middle of an earlier request. -/
theorem sendRequestOn_opening_plain (hR : R l c h) (hinv : IsduInv c) (hc : c.state.Collecting)
    {b : UInt8} (hb : startBit b = true) :
    let r := sendRequestOn send l [0x80, b]
    r.1 = true ∧ ∃ h' p, K h h' ∧ ErrorLeft p ∧
      StrayOn cfg R K p r.2 (isduProcess cfg h' (parser.final c [0x80, b])).1 := by
  have hproc := isduProcess_of_ne cfg h (collecting_ne hc).1
  obtain ⟨hok, h', p, hk, hs, hp⟩ := sendRequestOn_opening cfg hsend nofun hR
    (by rw [hproc]; exact hinv) hb (by rw [hproc]; exact opening_plain hc hb)
  rw [hproc] at hk hs
  exact ⟨hok, h', p, hk, hp.resolve_right fun h => h.1 rfl, hs⟩

/-- **A write in the middle of an earlier request**, without padding. -/
theorem writeIsduOn_collecting (hR : R l c h) (hinv : IsduInv c) (hc : c.state.Collecting)
    (index : UInt16) (subindex : UInt8) {data : List UInt8} (hpos : 1 ≤ data.length) :
    let r := writeIsduOn send l index subindex data
    (r.1 = true ↔ ∃ b ∈ (subindex :: data).drop (data.length - 1), startBit b = true) ∧
      ∃ h', K h h' ∧ ∃ c' h'', S r.2 c' h'' ∧
        K (isduProcess cfg h' (parser.final c
          [0x80, (writeRequestData index subindex data).headD 0])).1 h'' := by
  obtain ⟨b, pre, hdata, hb, hpre⟩ := writeRequestData_eq_cons index subindex data
  obtain ⟨hok, h', p, hk, ⟨hle, hne⟩, hs⟩ := sendRequestOn_opening_plain cfg hsend hR hinv hc hb
  obtain ⟨hret, hend⟩ := writeIsduOn_missed cfg hsend nofun hok hs (Nat.zero_le 1)
    (audible_of_ne_zero 1 hne) hdata (by simp)
  rw [hdata]
  exact ⟨hret.trans (leaves_plain hle hpre subindex hpos), h', hk, hend⟩

/-- Its request is never executed. -/
theorem sendRequestOn_collecting (hR : R l c h) (hinv : IsduInv c) (hc : c.state.Collecting)
    (index : UInt16) (subindex : UInt8) (data : List UInt8) :
    ∃ c' h', S (sendRequestOn send l (writeInterleaved index subindex data)).2 c' h' ∧
      c'.state ≠ .serviceExecute := by
  obtain ⟨b, pre, hdata, hb, -⟩ := writeRequestData_eq_cons index subindex data
  obtain ⟨hok, h', p, -, -, hs⟩ := sendRequestOn_opening_plain cfg hsend hR hinv hc hb
  obtain ⟨-, c', h'', hS, -, hstray⟩ := sendRequestOn_missed cfg hsend nofun hok hs
    (show pre ++ subindex :: data ≠ [] by simp)
  rw [writeInterleaved, hdata]
  exact ⟨c', h'', hS, hstray.ne_serviceExecute⟩

end Plain

section Padded

variable (cfg : BuildConfig) {L : Type} {send : L → UInt8 → Option DeviceResponse × L}
variable {R S : L → IsduCtx → Host → Prop} {K : Host → Host → Prop}
variable {l : L} {c : IsduCtx} {h : Host} (hsend : Transports cfg [0x00] send R S K)
include hsend

/-- The first two bytes, each with a padding byte. -/
theorem sendRequestOn_opening_padded (hR : R l c h) (hinv : IsduInv c) {b : UInt8}
    (hb : startBit b = true) :
    let q := isduProcess cfg h c
    let r := sendRequestOn send l [0x80, b]
    r.1 = true ∧ ∃ h' p, K q.1 h' ∧ LeftOver [0x00] p ∧
      StrayOn cfg R K p r.2 (isduProcess cfg h' (parser.final q.2 [0x80, 0x00, b])).1 := by
  have hinv' := isduInv_process cfg h hinv
  obtain ⟨hok, h', p, hk, hs, hp⟩ := sendRequestOn_opening cfg hsend
    startBit_padding hR hinv' hb
    (opening_padded hinv' (isduProcess_ne_serviceExecute cfg h c) hb)
  exact ⟨hok, h', p, hk, hp, hs⟩

/-- Without an earlier request they leave an error. -/
theorem sendRequestOn_opening_awaits (hR : R l c h)
    (hs : (isduProcess cfg h c).2.state.AwaitsStart) {b : UInt8} (hb : startBit b = true) :
    StrayOn cfg R K ((refusal (seqBits b)).drop 1) (sendRequestOn send l [0x80, b]).2
      (isduProcess cfg h c).1 := by
  obtain ⟨hu, c₁, h₁, hS, hk, hstray⟩ :=
    send_stray_start cfg hsend startBit_padding hR (hsend.refl _) hs (b := 0x80) (by decide)
  have hproc := hstray.isduProcess_eq cfg h₁
  have hs₁ : c₁.state.AwaitsStart := by
    rcases hstray with ⟨hem, -⟩ | ⟨-, -, hlen⟩
    · exact hem.awaitsStart
    · exact absurd (congrArg List.length hlen) (show (3 : ℕ) ≠ 4 by decide)
  obtain ⟨hu', c₂, h₂, hS', hk', hstray'⟩ := send_stray_start cfg hsend startBit_padding
    (hsend.weaken hS) (by rw [hproc]; exact hk) (by rw [hproc]; exact hs₁) hb
  have hlink : (sendRequestOn send l [0x80, b]).2 = (send (send l 0x80).2 b).2 := by
    simp only [sendRequestOn, hu, hu', if_true]
  rw [hlink]
  exact strayOn_of cfg hsend hS' hk' hstray'

/-- **A write with padding**, whatever the engine is doing. -/
theorem writeIsduOn_padded (hR : R l c h) (hinv : IsduInv c) (index : UInt16) (subindex : UInt8)
    (data : List UInt8) :
    let q := isduProcess cfg h c
    let request := writeRequestData index subindex data
    let r := writeIsduOn send l index subindex data
    ∃ h' p, K q.1 h' ∧
      StrayOn cfg R K p (sendRequestOn send l [0x80, request.headD 0]).2
        (isduProcess cfg h' (parser.final q.2 [0x80, 0x00, request.headD 0])).1 ∧
      (r.1 = true ↔ startBit (request.getLastD 0) = true ∨
        ((∀ b ∈ request.tail, startBit b = false) ∧ 4 * request.tail.length < p.length)) ∧
      ∃ c' h'', S r.2 c' h'' ∧
        K (isduProcess cfg h' (parser.final q.2 [0x80, 0x00, request.headD 0])).1 h'' := by
  obtain ⟨b, pre, hdata, hb, -⟩ := writeRequestData_eq_cons index subindex data
  obtain ⟨hok, h', p, hk, hp, hs⟩ := sendRequestOn_opening_padded cfg hsend hR hinv hb
  have hne : pre ++ subindex :: data ≠ [] := by simp
  obtain ⟨hret, hend⟩ := writeIsduOn_missed cfg hsend startBit_padding hok hs le_rfl
    (hp.audible le_rfl) hdata hne
  have hlast : (b :: (pre ++ subindex :: data)).getLastD 0 =
      (pre ++ subindex :: data).getLastD 0 := by
    simp [List.getLastD_eq_getLast?, List.getLast?_cons, List.getLast?_append]
  rw [hdata]
  refine ⟨h', p, hk, hs, ?_, hend⟩
  rw [hlast]
  exact hret.trans (leaves_padded p.length hne)

end Padded

/-! ## Reads -/

/-- The bytes of a read behind the service byte. -/
theorem generateIsduReadV11_eq (index : UInt16) (subindex : UInt8) :
    generateIsduReadV11 index subindex 0x80 =
      interleaveControl (0x80 :: addressBytes index subindex) := rfl

/-- If the subindex has no START bit, the polls find no START control byte. -/
theorem startBit_firstControl_address {pad p : List UInt8} (hlen : pad.length ≤ 1)
    (hp : LeftOver pad p) (index : UInt16) {subindex : UInt8} (hsub : startBit subindex = false)
    (polls : ℕ) :
    startBit (firstControl (pad.length + 1) (polls + 1)
      ((addressBytes index subindex).foldl (strayNext pad.length) p)) = false := by
  have hnil : ∀ {q : List UInt8}, q = [] →
      startBit (firstControl (pad.length + 1) (polls + 1) q) = false := by
    rintro q rfl
    rw [firstControl_nil]
    exact startBit_zero
  have hlo : ∀ q (lo : UInt8), startBit lo = true →
      startBit (firstControl (pad.length + 1) (polls + 1)
        (strayNext pad.length (strayNext pad.length q lo) subindex)) = false := by
    intro q lo hb
    have hlast : ∀ s, ctrlByte false true s ≠ 0 := by decide +kernel
    rw [strayNext, if_neg (by rw [hsub]; decide), strayNext, if_pos hb]
    generalize hn : pad.length = n at hlen
    interval_cases n
    · have hhead : (((refusal (seqBits lo)).drop 0).drop (2 * (0 + 1))).headD 0 ≠ 0 := hlast _
      rw [firstControl_head 1 polls hhead]
      exact startBit_ctrlByte false true _
    · rw [hn] at hnil
      exact hnil rfl
  rw [addressBytes, List.foldl_cons, List.foldl_cons, List.foldl_cons, List.foldl_nil]
  cases hb : startBit index.toUInt8 with
  | true => exact hlo _ _ hb
  | false =>
    cases hb' : startBit (index >>> 8).toUInt8 with
    | true =>
      refine hnil ?_
      rw [strayNext, if_neg (by rw [hsub]; decide), strayNext, if_neg (by rw [hb]; decide),
        strayNext, if_pos hb', List.drop_drop, List.drop_drop, List.drop_eq_nil_iff]
      show 4 ≤ _
      omega
    | false =>
      rw [strayNext, if_neg (by rw [hsub]; decide), strayNext, if_neg (by rw [hb]; decide),
        strayNext, if_neg (by rw [hb']; decide), List.drop_drop, List.drop_drop]
      rcases hp with ⟨hle, -⟩ | ⟨hne, e, n, hn, hprep, rfl⟩
      · exact hnil (List.drop_eq_nil_iff.mpr (by omega))
      · have hone : pad.length = 1 := by
          have := List.length_pos_iff.mpr hne
          omega
        obtain ⟨seq, data, hdrop⟩ := (prepared_pending hprep hn).2.2.2 5
        rw [hone, show 2 * (1 + 1) + 2 * (1 + 1) + 2 * (1 + 1) = 2 * (5 + 1) from rfl, hdrop]
        exact startBit_firstControl_segments _ seq _

section MissedReads

variable (cfg : BuildConfig) {L : Type} {send : L → UInt8 → Option DeviceResponse × L}
variable {pad : List UInt8} {R S : L → IsduCtx → Host → Prop} {K : Host → Host → Prop}
variable {l : L} {h : Host} {p : List UInt8}
variable (hsend : Transports cfg pad send R S K) (hpad : ∀ x ∈ pad, startBit x = false)
include hsend hpad

/-- A poll. -/
theorem send_stray_poll (hs : StrayOn cfg R K p l h) :
    usable (send l 0x00).1 = true ∧ odOrPayload (send l 0x00).1 = p.headD 0 ∧
      StrayOn cfg R K (p.drop (pad.length + 1)) (send l 0x00).2 h := by
  obtain ⟨hu, hod, c, h', hS, hk, hem, hpend⟩ :=
    send_stray cfg hsend hpad hs (b := 0x00) (by decide)
  exact ⟨hu, hod, strayOn_of cfg hsend hS hk (.inl ⟨hem, hpend⟩)⟩

/-- The first poll finds a byte that is left. -/
theorem pollControlOn_head (hne : p.headD 0 ≠ 0) (hs : StrayOn cfg R K p l h) (polls : ℕ) :
    pollControlOn send l (polls + 1) = (p.headD 0, (send l 0x00).2) := by
  obtain ⟨hu, hod, -⟩ := send_stray_poll cfg hsend hpad hs
  rw [pollControlOn]
  simp only [hu, hod, hne, ne_eq, not_false_eq_true, and_self, if_true]

/-- Without a pending byte the data loop sees zeros for ever. -/
theorem captureDataOn_nothing (hs : StrayOn cfg R K [] l h) (acc : List UInt8) (fuel : ℕ) :
    captureDataOn send l acc false fuel = none := by
  induction fuel generalizing l acc with
  | zero => rfl
  | succ fuel ih =>
    obtain ⟨hu, -, hs₁⟩ := send_stray_poll cfg hsend hpad hs
    obtain ⟨hu₂, hod₂, hs₂⟩ := send_stray_poll cfg hsend hpad hs₁
    simp only [List.drop_nil, List.headD_nil] at hod₂ hs₂
    simp only [captureDataOn, hu, hu₂, hod₂, Bool.not_true, Bool.false_eq_true, if_false]
    exact ih hs₂ _

variable (index : UInt16) (subindex : UInt8)
variable (hok : (sendRequestOn send l [0x80, 0x80]).1 = true)
variable (hs : StrayOn cfg R K p (sendRequestOn send l [0x80, 0x80]).2 h)
include hok hs

/-- The request of a read that is not taken for one. -/
theorem askedOn_missed :
    (sendRequestOn send l (generateIsduReadV11 index subindex 0x80)).1 = true ∧
      StrayOn cfg R K ((addressBytes index subindex).foldl (strayNext pad.length) p)
        (sendRequestOn send l (generateIsduReadV11 index subindex 0x80)).2 h := by
  obtain ⟨hu, c, h', hS, hk, hstray⟩ := sendRequestOn_missed cfg hsend hpad hok hs
    (show addressBytes index subindex ≠ [] from List.cons_ne_nil _ _)
  rw [generateIsduReadV11_eq]
  exact ⟨hu, strayOn_of cfg hsend hS hk hstray⟩

/-- **A read that is not taken for one** returns `None` if its subindex has no START bit. -/
theorem readIsduOn_missed (hlen : pad.length ≤ 1) (hp : LeftOver pad p)
    (hsub : startBit subindex = false) :
    ∃ l', (∀ fuel, readIsduOn send fuel l index subindex = some (none, l')) ∧
      ∃ c h', S l' c h' ∧ K h h' := by
  obtain ⟨hu, hasked⟩ := askedOn_missed cfg hsend hpad index subindex hok hs
  obtain ⟨hpoll, c, h', hS, hk, -⟩ := pollControlOn_stray cfg hsend hpad hasked 49
  have hbit : ∀ v : UInt8, startBit v = false → v &&& 0x80 = 0 := by decide +kernel
  have hno := hbit _ (startBit_firstControl_address hlen hp index hsub 49)
  rw [← hpoll] at hno
  refine ⟨_, fun fuel => ?_, c, h', hS, hk⟩
  simp only [readIsduOn, hu, maxRetries, hno, Bool.not_true, Bool.false_eq_true, if_false, if_true,
    ite_self]

end MissedReads

section StartReads

variable (cfg : BuildConfig) {L : Type} {send : L → UInt8 → Option DeviceResponse × L}
variable {R S : L → IsduCtx → Host → Prop} {K : Host → Host → Prop}
variable {l : L} {h : Host} {p : List UInt8} (index : UInt16) {subindex : UInt8}
variable (hok : (sendRequestOn send l [0x80, 0x80]).1 = true)
variable (hs : StrayOn cfg R K p (sendRequestOn send l [0x80, 0x80]).2 h)
variable (hsub : startBit subindex = true)
include hok hs hsub

/-- Without padding, a read that is not taken for one returns an error if its subindex has
    the START bit. -/
theorem readIsduOn_refused (hsend : Transports cfg [] send R S K) :
    ∃ l', ∀ fuel ≥ 2, readIsduOn send fuel l index subindex =
      some (some [0x80, isduErrorServiceNotAvail], l') := by
  have hpad : ∀ x ∈ ([] : List UInt8), startBit x = false := nofun
  obtain ⟨hu, hasked⟩ := askedOn_missed cfg hsend hpad index subindex hok hs
  have hleft : (addressBytes index subindex).foldl (strayNext 0) p =
      refusal (seqBits subindex) := if_pos hsub
  rw [List.length_nil, hleft] at hasked
  generalize hreq : sendRequestOn send l (generateIsduReadV11 index subindex 0x80) = request
    at hu hasked
  have hstart := ctrlByte_start_ne_zero false (seqBits subindex)
  have hpoll :=
    pollControlOn_head cfg hsend hpad (p := refusal (seqBits subindex)) hstart.1 hasked 49
  -- the three cycles of the data loop
  obtain ⟨-, -, hs₁⟩ := send_stray_poll cfg hsend hpad hasked
  set r₁ := send request.2 0x00
  obtain ⟨hu₂, hod₂, hs₂⟩ := send_stray_poll cfg hsend hpad hs₁
  set r₂ := send r₁.2 0x00 with hr₂
  obtain ⟨hu₃, hod₃, hs₃⟩ := send_stray_poll cfg hsend hpad hs₂
  set r₃ := send r₂.2 0x00 with hr₃
  obtain ⟨hu₄, hod₄, -⟩ := send_stray_poll cfg hsend hpad hs₃
  set r₄ := send r₃.2 0x00 with hr₄
  have hfirst : decide (ctrlByte true false (seqBits subindex) &&& 0x40 ≠ 0) = false := by
    rw [lastBit_eq, lastBit_ctrlByte]
  have hlast : decide (odOrPayload r₃.1 &&& 0x40 ≠ 0) = true := by
    rw [hod₃, lastBit_eq]
    exact lastBit_ctrlByte false true _
  refine ⟨r₄.2, fun fuel hfuel => ?_⟩
  obtain ⟨n, rfl⟩ := Nat.exists_eq_add_of_le' hfuel
  have hdata : captureDataOn send r₁.2 [] false (n + 2) =
      some ([0x80, isduErrorServiceNotAvail], r₄.2) := by
    simp only [captureDataOn, ← hr₂, hu₂, ← hr₃, hu₃, hlast, ← hr₄, hu₄, Bool.not_true,
      Bool.false_eq_true, if_false, if_true, hod₂, hod₄]
    rfl
  have hctrl : (refusal (seqBits subindex)).headD 0 = ctrlByte true false (seqBits subindex) := rfl
  simp only [readIsduOn, hreq, hu, maxRetries, hpoll, hctrl, hstart.1, hstart.2, hfirst, hdata,
    Bool.not_true, Bool.false_eq_true, if_false, Option.map_some]

/-- With a padding byte such a read does not return. -/
theorem readIsduOn_stuck {x : UInt8} (hx : startBit x = false)
    (hsend : Transports cfg [x] send R S K) (fuel : ℕ) :
    readIsduOn send fuel l index subindex = none := by
  have hpad : ∀ y ∈ [x], startBit y = false := fun y hy => (List.mem_singleton.mp hy) ▸ hx
  obtain ⟨hu, hasked⟩ := askedOn_missed cfg hsend hpad index subindex hok hs
  have hleft : (addressBytes index subindex).foldl (strayNext 1) p =
      (refusal (seqBits subindex)).drop 1 := if_pos hsub
  rw [List.length_singleton, hleft] at hasked
  generalize hreq : sendRequestOn send l (generateIsduReadV11 index subindex 0x80) = request
    at hu hasked
  have hpoll := pollControlOn_head cfg hsend hpad (p := (refusal (seqBits subindex)).drop 1)
    (show (0x80 : UInt8) ≠ 0 by decide) hasked 49
  obtain ⟨-, -, hs₁⟩ := send_stray_poll cfg hsend hpad hasked
  set r₁ := send request.2 0x00
  have hctrl : ((refusal (seqBits subindex)).drop 1).headD 0 = 0x80 := rfl
  have hdata : captureDataOn send r₁.2 [] false fuel = none := by
    cases fuel with
    | zero => rfl
    | succ fuel =>
      obtain ⟨hu₂, -, hs₂⟩ := send_stray_poll cfg hsend hpad hs₁
      obtain ⟨hu₃, hod₃, hs₃⟩ := send_stray_poll cfg hsend hpad hs₂
      change odOrPayload _ = (0 : UInt8) at hod₃
      simp only [captureDataOn, hu₂, hu₃, hod₃, Bool.not_true, Bool.false_eq_true, if_false]
      exact captureDataOn_nothing cfg hsend hpad hs₃ _ fuel
  simp only [readIsduOn, hreq, hu, maxRetries, hpoll, hctrl, Bool.not_true, Bool.false_eq_true,
    if_false]
  exact congrArg (Option.map _) hdata

end StartReads

end Iolinki
