import Iolinki.Dll.Invariant
import Iolinki.Isdu.Execute
import Iolinki.Master.Write

/-!
# Links that carry bytes

`read_isdu` and `write_isdu` reach the ISDU engine through cycles. In each of them the
device runs `iolink_isdu_process` and then exchanges the OD bytes of the frame with the
engine: the byte of the master and, if the frame has two, the padding byte. `Transports`
says so of a link, and what is proved here holds of every link that does.

* `sendRequestOn_decoded`: without padding, the engine collects the request.
* `pollControlOn_answered`, `pollControlOn_silent`: the polls for the first control byte.
* `captureDataOn_pending`: the data loop returns what is pending.
* `readIsduOn_answered`: what `read_isdu` returns for an answer of the engine.
-/

namespace Iolinki

open Iolinki.Lib

/-! ## The engine in one exchange -/

theorem collecting_ne {s : IsduState} (h : s.Collecting) :
    s ≠ .serviceExecute ∧ s ≠ .responseReady := by
  constructor <;> (rintro rfl; exact h)

/-- Responses are only delivered in RESPONSE_READY. -/
theorem odExchange_of_ne {c : IsduCtx} {b : UInt8}
    (h : (isduCollectByte c b).1.state ≠ .responseReady) :
    odExchange c b = ((isduCollectByte c b).1, 0) := by
  simp [odExchange, getResponseByte_of_ne h]

/-- A byte without the START bit fetches the next pending byte. -/
theorem odExchange_emits {c : IsduCtx} (hem : Emits c) {b : UInt8} (hb : startBit b = false) :
    odExchange c b = (afterGet c, (pending c).headD 0) := by
  have hquiet := collectByte_quiet hem.awaitsStart hb
  have hhead := (getResponseByte_pending hem).1
  simp only [odExchange, hquiet, afterGet, List.headD_eq_head?_getD]
  rw [← hhead]

theorem lastBit_eq (b : UInt8) : decide (b &&& 0x40 ≠ 0) = lastBit b := by
  revert b
  decide +kernel

theorem ctrlByte_start_ne_zero (last : Bool) (s : UInt8) :
    ctrlByte true last s ≠ 0 ∧ ctrlByte true last s &&& 0x80 ≠ 0 := by
  revert last s
  decide +kernel

theorem responseControl_first {c : IsduCtx} (hi : c.responseIdx = 0) :
    responseControl c = ctrlByte true (c.responseLen ≤ 1) c.segmentSeq := by
  simp [responseControl, hi]

/-- `iolink_isdu_process` leaves an engine that is not in the middle of a request
    waiting for the next one. -/
theorem awaitsStart_isduProcess (cfg : BuildConfig) (h : Host) {c : IsduCtx}
    (hc : c.state = .idle ∨ c.state = .responseReady ∨ c.state = .serviceExecute) :
    (isduProcess cfg h c).2.state.AwaitsStart := by
  rcases hc with hs | hs | hs
  · rw [isduProcess_of_ne cfg h (by rw [hs]; decide)]
    exact .inl hs
  · rw [isduProcess_of_ne cfg h (by rw [hs]; decide)]
    exact .inr hs
  · rw [isduProcess_execute cfg h hs]
    split_ifs with hr
    · exact .inl rfl
    · exact .inr (not_not.mp hr)

/-- After `iolink_isdu_process` no request waits to be executed. -/
theorem isduProcess_ne_serviceExecute (cfg : BuildConfig) (h : Host) (c : IsduCtx) :
    (isduProcess cfg h c).2.state ≠ .serviceExecute := by
  by_cases hs : c.state = .serviceExecute
  · rcases awaitsStart_isduProcess cfg h (.inr (.inr hs)) with hq | hq <;> rw [hq] <;> decide
  · rwa [isduProcess_of_ne cfg h hs]

theorem wired_parses {c c' : IsduCtx} {bytes : List UInt8} (hp : Parses c bytes c')
    (hc : c.Wired) : c'.Wired := by
  induction hp with
  | @done c c' b _ hb =>
    have hw := wired_collectByte hc b
    rwa [hb] at hw
  | @more c c₁ c' b bs _ hb _ ih =>
    have hw := wired_collectByte hc b
    rw [hb] at hw
    exact ih hw

/-! ## Links -/

/-- A cycle over the link runs `iolink_isdu_process` and exchanges the byte of the master
    and `pad` with the engine. `R` relates the link with the engine and the objects around
    it, and `S` does so after a cycle; `K` is what else may happen to these objects. -/
structure Transports {L : Type} (cfg : BuildConfig) (pad : List UInt8)
    (send : L → UInt8 → Option DeviceResponse × L) (R S : L → IsduCtx → Host → Prop)
    (K : Host → Host → Prop) : Prop where
  refl : ∀ h, K h h
  trans : ∀ {h h' h''}, K h h' → K h' h'' → K h h''
  weaken : ∀ {l c h}, S l c h → R l c h
  cycle : ∀ {l c h}, R l c h → ∀ b,
    let p := isduProcess cfg h c
    usable (send l b).1 = true ∧
      odOrPayload (send l b).1 = (odMachine.outputs p.2 (b :: pad)).headD 0 ∧
      ∃ h', K p.1 h' ∧ S (send l b).2 (odMachine.final p.2 (b :: pad)) h'

/-- The engine behind the link waits for a request; what happens to `h` is what `K`
    allows. -/
def AtRest {L : Type} (R : L → IsduCtx → Host → Prop) (K : Host → Host → Prop) (l : L)
    (h : Host) : Prop :=
  ∃ c h', R l c h' ∧ K h h' ∧ c.Wired ∧ c.state.AwaitsStart

section Padded

variable (cfg : BuildConfig) {L : Type} {send : L → UInt8 → Option DeviceResponse × L}
variable {pad : List UInt8} {R S : L → IsduCtx → Host → Prop} {K : Host → Host → Prop}
variable {l : L} {c : IsduCtx} {h : Host} (hsend : Transports cfg pad send R S K)
include hsend

/-- The request bytes are all answered, whatever the engine makes of them. -/
theorem sendRequestOn_usable (hR : R l c h) (bytes : List UInt8) :
    (sendRequestOn send l bytes).1 = true ∧
      ∃ c' h', R (sendRequestOn send l bytes).2 c' h' ∧ (c.Wired → c'.Wired) := by
  induction bytes generalizing l c h with
  | nil => exact ⟨rfl, c, h, hR, id⟩
  | cons b bytes ih =>
    obtain ⟨hu, -, h', -, hnext⟩ := hsend.cycle hR b
    obtain ⟨hu', c', h'', hR', hw'⟩ := ih (hsend.weaken hnext)
    simp only [sendRequestOn, hu, if_true]
    exact ⟨hu', c', h'', hR', fun hw => hw' (wired_odMachine (wired_isduProcess cfg h hw) _)⟩

end Padded

section Plain

variable (cfg : BuildConfig) {L : Type} {send : L → UInt8 → Option DeviceResponse × L}
variable {R S : L → IsduCtx → Host → Prop} {K : Host → Host → Prop}
variable {l : L} {c : IsduCtx} {h : Host} (hsend : Transports cfg [] send R S K)
include hsend

/-- A cycle without padding. -/
theorem Transports.single (hR : R l c h) (b : UInt8) :
    let p := isduProcess cfg h c
    usable (send l b).1 = true ∧ odOrPayload (send l b).1 = (odExchange p.2 b).2 ∧
      ∃ h', K p.1 h' ∧ S (send l b).2 (odExchange p.2 b).1 h' :=
  hsend.cycle hR b

/-! ## The request -/

/-- A cycle that only feeds the parser. -/
theorem send_collects (hR : R l c h) {b : UInt8} {c' : IsduCtx} {ret : Int}
    (hb : isduCollectByte (isduProcess cfg h c).2 b = (c', ret)) (hc' : c'.state ≠ .responseReady) :
    usable (send l b).1 = true ∧ ∃ h', K (isduProcess cfg h c).1 h' ∧ S (send l b).2 c' h' := by
  obtain ⟨hu, -, hnext⟩ := hsend.single cfg hR b
  rw [odExchange_of_ne (by rw [hb]; exact hc'), hb] at hnext
  exact ⟨hu, hnext⟩

/-- The rest of a request. -/
theorem sendRequestOn_parses {c c' : IsduCtx} {bytes : List UInt8} (hp : Parses c bytes c')
    (hc' : c'.state ≠ .responseReady) (hR : R l c h) :
    (sendRequestOn send l bytes).1 = true ∧
      ∃ h', K h h' ∧ S (sendRequestOn send l bytes).2 c' h' := by
  induction hp generalizing l h with
  | @done c _ _ hcol hb =>
    have hproc := isduProcess_of_ne cfg h (collecting_ne hcol).1
    obtain ⟨hu, h', hk, hnext⟩ := send_collects cfg hsend hR (by rw [hproc]; exact hb) hc'
    rw [hproc] at hk
    simp only [sendRequestOn, hu, if_true]
    exact ⟨trivial, h', hk, hnext⟩
  | @more c _ _ _ _ hcol hb hp ih =>
    have hproc := isduProcess_of_ne cfg h (collecting_ne hcol).1
    obtain ⟨hu, h', hk, hnext⟩ := send_collects cfg hsend hR (by rw [hproc]; exact hb)
      (collecting_ne hp.collecting).2
    rw [hproc] at hk
    obtain ⟨hu', h'', hk', hnext'⟩ := ih hc' (hsend.weaken hnext)
    simp only [sendRequestOn, hu, if_true]
    exact ⟨hu', h'', hsend.trans hk hk', hnext'⟩

/-- Bytes that do not complete the request. -/
theorem sendRequestOn_collects {c c' : IsduCtx} {bytes : List UInt8} (hcol : Collects c bytes c')
    (hc' : c'.state ≠ .responseReady) (hR : R l c h) :
    (sendRequestOn send l bytes).1 = true ∧
      ∃ h', K h h' ∧ R (sendRequestOn send l bytes).2 c' h' := by
  induction hcol generalizing l h with
  | nil => exact ⟨rfl, h, hsend.refl h, hR⟩
  | @cons c c₁ _ _ _ hstate hb hrest ih =>
    have hne : c₁.state ≠ .responseReady := by
      cases hrest with
      | nil => exact hc'
      | cons hstate' _ _ => exact (collecting_ne hstate').2
    have hproc := isduProcess_of_ne cfg h (collecting_ne hstate).1
    obtain ⟨hu, h', hk, hnext⟩ := send_collects cfg hsend hR (by rw [hproc]; exact hb) hne
    rw [hproc] at hk
    obtain ⟨hu', h'', hk', hnext'⟩ := ih hc' (hsend.weaken hnext)
    simp only [sendRequestOn, hu, if_true]
    exact ⟨hu', h'', hsend.trans hk hk', hnext'⟩

section Start

variable (hR : R l c h) (hstart : (isduProcess cfg h c).2.state.AwaitsStart)
include hR hstart

/-- The control byte that opens a request. -/
theorem send_start (last : Bool) :
    let c₀ := (isduProcess cfg h c).2.startRequest (ctrlByte true last 0)
    c₀.segmentSeq = 0 ∧ (c.Wired → c₀.Wired) ∧ usable (send l (ctrlByte true last 0)).1 = true ∧
      ∃ h', K (isduProcess cfg h c).1 h' ∧ R (send l (ctrlByte true last 0)).2 c₀ h' := by
  have hb := collectByte_start hstart (startBit_ctrlByte true last 0)
  obtain ⟨hu, h', hk, hnext⟩ := send_collects cfg hsend hR hb nofun
  refine ⟨(seqBits_ctrlByte true last 0).trans rfl, fun hw => ?_, hu, h', hk, hsend.weaken hnext⟩
  have hw' := wired_collectByte (wired_isduProcess cfg h hw) (ctrlByte true last 0)
  rwa [hb] at hw'

/-- A whole request. -/
theorem sendRequestOn_started (last : Bool) {bytes : List UInt8} {c' : IsduCtx}
    (hp : Parses ((isduProcess cfg h c).2.startRequest (ctrlByte true last 0)) bytes c')
    (hc' : c'.state ≠ .responseReady) :
    (sendRequestOn send l (ctrlByte true last 0 :: bytes)).1 = true ∧
      ∃ h', S (sendRequestOn send l (ctrlByte true last 0 :: bytes)).2 c' h' ∧
        K (isduProcess cfg h c).1 h' ∧ (c.Wired → c'.Wired) := by
  obtain ⟨-, hw, hu, h₁, hk, hnext⟩ := send_start cfg hsend hR hstart last
  obtain ⟨hu', h₂, hk', hnext'⟩ := sendRequestOn_parses cfg hsend hp hc' hnext
  simp only [sendRequestOn, hu, if_true]
  exact ⟨hu', h₂, hnext', hsend.trans hk hk', fun hwired => wired_parses hp (hw hwired)⟩

/-- **The engine collects the request.** -/
theorem sendRequestOn_decoded (req : Request) {data : List UInt8} (hdata : data = req.dataBytes) :
    (sendRequestOn send l (interleaveControl data)).1 = true ∧
      ∃ c' h', S (sendRequestOn send l (interleaveControl data)).2 c' h' ∧
        K (isduProcess cfg h c).1 h' ∧ c'.Decoded req ∧ (c.Wired → c'.Wired) := by
  have hmark : (markLast data).map Prod.snd = req.dataBytes := by rw [map_snd_markLast, hdata]
  rw [interleaveControl_eq]
  match markLast data, hmark with
  | [], hnil => exact absurd hnil.symm req.dataBytes_ne_nil
  | (last, b) :: segs, hsegs =>
    obtain ⟨hseq, -⟩ := send_start cfg hsend hR hstart last
    obtain ⟨c', hp, hd⟩ := parses_request req
      (c := (isduProcess cfg h c).2.startRequest (ctrlByte true last 0)) rfl hsegs
    rw [hseq] at hp
    obtain ⟨hu, h', hnext, hk, hw⟩ :=
      sendRequestOn_started cfg hsend hR hstart last hp (by rw [hd.state]; decide)
    exact ⟨hu, c', h', hnext, hk, hd, hw⟩

end Start

/-! ## The response -/

/-- A cycle that fetches a byte of a response. -/
theorem send_fetch (hR : R l c h) (hem : Emits (isduProcess cfg h c).2) :
    let p := isduProcess cfg h c
    usable (send l 0x00).1 = true ∧ odOrPayload (send l 0x00).1 = (pending p.2).headD 0 ∧
      ∃ h', K p.1 h' ∧ S (send l 0x00).2 (afterGet p.2) h' := by
  intro p
  obtain ⟨hu, hod, hnext⟩ := hsend.single cfg hR 0x00
  rw [odExchange_emits hem (by decide)] at hod hnext
  exact ⟨hu, hod, hnext⟩

/-- The next byte of a response that is being sent. -/
theorem send_fetch_pending (hR : R l c h) (hem : Emits c) :
    usable (send l 0x00).1 = true ∧ odOrPayload (send l 0x00).1 = (pending c).headD 0 ∧
      ∃ h', K h h' ∧ S (send l 0x00).2 (afterGet c) h' := by
  have hproc := (awaitsStart_step cfg h hem.awaitsStart).1
  have hfetch := send_fetch cfg hsend hR (by rw [hproc]; exact hem)
  rw [hproc] at hfetch
  exact hfetch

/-- **The data loop returns what is pending.** The control byte before `b` has
    been fetched. -/
theorem captureDataOn_pending (hR : R l c h) (hw : c.Wired) (hem : Emits c) {b s : UInt8}
    {bs : List UInt8} (hpend : pending c = b :: segments false s (markLast bs)) (acc : List UInt8) :
    ∃ l', AtRest S K l' h ∧ ∀ fuel ≥ bs.length + 1,
      captureDataOn send l acc bs.isEmpty fuel = some (acc ++ b :: bs, l') := by
  induction bs generalizing l c h b s acc with
  | nil =>
    obtain ⟨hu, hod, h', hk, hnext⟩ := send_fetch_pending cfg hsend hR hem
    rw [hpend] at hod
    obtain ⟨-, -, hem'⟩ := getResponseByte_pending hem
    refine ⟨(send l 0x00).2, ⟨_, h', hnext, hk, wired_getResponseByte hw, hem'.awaitsStart⟩,
      fun fuel hfuel => ?_⟩
    obtain ⟨n, rfl⟩ := Nat.exists_eq_add_of_le' hfuel
    simp [captureDataOn, hu, hod]
  | cons b' bs ih =>
    obtain ⟨hu, hod, h₁, hk₁, hnext⟩ := send_fetch_pending cfg hsend hR hem
    obtain ⟨-, hp, hem'⟩ := getResponseByte_pending hem
    change pending (afterGet c) = _ at hp
    rw [hpend, markLast, segments_cons, List.tail_cons] at hp
    rw [hpend, List.headD_cons] at hod
    set r := send l 0x00 with hr₁
    obtain ⟨hu₂, hod₂, h₂, hk₂, hnext₂⟩ := send_fetch_pending cfg hsend (hsend.weaken hnext) hem'
    obtain ⟨-, hp₂, hem₂⟩ := getResponseByte_pending hem'
    change pending (afterGet (afterGet c)) = (pending (afterGet c)).tail at hp₂
    change odOrPayload (send r.2 0x00).1 = (pending (afterGet c)).headD 0 at hod₂
    set r₂ := send r.2 0x00 with hr₂
    rw [hp, List.tail_cons] at hp₂
    rw [hp, List.headD_cons] at hod₂
    obtain ⟨l', ⟨c', h', hR', hk', hrest⟩, hl'⟩ := ih (hsend.weaken hnext₂)
      (wired_getResponseByte (wired_getResponseByte hw)) hem₂ hp₂ (acc ++ [b])
    have hkept : K h h' := hsend.trans hk₁ (hsend.trans hk₂ hk')
    refine ⟨l', ⟨c', h', hR', hkept, hrest⟩, fun fuel hfuel => ?_⟩
    obtain ⟨n, rfl⟩ := Nat.exists_eq_add_of_le' (show 1 ≤ fuel by omega)
    have hlast : decide (ctrlByte false bs.isEmpty s &&& 0x40 ≠ 0) = bs.isEmpty := by
      rw [lastBit_eq, lastBit_ctrlByte]
    have hrest := hl' n (by simp at hfuel; omega)
    rw [List.append_assoc] at hrest
    simp only [captureDataOn, ← hr₁, hu, ← hr₂, hu₂, hod, hod₂, hlast, Bool.not_true,
      Bool.false_eq_true, if_false, List.isEmpty_cons]
    exact hrest

/-- The first poll after a request executes it and fetches the first control byte of the
    response. -/
theorem pollControlOn_answered (hR : R l c h) {c' : IsduCtx} (hc' : (isduProcess cfg h c).2 = c')
    {n : ℕ} (hprep : Prepared c' n) (hn : n ≤ 255) (retries : ℕ) :
    pollControlOn send l (retries + 1) = (responseControl c', (send l 0x00).2) ∧
      Emits (afterGet c') ∧ pending (afterGet c') = pendingData c' ∧
      ∃ h', K (isduProcess cfg h c).1 h' ∧ S (send l 0x00).2 (afterGet c') h' := by
  obtain ⟨hs, hi, hctrl, rfl⟩ := hprep
  have hem : Emits c' := .inr ⟨hs, hn, by omega⟩
  have hpend : pending c' = responseControl c' :: pendingData c' := by simp [pending, hs, hctrl]
  obtain ⟨hu, hod, hnext⟩ := send_fetch cfg hsend hR (by rw [hc']; exact hem)
  obtain ⟨-, htail, hem'⟩ := getResponseByte_pending hem
  rw [hc', hpend, List.headD_cons] at hod
  rw [hc'] at hnext
  rw [hpend, List.tail_cons] at htail
  have hne : responseControl c' ≠ 0 := by
    rw [responseControl_first hi]
    exact (ctrlByte_start_ne_zero _ _).1
  refine ⟨?_, hem', htail, hnext⟩
  simp [pollControlOn, hu, hod, hne]

/-- No poll finds a control byte if the engine does not answer. -/
theorem pollControlOn_silent (hR : R l c h) (hidle : (isduProcess cfg h c).2.state = .idle)
    (retries : ℕ) :
    (pollControlOn send l (retries + 1)).1 = 0 ∧
      ∃ h', K (isduProcess cfg h c).1 h' ∧
        S (pollControlOn send l (retries + 1)).2 (isduProcess cfg h c).2 h' := by
  have hget : afterGet (isduProcess cfg h c).2 = (isduProcess cfg h c).2 := by
    rw [afterGet, getResponseByte_of_ne (by rw [hidle]; decide)]
  have hpend : pending (isduProcess cfg h c).2 = [] := by simp [pending, hidle]
  induction retries generalizing l c h with
  | zero =>
    obtain ⟨-, hod, hnext⟩ := send_fetch cfg hsend hR (.inl hidle)
    rw [hpend, List.headD_nil] at hod
    rw [hget] at hnext
    simp only [pollControlOn, hod, ne_eq, not_true_eq_false, and_false, if_false, true_and]
    exact hnext
  | succ n ih =>
    obtain ⟨-, hod, h', hk, hnext⟩ := send_fetch cfg hsend hR (.inl hidle)
    rw [hpend, List.headD_nil] at hod
    rw [hget] at hnext
    have hproc := (awaitsStart_step cfg h' (.inl hidle)).1
    obtain ⟨hzero, h'', hk', hlast⟩ := ih (hsend.weaken hnext) (by rw [hproc]; exact hidle)
      (by rw [hproc]; exact hget) (by rw [hproc]; exact hpend)
    rw [hproc] at hk' hlast
    rw [pollControlOn]
    simp only [hod, ne_eq, not_true_eq_false, and_false, if_false]
    exact ⟨hzero, h'', hsend.trans hk hk', hlast⟩

/-! ## One access -/

/-- What `read_isdu` returns for an answer of `n` bytes: the bytes, or one zero byte if there
    are none. -/
theorem readIsduOn_answered {index : UInt16} {subindex : UInt8} {asked : L}
    (hreq : sendRequestOn send l (generateIsduReadV11 index subindex 0x80) = (true, asked))
    (hR : R asked c h) (hw : c.Wired) {c' : IsduCtx} (hc' : (isduProcess cfg h c).2 = c') {n : ℕ}
    (hprep : Prepared c' n) (hn : n ≤ 255) :
    ∃ l', AtRest S K l' (isduProcess cfg h c).1 ∧ ∀ fuel ≥ 256,
      readIsduOn send fuel l index subindex =
        some (some (if n = 0 then [0x00] else slice c'.responseBuf 0 n), l') := by
  obtain ⟨hpoll, hem, hpend, h₁, hk₁, hnext⟩ :=
    pollControlOn_answered cfg hsend hR hc' hprep hn 49
  have hw' : (afterGet c').Wired := wired_getResponseByte (hc' ▸ wired_isduProcess cfg h hw)
  have hstart := responseControl_first hprep.responseIdx
  rw [hprep.responseLen] at hstart
  obtain ⟨hne, hbit⟩ := ctrlByte_start_ne_zero (n ≤ 1) c'.segmentSeq
  rw [← hstart] at hne hbit
  have hread : ∀ fuel, readIsduOn send fuel l index subindex =
      (captureDataOn send (send asked 0x00).2 [] (decide (n ≤ 1)) fuel).map
        fun r => (some r.1, r.2) := by
    intro fuel
    have hlast : decide (responseControl c' &&& 0x40 ≠ 0) = decide (n ≤ 1) := by
      rw [lastBit_eq, hstart, lastBit_ctrlByte]
    simp only [readIsduOn, hreq, maxRetries, hpoll, hne, hbit, hlast, Bool.not_true,
      Bool.false_eq_true, if_false]
  by_cases hz : n = 0
  · -- The engine has sent its only byte; the next one is an idle byte.
    rw [pendingData_of_le (by rw [hprep.responseLen, hz]; omega)] at hpend
    obtain ⟨hu, hod, h₂, hk₂, hnext₂⟩ := send_fetch_pending cfg hsend (hsend.weaken hnext) hem
    obtain ⟨-, -, hem'⟩ := getResponseByte_pending hem
    rw [hpend, List.headD_nil] at hod
    refine ⟨(send (send asked 0x00).2 0x00).2, ⟨_, h₂, hnext₂, hsend.trans hk₁ hk₂,
      wired_getResponseByte hw', hem'.awaitsStart⟩, fun fuel hfuel => ?_⟩
    obtain ⟨k, rfl⟩ := Nat.exists_eq_add_of_le' (show 1 ≤ fuel by omega)
    simp [hread, captureDataOn, hu, hod, hz]
  · have hlen := hprep.responseLen
    have hidx := hprep.responseIdx
    rw [pendingData_of_lt (by omega), hidx, hlen, Nat.zero_add] at hpend
    obtain ⟨l', ⟨c₂, h₂, hR₂, hk₂, hrest⟩, hl'⟩ :=
      captureDataOn_pending cfg hsend (hsend.weaken hnext) hw' hem hpend []
    refine ⟨l', ⟨c₂, h₂, hR₂, hsend.trans hk₁ hk₂, hrest⟩, fun fuel hfuel => ?_⟩
    have hdata := hl' fuel (by rw [length_slice]; omega)
    have hempty : (slice c'.responseBuf 1 (n - 1)).isEmpty = decide (n ≤ 1) := by
      rw [Bool.eq_iff_iff, List.isEmpty_iff_length_eq_zero, length_slice, decide_eq_true_eq]
      omega
    obtain ⟨k, rfl⟩ := Nat.exists_eq_add_of_le' (show 1 ≤ n by omega)
    rw [hread, ← hempty, hdata, if_neg hz, slice_succ_left, Nat.add_sub_cancel]
    rfl

/-- `read_isdu` returns `None` if the engine does not answer. -/
theorem readIsduOn_unanswered {index : UInt16} {subindex : UInt8} {asked : L}
    (hreq : sendRequestOn send l (generateIsduReadV11 index subindex 0x80) = (true, asked))
    (hR : R asked c h) (hw : c.Wired) (hidle : (isduProcess cfg h c).2.state = .idle) :
    ∃ l', AtRest S K l' (isduProcess cfg h c).1 ∧ ∀ fuel,
      readIsduOn send fuel l index subindex = some (none, l') := by
  obtain ⟨hzero, h', hk, hnext⟩ := pollControlOn_silent cfg hsend hR hidle 49
  refine ⟨_, ⟨_, h', hnext, hk, wired_isduProcess cfg h hw, .inl hidle⟩, fun fuel => ?_⟩
  simp only [readIsduOn, hreq, maxRetries, hzero, Bool.not_true, Bool.false_eq_true, if_false,
    if_true]

omit hsend in
/-- `write_isdu` looks at the polls. -/
theorem writeIsduOn_sent {index : UInt16} {subindex : UInt8} {data : List UInt8} {asked : L}
    (hreq : sendRequestOn send l (writeInterleaved index subindex data) = (true, asked)) :
    writeIsduOn send l index subindex data =
      (decide ((pollControlOn send asked maxRetries).1 ≠ 0),
        (pollControlOn send asked maxRetries).2) := by
  simp [writeIsduOn, hreq]

/-- `write_isdu` returns `True` for every answer. -/
theorem writeIsduOn_answered {index : UInt16} {subindex : UInt8} {data : List UInt8} {asked : L}
    (hreq : sendRequestOn send l (writeInterleaved index subindex data) = (true, asked))
    (hR : R asked c h) (hw : c.Wired) {n : ℕ} (hprep : Prepared (isduProcess cfg h c).2 n)
    (hn : n ≤ 255) :
    ∃ l', AtRest S K l' (isduProcess cfg h c).1 ∧
      writeIsduOn send l index subindex data = (true, l') := by
  obtain ⟨hpoll, hem, -, h', hk, hnext⟩ := pollControlOn_answered cfg hsend hR rfl hprep hn 49
  have hne : responseControl (isduProcess cfg h c).2 ≠ 0 := by
    rw [responseControl_first hprep.responseIdx]
    exact (ctrlByte_start_ne_zero _ _).1
  refine ⟨_, ⟨_, h', hnext, hk, wired_getResponseByte (wired_isduProcess cfg h hw),
    hem.awaitsStart⟩, ?_⟩
  rw [writeIsduOn_sent hreq, maxRetries, hpoll, decide_eq_true hne]

/-- `write_isdu` returns `False` if the engine does not answer. -/
theorem writeIsduOn_unanswered {index : UInt16} {subindex : UInt8} {data : List UInt8} {asked : L}
    (hreq : sendRequestOn send l (writeInterleaved index subindex data) = (true, asked))
    (hR : R asked c h) (hw : c.Wired) (hidle : (isduProcess cfg h c).2.state = .idle) :
    ∃ l', AtRest S K l' (isduProcess cfg h c).1 ∧
      writeIsduOn send l index subindex data = (false, l') := by
  obtain ⟨hzero, h', hk, hnext⟩ := pollControlOn_silent cfg hsend hR hidle 49
  refine ⟨_, ⟨_, h', hnext, hk, wired_isduProcess cfg h hw, .inl hidle⟩, ?_⟩
  rw [writeIsduOn_sent hreq, maxRetries, hzero]
  rfl

end Plain

end Iolinki
