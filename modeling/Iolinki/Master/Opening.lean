import Iolinki.Isdu.Invariant
import Iolinki.Isdu.Server
import Iolinki.Master.Stray

/-!
# The first two bytes of a request

A request starts with the control byte 0x80 and its service byte, and both have the START
bit. An engine that is in the middle of an earlier request takes the first one for the rest
of that request, or refuses it as a collision. With a padding byte behind each byte every
engine does so, or refuses the padding.

Whatever the engine makes of the two bytes, the only request that is executed is the one
that they complete for the parser alone, and afterwards the engine has an error to deliver,
or the answer to that request.

* `opening_plain`, `opening_padded`: the engine.
* `sendRequestOn_opening`: the link.
-/

namespace Iolinki

open Iolinki.Lib

/-! ## Bytes for an earlier request -/

/-- The first control byte of a request is taken for a data byte. -/
theorem collectByte_taken {c : IsduCtx} (hc : c.state.Collecting) (hs : c.state ≠ .segmentCollect)
    {b : UInt8} (hb : c.state = .headerInitial → (b >>> 4) &&& 0x0F = 0x08) :
    let d := (isduCollectByte c b).1
    d.segmentSeq = c.segmentSeq ∧ (d.state = .segmentCollect ∨
      d.state = .serviceExecute ∧ (d.header.type = .write → 1 ≤ d.bufferIdx)) := by
  cases hstate : c.state with
  | headerInitial =>
    rw [collectByte_headerInitial b hstate, isduHeaderInitial, if_pos (hb hstate)]
    exact ⟨rfl, .inl rfl⟩
  | headerExtLen =>
    rw [collectByte_headerExtLen b hstate]
    exact ⟨rfl, .inl rfl⟩
  | headerIndexHigh =>
    rw [collectByte_headerIndexHigh b hstate]
    exact ⟨rfl, .inl rfl⟩
  | headerIndexLow =>
    rw [collectByte_headerIndexLow b hstate]
    exact ⟨rfl, .inl rfl⟩
  | headerSubindex =>
    cases ht : c.header.type with
    | read =>
      rw [collectByte_headerSubindex_read b hstate ht]
      exact ⟨rfl, .inr ⟨rfl, fun hw => absurd (hw.symm.trans ht) (by decide)⟩⟩
    | write =>
      rw [collectByte_headerSubindex_write b hstate ht]
      exact ⟨rfl, .inl rfl⟩
  | dataCollect =>
    by_cases hlen : c.header.length.toNat ≤ c.bufferIdx + 1
    · rw [collectByte_dataCollect_last b hstate hlen]
      exact ⟨rfl, .inr ⟨rfl, fun _ => Nat.le_add_left 1 c.bufferIdx⟩⟩
    · rw [collectByte_dataCollect_more b hstate (by omega)]
      exact ⟨rfl, .inl rfl⟩
  | segmentCollect => exact absurd hstate hs
  | idle | serviceExecute | responseReady | busy =>
    rw [hstate] at hc
    exact absurd hc (by decide)

/-- The engine has at most the four bytes of an error to deliver. -/
def ErrorLeft (p : List UInt8) : Prop := p.length ≤ 4 ∧ ∀ b ∈ p, b ≠ 0

theorem errorLeft_refusal (seq : UInt8) (n : ℕ) : ErrorLeft ((refusal seq).drop n) := by
  refine ⟨?_, fun b hb => refusal_ne_zero seq b (List.mem_of_mem_drop hb)⟩
  rw [List.length_drop]
  exact Nat.sub_le 4 n

/-- A byte that ends in an error. -/
theorem exchange_error {c c' : IsduCtx} {b code : UInt8} (hcode : code ≠ 0)
    (h : (isduCollectByte c b).1 =
      responseReady { putError c' code with isResponseControlSent := false }) :
    Emits (odExchange c b).1 ∧ ErrorLeft (pending (odExchange c b).1) := by
  obtain ⟨-, hem, hpend⟩ := error_fetched c' code h
  have hlast : ∀ s, ctrlByte false true s ≠ 0 := by decide +kernel
  have hstep : (odExchange c b).1 = afterGet (isduCollectByte c b).1 := rfl
  rw [hstep, hpend]
  refine ⟨hem, show 3 ≤ 4 by omega, fun x hx => ?_⟩
  simp only [List.mem_cons, List.not_mem_nil, or_false] at hx
  rcases hx with rfl | rfl | rfl
  · decide
  · exact hlast _
  · exact hcode

/-- A START bit where a control byte is due. -/
theorem exchange_collision {c : IsduCtx} (hs : c.state = .segmentCollect) {b : UInt8}
    (hb : startBit b = true) :
    Emits (odExchange c b).1 ∧ ErrorLeft (pending (odExchange c b).1) :=
  have hcol : (isduCollectByte c b).1 = responseReady
      { putError c isduErrorBusy with isResponseControlSent := false } := by
    rw [collectByte_segmentCollect_start hs hb]
    rfl
  exchange_error (by decide) hcol

/-- A padding byte where a control byte is due: a segmentation error, unless the sequence
    number is 63. -/
theorem exchange_padding {c : IsduCtx} (hinv : IsduInv c) (hs : c.state = .segmentCollect) :
    (Emits (odExchange c 0x00).1 ∧ ErrorLeft (pending (odExchange c 0x00).1) ∧
        (isduCollectByte c 0x00).1.state = .responseReady) ∨
      (odExchange c 0x00 = ((isduCollectByte c 0x00).1, 0) ∧ nextSeq c.segmentSeq = 0 ∧
        (isduCollectByte c 0x00).1.state ∈ segmentStates ∧
        (isduCollectByte c 0x00).1.segmentSeq = 0) := by
  have hcol := collectByte_segmentCollect hs (show startBit 0x00 = false by decide)
  have hzero : seqBits 0x00 = 0 := by decide
  unfold isduSegmentControl at hcol
  rw [hzero] at hcol
  by_cases hseq : (0 : UInt8) ≠ nextSeq c.segmentSeq
  · rw [if_pos hseq] at hcol
    have herror : (isduCollectByte c 0x00).1 = responseReady
        { putError { c with segmentSeq := 0 } isduErrorSegmentation with
          isResponseControlSent := false } := by
      rw [hcol]
      rfl
    obtain ⟨hem, hleft⟩ := exchange_error (by decide) herror
    exact .inl ⟨hem, hleft, by rw [hcol]; rfl⟩
  · rw [if_neg hseq] at hcol
    have hnext : (isduCollectByte c 0x00).1.state ∈ segmentStates := by
      rw [hcol]
      exact hinv.nextState hs
    have hne : (isduCollectByte c 0x00).1.state ≠ .responseReady := by
      rintro heq
      rw [heq] at hnext
      exact absurd hnext (by decide)
    exact .inr ⟨odExchange_of_ne hne, (not_not.mp hseq).symm, hnext, by rw [hcol]⟩

/-! ## The engine -/

/-- The first two bytes of a request have the START bit, and the first one reads as the
    service byte of a read. -/
theorem startBit_first : startBit 0x80 = true ∧ ((0x80 : UInt8) >>> 4) &&& 0x0F = 0x08 := by decide

theorem startBit_zero : startBit 0x00 = false := by decide

theorem startBit_padding : ∀ x ∈ [(0x00 : UInt8)], startBit x = false := fun _ hx =>
  (List.mem_singleton.mp hx) ▸ startBit_zero

theorem parser_final_cons (c : IsduCtx) (b : UInt8) (bytes : List UInt8) :
    parser.final c (b :: bytes) = parser.final (isduCollectByte c b).1 bytes := rfl

theorem odMachine_pair (c : IsduCtx) (b b' : UInt8) :
    odMachine.final c [b, b'] = (odExchange (odExchange c b).1 b').1 := rfl

/-- A START bit leaves a waiting engine without a request to execute. -/
theorem parser_start_ne {c : IsduCtx} (hs : c.state.AwaitsStart) {b : UInt8}
    (hb : startBit b = true) : (parser.final c [b]).state ≠ .serviceExecute := by
  rw [parser_final_cons, collectByte_start hs hb]
  exact IsduState.noConfusion

/-- With a padding byte, two bytes leave it without one as well. -/
theorem parser_padded_ne {c : IsduCtx} (hs : c.state.AwaitsStart) {b : UInt8}
    (hb : startBit b = true) : (parser.final c [0x80, 0x00, b]).state ≠ .serviceExecute := by
  refine parser_start_ne (c := parser.final c [0x80, 0x00]) (.inr ?_) hb
  rw [parser_final_cons, collectByte_start hs startBit_first.1, parser_final_cons,
    collectByte_headerInitial _ rfl, headerInitial_refused _ (by decide)]
  rfl

/-- What the engine makes of the first two bytes of a request, 0x80 and `b`, each with the
    padding behind it. Only in two of the cases an earlier request is executed; it is the one
    that the two bytes complete for the parser alone. -/
inductive Opening (pad : List UInt8) (b : UInt8) (c : IsduCtx) : Prop
  /-- the first byte leads to an error, which `b` breaks off -/
  | refused : (odMachine.final c (0x80 :: pad)).state.AwaitsStart →
      (parser.final c (0x80 :: (pad ++ [b]))).state ≠ .serviceExecute → Opening pad b c
  /-- the first byte completes an earlier request, and `b` breaks off its answer -/
  | completed : (odMachine.final c (0x80 :: pad)).state = .serviceExecute →
      parser.final c (0x80 :: (pad ++ [b])) = odMachine.final c (0x80 :: pad) → Opening pad b c
  /-- `b` leads to an error -/
  | error : (odMachine.final c (0x80 :: pad)).state ≠ .serviceExecute →
      Emits (odMachine.final (odMachine.final c (0x80 :: pad)) (b :: pad)) →
      ErrorLeft (pending (odMachine.final (odMachine.final c (0x80 :: pad)) (b :: pad))) →
      (parser.final c (0x80 :: (pad ++ [b]))).state ≠ .serviceExecute → Opening pad b c
  /-- `b` completes an earlier request -/
  | late : pad ≠ [] → (odMachine.final c (0x80 :: pad)).state ≠ .serviceExecute →
      odMachine.final (odMachine.final c (0x80 :: pad)) (b :: pad) =
        parser.final c (0x80 :: (pad ++ [b])) →
      (parser.final c (0x80 :: (pad ++ [b]))).state = .serviceExecute → Opening pad b c

/-- Without padding, in the middle of a request. -/
theorem opening_plain {c : IsduCtx} (hc : c.state.Collecting) {b : UInt8}
    (hb : startBit b = true) : Opening [] b c := by
  obtain ⟨hstart, hread⟩ := startBit_first
  by_cases hseg : c.state = .segmentCollect
  · obtain ⟨hem, -⟩ := exchange_collision hseg hstart
    refine .refused hem.awaitsStart ?_
    rw [List.nil_append, parser_final_cons, collectByte_segmentCollect_start hseg hstart]
    exact parser_start_ne (.inr rfl) hb
  · obtain ⟨-, hs | ⟨hs, -⟩⟩ := collectByte_taken hc hseg fun _ => hread
    all_goals
      have hquiet := odExchange_of_ne (c := c) (b := 0x80) (by rw [hs]; decide)
      have hfinal : odMachine.final c [0x80] = (isduCollectByte c 0x80).1 :=
        congrArg Prod.fst hquiet
    · obtain ⟨hem, hleft⟩ := exchange_collision hs hb
      refine .error (by rw [hfinal, hs]; decide) (by rw [hfinal]; exact hem)
        (by rw [hfinal]; exact hleft) ?_
      rw [List.nil_append, parser_final_cons, parser_final_cons,
        collectByte_segmentCollect_start hs hb]
      exact IsduState.noConfusion
    · refine .completed (by rw [hfinal, hs]) ?_
      rw [hfinal, List.nil_append, parser_final_cons]
      exact parser_serviceExecute hs [b]

/-- A data byte and a padding byte. -/
theorem exchange_taken {c : IsduCtx} (hinv : IsduInv c) (hc : c.state.Collecting)
    (hseg : c.state ≠ .segmentCollect) {b : UInt8}
    (hb : c.state = .headerInitial → (b >>> 4) &&& 0x0F = 0x08) :
    (odMachine.final c [b, 0x00] = (isduCollectByte c b).1 ∧
        (isduCollectByte c b).1.state = .serviceExecute) ∨
      (Emits (odMachine.final c [b, 0x00]) ∧ ErrorLeft (pending (odMachine.final c [b, 0x00])) ∧
        (isduCollectByte c b).1.state = .segmentCollect ∧
        (parser.final c [b, 0x00]).state = .responseReady) ∨
      (odMachine.final c [b, 0x00] = parser.final c [b, 0x00] ∧ nextSeq c.segmentSeq = 0 ∧
        (parser.final c [b, 0x00]).state ∈ segmentStates ∧
        (parser.final c [b, 0x00]).segmentSeq = 0) := by
  obtain ⟨hseq, hs | ⟨hs, -⟩⟩ := collectByte_taken hc hseg hb
  all_goals
    have hquiet := odExchange_of_ne (c := c) (b := b) (by rw [hs]; decide)
    have hfinal : odMachine.final c [b, 0x00] = (odExchange (isduCollectByte c b).1 0x00).1 := by
      rw [odMachine_pair, hquiet]
    have hparser : parser.final c [b, 0x00] =
      (isduCollectByte (isduCollectByte c b).1 0x00).1 := rfl
  · rw [hfinal, hparser, ← hseq]
    rcases exchange_padding (isduInv_collectByte hinv b) hs with
      ⟨hem, hleft, hstate⟩ | ⟨hpad, hsixty, hstate, hzero⟩
    · exact .inr (.inl ⟨hem, hleft, hs, hstate⟩)
    · rw [hpad]
      exact .inr (.inr ⟨rfl, hsixty, hstate, hzero⟩)
  · rw [hfinal, hparser]
    have hstay : (isduCollectByte (isduCollectByte c b).1 0x00).1 = (isduCollectByte c b).1 :=
      parser_serviceExecute hs [0x00]
    have hpad := odExchange_of_ne (c := (isduCollectByte c b).1) (b := 0x00)
      (by rw [hstay, hs]; decide)
    rw [hpad]
    exact .inl ⟨hstay, hs⟩

theorem collecting_of_segmentStates {s : IsduState} (h : s ∈ segmentStates) :
    s.Collecting ∧ s ≠ .segmentCollect ∧ s ≠ .headerInitial := by
  simp only [segmentStates, List.mem_cons, List.not_mem_nil, or_false] at h
  rcases h with rfl | rfl | rfl | rfl | rfl <;>
    exact ⟨trivial, IsduState.noConfusion, IsduState.noConfusion⟩

/-- With a padding byte, in every state. -/
theorem opening_padded {c : IsduCtx} (hinv : IsduInv c) (hne : c.state ≠ .serviceExecute)
    {b : UInt8} (hb : startBit b = true) : Opening [0x00] b c := by
  obtain ⟨hstart, hread⟩ := startBit_first
  have hparser : parser.final c (0x80 :: ([0x00] ++ [b])) =
      parser.final (parser.final c [0x80, 0x00]) [b] := rfl
  by_cases hc : c.state.Collecting
  · by_cases hseg : c.state = .segmentCollect
    · -- the first byte is a collision
      obtain ⟨hem, -⟩ := exchange_collision hseg hstart
      refine .refused (emits_padding startBit_padding hem).1.awaitsStart ?_
      rw [hparser]
      refine parser_start_ne ?_ hb
      rw [parser_final_cons, collectByte_segmentCollect_start hseg hstart]
      exact .inr rfl
    rcases exchange_taken hinv hc hseg fun _ => hread with
      ⟨hfinal, hs⟩ | ⟨hem, -, -, hstate⟩ | ⟨hfinal, -, hstate, hzero⟩
    · refine .completed (by rw [hfinal, hs]) ?_
      rw [hfinal]
      exact parser_serviceExecute hs [0x00, b]
    · refine .refused hem.awaitsStart ?_
      rw [hparser]
      exact parser_start_ne (.inr hstate) hb
    · -- the padding byte has been taken for the next control byte
      have hinv' : IsduInv (parser.final c [0x80, 0x00]) :=
        isduInv_collectByte (isduInv_collectByte hinv 0x80) 0x00
      obtain ⟨hc', hseg', hinit⟩ := collecting_of_segmentStates hstate
      have hwait : (odMachine.final c [0x80, 0x00]).state ≠ .serviceExecute := by
        rw [hfinal]
        exact (collecting_ne hc').1
      rcases exchange_taken hinv' hc' hseg' (b := b) fun h => absurd h hinit with
        ⟨hfinal', hs⟩ | ⟨hem, hleft, hs, -⟩ | ⟨-, hsixty, -⟩
      · refine .late (List.cons_ne_nil _ _) hwait ?_ hs
        rw [hfinal, hfinal']
        rfl
      · refine .error hwait (by rw [hfinal]; exact hem) (by rw [hfinal]; exact hleft) ?_
        rw [hparser]
        exact fun h => absurd (hs.symm.trans h) (by decide)
      · rw [hzero] at hsixty
        exact absurd hsixty (by decide)
  · have hs : c.state.AwaitsStart := by
      rcases hinv.free hc with hs | hs | hs
      · exact .inl hs
      · exact .inr hs
      · exact absurd hs hne
    obtain ⟨hstep, hstray⟩ := stray_start hs hstart
    obtain ⟨-, hem, -⟩ := stray_quiet hstray (b := 0x00) (by decide)
    refine .refused ?_ ?_
    · rw [odMachine_pair, hstep]
      exact hem.awaitsStart
    · exact parser_padded_ne hs hb

/-! ## The link -/

theorem isduInv_parsed {c : IsduCtx} (h : IsduInv c) (bytes : List UInt8) :
    IsduInv (parser.final c bytes) :=
  parser.final_invariant (P := IsduInv) (fun _ b hc => isduInv_collectByte hc b) h bytes

/-- A write is not complete before it has a byte. -/
def IsduCtx.Filled (c : IsduCtx) : Prop :=
  c.state = .serviceExecute → c.header.type = .write → 1 ≤ c.bufferIdx

theorem filled_of_ne {c : IsduCtx} (h : c.state ≠ .serviceExecute) : c.Filled := (absurd · h)

theorem filled_collectByte {c : IsduCtx} (hinv : IsduInv c) (h : c.Filled) (b : UInt8) :
    (isduCollectByte c b).1.Filled := by
  by_cases hc : c.state.Collecting
  · by_cases hinit : c.state = .headerInitial
    · refine filled_of_ne ?_
      rw [collectByte_headerInitial b hinit, isduHeaderInitial]
      dsimp only
      split_ifs <;> exact IsduState.noConfusion
    by_cases hseg : c.state = .segmentCollect
    · refine filled_of_ne ?_
      cases hb : startBit b with
      | true =>
        rw [collectByte_segmentCollect_start hseg hb]
        exact IsduState.noConfusion
      | false =>
        rw [collectByte_segmentCollect hseg hb, isduSegmentControl]
        split_ifs
        · exact IsduState.noConfusion
        · exact (collecting_ne (collecting_of_segmentStates (hinv.nextState hseg)).1).1
    · rcases collectByte_taken hc hseg (fun hs => absurd hs hinit) (b := b) with
        ⟨-, hs | ⟨-, hpos⟩⟩
      · exact filled_of_ne (by rw [hs]; decide)
      · exact fun _ => hpos
  · by_cases hstart : c.state.AwaitsStart ∧ startBit b = true
    · rw [collectByte_start hstart.1 hstart.2]
      exact filled_of_ne IsduState.noConfusion
    · rwa [collectByte_ignored hc hstart]

theorem filled_parsed {c : IsduCtx} (hinv : IsduInv c) (h : c.Filled) (bytes : List UInt8) :
    (parser.final c bytes).Filled :=
  (parser.final_invariant (P := fun c => IsduInv c ∧ c.Filled)
    (fun _ b hc => ⟨isduInv_collectByte hc.1 b, filled_collectByte hc.1 hc.2 b⟩) ⟨hinv, h⟩ bytes).2

/-- What an executed request leaves to be delivered. -/
theorem stray_executed (cfg : BuildConfig) (h : Host) {c : IsduCtx} (hs : c.state = .serviceExecute)
    (hlen : c.bufferIdx ≤ 255) :
    ∃ p, Stray (isduProcess cfg h c).2 p ∧
      (p = [] ∨ ∃ n ≤ 255, Prepared (isduProcess cfg h c).2 n ∧
        p = pending (isduProcess cfg h c).2) := by
  rcases isduProcess_prepared cfg h hs fun _ => hlen with hidle | ⟨hready, hidx, hctrl, hle⟩
  · exact ⟨[], .inl ⟨.inl hidle, by simp [pending, hidle]⟩, .inl rfl⟩
  · have hprep : Prepared (isduProcess cfg h c).2 (isduProcess cfg h c).2.responseLen :=
      ⟨hready, hidx, hctrl, rfl⟩
    exact ⟨_, .inl ⟨(prepared_pending hprep hle).1, rfl⟩, .inr ⟨_, hle, hprep, rfl⟩⟩

section Links

variable (cfg : BuildConfig) {L : Type} {send : L → UInt8 → Option DeviceResponse × L}
variable {pad : List UInt8} {R S : L → IsduCtx → Host → Prop} {K : Host → Host → Prop}
variable {l : L} {c : IsduCtx} {h : Host} {p : List UInt8}
variable (hsend : Transports cfg pad send R S K)
include hsend

/-- Two bytes of a request. -/
theorem sendRequestOn_pair (hR : R l c h) (b b' : UInt8) :
    let q := isduProcess cfg h c
    let r := sendRequestOn send l [b, b']
    r.1 = true ∧ ∃ h₁, K q.1 h₁ ∧
      let q₁ := isduProcess cfg h₁ (odMachine.final q.2 (b :: pad))
      ∃ h₂, K q₁.1 h₂ ∧ R r.2 (odMachine.final q₁.2 (b' :: pad)) h₂ := by
  obtain ⟨hu, -, h₁, hk₁, hS₁⟩ := hsend.cycle hR b
  obtain ⟨hu', -, h₂, hk₂, hS₂⟩ := hsend.cycle (hsend.weaken hS₁) b'
  intro q r
  have hr : r = (true, (send (send l b).2 b').2) := by
    simp only [r, sendRequestOn, hu, hu', if_true]
  rw [hr]
  exact ⟨rfl, h₁, hk₁, h₂, hk₂, hsend.weaken hS₂⟩

/-- What is to be delivered after the first two bytes: an error, or with padding perhaps the
    answer to the request that they have completed. -/
def LeftOver (pad p : List UInt8) : Prop :=
  ErrorLeft p ∨ pad ≠ [] ∧ ∃ e n, n ≤ 255 ∧ Prepared e n ∧ p = pending e

omit hsend in
theorem LeftOver.audible (h : LeftOver pad p) (hlen : pad.length ≤ 1) :
    Audible (pad.length + 1) p := by
  rcases h with ⟨-, hne⟩ | ⟨-, e, n, hn, hprep, rfl⟩
  · exact audible_of_ne_zero _ hne
  · exact audible_prepared hlen hprep hn

/-- **The first two bytes of a request.** An earlier request that they complete is executed,
    and an error is left to be delivered, or the answer to that request. -/
theorem sendRequestOn_opening (hpad : ∀ x ∈ pad, startBit x = false) (hR : R l c h)
    (hinv : IsduInv (isduProcess cfg h c).2) {b : UInt8} (hb : startBit b = true)
    (hop : Opening pad b (isduProcess cfg h c).2) :
    let q := isduProcess cfg h c
    let r := sendRequestOn send l [0x80, b]
    r.1 = true ∧ ∃ h' p, K q.1 h' ∧
      StrayOn cfg R K p r.2 (isduProcess cfg h' (parser.final q.2 (0x80 :: (pad ++ [b])))).1 ∧
      LeftOver pad p := by
  obtain ⟨hok, h₁, hk₁, h₂, hk₂, hR₂⟩ := sendRequestOn_pair cfg hsend hR 0x80 b
  intro q r
  refine ⟨hok, ?_⟩
  change K q.1 h₁ at hk₁
  set c₁ := odMachine.final q.2 (0x80 :: pad) with hc₁
  set last := parser.final q.2 (0x80 :: (pad ++ [b])) with hlast
  cases hop with
  | refused hs hne =>
    have hproc := isduProcess_of_ne cfg h₁ (c := c₁)
      (by rcases hs with hs | hs <;> rw [hs] <;> decide)
    have hstray := cycle_start hpad hs hb
    rw [hproc] at hk₂ hR₂
    refine ⟨h₂, (refusal (seqBits b)).drop pad.length, hsend.trans hk₁ hk₂,
      ⟨odMachine.final c₁ (b :: pad), h₂, hR₂, ?_⟩, .inl (errorLeft_refusal _ _)⟩
    rw [hstray.isduProcess_eq cfg, isduProcess_of_ne cfg h₂ hne]
    exact ⟨hsend.refl h₂, hstray⟩
  | completed hs heq =>
    have hstray := cycle_start hpad (awaitsStart_isduProcess cfg h₁ (.inr (.inr hs))) hb
    refine ⟨h₁, (refusal (seqBits b)).drop pad.length, hk₁,
      ⟨odMachine.final (isduProcess cfg h₁ c₁).2 (b :: pad), h₂, hR₂, ?_⟩,
      .inl (errorLeft_refusal _ _)⟩
    rw [hstray.isduProcess_eq cfg, show last = c₁ from heq]
    exact ⟨hk₂, hstray⟩
  | error hs hem hleft hne =>
    have hproc := isduProcess_of_ne cfg h₁ hs
    have hstray : Stray (odMachine.final c₁ (b :: pad)) _ := .inl ⟨hem, rfl⟩
    rw [hproc] at hk₂ hR₂
    refine ⟨h₂, pending (odMachine.final c₁ (b :: pad)), hsend.trans hk₁ hk₂,
      ⟨odMachine.final c₁ (b :: pad), h₂, hR₂, ?_⟩, .inl hleft⟩
    rw [hstray.isduProcess_eq cfg, isduProcess_of_ne cfg h₂ hne]
    exact ⟨hsend.refl h₂, hstray⟩
  | late hne hs heq hexec =>
    have hproc := isduProcess_of_ne cfg h₁ hs
    rw [hproc] at hk₂ hR₂
    have hlen : last.bufferIdx ≤ 255 := (isduInv_parsed hinv _).execute hexec
    obtain ⟨p, hstray, hp⟩ := stray_executed cfg h₂ hexec hlen
    refine ⟨h₂, p, hsend.trans hk₁ hk₂, ⟨odMachine.final c₁ (b :: pad), h₂, hR₂, ?_⟩, ?_⟩
    · rw [show odMachine.final c₁ (b :: pad) = last from heq]
      exact ⟨hsend.refl _, hstray⟩
    · rcases hp with rfl | ⟨n, hn, hprep, rfl⟩
      · exact .inl ⟨Nat.zero_le 4, nofun⟩
      · exact .inr ⟨hne, _, n, hn, hprep, rfl⟩

end Links

end Iolinki
