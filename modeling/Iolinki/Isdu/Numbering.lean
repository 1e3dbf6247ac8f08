import Iolinki.Isdu.Invariant

/-!
# The number of the first response segment

`segment_seq` counts the segments of the request and then those of the response.
An executed request and a wrong sequence number reset it before the response; a
collision and an unknown service do not, and the response goes on with the number
of the last control byte of the request.

* `controlClear_step`: while a request is received, no control byte of a response
  has been sent.
* `awaitsControl_of_enters`: what the engine looks like when it enters RESPONSE_READY.
* `fresh_stream_iff`: the first byte of a response is a START control byte with
  the number 0 exactly if `segment_seq` was reset or was 0 before.
-/

namespace Iolinki

open Iolinki.Lib

/-- A control byte with START set and the sequence number 0. -/
def OpensStream (b : UInt8) : Prop := startBit b = true ∧ seqBits b = 0

instance (b : UInt8) : Decidable (OpensStream b) := inferInstanceAs (Decidable (_ ∧ _))

/-- The bytes that are answered at once without a reset of `segment_seq`: a START
    control byte in the middle of a segmented transfer (lines 85–94), and a
    service byte that names neither a read nor a write (lines 150–157). -/
def KeepsNumber (c : IsduCtx) : IsduOp → Prop
  | .collect b =>
    (c.state = .segmentCollect ∧ startBit b = true) ∨
      (c.state = .headerInitial ∧ (b >>> 4) &&& 0x0F ≠ 0x08 ∧ (b >>> 4) &&& 0x0F ≠ 0x09)
  | _ => False

/-! ## The control flag -/

/-- While a request is received, no control byte of a response has been sent. -/
def ControlClear (c : IsduCtx) : Prop := ¬ c.state.AwaitsStart → c.isResponseControlSent = false

theorem controlClear_of_awaitsStart {c : IsduCtx} (h : c.state.AwaitsStart) : ControlClear c :=
  fun hn => absurd h hn

theorem controlClear_collectData {c : IsduCtx} (hc : c.isResponseControlSent = false) (b : UInt8) :
    (isduCollectData c b false).1.isResponseControlSent = false := by
  unfold isduCollectData
  cases c.state with
  | headerInitial =>
    simp only [isduHeaderInitial]
    split_ifs <;> exact hc
  | headerSubindex | dataCollect =>
    dsimp only
    split_ifs <;> exact hc
  | _ => exact hc

theorem controlClear_collectByte {c : IsduCtx} (h : ControlClear c) (b : UInt8) :
    ControlClear (isduCollectByte c b).1 := by
  by_cases hs : c.state.AwaitsStart
  · by_cases hb : startBit b = true
    · rw [collectByte_start hs hb]
      exact fun _ => rfl
    · rw [collectByte_ignored (not_collecting_of_awaitsStart hs) fun hstart => hb hstart.2]
      exact h
  · have hclear := h hs
    obtain ⟨hidle, hready⟩ := not_or.mp hs
    intro _
    by_cases hseg : c.state = .segmentCollect
    · cases hb : startBit b with
      | true =>
        rw [collectByte_segmentCollect_start hseg hb]
        rfl
      | false =>
        rw [collectByte_segmentCollect hseg hb]
        simp only [isduSegmentControl]
        split_ifs
        · rfl
        · exact hclear
    · rw [collectByte_data hidle hseg hready]
      exact controlClear_collectData hclear b

/-- **Every call keeps the flag.** -/
theorem controlClear_step (cfg : BuildConfig) (c : IsduCtx) (call : Host × IsduOp)
    (h : ControlClear c) : ControlClear ((engineMachine cfg).step c call).1 := by
  obtain ⟨host, op⟩ := call
  cases op with
  | collect b => exact controlClear_collectByte h b
  | process =>
    by_cases hs : c.state = .serviceExecute
    · exact controlClear_of_awaitsStart (isduProcess_awaitsStart cfg host hs)
    · show ControlClear (isduProcess cfg host c).2
      rw [isduProcess_of_ne cfg host hs]
      exact h
  | getResponse =>
    by_cases hs : c.state = .responseReady
    · exact controlClear_of_awaitsStart (awaitsStart_step cfg host (.inr hs)).2
    · show ControlClear (isduGetResponseByte c).1
      rw [getResponseByte_of_ne hs]
      exact h

/-! ## Entering RESPONSE_READY -/

/-- A response of which nothing has been sent, with `seq` as its next number. -/
structure AwaitsControl (c : IsduCtx) (seq : UInt8) : Prop where
  state : c.state = .responseReady
  responseIdx : c.responseIdx = 0
  control : c.isResponseControlSent = false
  segmentSeq : c.segmentSeq = seq

/-- The number of the first segment of a response. -/
def FirstNumber (c : IsduCtx) (op : IsduOp) (seq : UInt8) : Prop :=
  (KeepsNumber c op → seq = c.segmentSeq) ∧ (¬ KeepsNumber c op → seq = 0)

section Enters

variable {c : IsduCtx} (hinv : IsduInv c) (hclear : ControlClear c)

include hinv in
theorem awaitsControl_segment (hs : c.state = .segmentCollect) {b : UInt8}
    (hr : (isduCollectByte c b).1.state = .responseReady) :
    ∃ seq, AwaitsControl (isduCollectByte c b).1 seq ∧ FirstNumber c (.collect b) seq := by
  cases hb : startBit b with
  | true =>
    refine ⟨c.segmentSeq, ?_, fun _ => rfl, fun hno => absurd (.inl ⟨hs, hb⟩) hno⟩
    rw [collectByte_segmentCollect_start hs hb]
    exact ⟨rfl, rfl, rfl, rfl⟩
  | false =>
    have hno : ¬ KeepsNumber c (.collect b) := by simp [KeepsNumber, hs, hb]
    refine ⟨0, ?_, fun hk => absurd hk hno, fun _ => rfl⟩
    rw [collectByte_segmentCollect hs hb] at hr ⊢
    unfold isduSegmentControl at hr ⊢
    split_ifs at hr ⊢
    · exact ⟨rfl, rfl, rfl, rfl⟩
    · -- the state that takes the next data byte is not RESPONSE_READY
      have hnext := hinv.nextState hs
      rw [show c.nextState = .responseReady from hr] at hnext
      exact absurd hnext (by decide)

include hclear in
theorem awaitsControl_service (hs : c.state = .headerInitial) {b : UInt8}
    (hr : (isduCollectByte c b).1.state = .responseReady) :
    ∃ seq, AwaitsControl (isduCollectByte c b).1 seq ∧ FirstNumber c (.collect b) seq := by
  have hcontrol := hclear (by rw [hs]; decide)
  rw [collectByte_headerInitial b hs] at hr ⊢
  unfold isduHeaderInitial at hr ⊢
  dsimp only at hr ⊢
  split_ifs at hr ⊢ with hread hwrite
  exact ⟨c.segmentSeq, ⟨rfl, rfl, hcontrol, rfl⟩, fun _ => rfl,
    fun hno => absurd (.inr ⟨hs, hread, hwrite⟩) hno⟩

/-- The other states do not answer a byte. -/
theorem state_collectByte_ne (hs : c.state ≠ .responseReady) (hseg : c.state ≠ .segmentCollect)
    (hinit : c.state ≠ .headerInitial) (b : UInt8) :
    (isduCollectByte c b).1.state ≠ .responseReady := by
  by_cases hidle : c.state = .idle
  · rw [collectByte_idle hidle]
    unfold isduHandleIdle
    split_ifs
    · exact hs
    · nofun
  · rw [collectByte_data hidle hseg hs]
    unfold isduCollectData
    cases hst : c.state with
    | headerInitial => exact absurd hst hinit
    | headerSubindex | dataCollect =>
      dsimp only
      split_ifs <;> simp
    | serviceExecute | busy => simp [hst]
    | responseReady => exact absurd hst hs
    | _ => simp

include hinv in
theorem awaitsControl_process (cfg : BuildConfig) (host : Host) (hs : c.state ≠ .responseReady)
    (hr : (isduProcess cfg host c).2.state = .responseReady) :
    AwaitsControl (isduProcess cfg host c).2 0 := by
  by_cases hexec : c.state = .serviceExecute
  · have hbounds : AnswerBounds c :=
      ⟨hinv.segmentSeq, hinv.fresh (by rw [hexec]; decide), hinv.responseLen⟩
    have hidx := (handlerClosed_answerBounds.handleStandardCommands hbounds cfg host).2.1
    rw [isduProcess_execute cfg host hexec] at hr ⊢
    split_ifs at hr ⊢
    exact ⟨hr, hidx, rfl, rfl⟩
  · rw [isduProcess_of_ne cfg host hexec] at hr
    exact absurd hr hs

include hinv hclear in
/-- **What the engine looks like when it enters RESPONSE_READY.** -/
theorem awaitsControl_of_enters (cfg : BuildConfig) (call : Host × IsduOp)
    (hs : c.state ≠ .responseReady)
    (hr : ((engineMachine cfg).step c call).1.state = .responseReady) :
    ∃ seq, AwaitsControl ((engineMachine cfg).step c call).1 seq ∧ FirstNumber c call.2 seq := by
  obtain ⟨host, op⟩ := call
  cases op with
  | collect b =>
    change (isduCollectByte c b).1.state = .responseReady at hr
    by_cases hseg : c.state = .segmentCollect
    · exact awaitsControl_segment hinv hseg hr
    · by_cases hinit : c.state = .headerInitial
      · exact awaitsControl_service hclear hinit hr
      · exact absurd hr (state_collectByte_ne hs hseg hinit b)
  | process =>
    exact ⟨0, awaitsControl_process hinv cfg host hs hr, fun hk => hk.elim, fun _ => rfl⟩
  | getResponse =>
    change (isduGetResponseByte c).1.state = .responseReady at hr
    rw [getResponseByte_of_ne hs] at hr
    exact absurd hr hs

end Enters

/-! ## The first byte of the response -/

/-- While the response is pending and no byte of it is fetched, nothing changes. -/
theorem step_of_pending (cfg : BuildConfig) {c : IsduCtx} {call : Host × IsduOp}
    (hs : c.state = .responseReady) (hop : call.2 ≠ .getResponse)
    (hr : ((engineMachine cfg).step c call).1.state = .responseReady) :
    ((engineMachine cfg).step c call).1 = c := by
  obtain ⟨host, op⟩ := call
  cases op with
  | collect b =>
    change (isduCollectByte c b).1.state = .responseReady at hr
    show (isduCollectByte c b).1 = c
    cases hb : startBit b with
    | true =>
      rw [collectByte_start (.inr hs) hb] at hr
      cases hr
    | false => rw [collectByte_responseReady hs hb]
  | process =>
    show (isduProcess cfg host c).2 = c
    rw [isduProcess_of_ne cfg host (by rw [hs]; decide)]
  | getResponse => exact absurd rfl hop

theorem final_of_pending (cfg : BuildConfig) {c : IsduCtx} {mid : List (Host × IsduOp)}
    (hops : ∀ x ∈ mid, x.2 ≠ .getResponse)
    (hpending : ∀ p, p <+: mid → ((engineMachine cfg).final c p).state = .responseReady) :
    (engineMachine cfg).final c mid = c := by
  induction mid with
  | nil => rfl
  | cons call mid ih =>
    have hcall : ((engineMachine cfg).step c call).1 = c :=
      step_of_pending cfg (hpending [] (List.nil_prefix)) (hops call List.mem_cons_self)
        (hpending [call] ⟨mid, rfl⟩)
    rw [Machine.final_cons, hcall]
    refine ih (fun x hx => hops x (List.mem_cons_of_mem _ hx)) fun p hp => ?_
    have hnext := hpending (call :: p) (List.cons_prefix_cons.mpr ⟨rfl, hp⟩)
    rw [Machine.final_cons, hcall] at hnext
    exact hnext

/-- The control byte that is delivered first. -/
theorem getResponse_of_awaitsControl {c : IsduCtx} {seq : UInt8} (h : AwaitsControl c seq) :
    ∃ b, (isduGetResponseByte c).2 = some b ∧ startBit b = true ∧ seqBits b = seqBits seq := by
  refine ⟨responseControl c, ?_, ?_, ?_⟩
  · unfold isduGetResponseByte
    rw [if_neg (not_not.mpr h.state), if_pos (by rw [h.control]; rfl)]
  · rw [responseControl, startBit_ctrlByte, h.responseIdx]
    rfl
  · rw [responseControl, seqBits_ctrlByte, h.segmentSeq]

theorem seqBits_eq_zero_iff {seq : UInt8} (h : seq.toNat ≤ 63) : seqBits seq = 0 ↔ seq = 0 := by
  rw [← UInt8.toNat_inj, ← UInt8.toNat_inj, seqBits_toNat, Nat.mod_eq_of_lt (by omega)]

/-- **The first byte of a response.** In a run from `iolink_isdu_init` the call
    `call` lets the engine enter RESPONSE_READY. During the calls `mid` the
    response stays pending, and no byte of it is fetched. The byte that is
    delivered then opens a stream exactly if `segment_seq` was reset by the call,
    or was 0 already. -/
theorem fresh_stream_iff (cfg : BuildConfig) (eventCtx dsCtx dllCtx : Bool)
    (pre : List (Host × IsduOp)) (call : Host × IsduOp) (mid : List (Host × IsduOp)) (host : Host) :
    let c := (engineMachine cfg).final (isduInitWith eventCtx dsCtx dllCtx) pre
    let c₁ := ((engineMachine cfg).step c call).1
    c.state ≠ .responseReady → c₁.state = .responseReady →
    (∀ x ∈ mid, x.2 ≠ .getResponse) →
    (∀ p, p <+: mid → ((engineMachine cfg).final c₁ p).state = .responseReady) →
    ∃ b, ((engineMachine cfg).step ((engineMachine cfg).final c₁ mid) (host, .getResponse)).2 =
        .response (some b) ∧
      (OpensStream b ↔ (KeepsNumber c call.2 → c.segmentSeq = 0)) := by
  intro c c₁ hs hr hops hpending
  have hinv : IsduInv c := isduInv_final cfg eventCtx dsCtx dllCtx pre
  have hclear : ControlClear c := (engineMachine cfg).final_invariant (controlClear_step cfg)
    (controlClear_of_awaitsStart (.inl rfl)) pre
  obtain ⟨seq, hawait, hkeep, hreset⟩ := awaitsControl_of_enters hinv hclear cfg call hs hr
  obtain ⟨b, hb, hstart, hseq⟩ := getResponse_of_awaitsControl hawait
  refine ⟨b, ?_, ?_⟩
  · rw [final_of_pending cfg hops hpending]
    exact congrArg IsduOut.response hb
  · have hopens : OpensStream b ↔ seqBits seq = 0 := by
      rw [OpensStream, hseq]
      exact and_iff_right hstart
    rw [hopens]
    by_cases hk : KeepsNumber c call.2
    · rw [hkeep hk, seqBits_eq_zero_iff hinv.segmentSeq]
      exact ⟨fun h _ => h, fun h => h hk⟩
    · rw [hreset hk]
      exact ⟨fun _ h => absurd h hk, fun _ => rfl⟩

/-- A request with the number 0 is refused for its service. -/
theorem fresh_stream_iff_service :
    ∃ b, ((engineMachine {}).step ((engineMachine {}).final (isduInitWith true false true)
        [(hostInit, .collect 0x80), (hostInit, .collect 0x00), (hostInit, .collect 0x01)])
          (hostInit, .getResponse)).2 = .response (some b) ∧ OpensStream b := by
  obtain ⟨b, hb, hopens⟩ := fresh_stream_iff {} true false true [(hostInit, .collect 0x80)]
    (hostInit, .collect 0x00) [(hostInit, .collect 0x01)] hostInit (by decide +kernel)
    (by decide +kernel) (by simp) (by
      intro p hp
      rcases List.prefix_cons_iff.mp hp with rfl | ⟨t, rfl, ht⟩
      · decide +kernel
      · rw [List.prefix_nil.mp ht]
        decide +kernel)
  exact ⟨b, hb, hopens.mpr fun _ => by decide +kernel⟩

/-- A request with the number 5 is refused for its service: the response starts
    with the number 5. -/
theorem response_keeps_number :
    let c := (engineMachine {}).final (isduInitWith true false true) [(hostInit, .collect 0x85)]
    let c₁ := ((engineMachine {}).step c (hostInit, .collect 0x00)).1
    c.state ≠ .responseReady ∧ c₁.state = .responseReady ∧
      ((engineMachine {}).step c₁ (hostInit, .getResponse)).2 = .response (some 0x85) ∧
      ¬ OpensStream 0x85 := by
  decide +kernel

end Iolinki
