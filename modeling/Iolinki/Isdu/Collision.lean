import Iolinki.Isdu.Abort
import Iolinki.Isdu.Alike

/-!
# A colliding request

A START control byte in the middle of a segmented transfer is answered with BUSY at
once. The answer is two bytes long and needs four calls of
`iolink_isdu_get_response_byte`, but the data link layer makes one call for each
byte that it feeds, and the next byte is the service byte of the colliding request.
Its highest bit is set: in RESPONSE_READY it is taken for the START of a third
request, and the answer is dropped. The control byte after it names no service, and
the rest of the stream is handled as after an abort.

* `refused_run`: what is delivered from then on belongs to answers with
  SERVICE_NOT_AVAIL.
* `busy_not_delivered`: the BUSY answer is never delivered.
-/

namespace Iolinki

open Iolinki.Lib

/-! ## Feeding by the data link layer -/

/-- The calls of the data link layer: each byte is collected and then one response
    byte is fetched (`src/dll.c`, lines 150–155). `iolink_isdu_process` may come
    between the bytes. -/
inductive FedByDll : List IsduOp → Prop
  | nil : FedByDll []
  | process {ops : List IsduOp} : FedByDll ops → FedByDll (.process :: ops)
  | byte {b : UInt8} {ops : List IsduOp} : FedByDll ops →
    FedByDll (.collect b :: .getResponse :: ops)

/-- The response bytes that were delivered. -/
def deliveredBytes (outs : List IsduOut) : List UInt8 :=
  outs.filterMap fun
    | .response b => b
    | _ => none

/-- The framed answer `0x80, IOLINK_ISDU_ERROR_BUSY` is among the bytes. -/
def BusyAnswered (bytes : List UInt8) : Prop :=
  ∃ seq, segments true seq [(false, 0x80), (true, isduErrorBusy)] <:+: bytes

theorem not_busyAnswered {outs : List IsduOut} (h : .response (some isduErrorBusy) ∉ outs) :
    ¬BusyAnswered (deliveredBytes outs) := by
  rintro ⟨seq, hseq⟩
  have hmem : isduErrorBusy ∈ deliveredBytes outs := hseq.subset (by simp)
  obtain ⟨out, hout, hb⟩ := List.mem_filterMap.mp hmem
  cases out with
  | response b =>
    obtain rfl : b = some isduErrorBusy := hb
    exact h hout
  | _ => cases hb

/-- The next byte that the data link layer feeds. -/
theorem FedByDll.next {ops : List IsduOp} (h : FedByDll ops) {b : UInt8} {bytes : List UInt8}
    (hb : collectedBytes ops = b :: bytes) :
    ∃ n ops', ops = List.replicate n .process ++ .collect b :: .getResponse :: ops' ∧
      FedByDll ops' ∧ collectedBytes ops' = bytes := by
  induction h with
  | nil => cases hb
  | process h ih =>
    obtain ⟨n, ops', rfl, hfed, hbytes⟩ := ih hb
    exact ⟨n + 1, ops', rfl, hfed, hbytes⟩
  | @byte b' ops h ih =>
    obtain ⟨rfl, hbytes⟩ := List.cons.inj hb
    exact ⟨0, ops, rfl, h, hbytes⟩

/-! ## What is delivered after the answer was dropped -/

/-- A pending answer is `0x80, IOLINK_ISDU_ERROR_SERVICE_NOT_AVAIL`. -/
def RefusedOnly (c : IsduCtx) : Prop :=
  c.state = .responseReady →
    c.responseLen = 2 ∧ c.responseIdx < 2 ∧ c.responseBuf 0 = 0x80 ∧
      c.responseBuf 1 = isduErrorServiceNotAvail

theorem refusedOnly_of_ne {c : IsduCtx} (h : c.state ≠ .responseReady) : RefusedOnly c :=
  fun hs => absurd hs h

/-- No control byte with START or LAST is the BUSY code. -/
theorem ctrlByte_ne_busy {start last : Bool} (h : start = true ∨ last = true) (seq : UInt8) :
    ctrlByte start last seq ≠ isduErrorBusy := by
  revert start last seq
  decide +kernel

/-- A byte of the stream keeps the pending answer, drops it or replaces it by a
    refusal. -/
theorem refusedOnly_collect {k : NextByte} {c : IsduCtx} (hk : AwaitsTail k c.state)
    (h : RefusedOnly c) {b : UInt8} {rest : List UInt8} (ht : OldTail k (b :: rest)) :
    RefusedOnly (isduCollectByte c b).1 := by
  cases k with
  | data =>
    by_cases hb : startBit b = true
    · rw [collectByte_start hk hb]
      exact refusedOnly_of_ne (by simp [IsduCtx.startRequest])
    · rw [collectByte_ignored (not_collecting_of_awaitsStart hk) fun hstart => hb hstart.2]
      exact h
  | control =>
    rcases hk with hk | hk
    · rw [collectByte_ignored (not_collecting_of_awaitsStart hk) (by simp [ht.1])]
      exact h
    · -- a control byte of the stream in the place of a service byte
      obtain ⟨hread, hwrite⟩ := service_of_startBit_clear ht.1
      rw [collectByte_headerInitial b hk]
      simp only [isduHeaderInitial, hread, hwrite, if_false]
      exact fun _ => ⟨rfl, Nat.zero_lt_two, rfl, rfl⟩

/-- A byte of a refusal is not the BUSY code. -/
theorem refusedOnly_getResponse {c : IsduCtx} (h : RefusedOnly c) :
    RefusedOnly (isduGetResponseByte c).1 ∧ (isduGetResponseByte c).2 ≠ some isduErrorBusy := by
  by_cases hs : c.state = .responseReady
  · obtain ⟨hlen, hidx, h0, h1⟩ := h hs
    have hcases : c.responseIdx = 0 ∨ c.responseIdx = 1 := by omega
    cases hsent : c.isResponseControlSent with
    | false =>
      rw [getResponseByte_control hs hsent]
      refine ⟨fun _ => ⟨hlen, hidx, h0, h1⟩, fun hout => ?_⟩
      refine ctrlByte_ne_busy ?_ c.segmentSeq (Option.some_inj.mp hout)
      rcases hcases with hi | hi <;> simp [hi, hlen]
    | true =>
      rcases hcases with hi | hi
      · rw [getResponseByte_more hs hsent (by omega), hi, h0]
        exact ⟨fun _ => ⟨hlen, Nat.one_lt_two, h0, h1⟩, by simp [isduErrorBusy]⟩
      · rw [getResponseByte_last hs hsent (by omega), hi, h1]
        exact ⟨refusedOnly_of_ne (by simp), by simp [isduErrorBusy, isduErrorServiceNotAvail]⟩
  · rw [getResponseByte_of_ne hs]
    exact ⟨h, by simp⟩

/-- **The rest of a stream after the answer was dropped.** -/
theorem refused_run (cfg : BuildConfig) (h : Host) (ops : List IsduOp) :
    ∀ (k : NextByte) (c : IsduCtx), AwaitsTail k c.state → RefusedOnly c →
      OldTail k (collectedBytes ops) →
        .response (some isduErrorBusy) ∉ (isduMachine cfg).outputs (c, h) ops := by
  induction ops with
  | nil =>
    intro k c _ _ _ hmem
    cases hmem
  | cons op ops ih =>
    intro k c hk hc ht
    rw [Machine.outputs_cons, List.mem_cons, not_or]
    cases op with
    | process =>
      have hproc := isduProcess_of_ne cfg h hk.ne_serviceExecute
      refine ⟨fun heq => IsduOut.noConfusion heq, ?_⟩
      simp only [isduMachine, isduStep, hproc] at ih ⊢
      exact ih k c hk hc ht
    | getResponse =>
      obtain ⟨hc', hout⟩ := refusedOnly_getResponse hc
      exact ⟨fun heq => hout (IsduOut.response.inj heq).symm,
        ih k _ (awaitsTail_getResponse hk) hc' ht⟩
    | collect b =>
      exact ⟨fun heq => IsduOut.noConfusion heq,
        ih k.other _ (awaitsTail_collect hk ht) (refusedOnly_collect hk hc ht) (oldTail_collect ht)⟩

/-! ## The collision -/

theorem oldTail_data_cons (b : UInt8) {rest : List UInt8} (h : OldTail .control rest) :
    OldTail .data (b :: rest) := by
  cases rest with
  | nil => trivial
  | cons ctrl rest => exact h

theorem oldTail_idle (k : NextByte) (n : ℕ) : OldTail k (List.replicate n 0) := by
  induction n generalizing k with
  | zero => cases k <;> trivial
  | succ n ih =>
    cases k with
    | data => exact oldTail_data_cons 0 (ih .control)
    | control => exact ⟨by decide, ih .data⟩

/-- What follows the service byte of a request, and then nothing but idle bytes. -/
theorem oldTail_segments (seq : UInt8) (data : List (Bool × UInt8)) (n : ℕ) :
    OldTail .control (segments false seq data ++ List.replicate n 0) := by
  induction data generalizing seq with
  | nil => exact oldTail_idle .control n
  | cons seg data ih =>
    obtain ⟨last, b⟩ := seg
    exact ⟨startBit_ctrlByte false last seq, oldTail_data_cons b (ih (nextSeq seq))⟩

/-- `iolink_isdu_process` before the request is complete. -/
theorem outputs_replicate_process (cfg : BuildConfig) {c : IsduCtx} (h : Host)
    (hc : c.state ≠ .serviceExecute) (n : ℕ) (ops : List IsduOp) :
    (isduMachine cfg).outputs (c, h) (List.replicate n .process ++ ops) =
      List.replicate n .processed ++ (isduMachine cfg).outputs (c, h) ops := by
  have hproc := isduProcess_of_ne cfg h hc
  induction n with
  | zero => rfl
  | succ n ih =>
    simp only [List.replicate_succ, List.cons_append, Machine.outputs_cons, isduMachine, isduStep,
      hproc] at ih ⊢
    rw [ih]

/-- One byte as the data link layer feeds it. -/
theorem outputs_byte (cfg : BuildConfig) (h : Host) {c c' : IsduCtx} {b : UInt8}
    {out : Option UInt8} (hget : isduGetResponseByte (isduCollectByte c b).1 = (c', out))
    (ops : List IsduOp) :
    (isduMachine cfg).outputs (c, h) (.collect b :: .getResponse :: ops) =
      .collected (isduCollectByte c b).2 :: .response out ::
        (isduMachine cfg).outputs (c', h) ops := by
  simp only [Machine.outputs_cons, isduMachine, isduStep, hget]

/-- The engine after the colliding START control byte and one response byte. -/
theorem collision_getResponse {c : IsduCtx} (hc : c.state = .segmentCollect) {b : UInt8}
    (hb : startBit b = true) :
    ∃ c', isduGetResponseByte (isduCollectByte c b).1 =
        (c', some (ctrlByte true false c.segmentSeq)) ∧ c'.state = .responseReady := by
  rw [collectByte_segmentCollect_start hc hb]
  exact ⟨_, getResponseByte_control rfl rfl, rfl⟩

/-- The service byte of a read or a write is taken for a START control byte. -/
theorem startBit_service {b : UInt8} (h : (b >>> 4) &&& 0x0F = 0x08 ∨ (b >>> 4) &&& 0x0F = 0x09) :
    startBit b = true := by
  cases hb : startBit b with
  | true => rfl
  | false =>
    obtain ⟨hread, hwrite⟩ := service_of_startBit_clear hb
    rcases h with h | h
    · exact absurd h hread
    · exact absurd h hwrite

/-- **The BUSY answer to a colliding request is never delivered.** The engine is in the
    middle of a segmented transfer when a START control byte, the service byte of a
    read or a write and any further data bytes arrive, and then idle bytes. -/
theorem busy_not_delivered (cfg : BuildConfig) (c : IsduCtx) (h : Host)
    (hc : c.state = .segmentCollect) (seq : UInt8) (last : Bool) (service : UInt8)
    (hservice : (service >>> 4) &&& 0x0F = 0x08 ∨ (service >>> 4) &&& 0x0F = 0x09)
    (data : List (Bool × UInt8)) (idle : ℕ) (ops : List IsduOp) (hfed : FedByDll ops)
    (hops : collectedBytes ops =
      segments true seq ((last, service) :: data) ++ List.replicate idle 0) :
    ¬BusyAnswered (deliveredBytes ((isduMachine cfg).outputs (c, h) ops)) := by
  apply not_busyAnswered
  obtain ⟨n, ops₁, rfl, hfed₁, hops₁⟩ := hfed.next hops
  obtain ⟨m, ops₂, rfl, -, hops₂⟩ := hfed₁.next hops₁
  obtain ⟨c₁, hget, hs₁⟩ := collision_getResponse hc (startBit_ctrlByte true last seq)
  have hstart := collectByte_start (c := c₁) (.inr hs₁) (startBit_service hservice)
  have hrest := refused_run cfg h ops₂ .control (c₁.startRequest service) (.inr rfl)
    (refusedOnly_of_ne (by simp [IsduCtx.startRequest]))
    (by rw [hops₂]; exact oldTail_segments _ data idle)
  have hnone : isduGetResponseByte (isduCollectByte c₁ service).1 =
      (c₁.startRequest service, none) := by
    rw [hstart]
    exact getResponseByte_of_ne (by simp [IsduCtx.startRequest])
  have hfirst := outputs_byte cfg h hget (List.replicate m .process ++
    .collect service :: .getResponse :: ops₂)
  have hsecond := outputs_byte cfg h hnone ops₂
  rw [outputs_replicate_process cfg h (by simp [hc]), hfirst,
    outputs_replicate_process cfg h (by simp [hs₁]), hsecond]
  have hctrl : some isduErrorBusy ≠ some (ctrlByte true false c.segmentSeq) :=
    fun heq => ctrlByte_ne_busy (.inl rfl) _ (Option.some_inj.mp heq).symm
  simp [hctrl, hrest]

/-- A write of two bytes is interrupted by a read of index 0x0010, with index bytes
    that have the highest bit clear: instead of BUSY its sender gets an answer with
    SERVICE_NOT_AVAIL. -/
theorem busy_not_delivered_read :
    ¬BusyAnswered (deliveredBytes ((isduMachine {}).outputs
      (parser.final isduInit [0x80, 0x92, 0x01, 0x00], hostInit)
      ([0x80, 0x80, 0x01, 0x00, 0x02, 0x10, 0x43, 0x00, 0x00, 0x00].flatMap fun b =>
        [.collect b, .getResponse]))) :=
  busy_not_delivered {} (parser.final isduInit [0x80, 0x92, 0x01, 0x00]) hostInit
  (by decide +kernel)
    0 false 0x80 (by decide) [(false, 0x00), (false, 0x10), (true, 0x00)] 2 _
    (.byte (.byte (.byte (.byte (.byte (.byte (.byte (.byte (.byte (.byte .nil)))))))))) (by decide)

/-- The bytes that are delivered in this run. -/
theorem collision_answered_otherwise :
    let bytes := deliveredBytes ((isduMachine {}).outputs
      (parser.final isduInit [0x80, 0x92, 0x01, 0x00], hostInit)
      ([0x80, 0x80, 0x01, 0x00, 0x02, 0x10, 0x43, 0x00, 0x00, 0x00].flatMap fun b =>
        [.collect b, .getResponse]))
    bytes = [0x81, 0x80, 0x80, 0x41, 0x11] ∧ ¬BusyAnswered bytes := by
  intro bytes
  refine ⟨by decide +kernel, ?_⟩
  apply not_busyAnswered
  decide +kernel

end Iolinki
