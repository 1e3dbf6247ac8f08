import Mathlib.Logic.Function.Iterate
import Iolinki.Isdu.Request

/-!
# The framing of a response

`iolink_isdu_get_response_byte` delivers one byte per call and keeps its place in
four fields of the context. Seen from outside it is a queue: `pending c` is the
list of bytes that are still to be delivered, and a call takes its head. Between
the calls the data link layer calls `iolink_isdu_process` and feeds bytes to
`iolink_isdu_collect_byte`; neither touches a pending response as long as no
byte has the START bit set.

* `getResponseByte_pending`: a call delivers the head of the queue and leaves
  its tail.
* `response_framing`: the bytes of a response, for every length and every
  interleaving with the other calls.
-/

namespace Iolinki

open Iolinki.Lib

/-! ## The queue of pending bytes -/

/-- Each byte with the flag that says whether it is the last one. -/
def markLast : List UInt8 → List (Bool × UInt8)
  | [] => []
  | b :: bs => (bs.isEmpty, b) :: markLast bs

theorem map_snd_markLast (data : List UInt8) : (markLast data).map Prod.snd = data := by
  induction data with
  | nil => rfl
  | cons b data ih => rw [markLast, List.map_cons, ih]

/-- The bytes after a control byte: the current data byte and the frames of the
    others. -/
def pendingData (c : IsduCtx) : List UInt8 :=
  match slice c.responseBuf c.responseIdx (c.responseLen - c.responseIdx) with
  | [] => []
  | b :: bs => b :: segments false (nextSeq c.segmentSeq) (markLast bs)

/-- The bytes of the response that have not been delivered yet. -/
def pending (c : IsduCtx) : List UInt8 :=
  if c.state ≠ .responseReady then []
  else if c.isResponseControlSent then pendingData c
  else responseControl c :: pendingData c

/-- The positions that a response of at most 255 bytes goes through. -/
def Emits (c : IsduCtx) : Prop :=
  c.state = .idle ∨ (c.state = .responseReady ∧ c.responseLen ≤ 255 ∧
    (c.responseIdx < c.responseLen ∨ (c.responseIdx = 0 ∧ c.responseLen = 0)))

theorem Emits.awaitsStart {c : IsduCtx} (h : Emits c) : c.state.AwaitsStart :=
  h.imp id And.left

theorem pendingData_of_lt {c : IsduCtx} (h : c.responseIdx < c.responseLen) :
    pendingData c = c.responseBuf c.responseIdx :: segments false (nextSeq c.segmentSeq)
      (markLast (slice c.responseBuf (c.responseIdx + 1)
        (c.responseLen - (c.responseIdx + 1)))) := by
  obtain ⟨k, hk⟩ : ∃ k, c.responseLen - c.responseIdx = k + 1 :=
    ⟨c.responseLen - c.responseIdx - 1, by omega⟩
  have hk' : c.responseLen - (c.responseIdx + 1) = k := by omega
  rw [pendingData, hk, hk', slice_succ_left]

theorem pendingData_of_le {c : IsduCtx} (h : c.responseLen ≤ c.responseIdx) :
    pendingData c = [] := by
  rw [pendingData, Nat.sub_eq_zero_of_le h, slice_zero]

/-- The control byte and the data byte of the next frame, and the frames after
    it. -/
theorem segments_markLast_slice (c : IsduCtx) (h : c.responseIdx < c.responseLen)
    (hlen : c.responseLen ≤ 255) :
    segments (c.responseIdx = 0) c.segmentSeq
        (markLast (slice c.responseBuf c.responseIdx (c.responseLen - c.responseIdx))) =
      responseControl c :: pendingData c := by
  obtain ⟨k, hk⟩ : ∃ k, c.responseLen - c.responseIdx = k + 1 :=
    ⟨c.responseLen - c.responseIdx - 1, by omega⟩
  have hk' : c.responseLen - (c.responseIdx + 1) = k := by omega
  rw [pendingData_of_lt h, hk, hk', slice_succ_left, markLast, segments_cons, responseControl]
  congr 2
  rw [Bool.eq_iff_iff, List.isEmpty_iff_length_eq_zero, length_slice]
  simp only [decide_eq_true_eq]
  omega

/-- **A call delivers the head of the queue.** -/
theorem getResponseByte_pending {c : IsduCtx} (h : Emits c) :
    (isduGetResponseByte c).2 = (pending c).head? ∧
      pending (isduGetResponseByte c).1 = (pending c).tail ∧ Emits (isduGetResponseByte c).1 := by
  rcases h with hs | ⟨hs, hlen, hidx⟩
  · rw [getResponseByte_of_ne (by simp [hs])]
    simp [pending, hs, Emits]
  unfold isduGetResponseByte
  rw [if_neg (not_not.mpr hs)]
  cases hsent : c.isResponseControlSent with
  | false =>
    refine ⟨by simp [pending, hs, hsent], by simp [pending, hs, hsent, pendingData], .inr ?_⟩
    exact ⟨hs, hlen, hidx⟩
  | true =>
    rcases hidx with hidx | ⟨hi, hz⟩
    · have hpend : pending c = pendingData c := by simp [pending, hs, hsent]
      simp only [hpend, pendingData_of_lt hidx, hidx, if_true, Bool.not_true, Bool.false_eq_true,
        if_false]
      by_cases hend : c.responseIdx + 1 ≥ c.responseLen
      · rw [if_pos hend, Nat.sub_eq_zero_of_le hend]
        simp [pending, markLast, Emits]
      · rw [if_neg hend]
        refine ⟨rfl, ?_, .inr ⟨hs, hlen, .inl (by simpa using hend)⟩⟩
        -- The next frame starts with the control byte that the new context sends.
        have hnext := segments_markLast_slice
          { c with responseIdx := c.responseIdx + 1, isResponseControlSent := false,
                   segmentSeq := nextSeq c.segmentSeq } (by simpa using hend) hlen
        simp only [Nat.add_eq_zero_iff, Nat.one_ne_zero, and_false, decide_false] at hnext
        simp [pending, hs, hnext]
    · simp [pending, hs, hsent, hi, hz, pendingData, Emits]

/-! ## Repeated calls -/

/-- The context after a call of `iolink_isdu_get_response_byte`. -/
def afterGet (c : IsduCtx) : IsduCtx := (isduGetResponseByte c).1

theorem pending_iterate {c : IsduCtx} (h : Emits c) (k : ℕ) :
    pending (afterGet^[k] c) = (pending c).drop k ∧ Emits (afterGet^[k] c) := by
  induction k with
  | zero => exact ⟨rfl, h⟩
  | succ k ih =>
    rw [Function.iterate_succ_apply']
    obtain ⟨-, hp, he⟩ := getResponseByte_pending ih.2
    refine ⟨?_, he⟩
    rw [afterGet, hp, ih.1, List.tail_drop]

/-- When everything has been delivered the engine is IDLE; an empty response
    needs one more call than it has bytes. -/
theorem idle_of_delivered {c : IsduCtx} (h : Emits c) (hpos : 0 < c.responseLen)
    (hp : pending c = []) : c.state = .idle := by
  rcases h with hs | ⟨hs, hlen, hidx⟩
  · exact hs
  · exfalso
    have hidx' : c.responseIdx < c.responseLen := by omega
    simp only [pending, hs, ne_eq, not_true, if_false, pendingData_of_lt hidx'] at hp
    split_ifs at hp

theorem responseLen_afterGet (c : IsduCtx) : (afterGet c).responseLen = c.responseLen := by
  unfold afterGet isduGetResponseByte
  dsimp only
  split_ifs <;> rfl

theorem responseLen_iterate (c : IsduCtx) (k : ℕ) :
    (afterGet^[k] c).responseLen = c.responseLen := by
  induction k with
  | zero => rfl
  | succ k ih => rw [Function.iterate_succ_apply', responseLen_afterGet, ih]

/-! ## Interleaving -/

/-- The calls that do not start a new request. -/
def IsduOp.Quiet : IsduOp → Prop
  | .collect b => startBit b = false
  | _ => True

instance : DecidablePred IsduOp.Quiet := fun op => by
  cases op <;> unfold IsduOp.Quiet <;> infer_instance

/-- The results of the calls of `iolink_isdu_get_response_byte` among `outs`;
    `none` is the return value `0`. -/
def responseBytes (outs : List IsduOut) : List (Option UInt8) :=
  outs.filterMap fun
    | .response b => some b
    | _ => none

/-- The number of calls of `iolink_isdu_get_response_byte` among `ops`. -/
def getCount (ops : List IsduOp) : ℕ := ops.countP (· = .getResponse)

theorem collectByte_quiet {c : IsduCtx} (hc : c.state.AwaitsStart) {b : UInt8}
    (hb : startBit b = false) : (isduCollectByte c b).1 = c :=
  collectByte_ignored (not_collecting_of_awaitsStart hc) (by simp [hb])

/-- The other calls do not disturb a pending response. -/
theorem quiet_run (cfg : BuildConfig) (h : Host) {c : IsduCtx} (hc : Emits c) (ops : List IsduOp)
    (hops : ∀ op ∈ ops, op.Quiet) :
    ((isduMachine cfg).final (c, h) ops).1 = afterGet^[getCount ops] c ∧
      responseBytes ((isduMachine cfg).outputs (c, h) ops) =
        (List.range (getCount ops)).map fun k => (pending c)[k]? := by
  induction ops generalizing c with
  | nil => exact ⟨rfl, rfl⟩
  | cons op ops ih =>
    have hops' : ∀ op ∈ ops, op.Quiet := fun o ho => hops o (by simp [ho])
    cases op with
    | collect b =>
      have hb : (isduCollectByte c b).1 = c := collectByte_quiet hc.awaitsStart
        (hops (.collect b) (by simp))
      obtain ⟨ih1, ih2⟩ := ih hc hops'
      simp only [isduMachine, Machine.final_cons, Machine.outputs_cons, isduStep, hb] at ih1 ih2 ⊢
      exact ⟨ih1, ih2⟩
    | process =>
      have hp := (awaitsStart_step cfg h hc.awaitsStart).1
      obtain ⟨ih1, ih2⟩ := ih hc hops'
      simp only [isduMachine, Machine.final_cons, Machine.outputs_cons, isduStep, hp] at ih1 ih2 ⊢
      exact ⟨ih1, ih2⟩
    | getResponse =>
      obtain ⟨hhead, htail, hem⟩ := getResponseByte_pending hc
      obtain ⟨ih1, ih2⟩ := ih hem hops'
      have hcount : getCount (.getResponse :: ops) = getCount ops + 1 := by simp [getCount]
      rw [hcount, Function.iterate_succ_apply, List.range_succ_eq_map]
      refine ⟨ih1, ?_⟩
      simp only [isduMachine, Machine.outputs_cons, isduStep, responseBytes, List.filterMap_cons,
        List.map_cons, List.map_map] at ih2 ⊢
      rw [ih2, hhead, htail, List.head?_eq_getElem?]
      simp [Function.comp_def]

/-! ## Responses of every length -/

/-- The bytes of a response: for every data byte a control byte with START on
    the first, LAST on the last and consecutive sequence numbers, and the data
    byte itself. An empty response is one control byte. -/
def responseStream (s : UInt8) (buf : ℕ → UInt8) (n : ℕ) : List UInt8 :=
  if n = 0 then [ctrlByte true true s]
  else (List.range n).flatMap fun i => [ctrlByte (i = 0) (i = n - 1) (seqAt s i), buf i]

theorem segments_markLast (start : Bool) (s : UInt8) (f : ℕ → UInt8) (off n : ℕ) :
    segments start s (markLast (slice f off n)) =
      (List.range n).flatMap fun i =>
        [ctrlByte (start && i = 0) (i = n - 1) (seqAt s i), f (off + i)] := by
  induction n generalizing start s off with
  | zero => rfl
  | succ n ih =>
    rw [slice_succ_left, markLast, segments_cons, ih, List.range_succ_eq_map, List.flatMap_cons,
      List.flatMap_map]
    have hlast : (slice f (off + 1) n).isEmpty = decide (0 = n + 1 - 1) := by
      rw [Bool.eq_iff_iff, List.isEmpty_iff_length_eq_zero, length_slice, decide_eq_true_eq]
      omega
    simp only [hlast, seqAt_zero, ctrlByte_seqBits, decide_true, Bool.and_true, Nat.add_zero,
      List.cons_append, List.nil_append, List.cons.injEq, true_and]
    apply List.flatMap_congr
    intro i hi
    have h1 : decide (i = n - 1) = decide (i + 1 = n + 1 - 1) := by
      rw [decide_eq_decide]
      have := List.mem_range.mp hi
      omega
    simp [seqAt_succ', h1, Nat.add_assoc, Nat.add_comm 1 i]

theorem pending_ready {c : IsduCtx} (hs : c.state = .responseReady) (hi : c.responseIdx = 0)
    (hc : c.isResponseControlSent = false) (hlen : c.responseLen ≤ 255) :
    pending c = responseStream c.segmentSeq c.responseBuf c.responseLen := by
  have hp : pending c = responseControl c :: pendingData c := by simp [pending, hs, hc]
  rw [hp, responseStream]
  split_ifs with hz
  · rw [pendingData_of_le (by omega)]
    simp [responseControl, hi, hz]
  · rw [← segments_markLast_slice c (by omega) hlen, hi, Nat.sub_zero, segments_markLast]
    simp

theorem length_responseStream (s : UInt8) (buf : ℕ → UInt8) {n : ℕ} (hn : n ≠ 0) :
    (responseStream s buf n).length = 2 * n := by
  rw [responseStream, if_neg hn, List.length_flatMap]
  simp [Nat.mul_comm]

theorem iterate_idle {c : IsduCtx} (hs : c.state = .idle) (k : ℕ) : afterGet^[k] c = c :=
  Function.iterate_fixed (by rw [afterGet, getResponseByte_of_ne (by simp [hs])]) k

/-- The state after `k` calls on a response that has just been prepared. -/
theorem state_iterate {c : IsduCtx} (hs : c.state = .responseReady) (hi : c.responseIdx = 0)
    (hc : c.isResponseControlSent = false) (hlen : c.responseLen ≤ 255) (k : ℕ) :
    (afterGet^[k] c).state =
      if k < 2 * max 1 c.responseLen then .responseReady else .idle := by
  by_cases hz : c.responseLen = 0
  · -- The control byte is the only byte, and one more call finds nothing.
    match k with
    | 0 => simp [hs, hz]
    | 1 => simp [afterGet, isduGetResponseByte, hs, hc, hz]
    | k + 2 =>
      have hidle : (afterGet (afterGet c)).state = .idle := by
        simp [afterGet, isduGetResponseByte, hs, hc, hi, hz]
      rw [Function.iterate_succ_apply, Function.iterate_succ_apply, iterate_idle hidle, hidle, hz,
        if_neg (by omega)]
  · obtain ⟨hp, he⟩ := pending_iterate (c := c) (.inr ⟨hs, hlen, by omega⟩) k
    rw [pending_ready hs hi hc hlen] at hp
    have hlen' := length_responseStream c.segmentSeq c.responseBuf hz
    split_ifs with hk
    · rcases he with he | he
      · exfalso
        have hnil : (responseStream c.segmentSeq c.responseBuf c.responseLen).drop k = [] := by
          rw [← hp]
          simp [pending, he]
        have := List.drop_eq_nil_iff.mp hnil
        omega
      · exact he.1
    · refine idle_of_delivered he (by rw [responseLen_iterate]; omega) ?_
      rw [hp, List.drop_eq_nil_iff]
      omega

/-- **The framing of a response.** A response of `n` bytes that has just been prepared is delivered
    as `responseStream`, one byte per call, under every interleaving with `iolink_isdu_process` and
    with bytes whose START bit is clear. After `2 n` calls, or two for the empty response, the
    engine is IDLE; until then it stays in RESPONSE_READY. -/
theorem response_framing (cfg : BuildConfig) (h : Host) (c : IsduCtx) (n : ℕ) (hn : n ≤ 255)
    (hs : c.state = .responseReady) (hi : c.responseIdx = 0)
    (hc : c.isResponseControlSent = false) (hlen : c.responseLen = n) (ops : List IsduOp)
    (hops : ∀ op ∈ ops, op.Quiet) :
    responseBytes ((isduMachine cfg).outputs (c, h) ops) =
        ((List.range (getCount ops)).map fun k =>
          (responseStream c.segmentSeq c.responseBuf n)[k]?) ∧
      ((isduMachine cfg).final (c, h) ops).1.state =
        if getCount ops < 2 * max 1 n then .responseReady else .idle := by
  subst hlen
  have hem : Emits c := .inr ⟨hs, hn, by omega⟩
  obtain ⟨hf, ho⟩ := quiet_run cfg h hem ops hops
  rw [hf, ho, pending_ready hs hi hc hn]
  exact ⟨rfl, state_iterate hs hi hc hn _⟩

/-- The two bytes of the default vendor identifier. -/
theorem response_framing_vendorId :
    let c := { isduInit with
      state := .responseReady
      responseBuf := blit (fun _ => 0) 0 [0x12, 0x34]
      responseLen := 2
      segmentSeq := 63 }
    let ops : List IsduOp := [.getResponse, .process, .getResponse, .collect 0x7F, .getResponse,
      .collect 0x00, .getResponse, .getResponse]
    responseBytes ((isduMachine {}).outputs (c, hostInit) ops) =
        ((List.range (getCount ops)).map fun k =>
          (responseStream c.segmentSeq c.responseBuf 2)[k]?) ∧
      ((isduMachine {}).final (c, hostInit) ops).1.state = .idle :=
  response_framing {} hostInit _ 2 (by decide) rfl rfl rfl rfl _ (by decide)

end Iolinki
