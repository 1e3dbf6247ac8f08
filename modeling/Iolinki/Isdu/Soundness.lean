import Iolinki.Isdu.Request

/-!
# Every executed request was received

Whatever bytes are fed to the engine, and however the calls are interleaved, the
engine enters SERVICE_EXECUTE only at the end of a well-formed request, and the
header and the buffer then hold what the bytes of that request encode.

The bytes that count are those collected since the last accepted START control
byte; `sinceStart` computes them from the run. `Tracks c hist` is the invariant
that ties a context to them. It speaks about the collecting states only: a
request that is aborted (by a collision, a wrong sequence number or an unknown
service) leaves them, and the next accepted START begins with an empty history.

* `tracks_final`: the invariant holds along every run from `isduInit`.
* `serviceExecute_sound`: the bytes since the last START of a run that enters
  SERVICE_EXECUTE form a request, and the context holds that request.
-/

namespace Iolinki

open Iolinki.Lib

/-! ## What data bytes encode -/

/-- The index with the given high and low byte. -/
def indexOf (hi lo : UInt8) : UInt16 := hi.toUInt16 <<< 8 ||| lo.toUInt16

/-- The address and the payload that follow the length of a write. At least
    one payload byte is collected, also when the length is zero. -/
def decodeWrite (length : UInt8) : List UInt8 → Option (IsduHeader × List UInt8)
  | hi :: lo :: sub :: payload =>
    if payload.length = max 1 length.toNat then
      some (⟨.write, length, indexOf hi lo, sub⟩, payload)
    else none
  | _ => none

/-- The header and the payload that the data bytes of a request encode. -/
def decodeRequest : List UInt8 → Option (IsduHeader × List UInt8)
  | [] => none
  | service :: rest =>
    if service >>> 4 = 8 then
      match rest with
      | [hi, lo, sub] => some (⟨.read, 0, indexOf hi lo, sub⟩, [])
      | _ => none
    else if service >>> 4 = 9 then
      if service &&& 0x0F = 15 then
        match rest with
        | length :: rest => decodeWrite length rest
        | [] => none
      else decodeWrite (service &&& 0x0F) rest
    else none

/-- The bytes from the service byte up to the address of a request whose
    service has the given type and length. -/
inductive LengthPart : List UInt8 → ServiceType → UInt8 → Prop
  | read {service : UInt8} : service >>> 4 = 8 → LengthPart [service] .read 0
  | write {service : UInt8} : service >>> 4 = 9 → service &&& 0x0F ≠ 15 →
      LengthPart [service] .write (service &&& 0x0F)
  | writeExt {service length : UInt8} : service >>> 4 = 9 → service &&& 0x0F = 15 →
      LengthPart [service, length] .write length

theorem decodeRequest_read {pre : List UInt8} {length : UInt8} (h : LengthPart pre .read length)
    (hi lo sub : UInt8) :
    decodeRequest (pre ++ [hi, lo, sub]) = some (⟨.read, length, indexOf hi lo, sub⟩, []) := by
  cases h with
  | read hs => simp [decodeRequest, hs]

theorem decodeRequest_write {pre : List UInt8} {length : UInt8} (h : LengthPart pre .write length)
    (hi lo sub : UInt8) {payload : List UInt8} (hp : payload.length = max 1 length.toNat) :
    decodeRequest (pre ++ [hi, lo, sub] ++ payload) =
      some (⟨.write, length, indexOf hi lo, sub⟩, payload) := by
  cases h with
  | write hs hn => simp [decodeRequest, decodeWrite, hs, hn, hp]
  | writeExt hs hn => simp [decodeRequest, decodeWrite, hs, hn, hp]

/-! ## The bytes since the last START -/

/-- The bytes collected since the last accepted START control byte, given the
    ones before the call `op` on the context `c`. -/
def sinceStart (hist : List UInt8) (c : IsduCtx) : IsduOp → List UInt8
  | .collect b => if c.state.AwaitsStart ∧ startBit b = true then [b] else hist ++ [b]
  | _ => hist

/-- The engine together with the bytes since the last START. -/
def recordingMachine (cfg : BuildConfig) :
    Machine ((IsduCtx × Host) × List UInt8) IsduOp IsduOut :=
  (isduMachine cfg).withHistory fun hist s op => sinceStart hist s.1 op

theorem segments_concat (start : Bool) (s : UInt8) (segs : List (Bool × UInt8)) (last : Bool)
    (b : UInt8) :
    segments start s (segs ++ [(last, b)]) =
      segments start s segs ++ [ctrlByte (start && segs.isEmpty) last (seqAt s segs.length),
      b] := by
  induction segs generalizing start s with
  | nil => simp [seqAt_zero]
  | cons seg segs ih =>
    obtain ⟨l, d⟩ := seg
    simp [ih, seqAt_succ']

/-! ## The invariant -/

/-- What the data bytes received so far have left in the context when the next
    data byte belongs to the state `st`. -/
def Received (st : IsduState) (data : List UInt8) (c : IsduCtx) : Prop :=
  match st with
  | .headerInitial => data = []
  | .headerExtLen => ∃ service, data = [service] ∧ service >>> 4 = 9 ∧ service &&& 0x0F = 15 ∧
      c.header.type = .write ∧ c.bufferIdx = 0
  | .headerIndexHigh => LengthPart data c.header.type c.header.length ∧ c.bufferIdx = 0
  | .headerIndexLow => ∃ (pre : List UInt8) (hi : UInt8), data = pre ++ [hi] ∧
      LengthPart pre c.header.type c.header.length ∧ c.header.index = hi.toUInt16 <<< 8 ∧
      c.bufferIdx = 0
  | .headerSubindex => ∃ pre hi lo, data = pre ++ [hi, lo] ∧
      LengthPart pre c.header.type c.header.length ∧ c.header.index = indexOf hi lo ∧
      c.bufferIdx = 0
  | .dataCollect => ∃ pre hi lo, data = pre ++ [hi, lo, c.header.subindex] ++
        slice c.buffer 0 c.bufferIdx ∧
      c.header.type = .write ∧ LengthPart pre .write c.header.length ∧
      c.header.index = indexOf hi lo ∧
      c.bufferIdx + 1 ≤ max 1 c.header.length.toNat
  | _ => False

/-- The invariant: the bytes since the last START against the context. -/
inductive Tracks (c : IsduCtx) (hist : List UInt8) : Prop
  | other : ¬ c.state.Collecting → Tracks c hist
  /-- A control byte is expected. -/
  | control {s : UInt8} {segs : List (Bool × UInt8)} : c.state = .segmentCollect → segs ≠ [] →
      hist = segments true s segs → nextSeq c.segmentSeq = seqAt s segs.length →
      Received c.nextState (segs.map Prod.snd) c → Tracks c hist
  /-- A data byte is expected. -/
  | data {s : UInt8} {segs : List (Bool × UInt8)} {last : Bool} : c.state ≠ .segmentCollect →
      hist = segments true s segs ++ [ctrlByte segs.isEmpty last (seqAt s segs.length)] →
      c.segmentSeq = seqAt s segs.length →
      Received c.state (segs.map Prod.snd) c → Tracks c hist

/-- What a data byte can lead to. -/
inductive AfterData (data : List UInt8) (c : IsduCtx) : Prop
  | refused : ¬ c.state.Collecting → c.state ≠ .serviceExecute → AfterData data c
  | more : c.state = .segmentCollect → Received c.nextState data c → AfterData data c
  | complete : c.state = .serviceExecute →
      decodeRequest data = some (c.header, slice c.buffer 0 c.bufferIdx) → AfterData data c

/-! ## One step -/

theorem isduHeaderInitial_afterData (c : IsduCtx) (b : UInt8) :
    AfterData [b] (isduHeaderInitial c b).1 ∧
      (isduHeaderInitial c b).1.segmentSeq = c.segmentSeq := by
  have hnibble : b >>> 4 &&& (0x0F : UInt8) = b >>> 4 := by revert b; decide +kernel
  unfold isduHeaderInitial
  simp only [hnibble]
  by_cases h8 : b >>> 4 = 8
  · rw [if_pos h8]
    exact ⟨.more rfl ⟨.read h8, rfl⟩, rfl⟩
  rw [if_neg h8]
  by_cases h9 : b >>> 4 = 9
  · rw [if_pos h9]
    by_cases h15 : b &&& 0x0F = 15
    · rw [if_pos h15]
      exact ⟨.more rfl ⟨b, rfl, h9, h15, rfl, rfl⟩, rfl⟩
    · rw [if_neg h15]
      exact ⟨.more rfl ⟨.write h9 h15, rfl⟩, rfl⟩
  · rw [if_neg h9]
    exact ⟨.refused id (by simp [responseReady]), rfl⟩

/-- A data byte extends what has been received, or completes the request. -/
theorem received_collect {c : IsduCtx} {data : List UInt8} (h : Received c.state data c)
    (b : UInt8) : AfterData (data ++ [b]) (isduCollectByte c b).1 ∧
      (isduCollectByte c b).1.segmentSeq = c.segmentSeq := by
  cases hs : c.state with
  | headerInitial =>
    rw [hs] at h
    obtain rfl : data = [] := h
    rw [collectByte_headerInitial b hs]
    exact isduHeaderInitial_afterData c b
  | headerExtLen =>
    rw [hs] at h
    obtain ⟨service, rfl, h9, h15, ht, hi⟩ := h
    rw [collectByte_headerExtLen b hs]
    refine ⟨.more rfl ⟨?_, hi⟩, rfl⟩
    simp only [IsduCtx.await, ht]
    exact .writeExt h9 h15
  | headerIndexHigh =>
    rw [hs] at h
    rw [collectByte_headerIndexHigh b hs]
    exact ⟨.more rfl ⟨data, b, rfl, h.1, rfl, h.2⟩, rfl⟩
  | headerIndexLow =>
    rw [hs] at h
    obtain ⟨pre, hi, rfl, hl, hx, hi'⟩ := h
    rw [collectByte_headerIndexLow b hs]
    refine ⟨.more rfl ⟨pre, hi, b, by simp, hl, ?_, hi'⟩, rfl⟩
    simp only [IsduCtx.await, hx, indexOf]
  | headerSubindex =>
    rw [hs] at h
    obtain ⟨pre, hi, lo, rfl, hl, hx, hi'⟩ := h
    cases ht : c.header.type with
    | read =>
      rw [collectByte_headerSubindex_read b hs ht]
      refine ⟨.complete rfl ?_, rfl⟩
      rw [ht] at hl
      simp [decodeRequest_read hl, hi', ht, hx]
    | write =>
      rw [collectByte_headerSubindex_write b hs ht]
      rw [ht] at hl
      refine ⟨.more rfl ⟨pre, hi, lo, ?_, ht, hl, hx, ?_⟩, rfl⟩
      · simp [IsduCtx.await, hi']
      · simp [IsduCtx.await, hi']
  | dataCollect =>
    rw [hs] at h
    obtain ⟨pre, hi, lo, rfl, ht, hl, hx, hmax⟩ := h
    have hstore : slice (c.storeByte b).buffer 0 (c.storeByte b).bufferIdx =
        slice c.buffer 0 c.bufferIdx ++ [b] := slice_update_end ..
    by_cases hfull : c.header.length.toNat ≤ c.bufferIdx + 1
    · rw [collectByte_dataCollect_last b hs hfull]
      refine ⟨.complete rfl ?_, rfl⟩
      have hlen : (slice (c.storeByte b).buffer 0 (c.storeByte b).bufferIdx).length =
          max 1 c.header.length.toNat := by
        rw [length_slice]
        simp only [IsduCtx.storeByte]
        omega
      rw [List.append_assoc, ← hstore, decodeRequest_write hl _ _ _ hlen]
      simp [IsduCtx.storeByte, ← ht, ← hx]
    · rw [collectByte_dataCollect_more b hs (by omega)]
      refine ⟨.more rfl ⟨pre, hi, lo, ?_, ht, hl, hx, ?_⟩, rfl⟩
      · rw [List.append_assoc, ← hstore]
        rfl
      · simp only [IsduCtx.await, IsduCtx.storeByte]
        omega
  | idle | segmentCollect | serviceExecute | responseReady | busy =>
    rw [hs] at h
    exact h.elim

theorem tracks_of_start (c : IsduCtx) {b : UInt8} (hb : startBit b = true) :
    Tracks (c.startRequest b) [b] := by
  refine @Tracks.data _ _ (seqBits b) [] (lastBit b) (by simp [IsduCtx.startRequest]) ?_ ?_ rfl
  · have h := ctrlByte_startBit_lastBit_seqBits b
    rw [hb] at h
    simp only [segments_nil, List.nil_append, List.isEmpty_nil, List.length_nil, seqAt_zero,
      ctrlByte_seqBits] at h ⊢
    rw [h]
  · simp only [IsduCtx.startRequest, List.length_nil, seqAt_zero]
    revert b; decide +kernel

theorem Received.state_ne {st : IsduState} {data : List UInt8} {c : IsduCtx}
    (h : Received st data c) : st.Collecting ∧ st ≠ .segmentCollect := by
  cases st <;> first | exact h.elim | exact ⟨trivial, by simp⟩

/-- `bytes` are the stream of a request, and the context holds that request. -/
def Executes (bytes : List UInt8) (c : IsduCtx) : Prop :=
  ∃ (s : UInt8) (segs : List (Bool × UInt8)), bytes = segments true s segs ∧
    decodeRequest (segs.map Prod.snd) = some (c.header, slice c.buffer 0 c.bufferIdx)

/-- A byte keeps the invariant, and completes a request if it leads to
    SERVICE_EXECUTE. -/
theorem tracks_collect {c : IsduCtx} {hist : List UInt8} (h : Tracks c hist) (b : UInt8) :
    Tracks (isduCollectByte c b).1 (sinceStart hist c (.collect b)) ∧
      (c.state ≠ .serviceExecute → (isduCollectByte c b).1.state = .serviceExecute →
        Executes (sinceStart hist c (.collect b)) (isduCollectByte c b).1) := by
  cases h with
  | other hc =>
    by_cases hb : c.state.AwaitsStart ∧ startBit b = true
    · rw [collectByte_start hb.1 hb.2, sinceStart, if_pos hb]
      exact ⟨tracks_of_start c hb.2, fun _ he => by cases he⟩
    · rw [collectByte_ignored hc hb]
      exact ⟨.other hc, fun hn he => absurd he hn⟩
  | @control s segs hs hne hist_eq hseq hrec =>
    have hsince : sinceStart hist c (.collect b) = hist ++ [b] := by
      simp [sinceStart, IsduState.AwaitsStart, hs]
    rw [hsince]
    cases hb : startBit b with
    | true =>
      rw [collectByte_segmentCollect_start hs hb]
      exact ⟨.other id, fun _ he => by cases he⟩
    | false =>
      rw [collectByte_segmentCollect hs hb]
      unfold isduSegmentControl
      by_cases hq : seqBits b ≠ nextSeq c.segmentSeq
      · rw [if_pos hq]
        exact ⟨.other id, fun _ he => by cases he⟩
      · rw [if_neg hq]
        rw [not_not] at hq
        obtain ⟨hcol, hnseg⟩ := hrec.state_ne
        refine ⟨@Tracks.data _ _ s segs (lastBit b) hnseg ?_ (hq.trans hseq) hrec,
          fun _ (he : c.nextState = _) => absurd hcol (by rw [he]; exact id)⟩
        have hctrl := ctrlByte_startBit_lastBit_seqBits b
        rw [hb, hq, hseq] at hctrl
        rw [hist_eq, List.isEmpty_eq_false_iff.mpr hne, hctrl]
  | @data s segs last hns hist_eq hseq hrec =>
    have hcol := hrec.state_ne.1
    have hsince : sinceStart hist c (.collect b) = segments true s (segs ++ [(last, b)]) := by
      have : ¬ c.state.AwaitsStart := by
        rintro (he | he) <;> rw [he] at hcol <;> exact hcol
      simp [sinceStart, this, hist_eq, segments_concat]
    rw [hsince]
    obtain ⟨hafter, hseq'⟩ := received_collect hrec b
    have hmap : (segs ++ [(last, b)]).map Prod.snd = segs.map Prod.snd ++ [b] := by simp
    cases hafter with
    | refused h1 h2 => exact ⟨.other h1, fun _ he => absurd he h2⟩
    | more h1 h2 =>
      refine ⟨.control h1 (by simp) rfl ?_ (hmap ▸ h2), fun _ he => by rw [h1] at he; cases he⟩
      rw [hseq', hseq, List.length_append, List.length_singleton, seqAt_succ]
    | complete h1 h2 =>
      exact ⟨.other (by rw [h1]; exact id), fun _ _ => ⟨s, _, rfl, hmap ▸ h2⟩⟩

/-! ## Whole runs -/

theorem isduProcess_awaitsStart (cfg : BuildConfig) (h : Host) {c : IsduCtx}
    (hs : c.state = .serviceExecute) : (isduProcess cfg h c).2.state.AwaitsStart := by
  rw [isduProcess_execute cfg h hs]
  split_ifs with hr
  · exact .inl rfl
  · exact .inr (not_not.mp hr)

/-- Every call keeps the invariant, and completes a request if it leads to
    SERVICE_EXECUTE. -/
theorem tracks_step (cfg : BuildConfig) (c : IsduCtx) (h : Host) {hist : List UInt8}
    (ht : Tracks c hist) (op : IsduOp) :
    Tracks (isduStep cfg (c, h) op).1.1 (sinceStart hist c op) ∧
      (c.state ≠ .serviceExecute → (isduStep cfg (c, h) op).1.1.state = .serviceExecute →
        Executes (sinceStart hist c op) (isduStep cfg (c, h) op).1.1) := by
  cases op with
  | collect b => exact tracks_collect ht b
  | process =>
    by_cases hs : c.state = .serviceExecute
    · exact ⟨.other (not_collecting_of_awaitsStart (isduProcess_awaitsStart cfg h hs)),
        fun hn => absurd hs hn⟩
    · simp only [isduStep, isduProcess_of_ne cfg h hs, sinceStart]
      exact ⟨ht, fun _ he => absurd he hs⟩
  | getResponse =>
    by_cases hs : c.state = .responseReady
    · have hstart := (awaitsStart_step cfg h (.inr hs)).2
      refine ⟨.other (not_collecting_of_awaitsStart hstart), fun _ he => ?_⟩
      simp only [isduStep] at he
      rcases hstart with h' | h' <;> rw [h'] at he <;> cases he
    · simp only [isduStep, getResponseByte_of_ne hs, sinceStart]
      exact ⟨ht, fun hn he => absurd he hn⟩

/-- The invariant along every run from power-on. -/
theorem tracks_final (cfg : BuildConfig) (h : Host) (ops : List IsduOp) :
    let s := (recordingMachine cfg).final ((isduInit, h), []) ops
    Tracks s.1.1 s.2 :=
  (recordingMachine cfg).final_invariant (P := fun s => Tracks s.1.1 s.2)
    (fun s op hs => (tracks_step cfg s.1.1 s.1.2 hs op).1) (.other id) ops

/-- **Only received requests are executed.** After any calls `ops` from `iolink_isdu_init`, if the
    call `op` takes the engine to SERVICE_EXECUTE, then the bytes since the last accepted START are
    the stream of a request, and the header and the buffer hold exactly what its data bytes
    encode. -/
theorem serviceExecute_sound (cfg : BuildConfig) (h : Host) (ops : List IsduOp) (op : IsduOp) :
    let before := (recordingMachine cfg).final ((isduInit, h), []) ops
    let after := (recordingMachine cfg).final ((isduInit, h), []) (ops ++ [op])
    before.1 = (isduMachine cfg).final (isduInit, h) ops ∧
    after.1 = (isduMachine cfg).final (isduInit, h) (ops ++ [op]) ∧
    (before.1.1.state ≠ .serviceExecute → after.1.1.state = .serviceExecute →
      ∃ (s : UInt8) (segs : List (Bool × UInt8)), after.2 = segments true s segs ∧
        decodeRequest (segs.map Prod.snd) =
          some (after.1.1.header, slice after.1.1.buffer 0 after.1.1.bufferIdx)) := by
  refine ⟨Machine.final_withHistory_fst .., Machine.final_withHistory_fst .., ?_⟩
  have ht := tracks_final cfg h ops
  rw [Machine.final_append]
  exact (tracks_step cfg _ _ ht op).2

/-- A read of index 0x0010 that follows an aborted write. -/
theorem serviceExecute_sound_vendorName :
    let after := (recordingMachine {}).final ((isduInit, hostInit), [])
      ([0x80, 0x93, 0x03, 0xC5, 0x80, 0x06, 0x00, 0x07, 0x10, 0x08].map .collect ++ [.collect 0x00])
    after.2 = [0xC5, 0x80, 0x06, 0x00, 0x07, 0x10, 0x08, 0x00] ∧
    ∃ (s : UInt8) (segs : List (Bool × UInt8)), after.2 = segments true s segs ∧
      decodeRequest (segs.map Prod.snd) =
        some (after.1.1.header, slice after.1.1.buffer 0 after.1.1.bufferIdx) :=
  ⟨by decide, (serviceExecute_sound {} hostInit
    ([0x80, 0x93, 0x03, 0xC5, 0x80, 0x06, 0x00, 0x07, 0x10, 0x08].map .collect)
    (.collect 0x00)).2.2 (by decide) (by decide)⟩

end Iolinki
