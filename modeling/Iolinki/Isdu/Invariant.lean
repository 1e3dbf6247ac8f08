import Iolinki.Isdu.Soundness
import Iolinki.Isdu.Dispatch

/-!
# The representation invariant of the engine

`iolink_isdu_collect_byte` stores at `buffer_idx` and
`iolink_isdu_get_response_byte` reads at `response_idx` without comparing them
with the size of the arrays. `IsduInv` is what keeps them small on every byte
stream: a payload is collected for a write only and never beyond the announced
length, and every request starts with an empty response.

The objects around the engine belong to other modules, which change them between
two calls. `engineMachine` therefore takes them from outside at every call.

* `isduInv_step`: every call keeps the invariant.
* `isduInv_final`: it holds in every state reached from `iolink_isdu_init`.
-/

namespace Iolinki

open Iolinki.Lib

/-- The context of `iolink_isdu_init` after the pointers have been set. -/
def isduInitWith (eventCtx dsCtx dllCtx : Bool) : IsduCtx :=
  { isduInit with eventCtx := eventCtx, dsCtx := dsCtx, dllCtx := dllCtx }

/-- The engine between calls of arbitrary other code: every call comes with the
    objects as they are at that moment. -/
def engineMachine (cfg : BuildConfig) : Machine IsduCtx (Host × IsduOp) IsduOut where
  step c call := ((isduStep cfg (c, call.1) call.2).1.1, (isduStep cfg (c, call.1) call.2).2)

/-! ## The invariant -/

/-- The state that takes the next data byte. -/
def IsduCtx.phase (c : IsduCtx) : IsduState :=
  if c.state = .segmentCollect then c.nextState else c.state

/-- The states that `next_state` can name while a segment is awaited. -/
def segmentStates : List IsduState :=
  [.headerExtLen, .headerIndexHigh, .headerIndexLow, .headerSubindex, .dataCollect]

/-- The states that take a byte of the header. -/
def headerStates : List IsduState :=
  [.headerInitial, .headerExtLen, .headerIndexHigh, .headerIndexLow, .headerSubindex]

/-- The bounds on the indices of the engine. -/
structure IsduInv (c : IsduCtx) : Prop where
  notBusy : c.state ≠ .busy
  segmentSeq : c.segmentSeq.toNat ≤ 63
  responseIdx : c.responseIdx ≤ c.responseLen
  responseLen : c.responseLen ≤ 255
  /-- A request in progress has no response yet. -/
  fresh : ¬ c.state.AwaitsStart → c.responseIdx = 0
  nextState : c.state = .segmentCollect → c.nextState ∈ segmentStates
  header : c.phase ∈ headerStates → c.bufferIdx = 0
  data : c.phase = .dataCollect → c.header.type = .write ∧ c.bufferIdx < max 1 c.header.length.toNat
  execute : c.state = .serviceExecute → c.bufferIdx ≤ 255

theorem isduInv_initWith (eventCtx dsCtx dllCtx : Bool) :
    IsduInv (isduInitWith eventCtx dsCtx dllCtx) where
  notBusy h := by cases h
  segmentSeq := Nat.zero_le _
  responseIdx := le_rfl
  responseLen := Nat.zero_le _
  fresh _ := rfl
  nextState h := by cases h
  header _ := rfl
  data h := by cases h
  execute h := by cases h

/-- An engine that is not in the middle of a request. -/
theorem IsduInv.free {c : IsduCtx} (h : IsduInv c) (hc : ¬ c.state.Collecting) :
    c.state = .idle ∨ c.state = .responseReady ∨ c.state = .serviceExecute := by
  cases hs : c.state with
  | idle => exact .inl rfl
  | responseReady => exact .inr (.inl rfl)
  | serviceExecute => exact .inr (.inr rfl)
  | busy => exact absurd hs h.notBusy
  | headerInitial | headerExtLen | headerIndexHigh | headerIndexLow | headerSubindex
  | dataCollect | segmentCollect =>
    rw [hs] at hc
    exact absurd trivial hc

/-- Between requests only the numbers of the response matter. -/
theorem isduInv_of_awaitsStart {c : IsduCtx} (hs : c.state.AwaitsStart)
    (hseq : c.segmentSeq.toNat ≤ 63) (hidx : c.responseIdx ≤ c.responseLen)
    (hlen : c.responseLen ≤ 255) : IsduInv c := by
  refine ⟨?_, hseq, hidx, hlen, fun h => absurd hs h, ?_, ?_, ?_, ?_⟩
  · rcases hs with h | h <;> rw [h] <;> decide
  · intro h'
    rcases hs with h | h <;> rw [h] at h' <;> cases h'
  · intro h'
    unfold IsduCtx.phase at h'
    rcases hs with h | h <;> rw [h] at h' <;> simp [headerStates] at h'
  · intro h'
    unfold IsduCtx.phase at h'
    rcases hs with h | h <;> rw [h] at h' <;> cases h'
  · intro h'
    rcases hs with h | h <;> rw [h] at h' <;> cases h'

/-- An error answer that is ready to be sent. -/
theorem isduInv_error {c : IsduCtx} (hs : c.state = .responseReady) (hseq : c.segmentSeq.toNat ≤ 63)
    (hidx : c.responseIdx = 0) (hlen : c.responseLen = 2) : IsduInv c :=
  isduInv_of_awaitsStart (.inr hs) hseq (by omega) (by omega)

/-! ## The request parser -/

section Parser

variable {c : IsduCtx} (h : IsduInv c)

theorem toNat_seqBits_le (b : UInt8) : (seqBits b).toNat ≤ 63 := by
  rw [seqBits_toNat]
  omega

theorem toNat_nextSeq_le (seq : UInt8) : (nextSeq seq).toNat ≤ 63 := by
  rw [nextSeq_toNat]
  omega

theorem isduInv_startRequest (c : IsduCtx) (byte : UInt8) : IsduInv (c.startRequest byte) where
  notBusy h := by cases h
  segmentSeq := toNat_seqBits_le byte
  responseIdx := le_rfl
  responseLen := Nat.zero_le _
  fresh _ := rfl
  nextState h := by cases h
  header _ := rfl
  data h := by cases h
  execute h := by cases h

include h

/-- A byte of the header or of the payload, after which the next segment is
    awaited. -/
theorem isduInv_await (hs : ¬ c.state.AwaitsStart) {header : IsduHeader} {next : IsduState}
    (hnext : next ∈ segmentStates) {buffer : ℕ → UInt8} {bufferIdx : ℕ}
    (hheader : next ∈ headerStates → bufferIdx = 0)
    (hdata : next = .dataCollect →
      header.type = .write ∧ bufferIdx < max 1 header.length.toNat) :
    IsduInv ({ c with buffer := buffer, bufferIdx := bufferIdx }.await header next) where
  notBusy h' := by cases h'
  segmentSeq := h.segmentSeq
  responseIdx := h.responseIdx
  responseLen := h.responseLen
  fresh _ := h.fresh hs
  nextState _ := hnext
  header h' := hheader h'
  data h' := hdata h'
  execute h' := by cases h'

/-- The last byte of a request. -/
theorem isduInv_complete (hs : ¬ c.state.AwaitsStart) {header : IsduHeader} {buffer : ℕ → UInt8}
    {bufferIdx : ℕ} (hidx : bufferIdx ≤ 255) :
    IsduInv { c with
      buffer := buffer, bufferIdx := bufferIdx, header := header, state := .serviceExecute } where
  notBusy h' := by cases h'
  segmentSeq := h.segmentSeq
  responseIdx := h.responseIdx
  responseLen := h.responseLen
  fresh _ := h.fresh hs
  nextState h' := by cases h'
  header h' := by simp [IsduCtx.phase, headerStates] at h'
  data h' := by simp [IsduCtx.phase] at h'
  execute _ := hidx

theorem isduInv_headerInitial (hs : c.state = .headerInitial) (b : UInt8) :
    IsduInv (isduHeaderInitial c b).1 := by
  have hn : ¬ c.state.AwaitsStart := by rw [hs]; decide
  unfold isduHeaderInitial
  dsimp only
  split_ifs
  · exact isduInv_await h hn (by decide) (fun _ => rfl) fun h' => by
      cases h'
  · exact isduInv_await h hn (by decide) (fun _ => rfl) fun h' => by
      cases h'
  · exact isduInv_await h hn (by decide) (fun _ => rfl) fun h' => by
      cases h'
  · exact isduInv_error rfl h.segmentSeq rfl rfl

/-- The control byte of a further segment: the engine resumes in the state it
    has announced. -/
theorem isduInv_segmentControl (hs : c.state = .segmentCollect) (b : UInt8) :
    IsduInv (isduSegmentControl c b).1 := by
  have hphase : c.phase = c.nextState := by rw [IsduCtx.phase, if_pos hs]
  have hnext := h.nextState hs
  have hheader := h.header
  have hdata := h.data
  rw [hphase] at hheader hdata
  unfold isduSegmentControl
  split_ifs
  · exact isduInv_error rfl (Nat.zero_le _) rfl rfl
  · have hresume : ∀ s ∈ segmentStates, s ≠ .busy ∧ s ≠ .segmentCollect ∧ s ≠ .serviceExecute := by
      decide
    obtain ⟨h1, h2, h3⟩ := hresume _ hnext
    refine ⟨h1, toNat_seqBits_le b, h.responseIdx, h.responseLen, ?_, fun h' => absurd h' h2, ?_,
      ?_, fun h' => absurd h' h3⟩
    · exact fun _ => h.fresh (by rw [hs]; decide)
    · unfold IsduCtx.phase
      dsimp only
      rw [if_neg h2]
      exact hheader
    · unfold IsduCtx.phase
      dsimp only
      rw [if_neg h2]
      exact hdata

theorem isduInv_dataCollect (hs : c.state = .dataCollect) (b : UInt8) :
    IsduInv (isduCollectByte c b).1 := by
  have hn : ¬ c.state.AwaitsStart := by rw [hs]; decide
  obtain ⟨hw, hlt⟩ := h.data (by rw [IsduCtx.phase, if_neg (by rw [hs]; decide), hs])
  by_cases hlen : c.bufferIdx + 1 < c.header.length.toNat
  · rw [collectByte_dataCollect_more b hs hlen]
    exact isduInv_await h hn (by decide) (fun h' => by simp [headerStates] at h')
      fun _ => ⟨hw, by omega⟩
  · -- the byte completes the payload: the length is a byte
    rw [collectByte_dataCollect_last b hs (by omega)]
    have hbyte := c.header.length.toNat_lt
    exact isduInv_complete h hn (show c.bufferIdx + 1 ≤ 255 by omega)

/-- **Every byte keeps the invariant.** -/
theorem isduInv_collectByte (b : UInt8) : IsduInv (isduCollectByte c b).1 := by
  by_cases hstart : c.state.AwaitsStart ∧ startBit b = true
  · rw [collectByte_start hstart.1 hstart.2]
    exact isduInv_startRequest c b
  by_cases hcol : c.state.Collecting
  · have hphase : c.state ≠ .segmentCollect → c.phase = c.state := fun hne => if_neg hne
    cases hs : c.state with
    | headerInitial =>
      rw [collectByte_headerInitial b hs]
      exact isduInv_headerInitial h hs b
    | headerExtLen | headerIndexHigh | headerIndexLow =>
      have h0 := h.header (by rw [hphase (by rw [hs]; decide), hs]; decide)
      first
        | rw [collectByte_headerExtLen b hs]
        | rw [collectByte_headerIndexHigh b hs]
        | rw [collectByte_headerIndexLow b hs]
      exact isduInv_await h (by rw [hs]; decide) (by decide) (fun _ => h0) fun h' => by cases h'
    | headerSubindex =>
      have h0 := h.header (by rw [hphase (by rw [hs]; decide), hs]; decide)
      cases ht : c.header.type with
      | read =>
        rw [collectByte_headerSubindex_read b hs ht]
        exact isduInv_complete h (by rw [hs]; decide) (by omega)
      | write =>
        rw [collectByte_headerSubindex_write b hs ht]
        exact isduInv_await h (by rw [hs]; decide) (by decide)
          (fun h' => by simp [headerStates] at h') fun _ => ⟨ht, by omega⟩
    | dataCollect => exact isduInv_dataCollect h hs b
    | segmentCollect =>
      cases hb : startBit b with
      | true =>
        rw [collectByte_segmentCollect_start hs hb]
        exact isduInv_error rfl h.segmentSeq rfl rfl
      | false =>
        rw [collectByte_segmentCollect hs hb]
        exact isduInv_segmentControl h hs b
    | idle | serviceExecute | busy | responseReady => rw [hs] at hcol; exact hcol.elim
  · rw [collectByte_ignored hcol hstart]
    exact h

end Parser

/-! ## The other calls -/

theorem isduInv_getResponseByte {c : IsduCtx} (h : IsduInv c) :
    IsduInv (isduGetResponseByte c).1 := by
  by_cases hs : c.state = .responseReady
  · have hstart := (awaitsStart_step {} hostInit (.inr hs)).2
    unfold isduGetResponseByte at hstart ⊢
    rw [if_neg (not_not.mpr hs)] at hstart ⊢
    dsimp only at hstart ⊢
    have hidx := h.responseIdx
    split_ifs at hstart ⊢ with h1 h2 h3
    · exact isduInv_of_awaitsStart hstart h.segmentSeq h.responseIdx h.responseLen
    · exact isduInv_of_awaitsStart hstart h.segmentSeq h2 h.responseLen
    · exact isduInv_of_awaitsStart hstart (toNat_nextSeq_le _) h2 h.responseLen
    · exact isduInv_of_awaitsStart hstart h.segmentSeq h.responseIdx h.responseLen
  · rw [getResponseByte_of_ne hs]
    exact h

/-- What every answer of a handler satisfies. -/
def AnswerBounds (c : IsduCtx) : Prop :=
  c.segmentSeq.toNat ≤ 63 ∧ c.responseIdx = 0 ∧ c.responseLen ≤ 255

theorem handlerClosed_answerBounds : HandlerClosed AnswerBounds where
  putError _ hc := ⟨hc.1, hc.2.1, show 2 ≤ 255 by decide⟩
  putData data hc := ⟨hc.1, hc.2.1, show data.length % 256 ≤ 255 by omega⟩
  noData hc := ⟨hc.1, hc.2.1, Nat.zero_le _⟩
  responseReady hc := ⟨hc.1, rfl, hc.2.2⟩
  resetSeq hc := ⟨Nat.zero_le _, hc.2⟩
  resetPending hc := hc
  appResetPending hc := hc

theorem isduInv_process (cfg : BuildConfig) (host : Host) {c : IsduCtx} (h : IsduInv c) :
    IsduInv (isduProcess cfg host c).2 := by
  by_cases hs : c.state = .serviceExecute
  · have hstart := isduProcess_awaitsStart cfg host hs
    have h0 : AnswerBounds c := ⟨h.segmentSeq, h.fresh (by rw [hs]; decide), h.responseLen⟩
    obtain ⟨hseq, hidx, hlen⟩ := handlerClosed_answerBounds.handleStandardCommands h0 cfg host
    rw [isduProcess_execute cfg host hs] at hstart ⊢
    split_ifs at hstart ⊢
    · exact isduInv_of_awaitsStart hstart hseq (hidx.symm ▸ Nat.zero_le _) hlen
    · exact isduInv_of_awaitsStart hstart (Nat.zero_le _) (hidx.symm ▸ Nat.zero_le _) hlen
  · rw [isduProcess_of_ne cfg host hs]
    exact h

/-! ## Whole runs -/

/-- **Every call keeps the invariant.** -/
theorem isduInv_step (cfg : BuildConfig) (c : IsduCtx) (call : Host × IsduOp) (h : IsduInv c) :
    IsduInv ((engineMachine cfg).step c call).1 := by
  obtain ⟨host, op⟩ := call
  cases op with
  | collect b => exact isduInv_collectByte h b
  | process => exact isduInv_process cfg host h
  | getResponse => exact isduInv_getResponseByte h

theorem isduInv_final (cfg : BuildConfig) (eventCtx dsCtx dllCtx : Bool)
    (calls : List (Host × IsduOp)) :
    IsduInv ((engineMachine cfg).final (isduInitWith eventCtx dsCtx dllCtx) calls) := by
  exact (engineMachine cfg).final_invariant (isduInv_step cfg)
    (isduInv_initWith eventCtx dsCtx dllCtx) calls

end Iolinki
