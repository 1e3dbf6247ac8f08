import Iolinki.Isdu.Invariant

/-!
# Engines that cannot be told apart

A request leaves traces in the context: the header and the payload of the last
request, the bytes of the last answer. A START control byte that opens a request
resets the indices, but none of these. `Alike` relates two contexts that differ in
such traces only: the fields of the header count from the byte on that sets them,
the arrays count up to their index.

* `alike_startRequest`: after the first byte of a request the traces are all that
  is left of the past.
* `alike_collectByte`, `alike_getResponseByte`, `alike_isduProcess`: the calls keep
  the relation, return the same and do the same to the objects around the engine.
-/

namespace Iolinki

open Iolinki.Lib

/-- How much of the header is known when a byte is expected in the state. -/
def IsduState.rank : IsduState → ℕ
  | .headerExtLen => 1
  | .headerIndexHigh => 2
  | .headerIndexLow => 3
  | .headerSubindex => 4
  | .dataCollect | .serviceExecute => 5
  | _ => 0

/-- The contexts differ only in what no call will read. -/
structure Alike (c c' : IsduCtx) : Prop where
  state : c'.state = c.state
  nextState : c.state = .segmentCollect → c'.nextState = c.nextState
  segmentSeq : c'.segmentSeq = c.segmentSeq
  isResponseControlSent : c'.isResponseControlSent = c.isResponseControlSent
  type : 1 ≤ c.phase.rank → c'.header.type = c.header.type
  length : 2 ≤ c.phase.rank → c'.header.length = c.header.length
  index : 3 ≤ c.phase.rank → c'.header.index = c.header.index
  subindex : 5 ≤ c.phase.rank → c'.header.subindex = c.header.subindex
  bufferIdx : c'.bufferIdx = c.bufferIdx
  buffer : slice c'.buffer 0 c.bufferIdx = slice c.buffer 0 c.bufferIdx
  responseIdx : c'.responseIdx = c.responseIdx
  responseLen : c'.responseLen = c.responseLen
  responseBuf : slice c'.responseBuf 0 c.responseLen = slice c.responseBuf 0 c.responseLen
  eventCtx : c'.eventCtx = c.eventCtx
  dsCtx : c'.dsCtx = c.dsCtx
  dllCtx : c'.dllCtx = c.dllCtx

/-- The pointers of the contexts agree. -/
def SameWiring (c c' : IsduCtx) : Prop :=
  c'.eventCtx = c.eventCtx ∧ c'.dsCtx = c.dsCtx ∧ c'.dllCtx = c.dllCtx

/-- A request starts afresh. -/
theorem alike_startRequest {c c' : IsduCtx} (h : SameWiring c c') (byte : UInt8) :
    Alike (c.startRequest byte) (c'.startRequest byte) where
  state := rfl
  nextState h' := by cases h'
  segmentSeq := rfl
  isResponseControlSent := rfl
  type h' := absurd h' (show ¬ 1 ≤ 0 by decide)
  length h' := absurd h' (show ¬ 2 ≤ 0 by decide)
  index h' := absurd h' (show ¬ 3 ≤ 0 by decide)
  subindex h' := absurd h' (show ¬ 5 ≤ 0 by decide)
  bufferIdx := rfl
  buffer := rfl
  responseIdx := rfl
  responseLen := rfl
  responseBuf := rfl
  eventCtx := h.1
  dsCtx := h.2.1
  dllCtx := h.2.2

section Steps

variable {c c' : IsduCtx} (h : Alike c c')

include h

theorem Alike.sameWiring : SameWiring c c' := ⟨h.eventCtx, h.dsCtx, h.dllCtx⟩

theorem Alike.header (hr : 5 ≤ c.phase.rank) : c'.header = c.header := by
  have h1 := h.type (by omega)
  have h2 := h.length (by omega)
  have h3 := h.index (by omega)
  have h4 := h.subindex hr
  cases hc : c.header
  cases hc' : c'.header
  rw [hc, hc'] at h1 h2 h3 h4
  dsimp only at h1 h2 h3 h4
  rw [h1, h2, h3, h4]

/-- A byte of the header, after which the next segment is awaited. -/
theorem Alike.await {header header' : IsduHeader} {next : IsduState}
    (htype : 1 ≤ next.rank → header'.type = header.type)
    (hlength : 2 ≤ next.rank → header'.length = header.length)
    (hindex : 3 ≤ next.rank → header'.index = header.index)
    (hsub : 5 ≤ next.rank → header'.subindex = header.subindex) :
    Alike (c.await header next) (c'.await header' next) :=
  { h with
    state := rfl
    nextState := fun _ => rfl
    type := htype
    length := hlength
    index := hindex
    subindex := hsub }

/-- The request is complete. -/
theorem Alike.complete {header header' : IsduHeader} (hheader : header' = header) :
    Alike { c with header := header, state := .serviceExecute }
      { c' with header := header', state := .serviceExecute } :=
  { h with
    state := rfl
    nextState := fun h' => by cases h'
    type := fun _ => congrArg IsduHeader.type hheader
    length := fun _ => congrArg IsduHeader.length hheader
    index := fun _ => congrArg IsduHeader.index hheader
    subindex := fun _ => congrArg IsduHeader.subindex hheader }

theorem Alike.resetIdx :
    Alike { c with bufferIdx := 0 } { c' with bufferIdx := 0 } :=
  { h with
    bufferIdx := rfl
    buffer := rfl }

theorem Alike.storeByte (b : UInt8) : Alike (c.storeByte b) (c'.storeByte b) :=
  { h with
    bufferIdx := congrArg (· + 1) h.bufferIdx
    buffer := by
      show slice (Function.update c'.buffer c'.bufferIdx b) 0 (c.bufferIdx + 1) =
        slice (Function.update c.buffer c.bufferIdx b) 0 (c.bufferIdx + 1)
      rw [h.bufferIdx, slice_update_end, slice_update_end, h.buffer] }

/-! ## Answers -/

theorem Alike.putError (code : UInt8) : Alike (putError c code) (putError c' code) :=
  { h with
    responseLen := rfl
    responseBuf := rfl }

theorem Alike.putData (data : List UInt8) : Alike (putData c data) (putData c' data) :=
  { h with
    responseLen := rfl
    responseBuf := by
      have hlen : 0 + data.length % 256 ≤ data.length := by
        rw [Nat.zero_add]
        exact Nat.mod_le _ _
      exact (slice_blit_of_le c'.responseBuf data hlen).trans
        (slice_blit_of_le c.responseBuf data hlen).symm }

theorem Alike.noData : Alike { c with responseLen := 0 } { c' with responseLen := 0 } :=
  { h with
    responseLen := rfl
    responseBuf := rfl }

/-- Nothing of the header counts between requests. -/
theorem Alike.setState {s : IsduState} (hs : s.AwaitsStart) :
    Alike { c with state := s } { c' with state := s } := by
  have hrank : ({ c with state := s } : IsduCtx).phase.rank = 0 := by
    rcases hs with rfl | rfl <;> rfl
  exact { h with
    state := rfl
    nextState := fun h' => by
      rcases hs with rfl | rfl <;> cases h'
    type := fun h' => absurd h' (by omega)
    length := fun h' => absurd h' (by omega)
    index := fun h' => absurd h' (by omega)
    subindex := fun h' => absurd h' (by omega) }

theorem Alike.responseReady : Alike (responseReady c) (responseReady c') :=
  { h.setState (.inr rfl) with
    responseIdx := rfl }

theorem Alike.resetSeq : Alike (resetSeq c) (resetSeq c') :=
  { h with
    segmentSeq := rfl }

theorem Alike.restartSegments : Alike (restartSegments c) (restartSegments c') :=
  { h with
    segmentSeq := rfl
    isResponseControlSent := rfl }

theorem Alike.error (code : UInt8) :
    Alike (Iolinki.responseReady (Iolinki.putError c code))
      (Iolinki.responseReady (Iolinki.putError c' code)) :=
  (h.putError code).responseReady

theorem Alike.answerData (data : List UInt8) :
    Alike (Iolinki.responseReady (Iolinki.putData c data))
      (Iolinki.responseReady (Iolinki.putData c' data)) :=
  (h.putData data).responseReady

theorem Alike.answerEmpty : Alike (answerEmpty c) (answerEmpty c') := h.noData.responseReady

end Steps

/-! ## The request parser -/

section Parser

variable {c c' : IsduCtx} (h : Alike c c')

include h

theorem alike_headerInitial (b : UInt8) :
    Alike (isduHeaderInitial c b).1 (isduHeaderInitial c' b).1 := by
  unfold isduHeaderInitial
  dsimp only
  split_ifs
  · exact h.resetIdx.await (fun _ => rfl) (fun _ => rfl) (fun h' => absurd h' (by decide))
      fun h' => absurd h' (by decide)
  · exact h.resetIdx.await (fun _ => rfl) (fun h' => absurd h' (by decide))
      (fun h' => absurd h' (by decide)) fun h' => absurd h' (by decide)
  · exact h.resetIdx.await (fun _ => rfl) (fun _ => rfl) (fun h' => absurd h' (by decide))
      fun h' => absurd h' (by decide)
  · exact h.error _

theorem alike_segmentControl (hs : c.state = .segmentCollect) (b : UInt8) :
    Alike (isduSegmentControl c b).1 (isduSegmentControl c' b).1 := by
  have hnext := h.nextState hs
  have hphase : c.phase = c.nextState := if_pos hs
  unfold isduSegmentControl
  rw [h.segmentSeq]
  split_ifs
  · exact (h.error _).restartSegments
  · have hresume : ({ c with
        segmentSeq := seqBits b, isSegmented := !lastBit b,
        state := c.nextState } : IsduCtx).phase.rank =
        c.phase.rank := by
      rw [hphase]
      unfold IsduCtx.phase
      dsimp only
      split_ifs <;> rfl
    have htype := h.type
    have hlength := h.length
    have hindex := h.index
    have hsub := h.subindex
    rw [← hresume] at htype hlength hindex hsub
    exact { h with
      state := hnext
      nextState := fun _ => hnext
      segmentSeq := rfl
      type := htype
      length := hlength
      index := hindex
      subindex := hsub }

/-- **A byte keeps the relation.** -/
theorem alike_collectByte (b : UInt8) : Alike (isduCollectByte c b).1 (isduCollectByte c' b).1 := by
  by_cases hstart : c.state.AwaitsStart ∧ startBit b = true
  · rw [collectByte_start hstart.1 hstart.2, collectByte_start (h.state ▸ hstart.1) hstart.2]
    exact alike_startRequest h.sameWiring b
  by_cases hcol : c.state.Collecting
  · have hphase : c.state ≠ .segmentCollect → c.phase = c.state := fun hne => if_neg hne
    cases hs : c.state with
    | headerInitial =>
      rw [collectByte_headerInitial b hs, collectByte_headerInitial b (h.state.trans hs)]
      exact alike_headerInitial h b
    | headerExtLen =>
      have hrank : c.phase.rank = 1 := by rw [hphase (by rw [hs]; decide), hs]; rfl
      rw [collectByte_headerExtLen b hs, collectByte_headerExtLen b (h.state.trans hs)]
      exact h.await (fun _ => h.type (by omega)) (fun _ => rfl) (fun h' => absurd h' (by decide))
        fun h' => absurd h' (by decide)
    | headerIndexHigh =>
      have hrank : c.phase.rank = 2 := by rw [hphase (by rw [hs]; decide), hs]; rfl
      rw [collectByte_headerIndexHigh b hs, collectByte_headerIndexHigh b (h.state.trans hs)]
      exact h.await (fun _ => h.type (by omega)) (fun _ => h.length (by omega)) (fun _ => rfl)
        fun h' => absurd h' (by decide)
    | headerIndexLow =>
      have hrank : c.phase.rank = 3 := by rw [hphase (by rw [hs]; decide), hs]; rfl
      rw [collectByte_headerIndexLow b hs, collectByte_headerIndexLow b (h.state.trans hs)]
      exact h.await (fun _ => h.type (by omega)) (fun _ => h.length (by omega))
        (fun _ => congrArg (· ||| b.toUInt16) (h.index (by omega))) fun h' => absurd h' (by decide)
    | headerSubindex =>
      have hrank : c.phase.rank = 4 := by rw [hphase (by rw [hs]; decide), hs]; rfl
      have htype := h.type (by omega)
      have hheader : ({ c'.header with subindex := b } : IsduHeader) =
          { c.header with subindex := b } := by
        dsimp only
        rw [htype, h.length (by omega), h.index (by omega)]
      cases ht : c.header.type with
      | read =>
        rw [collectByte_headerSubindex_read b hs ht,
          collectByte_headerSubindex_read b (h.state.trans hs) (htype.trans ht)]
        exact h.complete hheader
      | write =>
        rw [collectByte_headerSubindex_write b hs ht,
          collectByte_headerSubindex_write b (h.state.trans hs) (htype.trans ht)]
        dsimp only
        rw [hheader]
        exact h.await (fun _ => rfl) (fun _ => rfl) (fun _ => rfl) fun _ => rfl
    | dataCollect =>
      have hheader := h.header (by rw [hphase (by rw [hs]; decide), hs]; decide)
      by_cases hlen : c.bufferIdx + 1 < c.header.length.toNat
      · rw [collectByte_dataCollect_more b hs hlen,
          collectByte_dataCollect_more b (h.state.trans hs)
          (by rw [hheader, h.bufferIdx]; exact hlen), hheader]
        exact (h.storeByte b).await (fun _ => rfl) (fun _ => rfl) (fun _ => rfl) fun _ => rfl
      · rw [collectByte_dataCollect_last b hs (by omega), collectByte_dataCollect_last b
          (h.state.trans hs) (by rw [hheader, h.bufferIdx]; omega)]
        exact (h.storeByte b).complete hheader
    | segmentCollect =>
      cases hb : startBit b with
      | true =>
        rw [collectByte_segmentCollect_start hs hb,
          collectByte_segmentCollect_start (h.state.trans hs) hb]
        exact { h.error isduErrorBusy with isResponseControlSent := rfl }
      | false =>
        rw [collectByte_segmentCollect hs hb, collectByte_segmentCollect (h.state.trans hs) hb]
        exact alike_segmentControl h hs b
    | idle | serviceExecute | busy | responseReady => rw [hs] at hcol; exact hcol.elim
  · rw [collectByte_ignored hcol hstart, collectByte_ignored (h.state.symm ▸ hcol)
      (h.state.symm ▸ hstart)]
    exact h

end Parser

/-! ## The response emitter -/

theorem eq_of_slice_eq {f g : ℕ → UInt8} {n i : ℕ} (h : slice f 0 n = slice g 0 n) (hi : i < n) :
    f i = g i := by
  have h' : (slice f 0 n).getD i 0 = (slice g 0 n).getD i 0 := by rw [h]
  rwa [getD_slice f 0 hi, getD_slice g 0 hi, Nat.zero_add] at h'

section Emitter

variable {c : IsduCtx} (hs : c.state = .responseReady)

include hs

theorem getResponseByte_control (hsent : c.isResponseControlSent = false) :
    isduGetResponseByte c =
      ({ c with isResponseControlSent := true }, some (responseControl c)) := by
  simp [isduGetResponseByte, hs, hsent]

theorem getResponseByte_last (hsent : c.isResponseControlSent = true)
    (hlast : c.responseIdx + 1 = c.responseLen) :
    isduGetResponseByte c =
      ({ c with responseIdx := c.responseIdx + 1, state := .idle },
        some (c.responseBuf c.responseIdx)) := by
  simp [isduGetResponseByte, hs, hsent, hlast, show c.responseIdx < c.responseLen by omega]

theorem getResponseByte_more (hsent : c.isResponseControlSent = true)
    (hmore : c.responseIdx + 1 < c.responseLen) :
    isduGetResponseByte c =
      ({ c with
          responseIdx := c.responseIdx + 1
          isResponseControlSent := false
          segmentSeq := nextSeq c.segmentSeq }, some (c.responseBuf c.responseIdx)) := by
  simp [isduGetResponseByte, hs, hsent, show c.responseIdx < c.responseLen by omega,
    show ¬ c.responseLen ≤ c.responseIdx + 1 by omega]

theorem getResponseByte_done (hsent : c.isResponseControlSent = true)
    (hdone : c.responseLen ≤ c.responseIdx) :
    isduGetResponseByte c = ({ c with state := .idle }, none) := by
  simp [isduGetResponseByte, hs, hsent, show ¬ c.responseIdx < c.responseLen by omega]

end Emitter

/-- **A response byte is the same, and the relation is kept.** -/
theorem alike_getResponseByte {c c' : IsduCtx} (h : Alike c c') :
    Alike (isduGetResponseByte c).1 (isduGetResponseByte c').1 ∧
      (isduGetResponseByte c').2 = (isduGetResponseByte c).2 := by
  by_cases hs : c.state = .responseReady
  swap
  · rw [getResponseByte_of_ne hs, getResponseByte_of_ne (h.state.symm ▸ hs)]
    exact ⟨h, rfl⟩
  have hs' := h.state.trans hs
  cases hsent : c.isResponseControlSent with
  | false =>
    rw [getResponseByte_control hs hsent,
      getResponseByte_control hs' (h.isResponseControlSent.trans hsent)]
    refine ⟨{ h with isResponseControlSent := rfl }, ?_⟩
    unfold responseControl
    rw [h.responseIdx, h.responseLen, h.segmentSeq]
  | true =>
    have hsent' := h.isResponseControlSent.trans hsent
    have hidx := h.responseIdx
    have hlen := h.responseLen
    have hbyte : c.responseIdx < c.responseLen →
        c'.responseBuf c'.responseIdx = c.responseBuf c.responseIdx := by
      intro hlt
      rw [hidx]
      exact eq_of_slice_eq h.responseBuf hlt
    rcases Nat.lt_trichotomy (c.responseIdx + 1) c.responseLen with hmore | hlast | hdone
    · rw [getResponseByte_more hs hsent hmore, getResponseByte_more hs' hsent' (by omega),
        hbyte (by omega)]
      exact ⟨{ h with
        responseIdx := congrArg (· + 1) hidx
        isResponseControlSent := rfl
        segmentSeq := congrArg nextSeq h.segmentSeq }, rfl⟩
    · rw [getResponseByte_last hs hsent hlast, getResponseByte_last hs' hsent' (by omega),
        hbyte (by omega)]
      exact ⟨{ h.setState (.inl rfl) with responseIdx := congrArg (· + 1) hidx }, rfl⟩
    · rw [getResponseByte_done hs hsent (by omega), getResponseByte_done hs' hsent' (by omega)]
      exact ⟨h.setState (.inl rfl), rfl⟩

/-! ## The handlers -/

theorem alike_ite {p q : Prop} [Decidable p] [Decidable q] (hpq : p ↔ q) {a a' b b' : IsduCtx}
    (ha : Alike a a') (hb : Alike b b') : Alike (if p then a else b) (if q then a' else b') := by
  by_cases hp : p
  · rw [if_pos hp, if_pos (hpq.mp hp)]
    exact ha
  · rw [if_neg hp, if_neg (mt hpq.mpr hp)]
    exact hb

/-- The handlers do the same to the objects around two engines, and answer the
    same. -/
def SameAnswer (a b : Host × IsduCtx) : Prop := b.1 = a.1 ∧ Alike a.2 b.2

theorem sameAnswer_ite_of_iff {p q : Prop} [Decidable p] [Decidable q] (hpq : p ↔ q)
    {a a' b b' : Host × IsduCtx} (ha : p → SameAnswer a a') (hb : ¬ p → SameAnswer b b') :
    SameAnswer (if p then a else b) (if q then a' else b') := by
  by_cases hp : p
  · rw [if_pos hp, if_pos (hpq.mp hp)]
    exact ha hp
  · rw [if_neg hp, if_neg (mt hpq.mpr hp)]
    exact hb hp

theorem sameAnswer_ite {p : Prop} [Decidable p] {a a' b b' : Host × IsduCtx}
    (ha : p → SameAnswer a a') (hb : ¬ p → SameAnswer b b') :
    SameAnswer (if p then a else b) (if p then a' else b') :=
  sameAnswer_ite_of_iff Iff.rfl ha hb

section Handlers

variable (cfg : BuildConfig) (host : Host) {c c' : IsduCtx} (h : Alike c c')
  (hheader : c'.header = c.header)

include h

theorem sameAnswer_putData (data : List UInt8) :
    SameAnswer (host, responseReady (putData c data)) (host, responseReady (putData c' data)) :=
  ⟨rfl, h.answerData data⟩

theorem sameAnswer_putError (code : UInt8) :
    SameAnswer (host, responseReady (putError c code)) (host, responseReady (putError c' code)) :=
  ⟨rfl, h.error code⟩

theorem sameAnswer_ds {host : Host} (ret : Int) :
    SameAnswer (host, dsAnswer c ret) (host, dsAnswer c' ret) := by
  unfold dsAnswer
  split_ifs
  · exact ⟨rfl, h.error _⟩
  · exact ⟨rfl, h.error _⟩
  · exact ⟨rfl, h.error _⟩
  · exact ⟨rfl, h.answerEmpty⟩

theorem sameAnswer_dsLegacy {host : Host} (ret : Int) :
    SameAnswer (host, dsLegacyAnswer c ret) (host, dsLegacyAnswer c' ret) := by
  unfold dsLegacyAnswer
  split_ifs
  · exact ⟨rfl, h.error _⟩
  · exact ⟨rfl, h.answerEmpty⟩

theorem sameAnswer_systemCommand (cmd : UInt8) :
    SameAnswer (handleSystemCommand host c cmd) (handleSystemCommand host c' cmd) := by
  have hempty : ∀ host, SameAnswer (host, answerEmpty c) (host, answerEmpty c') :=
    fun _ => ⟨rfl, h.answerEmpty⟩
  have hreset : Alike { c with resetPending := true } { c' with resetPending := true } := { h with }
  have happ : Alike { c with appResetPending := true } { c' with appResetPending := true } :=
    { h with }
  have hds : (c.dsCtx : Prop) ↔ c'.dsCtx := by rw [h.dsCtx]
  unfold handleSystemCommand
  refine sameAnswer_ite (fun _ => ⟨rfl, hreset.answerEmpty⟩) fun _ => ?_
  refine sameAnswer_ite (fun _ => ⟨rfl, happ.answerEmpty⟩) fun _ => ?_
  refine sameAnswer_ite (fun _ => hempty _) fun _ => ?_
  refine sameAnswer_ite (fun _ => hempty _) fun _ => ?_
  refine sameAnswer_ite (fun _ => sameAnswer_ite_of_iff hds (fun _ => sameAnswer_ds h _)
    fun _ => hempty _) fun _ => ?_
  refine sameAnswer_ite (fun _ => sameAnswer_ite_of_iff hds (fun _ => sameAnswer_dsLegacy h _)
    fun _ => hempty _) fun _ => ?_
  refine sameAnswer_ite (fun _ => sameAnswer_ite_of_iff hds (fun _ => sameAnswer_dsLegacy h _)
    fun _ => hempty _) fun _ => ?_
  refine sameAnswer_ite (fun _ => ⟨?_, h.answerEmpty⟩) fun _ => sameAnswer_putError host h _
  rw [h.dsCtx]

include hheader

theorem sameAnswer_tag (index : UInt16) {finish : IsduCtx → IsduCtx}
    (hfin : ∀ {c c'}, Alike c c' → Alike (finish c) (finish c')) :
    SameAnswer (handleTag cfg host c index finish) (handleTag cfg host c' index finish) := by
  unfold handleTag
  rw [hheader, h.bufferIdx, h.buffer]
  refine sameAnswer_ite (fun _ => ⟨rfl, ?_⟩) fun _ => ⟨rfl, ?_⟩
  · dsimp only
    split_ifs
    · exact hfin h.answerEmpty
    · exact h
  · dsimp only
    cases (paramsGet host.store index 0 cfg.isduBufferSize).1 with
    | some data => exact hfin (h.answerData data)
    | none => exact h

theorem sameAnswer_index (info : DeviceInfo) :
    SameAnswer (handleIndex cfg host info c) (handleIndex cfg host info c') := by
  have hdata := sameAnswer_putData host h
  have hreset : ∀ data, SameAnswer (host, resetSeq (responseReady (putData c data)))
      (host, resetSeq (responseReady (putData c' data))) :=
      fun data => ⟨rfl, (h.answerData data).resetSeq⟩
  have htag := fun index => sameAnswer_tag cfg host h hheader index Alike.resetSeq
  unfold handleIndex
  rw [hheader, h.eventCtx]
  refine sameAnswer_ite (fun _ => hreset _) fun _ => ?_
  refine sameAnswer_ite (fun _ => hreset _) fun _ => ?_
  refine sameAnswer_ite (fun _ => hreset _) fun _ => ?_
  cases stringOfIndex info c.header.index with
  | some str =>
    cases str with
    | some s => exact hdata _
    | none => exact ⟨rfl, h⟩
  | none =>
    dsimp only
    refine sameAnswer_ite (fun _ => htag _) fun _ => ?_
    refine sameAnswer_ite (fun _ => htag _) fun _ => ?_
    refine sameAnswer_ite (fun _ => sameAnswer_tag cfg host h hheader _ id) fun _ => ?_
    refine sameAnswer_ite (fun _ => sameAnswer_ite (fun _ => sameAnswer_putError host h _)
      fun _ => hdata _) fun _ => ?_
    refine sameAnswer_ite (fun _ => hdata _) fun _ => ?_
    refine sameAnswer_ite (fun _ => hdata _) fun _ => ?_
    refine sameAnswer_ite (fun _ => hdata _) fun _ => ?_
    exact sameAnswer_ite (fun _ => hdata _) fun _ => sameAnswer_putError host h _

omit hheader in
theorem sameAnswer_eventRead :
    SameAnswer (handleEventRead cfg host c) (handleEventRead cfg host c') := by
  unfold handleEventRead
  refine sameAnswer_ite_of_iff (by rw [h.eventCtx]) (fun _ => ?_) fun _ =>
    sameAnswer_putData host h _
  split
  · exact sameAnswer_putData _ h _
  · exact sameAnswer_putData _ h _

theorem sameAnswer_accessLocks :
    SameAnswer (handleAccessLocks host c) (handleAccessLocks host c') := by
  unfold handleAccessLocks
  rw [hheader]
  refine sameAnswer_ite (fun _ => sameAnswer_putData _ h _) fun _ => ⟨?_, h.answerEmpty⟩
  dsimp only
  rw [h.bufferIdx]
  by_cases h2 : c.bufferIdx ≥ 2
  · rw [if_pos h2, if_pos h2, eq_of_slice_eq h.buffer (show 0 < c.bufferIdx by omega),
      eq_of_slice_eq h.buffer (show 1 < c.bufferIdx by omega)]
  · rw [if_neg h2, if_neg h2]

theorem alike_detailedStatus :
    Alike (handleDetailedDeviceStatus cfg host c) (handleDetailedDeviceStatus cfg host c') := by
  unfold handleDetailedDeviceStatus
  refine alike_ite (by rw [hheader]) (h.putError _) ?_
  exact alike_ite (by rw [h.eventCtx]) h.noData (h.answerData _)

theorem alike_errorStats : Alike (handleErrorStats host c) (handleErrorStats host c') := by
  unfold handleErrorStats
  refine alike_ite (by rw [hheader]) (h.putError _) ?_
  refine alike_ite (by rw [hheader]) (h.putError _) ?_
  exact alike_ite (by rw [h.dllCtx]) (h.putError _) (h.answerData _)

/-- **The same request is executed and answered in the same way.** -/
theorem sameAnswer_standard :
    SameAnswer (handleStandardCommands cfg host c) (handleStandardCommands cfg host c') := by
  unfold handleStandardCommands
  rw [hheader, h.bufferIdx]
  refine sameAnswer_ite (fun _ => sameAnswer_ite (fun _ => sameAnswer_ite (fun hpos => ?_)
    fun _ => sameAnswer_putError host h _) fun _ => sameAnswer_eventRead cfg host h) fun _ => ?_
  · rw [eq_of_slice_eq h.buffer hpos]
    exact sameAnswer_systemCommand host h _
  refine sameAnswer_ite (fun _ => sameAnswer_accessLocks host h hheader) fun _ => ?_
  refine sameAnswer_ite (fun _ => ⟨rfl, alike_detailedStatus cfg host h hheader⟩) fun _ => ?_
  refine sameAnswer_ite
    (fun _ => ⟨rfl, (alike_errorStats host h hheader).responseReady⟩) fun _ => ?_
  exact sameAnswer_index cfg _ h hheader _

end Handlers

theorem sameAnswer_isduProcess (cfg : BuildConfig) (host : Host) {c c' : IsduCtx} (h : Alike c c') :
    SameAnswer (isduProcess cfg host c) (isduProcess cfg host c') := by
  by_cases hs : c.state = .serviceExecute
  · have hheader := h.header (by
      rw [IsduCtx.phase, if_neg (by rw [hs]; decide), hs]
      decide)
    obtain ⟨hhost, halike⟩ := sameAnswer_standard cfg host h hheader
    rw [isduProcess_execute cfg host hs, isduProcess_execute cfg host (h.state.trans hs), hhost]
    refine sameAnswer_ite_of_iff (by rw [halike.state]) (fun _ => ⟨rfl, ?_⟩) fun _ => ⟨rfl, ?_⟩
    · exact halike.setState (.inl rfl)
    · exact halike.restartSegments
  · rw [isduProcess_of_ne cfg host hs, isduProcess_of_ne cfg host (h.state.symm ▸ hs)]
    exact ⟨rfl, h⟩

end Iolinki
