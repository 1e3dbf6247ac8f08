import Mathlib.Tactic.IntervalCases
import Mathlib.Logic.Function.Iterate
import Iolinki.Isdu.Model

/-!
# Every well-formed request is decoded

A request is a list of data bytes: the service byte, an extended length byte
for payloads of 15 bytes and more, the two index bytes, the subindex and the
payload. On the wire each data byte is preceded by a control byte; the first
control byte carries START and the sequence numbers count up modulo 64.

`Parses c bytes c'` says that the engine takes `bytes` from `c` to `c'`,
returning `0` for every byte but the last and `1` for that one, and that it is
collecting before each of them; `Collects c bytes c'` says the same of bytes that
do not complete the request. While it is collecting, `iolink_isdu_process`
and `iolink_isdu_get_response_byte` do nothing, so the callers may interleave
them freely (`Parses.interleave`).

* `parses_request`: the stream of a request is parsed after its first control
  byte.
* `collect_request`: the stream of a request is decoded from any context in
  IDLE or RESPONSE_READY, however it is interleaved with the other calls.
-/

namespace Iolinki

open Iolinki.Lib

/-! ## Requests on the wire -/

/-- A payload that a request can carry: 1 to 255 bytes. -/
abbrev Payload := { d : List UInt8 // 1 ≤ d.length ∧ d.length ≤ 255 }

/-- A request of the master. -/
inductive Request
  | read (index : UInt16) (subindex : UInt8)
  | write (index : UInt16) (subindex : UInt8) (payload : Payload)

namespace Request

def type : Request → ServiceType
  | read .. => .read
  | write .. => .write

def index : Request → UInt16
  | read i _ => i
  | write i _ _ => i

def subindex : Request → UInt8
  | read _ s => s
  | write _ s _ => s

/-- The bytes a write collects; a read carries none. -/
def payload : Request → List UInt8
  | read .. => []
  | write _ _ d => d.1

end Request

/-- The high byte, the low byte and the subindex of an address. -/
def addressBytes (index : UInt16) (subindex : UInt8) : List UInt8 :=
  [(index >>> 8).toUInt8, index.toUInt8, subindex]

/-- The service byte of a write, and the extended length byte if there is one. -/
def writeLength (n : ℕ) : List UInt8 :=
  if n ≤ 14 then [0x90 ||| UInt8.ofNat n] else [0x9F, UInt8.ofNat n]

/-- The data bytes of a request. -/
def Request.dataBytes : Request → List UInt8
  | read i s => 0x80 :: addressBytes i s
  | write i s d => writeLength d.1.length ++ addressBytes i s ++ d.1

/-- Data bytes with their control bytes; each data byte comes with the LAST bit
    of its control byte. `seq` is the sequence number of the first one. -/
def segments (start : Bool) (seq : UInt8) : List (Bool × UInt8) → List UInt8
  | [] => []
  | (last, b) :: segs => ctrlByte start last seq :: b :: segments false (nextSeq seq) segs

@[simp] theorem segments_nil (start : Bool) (seq : UInt8) : segments start seq [] = [] := rfl

@[simp] theorem segments_cons (start last : Bool) (seq b : UInt8) (segs : List (Bool × UInt8)) :
    segments start seq ((last, b) :: segs) =
      ctrlByte start last seq :: b :: segments false (nextSeq seq) segs := rfl

theorem length_segments (start : Bool) (seq : UInt8) (segs : List (Bool × UInt8)) :
    (segments start seq segs).length = 2 * segs.length := by
  induction segs generalizing start seq with
  | nil => rfl
  | cons seg segs ih =>
    obtain ⟨last, b⟩ := seg
    simp [ih]
    omega

theorem segments_append (seq : UInt8) (segs segs' : List (Bool × UInt8)) :
    segments false seq (segs ++ segs') =
      segments false seq segs ++ segments false (nextSeq^[segs.length] seq) segs' := by
  induction segs generalizing seq with
  | nil => rfl
  | cons seg segs ih =>
    obtain ⟨last, b⟩ := seg
    rw [List.cons_append, segments_cons, ih, segments_cons, List.length_cons,
      Function.iterate_succ_apply]
    rfl

/-! ## The parsing relation -/

/-- The states in which the engine is in the middle of a request. -/
def IsduState.Collecting : IsduState → Prop
  | .headerInitial | .headerExtLen | .headerIndexHigh | .headerIndexLow | .headerSubindex
  | .dataCollect | .segmentCollect => True
  | _ => False

instance : DecidablePred IsduState.Collecting := fun s => by
  cases s <;> unfold IsduState.Collecting <;> infer_instance

/-- `bytes` complete the request that `c` is collecting, and lead to `c'`. -/
inductive Parses : IsduCtx → List UInt8 → IsduCtx → Prop
  | done {c c' : IsduCtx} {b : UInt8} : c.state.Collecting → isduCollectByte c b = (c', 1) →
      Parses c [b] c'
  | more {c c₁ c' : IsduCtx} {b : UInt8} {bs : List UInt8} : c.state.Collecting →
      isduCollectByte c b = (c₁, 0) → Parses c₁ bs c' → Parses c (b :: bs) c'

/-- `bytes` belong to the request that `c` is collecting and do not complete it. -/
inductive Collects : IsduCtx → List UInt8 → IsduCtx → Prop
  | nil {c : IsduCtx} : Collects c [] c
  | cons {c c₁ c' : IsduCtx} {b : UInt8} {bs : List UInt8} : c.state.Collecting →
      isduCollectByte c b = (c₁, 0) → Collects c₁ bs c' → Collects c (b :: bs) c'

theorem Collects.append {c c₁ c' : IsduCtx} {bs bs' : List UInt8} (h : Collects c bs c₁)
    (h' : Collects c₁ bs' c') : Collects c (bs ++ bs') c' := by
  induction h with
  | nil => exact h'
  | cons hc hb _ ih => exact .cons hc hb (ih h')

theorem Collects.parses {c c₁ c' : IsduCtx} {bs bs' : List UInt8} (h : Collects c bs c₁)
    (hp : Parses c₁ bs' c') : Parses c (bs ++ bs') c' := by
  induction h with
  | nil => exact hp
  | cons hc hb _ ih => exact .more hc hb (ih hp)

theorem Parses.collecting {c c' : IsduCtx} {bytes : List UInt8} (h : Parses c bytes c') :
    c.state.Collecting := by
  cases h <;> assumption

/-- The parser alone, as a machine on bytes. -/
def parser : Machine IsduCtx UInt8 Int := ⟨isduCollectByte⟩

theorem Parses.final_eq {c c' : IsduCtx} {bytes : List UInt8} (h : Parses c bytes c') :
    parser.final c bytes = c' := by
  induction h with
  | done _ hb => simp [parser, hb]
  | more _ hb _ ih => simp only [parser, Machine.final_cons, hb] at ih ⊢; exact ih

theorem Collects.final_append {c c' : IsduCtx} {bs : List UInt8} (h : Collects c bs c')
    (bs' : List UInt8) : parser.final c (bs ++ bs') = parser.final c' bs' := by
  induction h with
  | nil => rfl
  | cons _ hb _ ih =>
    simp only [parser, List.cons_append, Machine.final_cons, hb] at ih ⊢
    exact ih

theorem Parses.outputs_eq {c c' : IsduCtx} {bytes : List UInt8} (h : Parses c bytes c') :
    parser.outputs c bytes = List.replicate (bytes.length - 1) 0 ++ [1] := by
  induction h with
  | done _ hb => simp [parser, hb]
  | @more c c₁ c' b bs _ hb hp ih =>
    have hlen : bs ≠ [] := by rintro rfl; cases hp
    obtain ⟨n, hn⟩ : ∃ n, bs.length = n + 1 :=
      ⟨bs.length - 1, by have := List.length_pos_iff.mpr hlen; omega⟩
    rw [hn] at ih
    simp only [parser, Machine.outputs_cons, hb, List.length_cons, hn] at ih ⊢
    rw [ih]
    simp [List.replicate_succ]

/-! ## Interleaving with the other calls -/

/-- The bytes that a sequence of calls feeds to the parser. -/
def collectedBytes (ops : List IsduOp) : List UInt8 :=
  ops.filterMap fun
    | .collect b => some b
    | _ => none

/-- The return values of `iolink_isdu_collect_byte` in a sequence of results. -/
def collectReturns (outs : List IsduOut) : List Int :=
  outs.filterMap fun
    | .collected r => some r
    | _ => none

theorem isduStep_of_collecting (cfg : BuildConfig) {c : IsduCtx} (h : Host)
    (hc : c.state.Collecting) :
    (isduStep cfg (c, h) .process).1 = (c, h) ∧ (isduStep cfg (c, h) .getResponse).1 = (c, h) := by
  have h1 : c.state ≠ .serviceExecute := by rintro he; rw [he] at hc; exact hc
  have h2 : c.state ≠ .responseReady := by rintro he; rw [he] at hc; exact hc
  simp [isduStep, isduProcess_of_ne cfg h h1, getResponseByte_of_ne h2]

theorem Parses.cons_inv {c c' : IsduCtx} {b b' : UInt8} {bs : List UInt8}
    (h : Parses c (b :: (bs ++ [b'])) c') :
    ∃ c₁, isduCollectByte c b = (c₁, 0) ∧ Parses c₁ (bs ++ [b']) c' := by
  generalize hl : bs ++ [b'] = l at h
  cases h with
  | done _ _ => simp at hl
  | more _ hb hp => exact ⟨_, hb, hp⟩

theorem Parses.singleton_inv {c c' : IsduCtx} {b : UInt8} (h : Parses c [b] c') :
    isduCollectByte c b = (c', 1) := by
  cases h with
  | done _ hb => exact hb
  | more _ _ hp => cases hp

/-- A parse is not disturbed by the other two calls. -/
theorem Parses.interleave (cfg : BuildConfig) (h : Host) {c c' : IsduCtx} (ops : List IsduOp)
    (b : UInt8) (hp : Parses c (collectedBytes ops ++ [b]) c') :
    (isduMachine cfg).final (c, h) (ops ++ [.collect b]) = (c', h) ∧
      collectReturns ((isduMachine cfg).outputs (c, h) (ops ++ [.collect b])) =
        List.replicate (collectedBytes ops).length 0 ++ [1] := by
  induction ops generalizing c with
  | nil =>
    have hb := hp.singleton_inv
    simp [isduMachine, isduStep, hb, collectReturns, collectedBytes]
  | cons op ops ih =>
    obtain ⟨hproc, hget⟩ := isduStep_of_collecting cfg h hp.collecting
    cases op with
    | process =>
      obtain ⟨ih1, ih2⟩ := ih hp
      simp only [isduMachine, List.cons_append, Machine.final_cons, Machine.outputs_cons, hproc]
        at ih1 ih2 ⊢
      exact ⟨ih1, ih2⟩
    | getResponse =>
      obtain ⟨ih1, ih2⟩ := ih hp
      simp only [isduMachine, List.cons_append, Machine.final_cons, Machine.outputs_cons, hget]
        at ih1 ih2 ⊢
      exact ⟨ih1, ih2⟩
    | collect b₀ =>
      obtain ⟨c₁, hb, hp'⟩ := Parses.cons_inv hp
      obtain ⟨ih1, ih2⟩ := ih hp'
      simp only [isduMachine, List.cons_append, Machine.final_cons, Machine.outputs_cons,
        isduStep, hb] at ih1 ih2 ⊢
      refine ⟨ih1, ?_⟩
      calc collectReturns (.collected 0 :: _) = 0 :: collectReturns _ := rfl
        _ = 0 :: (List.replicate (collectedBytes ops).length 0 ++ [1]) := by rw [ih2]
        _ = _ := rfl

/-! ## One segment -/

/-- The context after the control byte of the next segment. -/
def IsduCtx.resume (c : IsduCtx) (last : Bool) : IsduCtx :=
  { c with segmentSeq := nextSeq c.segmentSeq, isSegmented := !last, state := c.nextState }

theorem collectByte_resume {c : IsduCtx} (hs : c.state = .segmentCollect) (last : Bool) :
    isduCollectByte c (ctrlByte false last (nextSeq c.segmentSeq)) = (c.resume last, 0) := by
  rw [collectByte_segmentCollect hs (startBit_ctrlByte ..)]
  simp [isduSegmentControl, IsduCtx.resume]

/-- A control byte and a data byte that does not complete the request. -/
theorem Collects.segment {c c₁ : IsduCtx} {last : Bool} {b : UInt8}
    (hs : c.state = .segmentCollect) (hn : c.nextState.Collecting)
    (hb : isduCollectByte (c.resume last) b = (c₁, 0)) :
    Collects c [ctrlByte false last (nextSeq c.segmentSeq), b] c₁ :=
  .cons (by rw [hs]; trivial) (collectByte_resume hs last) (.cons hn hb .nil)

/-- A control byte and the data byte that completes the request. -/
theorem Parses.lastSegment {c c' : IsduCtx} {last : Bool} {b : UInt8}
    (hs : c.state = .segmentCollect) (hn : c.nextState.Collecting)
    (hb : isduCollectByte (c.resume last) b = (c', 1)) :
    Parses c [ctrlByte false last (nextSeq c.segmentSeq), b] c' :=
  .more (by rw [hs]; trivial) (collectByte_resume hs last) (.done hn hb)

/-! ## The data byte of a segment, state by state -/

/-- The context after a data byte of the header: the next segment is awaited. -/
def IsduCtx.await (c : IsduCtx) (header : IsduHeader) (next : IsduState) : IsduCtx :=
  { c with header := header, nextState := next, state := .segmentCollect }

/-- The context after a payload byte, before the state is changed. -/
def IsduCtx.storeByte (c : IsduCtx) (b : UInt8) : IsduCtx :=
  { c with buffer := Function.update c.buffer c.bufferIdx b, bufferIdx := c.bufferIdx + 1 }

section DataByte

variable {c : IsduCtx} (b : UInt8)

theorem collectByte_headerInitial (hs : c.state = .headerInitial) :
    isduCollectByte c b = isduHeaderInitial c b := by
  rw [collectByte_data (by simp [hs]) (by simp [hs]) (by simp [hs])]
  simp [isduCollectData, hs]

theorem collectByte_headerExtLen (hs : c.state = .headerExtLen) :
    isduCollectByte c b = (c.await { c.header with length := b } .headerIndexHigh, 0) := by
  rw [collectByte_data (by simp [hs]) (by simp [hs]) (by simp [hs])]
  simp [isduCollectData, hs, IsduCtx.await]

theorem collectByte_headerIndexHigh (hs : c.state = .headerIndexHigh) :
    isduCollectByte c b =
      (c.await { c.header with index := b.toUInt16 <<< 8 } .headerIndexLow, 0) := by
  rw [collectByte_data (by simp [hs]) (by simp [hs]) (by simp [hs])]
  simp [isduCollectData, hs, IsduCtx.await]

theorem collectByte_headerIndexLow (hs : c.state = .headerIndexLow) :
    isduCollectByte c b =
      (c.await { c.header with index := c.header.index ||| b.toUInt16 } .headerSubindex, 0) := by
  rw [collectByte_data (by simp [hs]) (by simp [hs]) (by simp [hs])]
  simp [isduCollectData, hs, IsduCtx.await]

theorem collectByte_headerSubindex_read (hs : c.state = .headerSubindex)
    (ht : c.header.type = .read) :
    isduCollectByte c b =
      ({ c with header := { c.header with subindex := b }, state := .serviceExecute }, 1) := by
  rw [collectByte_data (by simp [hs]) (by simp [hs]) (by simp [hs])]
  simp [isduCollectData, hs, ht]

theorem collectByte_headerSubindex_write (hs : c.state = .headerSubindex)
    (ht : c.header.type = .write) :
    isduCollectByte c b = (c.await { c.header with subindex := b } .dataCollect, 0) := by
  rw [collectByte_data (by simp [hs]) (by simp [hs]) (by simp [hs])]
  simp [isduCollectData, hs, ht, IsduCtx.await]

theorem collectByte_dataCollect_last (hs : c.state = .dataCollect)
    (hlen : c.header.length.toNat ≤ c.bufferIdx + 1) :
    isduCollectByte c b = ({ c.storeByte b with state := .serviceExecute }, 1) := by
  rw [collectByte_data (by simp [hs]) (by simp [hs]) (by simp [hs])]
  simp only [isduCollectData, hs]
  rw [if_pos hlen]
  rfl

theorem collectByte_dataCollect_more (hs : c.state = .dataCollect)
    (hlen : c.bufferIdx + 1 < c.header.length.toNat) :
    isduCollectByte c b = ((c.storeByte b).await c.header .dataCollect, 0) := by
  rw [collectByte_data (by simp [hs]) (by simp [hs]) (by simp [hs])]
  simp only [isduCollectData, hs]
  rw [if_neg (by simpa using hlen)]
  rfl

end DataByte

/-! ## The payload of a write -/

/-- Data bytes that leave the payload incomplete. -/
theorem collects_payload {c : IsduCtx} (segs : List (Bool × UInt8)) (hs : c.state = .segmentCollect)
    (hn : c.nextState = .dataCollect)
    (hlen : c.bufferIdx + segs.length < max (c.bufferIdx + 1) c.header.length.toNat) :
    ∃ c', Collects c (segments false (nextSeq c.segmentSeq) segs) c' ∧ c'.state = .segmentCollect ∧
      c'.nextState = .dataCollect ∧ c'.segmentSeq = nextSeq^[segs.length] c.segmentSeq ∧
      c'.header = c.header ∧ c'.bufferIdx = c.bufferIdx + segs.length ∧
      slice c'.buffer 0 c'.bufferIdx = slice c.buffer 0 c.bufferIdx ++ segs.map Prod.snd := by
  induction segs generalizing c with
  | nil => exact ⟨c, .nil, hs, hn, rfl, rfl, rfl, by simp⟩
  | cons seg segs ih =>
    obtain ⟨last, b⟩ := seg
    rw [List.length_cons] at hlen
    have hb := collectByte_dataCollect_more (c := c.resume last) b hn
      (show c.bufferIdx + 1 < c.header.length.toNat by omega)
    obtain ⟨c', hcol, hs', hn', hseq, hh, hidx, hbuf⟩ := ih
      (c := ((c.resume last).storeByte b).await c.header .dataCollect) rfl rfl
      (show c.bufferIdx + 1 + segs.length <
        max (c.bufferIdx + 1 + 1) c.header.length.toNat by omega)
    refine ⟨c', (Collects.segment hs (by rw [hn]; trivial) hb).append hcol, hs', hn', hseq, hh, ?_,
      ?_⟩
    · rw [hidx, List.length_cons]
      show c.bufferIdx + 1 + segs.length = _
      omega
    · rw [hbuf]
      simp [IsduCtx.await, IsduCtx.storeByte, IsduCtx.resume, slice_update_end]

/-- The data bytes that are still missing complete the payload. A payload has at
    least one byte, whatever its announced length. -/
theorem parses_payload {c : IsduCtx} (segs : List (Bool × UInt8)) (hs : c.state = .segmentCollect)
    (hn : c.nextState = .dataCollect)
    (hlen : c.bufferIdx + segs.length = max (c.bufferIdx + 1) c.header.length.toNat) :
    ∃ c', Parses c (segments false (nextSeq c.segmentSeq) segs) c' ∧ c'.state = .serviceExecute ∧
      c'.header = c.header ∧
      slice c'.buffer 0 c'.bufferIdx = slice c.buffer 0 c.bufferIdx ++ segs.map Prod.snd := by
  obtain ⟨segs, ⟨last, b⟩, rfl⟩ : ∃ init seg, segs = init ++ [seg] := by
    refine ⟨segs.dropLast, segs.getLast ?_, (List.dropLast_append_getLast _).symm⟩
    rintro rfl
    rw [List.length_nil] at hlen
    omega
  rw [List.length_append, List.length_singleton] at hlen
  obtain ⟨c₁, hcol, hs₁, hn₁, hseq, hh, hidx, hbuf⟩ := collects_payload segs hs hn (by omega)
  have hb := collectByte_dataCollect_last (c := c₁.resume last) b hn₁
    (show c₁.header.length.toNat ≤ c₁.bufferIdx + 1 by rw [hh, hidx]; omega)
  have hp := hcol.parses (Parses.lastSegment hs₁ (by rw [hn₁]; trivial) hb)
  rw [hseq, ← Function.iterate_succ_apply' nextSeq, Function.iterate_succ_apply] at hp
  rw [segments_append]
  refine ⟨_, hp, rfl, hh, ?_⟩
  simp only [IsduCtx.storeByte, IsduCtx.resume, slice_update_end, hbuf]
  simp

/-! ## The address -/

/-- The two index bytes. -/
theorem collects_index {c : IsduCtx} (hs : c.state = .segmentCollect)
    (hn : c.nextState = .headerIndexHigh) (la lb : Bool) (hi lo : UInt8) :
    ∃ c₁, Collects c (segments false (nextSeq c.segmentSeq) [(la, hi), (lb, lo)]) c₁ ∧
      c₁.state = .segmentCollect ∧ c₁.nextState = .headerSubindex ∧
      c₁.segmentSeq = nextSeq (nextSeq c.segmentSeq) ∧ c₁.bufferIdx = c.bufferIdx ∧
      c₁.header = { c.header with index := hi.toUInt16 <<< 8 ||| lo.toUInt16 } := by
  have hhigh := collectByte_headerIndexHigh (c := c.resume la) hi hn
  generalize hc₀ : (c.resume la).await _ _ = c₀ at hhigh
  have hseq : c₀.segmentSeq = nextSeq c.segmentSeq := by rw [← hc₀]; rfl
  have hlow := collectByte_headerIndexLow (c := c₀.resume lb) lo (by rw [← hc₀]; rfl)
  refine ⟨(c₀.resume lb).await { (c₀.resume lb).header with
    index := (c₀.resume lb).header.index ||| lo.toUInt16 } .headerSubindex,
    ?_, rfl, rfl, ?_, ?_, ?_⟩
  · have h₁ := Collects.segment hs (by rw [hn]; trivial) hhigh
    have h₂ := Collects.segment (by rw [← hc₀]; rfl) (by rw [← hc₀]; trivial) hlow
    rw [hseq] at h₂
    exact h₁.append h₂
  · simp [IsduCtx.await, IsduCtx.resume, hseq]
  · simp [IsduCtx.await, IsduCtx.resume, ← hc₀]
  · simp only [IsduCtx.await, IsduCtx.resume, ← hc₀]

/-- What a fully collected request leaves in the context. -/
structure IsduCtx.Decoded (c : IsduCtx) (req : Request) : Prop where
  state : c.state = .serviceExecute
  type : c.header.type = req.type
  index : c.header.index = req.index
  subindex : c.header.subindex = req.subindex
  buffer : slice c.buffer 0 c.bufferIdx = req.payload

/-- The segments of an address, and those of the data behind it. -/
theorem exists_address_append {segs : List (Bool × UInt8)} {index : UInt16} {subindex : UInt8}
    {data : List UInt8} (h : segs.map Prod.snd = addressBytes index subindex ++ data) :
    ∃ la lb lc tail, segs = (la, (index >>> 8).toUInt8) :: (lb, index.toUInt8) ::
      (lc, subindex) :: tail ∧ tail.map Prod.snd = data := by
  match segs, h with
  | (la, _) :: (lb, _) :: (lc, _) :: tail, h =>
    simp only [addressBytes, List.map_cons, List.cons_append, List.nil_append,
      List.cons.injEq] at h
    obtain ⟨rfl, rfl, rfl, htail⟩ := h
    exact ⟨la, lb, lc, tail, rfl, htail⟩

theorem exists_address {segs : List (Bool × UInt8)} {index : UInt16} {subindex : UInt8}
    (h : segs.map Prod.snd = addressBytes index subindex) :
    ∃ la lb lc, segs = [(la, (index >>> 8).toUInt8), (lb, index.toUInt8), (lc, subindex)] := by
  obtain ⟨la, lb, lc, tail, rfl, htail⟩ := exists_address_append (h.trans (List.append_nil _).symm)
  obtain rfl := List.map_eq_nil_iff.mp htail
  exact ⟨la, lb, lc, rfl⟩

/-- The address completes a read. -/
theorem parses_read {c : IsduCtx} (hs : c.state = .segmentCollect)
    (hn : c.nextState = .headerIndexHigh) (ht : c.header.type = .read) (hi : c.bufferIdx = 0)
    {index : UInt16} {subindex : UInt8} {segs : List (Bool × UInt8)}
    (hsegs : segs.map Prod.snd = addressBytes index subindex) :
    ∃ c', Parses c (segments false (nextSeq c.segmentSeq) segs) c' ∧
      c'.Decoded (.read index subindex) := by
  obtain ⟨la, lb, lc, rfl⟩ := exists_address hsegs
  obtain ⟨c₁, hcol, hs₁, hn₁, hseq₁, hi₁, hh₁⟩ :=
    collects_index hs hn la lb (index >>> 8).toUInt8 index.toUInt8
  rw [index_of_bytes] at hh₁
  have hb := collectByte_headerSubindex_read (c := c₁.resume lc) subindex hn₁
    (by simp [IsduCtx.resume, hh₁, ht])
  have hp := hcol.parses (Parses.lastSegment hs₁ (by rw [hn₁]; trivial) hb)
  rw [hseq₁] at hp
  exact ⟨_, hp, rfl, by simp [IsduCtx.resume, hh₁, ht, Request.type],
    by simp [IsduCtx.resume, hh₁, Request.index], rfl,
    by simp [IsduCtx.resume, hi₁, hi, Request.payload]⟩

/-- The address of a write. -/
theorem collects_address {c : IsduCtx} (hs : c.state = .segmentCollect)
    (hn : c.nextState = .headerIndexHigh) (ht : c.header.type = .write) (la lb lc : Bool)
    (hi lo subindex : UInt8) :
    ∃ c₁, Collects c
        (segments false (nextSeq c.segmentSeq) [(la, hi), (lb, lo), (lc, subindex)]) c₁ ∧
      c₁.state = .segmentCollect ∧ c₁.nextState = .dataCollect ∧
      c₁.segmentSeq = nextSeq^[3] c.segmentSeq ∧ c₁.bufferIdx = c.bufferIdx ∧
      c₁.header = ⟨.write, c.header.length, hi.toUInt16 <<< 8 ||| lo.toUInt16, subindex⟩ := by
  obtain ⟨c₀, hcol, hs₀, hn₀, hseq, hidx, hh⟩ := collects_index hs hn la lb hi lo
  have hb := collectByte_headerSubindex_write (c := c₀.resume lc) subindex hn₀
    (by simp [IsduCtx.resume, hh, ht])
  have hsub := Collects.segment hs₀ (by rw [hn₀]; trivial) hb
  rw [hseq] at hsub
  refine ⟨_, hcol.append hsub, rfl, rfl, ?_, hidx, ?_⟩
  · simp [IsduCtx.await, IsduCtx.resume, hseq]
  · simp [IsduCtx.await, IsduCtx.resume, hh, ht]

/-- The address and the payload complete a write. -/
theorem parses_write {c : IsduCtx} (hs : c.state = .segmentCollect)
    (hn : c.nextState = .headerIndexHigh) (ht : c.header.type = .write) (hi : c.bufferIdx = 0)
    {index : UInt16} {subindex : UInt8} {d : Payload}
    (hlen : c.header.length.toNat = d.1.length) {segs : List (Bool × UInt8)}
    (hsegs : segs.map Prod.snd = addressBytes index subindex ++ d.1) :
    ∃ c', Parses c (segments false (nextSeq c.segmentSeq) segs) c' ∧
      c'.Decoded (.write index subindex d) := by
  obtain ⟨la, lb, lc, tail, rfl, htail⟩ := exists_address_append hsegs
  obtain ⟨c₁, hcol, hs₁, hn₁, hseq₁, hi₁, hh₁⟩ :=
    collects_address hs hn ht la lb lc (index >>> 8).toUInt8 index.toUInt8 subindex
  rw [index_of_bytes] at hh₁
  have htl : tail.length = d.1.length := by rw [← htail, List.length_map]
  obtain ⟨c', hp, hst, hh, hbuf⟩ := parses_payload tail hs₁ hn₁ (by
    have := d.2.1
    rw [hi₁, hi, hh₁, htl]
    show 0 + d.1.length = max (0 + 1) c.header.length.toNat
    omega)
  rw [hseq₁] at hp
  refine ⟨c', hcol.parses hp, hst, ?_, ?_, ?_, ?_⟩
  · rw [hh, hh₁]; rfl
  · rw [hh, hh₁]; rfl
  · rw [hh, hh₁]; rfl
  · rw [hbuf, hi₁, hi, htail]; rfl

/-! ## Whole requests -/

theorem headerInitial_read {c : IsduCtx} (hs : c.state = .headerInitial) :
    isduCollectByte c 0x80 =
      ({ c with bufferIdx := 0 }.await { c.header with type := .read, length := 0 }
        .headerIndexHigh, 0) := by
  rw [collectByte_headerInitial _ hs]
  rfl

theorem headerInitial_write {c : IsduCtx} (hs : c.state = .headerInitial) {n : ℕ} (hn : n ≤ 14) :
    isduCollectByte c (0x90 ||| UInt8.ofNat n) =
      ({ c with bufferIdx := 0 }.await { c.header with type := .write, length := UInt8.ofNat n }
        .headerIndexHigh, 0) := by
  rw [collectByte_headerInitial _ hs]
  interval_cases n <;> rfl

theorem headerInitial_writeExt {c : IsduCtx} (hs : c.state = .headerInitial) :
    isduCollectByte c 0x9F =
      ({ c with bufferIdx := 0 }.await { c.header with type := .write } .headerExtLen, 0) := by
  rw [collectByte_headerInitial _ hs]
  rfl

/-- The header of a write in the extended form, whatever its length byte. -/
theorem collects_writeExt {c : IsduCtx} (hs : c.state = .headerInitial) (ll la lb lc : Bool)
    (len hi lo subindex : UInt8) :
    ∃ c', Collects c (0x9F :: segments false (nextSeq c.segmentSeq)
        [(ll, len), (la, hi), (lb, lo), (lc, subindex)]) c' ∧
      c'.state = .segmentCollect ∧ c'.nextState = .dataCollect ∧
      c'.segmentSeq = nextSeq^[4] c.segmentSeq ∧ c'.bufferIdx = 0 ∧
      c'.header = ⟨.write, len, hi.toUInt16 <<< 8 ||| lo.toUInt16, subindex⟩ := by
  have hservice := headerInitial_writeExt hs
  set c₁ := { c with bufferIdx := 0 }.await { c.header with type := .write } .headerExtLen with hc₁
  have hb := collectByte_headerExtLen (c := c₁.resume ll) len rfl
  set c₂ := (c₁.resume ll).await { (c₁.resume ll).header with length := len } .headerIndexHigh
  obtain ⟨c', hcol, hs', hn', hseq, hidx, hh⟩ :=
    collects_address (c := c₂) rfl rfl rfl la lb lc hi lo subindex
  exact ⟨c', .cons (by rw [hs]; trivial) hservice
    ((Collects.segment (c := c₁) rfl trivial hb).append hcol), hs', hn', hseq, hidx, hh⟩

/-- The stream of a request is parsed after its first control byte. -/
theorem parses_request (req : Request) {c : IsduCtx} (hs : c.state = .headerInitial) {last : Bool}
    {b : UInt8} {segs : List (Bool × UInt8)}
    (hsegs : ((last, b) :: segs).map Prod.snd = req.dataBytes) :
    ∃ c', Parses c (b :: segments false (nextSeq c.segmentSeq) segs) c' ∧ c'.Decoded req := by
  have hcol : c.state.Collecting := by rw [hs]; trivial
  cases req with
  | read index subindex =>
    simp only [Request.dataBytes, List.map_cons, List.cons.injEq] at hsegs
    obtain ⟨rfl, htail⟩ := hsegs
    obtain ⟨c', hp, hd⟩ := parses_read (c := { c with bufferIdx := 0 }.await
      { c.header with type := .read, length := 0 } .headerIndexHigh) rfl rfl rfl rfl htail
    exact ⟨c', .more hcol (headerInitial_read hs) hp, hd⟩
  | write index subindex d =>
    have hd := d.2
    by_cases hn : d.1.length ≤ 14
    · simp only [Request.dataBytes, writeLength, hn, if_true, List.map_cons, List.cons_append,
        List.nil_append, List.cons.injEq] at hsegs
      obtain ⟨rfl, htail⟩ := hsegs
      obtain ⟨c', hp, hdec⟩ := parses_write (c := { c with bufferIdx := 0 }.await
        { c.header with type := .write, length := UInt8.ofNat d.1.length } .headerIndexHigh)
        rfl rfl rfl rfl (d := d) (by simp [IsduCtx.await]; omega) htail
      exact ⟨c', .more hcol (headerInitial_write hs hn) hp, hdec⟩
    · simp only [Request.dataBytes, writeLength, hn, if_false, List.map_cons, List.cons_append,
        List.nil_append, List.cons.injEq] at hsegs
      obtain ⟨rfl, htail⟩ := hsegs
      match segs, htail with
      | (l, n) :: segs, htail =>
        simp only [List.map_cons, List.cons.injEq] at htail
        obtain ⟨rfl, htail⟩ := htail
        set c₁ := { c with bufferIdx := 0 }.await { c.header with type := .write } .headerExtLen
          with hc₁
        have hb := collectByte_headerExtLen (c := c₁.resume l) (UInt8.ofNat d.1.length) rfl
        obtain ⟨c', hp, hdec⟩ := parses_write (c := (c₁.resume l).await
          { (c₁.resume l).header with length := UInt8.ofNat d.1.length } .headerIndexHigh)
          rfl rfl rfl rfl (d := d) (by simp [IsduCtx.await]; omega) htail
        exact ⟨c', .more hcol (headerInitial_writeExt hs)
          ((Collects.segment (c := c₁) rfl trivial hb).parses hp), hdec⟩

/-! ## The first control byte -/

/-- The states in which a START control byte opens a request. -/
def IsduState.AwaitsStart (s : IsduState) : Prop := s = .idle ∨ s = .responseReady

instance : DecidablePred IsduState.AwaitsStart := fun _ => inferInstanceAs (Decidable (_ ∨ _))

/-- The context after the control byte that opens a request. -/
def IsduCtx.startRequest (c : IsduCtx) (byte : UInt8) : IsduCtx :=
  { c with
    isSegmented := !lastBit byte
    segmentSeq := seqBits byte
    errorCode := isduErrorNone
    isResponseControlSent := false
    bufferIdx := 0
    responseLen := 0
    responseIdx := 0
    state := .headerInitial }

theorem collectByte_start {c : IsduCtx} (hc : c.state.AwaitsStart) {byte : UInt8}
    (hb : startBit byte = true) : isduCollectByte c byte = (c.startRequest byte, 0) := by
  rcases hc with hc | hc
  · rw [collectByte_idle hc]
    simp [isduHandleIdle, hb, IsduCtx.startRequest]
  · rw [collectByte_responseReady_start hc hb]
    simp [isduHandleIdle, hb, IsduCtx.startRequest]

theorem not_collecting_of_awaitsStart {s : IsduState} (h : s.AwaitsStart) : ¬ s.Collecting := by
  rcases h with rfl | rfl <;> exact id

/-- Outside the collecting states a byte that is no START control byte changes
    nothing. -/
theorem collectByte_ignored {c : IsduCtx} (hc : ¬ c.state.Collecting) {b : UInt8}
    (hb : ¬ (c.state.AwaitsStart ∧ startBit b = true)) : (isduCollectByte c b).1 = c := by
  cases hs : c.state with
  | idle =>
    have hb' : startBit b = false := by simpa [IsduState.AwaitsStart, hs] using hb
    rw [collectByte_idle hs]
    simp [isduHandleIdle, hb']
  | responseReady =>
    have hb' : startBit b = false := by simpa [IsduState.AwaitsStart, hs] using hb
    rw [collectByte_responseReady hs hb']
  | serviceExecute | busy =>
    rw [collectByte_data (by simp [hs]) (by simp [hs]) (by simp [hs])]
    simp [isduCollectData, hs]
  | headerInitial | headerExtLen | headerIndexHigh | headerIndexLow | headerSubindex
  | dataCollect | segmentCollect => exact absurd (by rw [hs]; trivial) hc

/-- A collected request is not changed by further bytes. -/
theorem parser_serviceExecute {c : IsduCtx} (hs : c.state = .serviceExecute) (bytes : List UInt8) :
    parser.final c bytes = c := by
  induction bytes with
  | nil => rfl
  | cons b bytes ih =>
    have hb : (isduCollectByte c b).1 = c :=
      collectByte_ignored (by rw [hs]; exact id) (by rintro ⟨h | h, -⟩ <;> rw [hs] at h <;> cases h)
    simp only [parser, Machine.final_cons] at ih ⊢
    rw [hb, ih]

/-- The other two calls keep the engine waiting for a START control byte. -/
theorem awaitsStart_step (cfg : BuildConfig) {c : IsduCtx} (h : Host) (hc : c.state.AwaitsStart) :
    isduProcess cfg h c = (h, c) ∧ (isduGetResponseByte c).1.state.AwaitsStart := by
  constructor
  · exact isduProcess_of_ne cfg h (by rcases hc with hc | hc <;> simp [hc])
  · rcases hc with hc | hc
    · rw [getResponseByte_of_ne (by simp [hc])]; exact .inl hc
    · unfold isduGetResponseByte
      rw [if_neg (not_not.mpr hc)]
      simp only [IsduState.AwaitsStart]
      split_ifs <;> simp [hc]

theorem Request.dataBytes_ne_nil (req : Request) : req.dataBytes ≠ [] := by
  cases req with
  | read => simp [Request.dataBytes]
  | write => simp only [Request.dataBytes, writeLength]; split_ifs <;> simp

/-- The stream of a request, fed to the parser without other calls. -/
theorem parser_request (req : Request) (s : UInt8) {segs : List (Bool × UInt8)}
    (hsegs : segs.map Prod.snd = req.dataBytes) {c : IsduCtx} (hc : c.state.AwaitsStart) :
    parser.outputs c (segments true s segs) = List.replicate (2 * segs.length - 1) 0 ++ [1] ∧
      (parser.final c (segments true s segs)).Decoded req := by
  cases segs with
  | nil => exact absurd hsegs.symm req.dataBytes_ne_nil
  | cons seg segs =>
    obtain ⟨last, b⟩ := seg
    have hb := collectByte_start hc (startBit_ctrlByte true last s)
    obtain ⟨c', hp, hd⟩ := parses_request req (c := c.startRequest (ctrlByte true last s)) rfl hsegs
    have hseq : (c.startRequest (ctrlByte true last s)).segmentSeq = seqBits s :=
      seqBits_ctrlByte ..
    rw [hseq, nextSeq_seqBits] at hp
    have hout := hp.outputs_eq
    have hfin := hp.final_eq
    have hlen := length_segments false (nextSeq s) segs
    simp only [segments_cons, Machine.outputs_cons, Machine.final_cons, parser, hb] at hout hfin ⊢
    rw [hout, hfin]
    refine ⟨?_, hd⟩
    rw [List.length_cons, hlen, ← List.cons_append, ← List.replicate_succ, List.length_cons]
    congr 2

/-- **Every request is decoded.** `segs` are the data bytes of the request, each with an arbitrary
    LAST bit; `ops` and the final call feed their stream, with sequence numbers from `s` on, to a
    context in IDLE or RESPONSE_READY, interleaved with calls of the other two functions. -/
theorem collect_request (cfg : BuildConfig) (req : Request) (s : UInt8)
    (segs : List (Bool × UInt8)) (hsegs : segs.map Prod.snd = req.dataBytes) (c : IsduCtx)
    (h : Host) (hc : c.state = .idle ∨ c.state = .responseReady) (ops : List IsduOp) (b : UInt8)
    (hops : collectedBytes ops ++ [b] = segments true s segs) :
    collectReturns ((isduMachine cfg).outputs (c, h) (ops ++ [.collect b])) =
        List.replicate (collectedBytes ops).length 0 ++ [1] ∧
      ((isduMachine cfg).final (c, h) (ops ++ [.collect b])).1.Decoded req := by
  obtain ⟨⟨last, b₀⟩, segs, rfl⟩ : ∃ seg tail, segs = seg :: tail := by
    cases segs with
    | nil => exact absurd hsegs.symm req.dataBytes_ne_nil
    | cons seg tail => exact ⟨seg, tail, rfl⟩
  rw [segments_cons] at hops
  -- Until the first byte arrives the engine stays in IDLE or RESPONSE_READY.
  induction ops generalizing c with
  | nil => simp [collectedBytes] at hops
  | cons op ops ih =>
    obtain ⟨hproc, hget⟩ := awaitsStart_step cfg h hc
    cases op with
    | process =>
      obtain ⟨ih1, ih2⟩ := ih c hc hops
      simp only [isduMachine, List.cons_append, Machine.final_cons, Machine.outputs_cons, isduStep,
        hproc] at ih1 ih2 ⊢
      exact ⟨ih1, ih2⟩
    | getResponse =>
      obtain ⟨ih1, ih2⟩ := ih (isduGetResponseByte c).1 hget hops
      simp only [isduMachine, List.cons_append, Machine.final_cons, Machine.outputs_cons,
        isduStep] at ih1 ih2 ⊢
      exact ⟨ih1, ih2⟩
    | collect b₁ =>
      have hops' : b₁ :: (collectedBytes ops ++ [b]) = _ := hops
      obtain ⟨rfl, htail⟩ := List.cons.inj hops'
      have hb := collectByte_start hc (startBit_ctrlByte true last s)
      obtain ⟨c', hp, hd⟩ := parses_request req (c := c.startRequest (ctrlByte true last s)) rfl
        hsegs
      have hseq : (c.startRequest (ctrlByte true last s)).segmentSeq = seqBits s :=
        seqBits_ctrlByte ..
      rw [hseq, nextSeq_seqBits, ← htail] at hp
      obtain ⟨hf, ho⟩ := hp.interleave cfg h ops b
      simp only [isduMachine, List.cons_append, Machine.final_cons, Machine.outputs_cons,
        isduStep, hb] at hf ho ⊢
      refine ⟨?_, by rw [hf]; exact hd⟩
      calc collectReturns (.collected 0 :: _) = 0 :: collectReturns _ := rfl
        _ = 0 :: (List.replicate (collectedBytes ops).length 0 ++ [1]) := by rw [ho]
        _ = _ := rfl

/-- A read of index 0x0010 after a stale response, with the other calls in between. -/
theorem collect_request_vendorName :
    (((isduMachine {}).final ({ isduInit with state := .responseReady, responseLen := 3 }, hostInit)
      ([.getResponse, .collect 0xBF, .process, .collect 0x80, .collect 0x00, .collect 0x00,
        .getResponse, .collect 0x41, .collect 0x10, .collect 0x02] ++ [.collect 0x07])).1.Decoded
        (.read 0x0010 0x07)) :=
  (collect_request {} (.read 0x0010 0x07) 0x3F
    [(false, 0x80), (false, 0x00), (true, 0x10), (false, 0x07)] (by decide) _ _ (.inr rfl) _ _
    (by decide)).2

end Iolinki
