import Iolinki.Isdu.Request

/-!
# The tail of an aborted request

A control byte with a wrong sequence number aborts a request and leaves the
engine in RESPONSE_READY. The master does not know that yet and goes on with its
stream: a data byte, a control byte without START, a data byte and so on. From
now on the engine takes a data byte with its highest bit set for the START of a
new request. The byte after it is a control byte of the old stream; its highest
bit is clear, so that it names no service and is refused.

* `awaitsTail_step`: one call keeps the engine away from a request, whatever
  byte of the old stream is next.
* `aborted_tail_inert`: no continuation of the old stream is executed.
-/

namespace Iolinki

open Iolinki.Lib

/-- The bytes `d0, c1, d1, c2, d2, …` that are left of a stream after one of its
    control bytes: data bytes, and control bytes with START clear. -/
def OldStream : List UInt8 → Prop
  | [] => True
  | [_] => True
  | _ :: ctrl :: rest => startBit ctrl = false ∧ OldStream rest

/-- What the master sends next. -/
inductive NextByte
  | data
  | control
  deriving DecidableEq, Repr

/-- The byte after it. -/
def NextByte.other : NextByte → NextByte
  | .data => .control
  | .control => .data

/-- The rest of the old stream, when it goes on with the given kind of byte. -/
def OldTail : NextByte → List UInt8 → Prop
  | .data, bytes => OldStream bytes
  | .control, [] => True
  | .control, ctrl :: rest => startBit ctrl = false ∧ OldStream rest

/-- The states of the engine while the old stream goes on. A data byte may have
    been taken for a START control byte. -/
def AwaitsTail : NextByte → IsduState → Prop
  | .data, s => s.AwaitsStart
  | .control, s => s.AwaitsStart ∨ s = .headerInitial

theorem AwaitsTail.ne_serviceExecute {k : NextByte} {s : IsduState} (h : AwaitsTail k s) :
    s ≠ .serviceExecute := by
  cases k with
  | data => rcases h with rfl | rfl <;> decide
  | control => rcases h with (rfl | rfl) | rfl <;> decide

/-- A byte with a clear highest bit names no service. -/
theorem service_of_startBit_clear {b : UInt8} (hb : startBit b = false) :
    (b >>> 4) &&& 0x0F ≠ 0x08 ∧ (b >>> 4) &&& 0x0F ≠ 0x09 := by
  revert b
  decide +kernel

/-- A data byte of the old stream. -/
theorem awaitsTail_data {c : IsduCtx} (h : c.state.AwaitsStart) (b : UInt8) :
    AwaitsTail .control (isduCollectByte c b).1.state := by
  by_cases hb : startBit b = true
  · rw [collectByte_start h hb]
    exact .inr rfl
  · left
    rw [collectByte_ignored (not_collecting_of_awaitsStart h) fun hstart => hb hstart.2]
    exact h

/-- A control byte of the old stream. -/
theorem awaitsTail_control {c : IsduCtx} (h : AwaitsTail .control c.state) {b : UInt8}
    (hb : startBit b = false) : AwaitsTail .data (isduCollectByte c b).1.state := by
  rcases h with h | h
  · rw [collectByte_ignored (not_collecting_of_awaitsStart h) (by simp [hb])]
    exact h
  · obtain ⟨hread, hwrite⟩ := service_of_startBit_clear hb
    right
    rw [collectByte_headerInitial b h]
    simp only [isduHeaderInitial, hread, hwrite, if_false]
    rfl

/-- The calls that do not feed the engine. -/
theorem awaitsTail_getResponse {k : NextByte} {c : IsduCtx} (h : AwaitsTail k c.state) :
    AwaitsTail k (isduGetResponseByte c).1.state := by
  have hawaits : c.state.AwaitsStart → (isduGetResponseByte c).1.state.AwaitsStart :=
    fun hc => (awaitsStart_step {} hostInit hc).2
  cases k with
  | data => exact hawaits h
  | control =>
    rcases h with h | h
    · exact .inl (hawaits h)
    · rw [getResponseByte_of_ne (by rw [h]; decide)]
      exact .inr h

/-- What is left of the old stream after a call, and what comes next then. -/
theorem oldTail_collect {k : NextByte} {b : UInt8} {rest : List UInt8}
    (h : OldTail k (b :: rest)) : OldTail k.other rest := by
  cases k with
  | data =>
    cases rest with
    | nil => trivial
    | cons ctrl rest => exact h
  | control => exact h.2

/-- **One byte of the old stream.** -/
theorem awaitsTail_collect {k : NextByte} {c : IsduCtx} (h : AwaitsTail k c.state) {b : UInt8}
    {rest : List UInt8} (ht : OldTail k (b :: rest)) :
    AwaitsTail k.other (isduCollectByte c b).1.state := by
  cases k with
  | data => exact awaitsTail_data h b
  | control => exact awaitsTail_control h ht.1

/-- **The calls that follow an aborted request.** -/
theorem awaitsTail_final (cfg : BuildConfig) (h : Host) (ops : List IsduOp) :
    ∀ (k : NextByte) (c : IsduCtx), AwaitsTail k c.state → OldTail k (collectedBytes ops) →
      (∃ k', AwaitsTail k' ((isduMachine cfg).final (c, h) ops).1.state) ∧
        ((isduMachine cfg).final (c, h) ops).2 = h := by
  induction ops with
  | nil =>
    intro k c hc _
    exact ⟨⟨k, hc⟩, rfl⟩
  | cons op ops ih =>
    intro k c hc ht
    cases op with
    | process =>
      have hproc := isduProcess_of_ne cfg h hc.ne_serviceExecute
      simp only [isduMachine, Machine.final_cons, isduStep, hproc] at ih ⊢
      exact ih k c hc ht
    | getResponse => exact ih k _ (awaitsTail_getResponse hc) ht
    | collect b => exact ih k.other _ (awaitsTail_collect hc ht) (oldTail_collect ht)

theorem OldStream.take {bytes : List UInt8} (h : OldStream bytes) {pre : List UInt8}
    (hpre : pre <+: bytes) : OldStream pre := by
  induction bytes using OldStream.induct generalizing pre with
  | case1 =>
    rw [List.prefix_nil.mp hpre]
    trivial
  | case2 b =>
    cases pre with
    | nil => trivial
    | cons x pre =>
      obtain ⟨rfl, hnil⟩ := List.cons_prefix_cons.mp hpre
      rw [List.prefix_nil.mp hnil]
      trivial
  | case3 d ctrl rest ih =>
    match pre with
    | [] => trivial
    | [_] => trivial
    | x :: y :: pre =>
      obtain ⟨rfl, htail⟩ := List.cons_prefix_cons.mp hpre
      obtain ⟨rfl, hrest⟩ := List.cons_prefix_cons.mp htail
      exact ⟨h.1, ih h.2 hrest⟩

theorem collectedBytes_mono {pre ops : List IsduOp} (h : pre <+: ops) :
    collectedBytes pre <+: collectedBytes ops := by
  obtain ⟨rest, rfl⟩ := h
  rw [collectedBytes, collectedBytes, List.filterMap_append]
  exact List.prefix_append _ _

/-- **The tail of an aborted request is never executed.** `b` is a control byte
    with START clear and a wrong sequence number, `ops` feeds the rest of the old
    stream, interleaved with calls of the other two functions. -/
theorem aborted_tail_inert (cfg : BuildConfig) (c : IsduCtx) (h : Host)
    (hc : c.state = .segmentCollect) (b : UInt8) (hb : startBit b = false)
    (hseq : seqBits b ≠ nextSeq c.segmentSeq) (ops : List IsduOp)
    (hops : OldStream (collectedBytes ops)) :
    ∀ pre, pre <+: ops →
      let s := (isduMachine cfg).final (c, h) (.collect b :: pre)
      s.1.state ≠ .serviceExecute ∧ s.2 = h := by
  intro pre hpre s
  have hready : (isduCollectByte c b).1.state = .responseReady := by
    rw [collectByte_segmentCollect hc hb]
    simp only [isduSegmentControl, if_pos hseq]
    rfl
  obtain ⟨⟨k, hk⟩, hhost⟩ := awaitsTail_final cfg h pre .data (isduCollectByte c b).1
    (.inr hready) (hops.take (collectedBytes_mono hpre))
  exact ⟨hk.ne_serviceExecute, hhost⟩

/-- A write that is aborted after its service byte. The data byte 0x80 of the old
    stream is taken for a START control byte. -/
theorem aborted_tail_inert_write :
    ((isduMachine {}).final (parser.final isduInit [0x80, 0x91], hostInit)
      [.collect 0x05, .getResponse, .collect 0x80, .process, .collect 0x02,
      .collect 0x91]).1.state ≠
        .serviceExecute :=
  (aborted_tail_inert {} (parser.final isduInit [0x80, 0x91]) hostInit (by decide +kernel) 0x05
    (by decide) (by decide +kernel)
    [.getResponse, .collect 0x80, .process, .collect 0x02, .collect 0x91] ⟨by decide, trivial⟩ _
    (List.prefix_refl _)).1

end Iolinki
