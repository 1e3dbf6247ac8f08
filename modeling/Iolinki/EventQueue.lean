import Iolinki.Events
import Iolinki.Lib.Machine
import Iolinki.Lib.RingBuffer

/-!
# The event engine is a bounded FIFO

The queue of `src/events.c` is a circular buffer of
`IOLINK_EVENT_QUEUE_SIZE` cells: `iolink_event_trigger` is `RingBuffer.push` and
`iolink_events_pop` is `RingBuffer.pop`. The specification is the queue `Fifo` of at
most as many events.

* `events_refine_fifo`: after every sequence of calls the events in the buffer
  are those of the queue, the indices are valid, and what the reading functions
  return is read off from the queue.
-/

namespace Iolinki

open Iolinki.Lib

/-- The context as a circular buffer. -/
def EventsCtx.ring (c : EventsCtx) : RingBuffer Event := ⟨c.queue, c.head, c.tail, c.count⟩

theorem ring_eventTrigger (n : ℕ) (c : EventsCtx) (code : UInt16) (type : EventType) :
    (eventTrigger n c code type).ring = c.ring.push n ⟨code, type⟩ := by
  unfold eventTrigger eventsDropOldest RingBuffer.push
  by_cases h : c.count ≥ n
  · rw [if_pos h, if_pos (by exact h)]
    rfl
  · rw [if_neg h, if_neg (by exact h)]
    rfl

theorem ring_eventsPop (n : ℕ) (c : EventsCtx) :
    ((eventsPop n c).1, (eventsPop n c).2.ring) = c.ring.pop n := by
  unfold eventsPop RingBuffer.pop
  by_cases h : c.count > 0
  · rw [if_pos h, if_pos (by exact h)]
    rfl
  · rw [if_neg h, if_neg (by exact h)]

theorem eventAt_ring (n : ℕ) (c : EventsCtx) :
    (List.range c.count).map (eventAt n c) = c.ring.toList n := rfl

/-! ## Sequences of calls -/

/-- A call that changes the queue. -/
inductive EventCall
  | trigger (code : UInt16) (type : EventType)
  | pop
  deriving DecidableEq, Repr

/-- The event engine; the output of a call is the event it delivers. -/
def eventsMachine (n : ℕ) : Machine EventsCtx EventCall (Option Event) where
  step c
    | .trigger code type => (eventTrigger n c code type, none)
    | .pop => ((eventsPop n c).2, (eventsPop n c).1)

/-- The specification: the same calls on a queue of at most `n` events. -/
def fifoMachine (n : ℕ) : Machine (Fifo Event n) EventCall (Option Event) where
  step q
    | .trigger code type => (q.push ⟨code, type⟩, none)
    | .pop => (q.pop.2, q.pop.1)

section Refinement

variable {n : ℕ} {c : EventsCtx} {q : Fifo Event n}

/-- One call: the same event is delivered and the buffer still holds the queue. -/
theorem eventsMachine_step (h : c.ring.Represents q) (call : EventCall) :
    ((eventsMachine n).step c call).2 = ((fifoMachine n).step q call).2 ∧
      ((eventsMachine n).step c call).1.ring.Represents ((fifoMachine n).step q call).1 := by
  cases call with
  | trigger code type =>
    refine ⟨rfl, ?_⟩
    show (eventTrigger n c code type).ring.Represents (q.push ⟨code, type⟩)
    rw [ring_eventTrigger]
    exact RingBuffer.push_represents h _
  | pop =>
    have hpop := RingBuffer.pop_represents h
    rw [← ring_eventsPop] at hpop
    exact hpop

theorem eventsMachine_run (h : c.ring.Represents q) (calls : List EventCall) :
    (eventsMachine n).outputs c calls = (fifoMachine n).outputs q calls ∧
      ((eventsMachine n).final c calls).ring.Represents ((fifoMachine n).final q calls) := by
  induction calls generalizing c q with
  | nil => exact ⟨rfl, h⟩
  | cons call calls ih =>
    obtain ⟨hout, hrep⟩ := eventsMachine_step h call
    obtain ⟨houts, hfin⟩ := ih hrep
    refine ⟨?_, hfin⟩
    rw [Machine.outputs_cons, Machine.outputs_cons, hout, houts]

/-! ## What the reading functions return -/

theorem eventsPending_eq (h : c.ring.Represents q) : eventsPending c = !q.items.isEmpty := by
  have hcount : c.count = q.items.length := h.count_eq
  unfold eventsPending
  rw [hcount]
  cases q.items <;> simp

theorem eventsPeek_eq (h : c.ring.Represents q) : eventsPeek c = q.items.head? := by
  have hpop := (RingBuffer.pop_represents h).1
  rw [Fifo.pop_fst] at hpop
  rw [← hpop]
  unfold eventsPeek RingBuffer.pop
  by_cases hc : c.count > 0
  · rw [if_pos hc, if_pos (by exact hc)]
    rfl
  · rw [if_neg hc, if_neg (by exact hc)]

theorem eventsGetAll_eq (h : c.ring.Represents q) (maxCount : ℕ) :
    eventsGetAll n c maxCount = q.items.take (min c.count maxCount) := by
  rw [← h.toList_eq, ← eventAt_ring, ← List.map_take, List.take_range]
  unfold eventsGetAll
  rw [Nat.min_assoc, Nat.min_comm maxCount, ← Nat.min_assoc, Nat.min_self]

/-- The loop of `iolink_events_get_highest_severity` over the events `l`. -/
theorem foldl_severity (l : List UInt8) (highest : UInt8) :
    l.foldl (fun highest severity => if severity > highest then severity else highest) highest =
      l.foldl max highest := by
  induction l generalizing highest with
  | nil => rfl
  | cons severity l ih =>
    rw [List.foldl_cons, List.foldl_cons, ih]
    congr 1
    split_ifs with hgt
    · exact (if_pos (UInt8.le_of_lt hgt)).symm
    · rcases UInt8.lt_or_eq_of_le (UInt8.not_lt.mp hgt) with hlt | heq
      · exact (if_neg (UInt8.not_le.mpr hlt)).symm
      · exact ((if_pos (UInt8.le_of_eq heq.symm)).trans heq).symm

/-- The loop starts at `0`, which no severity is below. -/
theorem foldl_max_zero (l : List UInt8) : l.foldl max 0 = l.max?.getD 0 := by
  cases l with
  | nil => rfl
  | cons a l =>
    rw [List.max?_cons', Option.getD_some, List.foldl_cons]
    congr 1

theorem eventsGetHighestSeverity_eq (h : c.ring.Represents q) :
    eventsGetHighestSeverity n c =
      (q.items.map fun e => eventSeverity e.type).max?.getD 0 := by
  rw [← foldl_max_zero, ← foldl_severity, ← h.toList_eq, ← eventAt_ring, List.map_map,
    List.foldl_map]
  rfl

end Refinement

theorem eventsInit_represents {n : ℕ} (hn : 1 ≤ n) :
    eventsInit.ring.Represents (Fifo.empty : Fifo Event n) where
  valid := ⟨Nat.zero_le n, hn, (Nat.zero_mod n).symm⟩
  toList_eq := rfl

/-- With at most 255 cells the `uint8_t` casts of the source never cut: the
    indices and the count of every reached context fit in a byte. -/
theorem events_fit_uint8 {n : ℕ} (hn : 1 ≤ n) (hmax : n ≤ 255) (calls : List EventCall) :
    let c := (eventsMachine n).final eventsInit calls
    c.head < 256 ∧ c.tail < 256 ∧ c.count < 256 := by
  intro c
  have hvalid := (eventsMachine_run (eventsInit_represents hn) calls).2.valid
  have hhead : c.head < n := hvalid.head_lt
  have htail : c.tail < n := hvalid.tail_lt
  have hcount : c.count ≤ n := hvalid.count_le
  omega

/-- The event engine against the bounded FIFO, for every queue size and every
    sequence of `iolink_event_trigger` and `iolink_events_pop` calls from
    `iolink_events_init` on. -/
theorem events_refine_fifo (n : ℕ) (hn : 1 ≤ n) (calls : List EventCall) :
    let c := (eventsMachine n).final eventsInit calls
    let q := (fifoMachine n).final Fifo.empty calls
    (List.range c.count).map (fun i => c.queue ((c.head + i) % n)) = q.items ∧
      (eventsMachine n).outputs eventsInit calls = (fifoMachine n).outputs Fifo.empty calls ∧
      c.count ≤ n ∧ c.head < n ∧ c.tail < n ∧ c.tail = (c.head + c.count) % n ∧
      eventsPending c = !q.items.isEmpty ∧
      eventsPeek c = q.items.head? ∧
      (∀ maxCount, eventsGetAll n c maxCount = q.items.take (min c.count maxCount)) ∧
      eventsGetHighestSeverity n c = (q.items.map fun e => eventSeverity e.type).max?.getD 0 := by
  obtain ⟨houts, hrep⟩ := eventsMachine_run (eventsInit_represents hn) calls
  exact ⟨hrep.toList_eq, houts, hrep.valid.count_le, hrep.valid.head_lt, hrep.valid.tail_lt,
    hrep.valid.tail_eq, eventsPending_eq hrep, eventsPeek_eq hrep, eventsGetAll_eq hrep,
    eventsGetHighestSeverity_eq hrep⟩

/-- Three events in a queue of two: the oldest is dropped. -/
theorem events_refine_fifo_overflow :
    let calls := [.trigger 1 .notification, .trigger 2 .error, .trigger 3 .warning, .pop]
    1 ≤ 2 ∧ eventsPeek ((eventsMachine 2).final eventsInit calls) = some ⟨3, .warning⟩ := by
  intro calls
  refine ⟨by decide, ?_⟩
  rw [(events_refine_fifo 2 (by decide) calls).2.2.2.2.2.2.2.1]
  decide

end Iolinki
