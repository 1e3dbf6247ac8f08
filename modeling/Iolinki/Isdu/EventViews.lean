import Iolinki.Isdu.Reads
import Iolinki.EventQueue

/-!
# Reading the event queue

Three indices show the event queue: 0x001C lists the events, 0x001B gives the highest
severity, and a read of 0x0002 takes the oldest event out. Index 0x001C has two
encoders; `handle_standard_commands` gets to the one in
`handle_detailed_device_status`, and the case of `handle_mandatory_indices` is never
reached. All of them are compared with the events of the bounded queue
(`events_refine_fifo`).

* `detailedStatus_view`, `deviceStatus_view`: the reads that leave the queue alone.
* `eventReads_run`: successive reads of index 2.
* `event_views_agree`: the three of them, for every queue that calls can lead to.
-/

namespace Iolinki

open Iolinki.Lib

/-- The value of the enumeration. -/
def EventType.number : EventType → UInt8
  | .notification => 0
  | .warning => 1
  | .error => 2

/-- A qualifier and the code of the event, most significant byte first. -/
def eventView (e : Event) : List UInt8 :=
  ((0x82 : UInt8) ||| ((e.type.number + 1) <<< 3)) :: be16 e.code

theorem detailedStatusTriple_eq (e : Event) : detailedStatusTriple e = eventView e := by
  obtain ⟨code, type⟩ := e
  unfold detailedStatusTriple eventView
  congr 1
  dsimp only
  cases type with
  | notification => decide
  | warning => decide
  | error => decide

theorem length_flatMap_eventView (events : List Event) :
    (events.flatMap eventView).length = 3 * events.length := by
  rw [← List.flatMap_congr fun e _ => detailedStatusTriple_eq e]
  exact length_flatMap_detailedStatusTriple events

theorem responseLen_of_answerData {c : IsduCtx} {data : List UInt8}
    (h : answerData c = some data) : c.responseLen = data.length := by
  unfold answerData at h
  split_ifs at h
  cases h
  rw [length_slice]

/-- What a read of index 2 answers when `e` is the oldest event. -/
def eventReadView (e : Option Event) : List UInt8 := (e.map fun e => be16 e.code).getD [0, 0]

theorem length_eventReadView (e : Option Event) : (eventReadView e).length = 2 := by
  cases e with
  | none => rfl
  | some e => rfl

/-- Successive requests: each is executed on the objects that the one before left. The
    output is the answer that is prepared. -/
def requestMachine (cfg : BuildConfig) : Machine Host IsduCtx (Option (List UInt8)) where
  step h c := ((isduProcess cfg h c).1, answerData (isduProcess cfg h c).2)

theorem sentBytes_of_length_le {value : List UInt8} (h : value.length ≤ 255) :
    sentBytes value = value := by
  unfold sentBytes
  rw [Nat.mod_eq_of_lt (by omega), List.take_length]

section Views

variable {cfg : BuildConfig} {h : Host} {q : Fifo Event cfg.eventQueueSize}
  (hq : h.events.ring.Represents q) {c : IsduCtx} {subindex : UInt8} (hev : c.eventCtx = true)
include hq hev

/-- **A read of 0x001C** lists the oldest events, eight at most. -/
theorem detailedStatus_view (hc : c.Decoded (.read idxDetailedDeviceStatus subindex)) :
    answerData (isduProcess cfg h c).2 = some ((q.items.take 8).flatMap eventView) ∧
      (isduProcess cfg h c).1.events = h.events := by
  have hi : c.header.index = idxDetailedDeviceStatus := hc.index
  have hlist : (eventsGetAll cfg.eventQueueSize h.events 8).flatMap detailedStatusTriple =
      (q.items.take 8).flatMap eventView := by
    have hcount : h.events.count = q.items.length := hq.count_eq
    have htake : q.items.take (min h.events.count 8) = q.items.take 8 := by
      rw [List.take_eq_take_iff]
      omega
    rw [eventsGetAll_eq hq, htake]
    exact List.flatMap_congr fun e _ => detailedStatusTriple_eq e
  have hvalue : readValue cfg h c = some ((q.items.take 8).flatMap eventView) := by
    unfold readValue
    dsimp only
    rw [hi, if_neg (by decide), if_neg (by decide), if_pos rfl, if_pos hev, hlist]
  constructor
  · rw [answerData_readValue cfg h hc.state hc.type hvalue, sentBytes_of_length_le]
    have hlen := length_flatMap_detailedStatusTriple (eventsGetAll cfg.eventQueueSize h.events 8)
    rw [← hlist, hlen, eventsGetAll, List.length_map, List.length_range]
    omega
  · rw [isduProcess_fst cfg h hc.state, handleStandardCommands, hi, if_neg (by decide),
      if_neg (by decide), if_pos rfl]

/-- **A read of 0x001B** gives the highest severity in the queue. -/
theorem deviceStatus_view (hc : c.Decoded (.read idxDeviceStatus subindex)) :
    answerData (isduProcess cfg h c).2 =
        some [(q.items.map fun e => eventSeverity e.type).max?.getD 0] ∧
      (isduProcess cfg h c).1.events = h.events := by
  have hi : c.header.index = idxDeviceStatus := hc.index
  have hvalue : readValue cfg h c = some [deviceStatus cfg h c] := by
    unfold readValue
    dsimp only
    rw [hi]
    rfl
  constructor
  · rw [answerData_readValue cfg h hc.state hc.type hvalue, deviceStatus, if_pos hev,
      eventsGetHighestSeverity_eq hq]
    rfl
  · rw [isduProcess_fst cfg h hc.state, handleStandardCommands_mandatory cfg h (by rw [hi]; decide)
      (by rw [hi]; decide) (by rw [hi]; decide) (by rw [hi]; decide),
      handleMandatoryIndices_deviceStatus cfg h hi]

/-- **A read of 0x0002** takes the oldest event out. -/
theorem eventRead_view (hc : c.Decoded (.read idxSystemCommand subindex)) :
    answerData (isduProcess cfg h c).2 = some (eventReadView q.items.head?) ∧
      (isduProcess cfg h c).1.events.ring.Represents q.pop.2 := by
  have hi : c.header.index = idxSystemCommand := hc.index
  have hr : c.header.type = .read := hc.type
  obtain ⟨hhead, hpop⟩ := RingBuffer.pop_represents hq
  rw [← ring_eventsPop] at hhead hpop
  dsimp only at hhead hpop
  have hvalue : readValue cfg h c = some (eventReadView q.items.head?) := by
    unfold readValue
    dsimp only
    rw [hi, if_pos rfl, eventCode, if_pos hev, hhead, Fifo.pop_fst]
    rfl
  constructor
  · rw [answerData_readValue cfg h hc.state hr hvalue, sentBytes_of_length_le]
    have hlen := length_eventReadView q.items.head?
    omega
  · have hevents : (isduProcess cfg h c).1.events = (eventsPop cfg.eventQueueSize h.events).2 := by
      rw [isduProcess_fst cfg h hc.state, handleStandardCommands, if_pos hi,
        if_neg (by rw [hr]; decide), handleEventRead, if_pos hev]
      cases eventsPop cfg.eventQueueSize h.events with
      | mk ev events => cases ev <;> rfl
    rw [hevents]
    exact hpop

end Views

/-- **Successive reads of index 2** deliver the codes in the order of the queue, and
    then 0x0000. -/
theorem eventReads_run {cfg : BuildConfig} {h : Host} {q : Fifo Event cfg.eventQueueSize}
    (hq : h.events.ring.Represents q) (reads : List IsduCtx)
    (hreads : ∀ c ∈ reads, c.eventCtx = true ∧
      ∃ subindex, c.Decoded (.read idxSystemCommand subindex)) :
    (requestMachine cfg).outputs h reads =
        (List.range reads.length).map (fun k => some (eventReadView q.items[k]?)) ∧
      ∃ q' : Fifo Event cfg.eventQueueSize, q'.items = q.items.drop reads.length ∧
        ((requestMachine cfg).final h reads).events.ring.Represents q' := by
  induction reads generalizing h q with
  | nil => exact ⟨rfl, q, rfl, hq⟩
  | cons c reads ih =>
    obtain ⟨hev, subindex, hc⟩ := hreads c List.mem_cons_self
    obtain ⟨hanswer, hpop⟩ := eventRead_view hq hev hc
    obtain ⟨houts, q', hq', hfin⟩ := ih hpop fun c hc => hreads c (List.mem_cons_of_mem _ hc)
    constructor
    · have htail : ∀ k, q.pop.2.items[k]? = q.items[k + 1]? := by
        intro k
        rw [Fifo.items_pop, List.getElem?_tail]
      rw [Machine.outputs_cons, List.length_cons, List.range_succ_eq_map, List.map_cons,
        List.map_map, ← List.head?_eq_getElem?]
      refine congrArg₂ List.cons hanswer (houts.trans ?_)
      exact List.map_congr_left fun k _ => congrArg (fun e => some (eventReadView e)) (htail k)
    · refine ⟨q', ?_, hfin⟩
      rw [hq', Fifo.items_pop, List.length_cons, List.drop_tail]

/-- **The three views of the event queue agree** in every queue that triggers and pops
    lead to: the list of 0x001C and the severity of 0x001B are those of the events in the
    queue, and reads of index 2 deliver the same events one after the other. -/
theorem event_views_agree (cfg : BuildConfig) (hn : 1 ≤ cfg.eventQueueSize)
    (calls : List EventCall) (h : Host)
    (hevents : h.events = (eventsMachine cfg.eventQueueSize).final eventsInit calls) :
    let events := ((fifoMachine cfg.eventQueueSize).final Fifo.empty calls).items
    h.events.count = events.length ∧
      (∀ c subindex, c.eventCtx = true → c.Decoded (.read idxDetailedDeviceStatus subindex) →
        answerData (isduProcess cfg h c).2 = some ((events.take 8).flatMap eventView) ∧
          (isduProcess cfg h c).2.responseLen = 3 * min h.events.count 8 ∧
          (isduProcess cfg h c).1.events = h.events) ∧
      (∀ c subindex, c.eventCtx = true → c.Decoded (.read idxDeviceStatus subindex) →
        answerData (isduProcess cfg h c).2 =
            some [(events.map fun e => eventSeverity e.type).max?.getD 0] ∧
          (isduProcess cfg h c).1.events = h.events) ∧
      ∀ reads : List IsduCtx,
        (∀ c ∈ reads, c.eventCtx = true ∧
          ∃ subindex, c.Decoded (.read idxSystemCommand subindex)) →
        (requestMachine cfg).outputs h reads =
            (List.range reads.length).map (fun k => some (eventReadView events[k]?)) ∧
          ((requestMachine cfg).final h reads).events.ring.toList cfg.eventQueueSize =
            events.drop reads.length := by
  intro events
  have hq : h.events.ring.Represents ((fifoMachine cfg.eventQueueSize).final Fifo.empty calls) := by
    rw [hevents]
    exact (eventsMachine_run (eventsInit_represents hn) calls).2
  refine ⟨hq.count_eq, ?_, ?_, ?_⟩
  · intro c subindex hev hc
    obtain ⟨hanswer, hkeep⟩ := detailedStatus_view hq hev hc
    refine ⟨hanswer, ?_, hkeep⟩
    have hcount : h.events.count = events.length := hq.count_eq
    rw [responseLen_of_answerData hanswer, length_flatMap_eventView, List.length_take, hcount,
      Nat.min_comm]
  · intro c subindex hev hc
    exact deviceStatus_view hq hev hc
  · intro reads hreads
    obtain ⟨houts, q', hq', hfin⟩ := eventReads_run hq reads hreads
    exact ⟨houts, hfin.toList_eq.trans hq'⟩

/-- Two of three events are still in a queue of two cells. -/
theorem event_views_agree_two :
    let calls := [.trigger 0x1234 .notification, .trigger 0x5678 .error, .trigger 0x9ABC .warning]
    let cfg : BuildConfig := { eventQueueSize := 2 }
    let h : Host := { hostInit with events := (eventsMachine 2).final eventsInit calls }
    let read : IsduCtx := { collected (.read idxSystemCommand 0) with eventCtx := true }
    1 ≤ cfg.eventQueueSize ∧
      (requestMachine cfg).outputs h [read, read, read] =
        [some [0x56, 0x78], some [0x9A, 0xBC], some [0, 0]] := by
  intro calls cfg h read
  refine ⟨by decide, ?_⟩
  have hreads : ∀ c ∈ [read, read, read], c.eventCtx = true ∧
      ∃ subindex, c.Decoded (.read idxSystemCommand subindex) := by
    intro c hc
    have hc : c = read := by simpa using hc
    exact ⟨by rw [hc], 0, by rw [hc]; exact ⟨rfl, rfl, rfl, rfl, rfl⟩⟩
  exact ((event_views_agree cfg (by decide) calls h rfl).2.2.2 [read, read, read] hreads).1.trans
    (by decide)

end Iolinki
