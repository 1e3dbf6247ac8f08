import Iolinki.Protocol
import Iolinki.Lib.Buffer

/-!
# The event engine

Model of `src/events.c`. The queue size `IOLINK_EVENT_QUEUE_SIZE` is the
parameter `n` of the functions that use it. For `n ≤ 256` the `uint8_t` casts
of `head`, `tail` and `count` never cut, so these are natural numbers.
-/

namespace Iolinki

open Iolinki.Lib

/-- `iolink_event_type_t` -/
inductive EventType
  | notification | warning | error
  deriving DecidableEq, Repr

/-- `iolink_event_t` -/
structure Event where
  code : UInt16
  type : EventType
  deriving DecidableEq, Repr

/-- `iolink_events_ctx_t` -/
structure EventsCtx where
  queue : ℕ → Event
  head : ℕ
  tail : ℕ
  count : ℕ

/-- `iolink_events_init` (lines 18–23). -/
def eventsInit : EventsCtx := ⟨fun _ => ⟨0, .notification⟩, 0, 0, 0⟩

/-- The branch of `iolink_event_trigger` that drops the oldest event of a full
    queue (lines 33–37). -/
def eventsDropOldest (n : ℕ) (c : EventsCtx) : EventsCtx :=
  if c.count ≥ n then { c with head := (c.head + 1) % n, count := c.count - 1 } else c

/-- `iolink_event_trigger` (lines 25–45). -/
def eventTrigger (n : ℕ) (c : EventsCtx) (code : UInt16) (type : EventType) : EventsCtx :=
  let c := eventsDropOldest n c
  { c with
    queue := Function.update c.queue c.tail ⟨code, type⟩
    tail := (c.tail + 1) % n
    count := c.count + 1 }

/-- `iolink_events_pending` (lines 47–51). -/
def eventsPending (c : EventsCtx) : Bool := c.count > 0

/-- `iolink_events_pop` (lines 53–71); `none` when it returns `false`. -/
def eventsPop (n : ℕ) (c : EventsCtx) : Option Event × EventsCtx :=
  if c.count > 0 then
    (some (c.queue c.head), { c with head := (c.head + 1) % n, count := c.count - 1 })
  else (none, c)

/-- `iolink_events_peek` (lines 73–90); `none` when it returns `false`. -/
def eventsPeek (c : EventsCtx) : Option Event :=
  if c.count > 0 then some (c.queue c.head) else none

/-- The severity that `iolink_events_get_highest_severity` maps a type to
    (lines 105–117). -/
def eventSeverity : EventType → UInt8
  | .notification => 1
  | .warning => 2
  | .error => 3

/-- The `i`-th oldest event: `queue[(head + i) % IOLINK_EVENT_QUEUE_SIZE]`. -/
def eventAt (n : ℕ) (c : EventsCtx) (i : ℕ) : Event := c.queue ((c.head + i) % n)

/-- `iolink_events_get_highest_severity` (lines 92–125) on a non-NULL context. -/
def eventsGetHighestSeverity (n : ℕ) (c : EventsCtx) : UInt8 :=
  (List.range c.count).foldl
    (fun highest i =>
      let severity := eventSeverity (eventAt n c i).type
      if severity > highest then severity else highest) 0

/-- `iolink_events_get_all` (lines 127–147) on non-NULL arguments: the copied
    events; the returned count is their number. -/
def eventsGetAll (n : ℕ) (c : EventsCtx) (maxCount : ℕ) : List Event :=
  (List.range (min c.count maxCount)).map (eventAt n c)

end Iolinki
