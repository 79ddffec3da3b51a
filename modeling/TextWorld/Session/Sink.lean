import TextWorld.Session.Event

/-!
# Where events go

Events of a session are kept in a log, which can be read and emptied, or are
sent through a channel to a receiver, which may be gone.
-/

namespace TextWorld

/-- Events in the order in which they were sent. -/
structure EventLog where
  events : List Event := []
deriving Inhabited

namespace EventLog

/-- The log with one more event. -/
def emit (log : EventLog) (event : Event) : EventLog :=
  ⟨log.events ++ [event]⟩

/-- The lines of output among the events. -/
def outputs (log : EventLog) : List String :=
  log.events.filterMap Event.output?

/-- The events of the log, and the log without them. -/
def drain (log : EventLog) : List Event × EventLog :=
  (log.events, {})

end EventLog

/-- A channel with the events that wait in it; `none` once the
receiver is gone. -/
structure EventChannel where
  waiting : Option (List Event) := some []
deriving Inhabited

namespace EventChannel

/-- The channel after sending an event, which is lost without a receiver. -/
def emit (channel : EventChannel) (event : Event) : EventChannel :=
  ⟨channel.waiting.map (· ++ [event])⟩

/-- What waits in the channel, if there is a receiver, and the channel after
it was received. -/
def receive (channel : EventChannel) : Option (List Event) × EventChannel :=
  (channel.waiting, ⟨channel.waiting.map fun _ => []⟩)

/-- The channel without a receiver. -/
def close (_channel : EventChannel) : EventChannel :=
  ⟨none⟩

end EventChannel

end TextWorld
