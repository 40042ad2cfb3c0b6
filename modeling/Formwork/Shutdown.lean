import Formwork.Broadcast

/-! # Shutdown signals

A shutdown has handles, any of which can trigger it, and listeners that were made
from a handle. The handles are the senders of a channel that keeps one message,
and the listeners are its receivers. A waiting listener is done when it is polled
and gets anything at all: a message, word of messages it missed, or word that no
handle is left; then it is gone. A subscriber stays until it is dropped.
-/

namespace Formwork

/-- What listens to a shutdown, with its place in the channel. -/
inductive Listener where
  /-- A listener that waits for a message. -/
  | waiting (place : Nat)
  /-- A listener that takes messages as they come. -/
  | subscribed (place : Nat)
  /-- A listener that was done or was dropped. -/
  | gone
deriving DecidableEq

/-- A shutdown: its channel and the listeners in the order in which they were
made. -/
structure Shutdown where
  channel : Broadcast Unit := .ofCapacity 1
  listeners : List Listener := []

namespace Shutdown

/-- How many handles there are. -/
def handles (s : Shutdown) : Nat := s.channel.senders

/-- How many listeners the channel counts. -/
def receiverCount (s : Shutdown) : Nat := s.channel.receivers

/-- Makes a listener; without a handle there is none to make. -/
def listen (s : Shutdown) (listener : Nat → Listener) : Shutdown :=
  if s.handles = 0 then s
  else
    let (place, channel) := s.channel.subscribe
    { channel, listeners := s.listeners ++ [listener place] }

/-- Makes a waiting listener. -/
def wait (s : Shutdown) : Shutdown := s.listen .waiting

/-- Makes a subscriber. -/
def subscribe (s : Shutdown) : Shutdown := s.listen .subscribed

/-- Sends a message if a handle is left; that nobody listens does not matter. -/
def trigger (s : Shutdown) : Shutdown :=
  if s.handles = 0 then s else { s with channel := (s.channel.send? ()).getD s.channel }

/-- Makes another handle. -/
def clone (s : Shutdown) : Shutdown :=
  if s.handles = 0 then s else { s with channel := s.channel.addSender }

/-- Drops a handle. -/
def dropHandle (s : Shutdown) : Shutdown := { s with channel := s.channel.dropSender }

/-- Drops a listener. -/
def drop (s : Shutdown) (index : Nat) : Shutdown :=
  match s.listeners[index]? with
  | some (.waiting _) | some (.subscribed _) =>
    { channel := s.channel.dropReceiver, listeners := s.listeners.set index .gone }
  | _ => s

/-- Polls a listener: whether it gets anything, or nothing if it is gone. -/
def poll (s : Shutdown) (index : Nat) : Option Bool × Shutdown :=
  match s.listeners[index]? with
  | some (.waiting place) =>
    match (s.channel.receive place).1 with
    | .pending => (some false, s)
    | _ => (some true, s.drop index)
  | some (.subscribed place) =>
    match s.channel.receive place with
    | (.pending, _) => (some false, s)
    | (_, next) => (some true, { s with listeners := s.listeners.set index (.subscribed next) })
  | _ => (none, s)

/-- What can be done with a shutdown and its listeners. -/
inductive Step where
  | wait
  | subscribe
  | trigger
  | clone
  | dropHandle
  | poll (index : Nat)
  | drop (index : Nat)
deriving DecidableEq

/-- Takes a step. -/
def step (s : Shutdown) : Step → Shutdown
  | .wait => s.wait
  | .subscribe => s.subscribe
  | .trigger => s.trigger
  | .clone => s.clone
  | .dropHandle => s.dropHandle
  | .poll index => (s.poll index).2
  | .drop index => s.drop index

/-- A new shutdown after steps, the first of them first. -/
def run (history : List Step) : Shutdown := history.foldl step {}

end Shutdown

end Formwork
