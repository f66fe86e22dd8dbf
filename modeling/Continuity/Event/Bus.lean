import Continuity.Event.Basic

/-! # Event buses

A bus delivers events to whoever has subscribed to one of their names, in the order of
subscription. A handler may itself subscribe, unsubscribe and emit; an event reaches those who were
subscribed when it was emitted. A handler that fails keeps no other from being called.
-/

namespace Continuity

/-- A handler's interest in events of a name. -/
structure Subscription where
  topic : String
  handler : String
  deriving Repr, DecidableEq, Inhabited

/-- The subscriptions, the oldest first. -/
structure Bus where
  subscriptions : List Subscription := []
  deriving Repr, DecidableEq, Inhabited

/-- What a handler, or who owns the bus, may do. -/
inductive BusAction where
  | subscribe (s : Subscription)
  | unsubscribe (s : Subscription)
  | emit (e : Event)
  /-- To fail, so that nothing further is done. -/
  | fail
  deriving Inhabited

/-- The call of a handler. -/
structure Delivery where
  handler : String
  event : Event
  deriving Inhabited

/-- Something that happened on a bus, with all that happened meanwhile. -/
inductive Happening where
  | subscribed (s : Subscription)
  | unsubscribed (s : Subscription)
  /-- An event was emitted, and handlers were called for it one after another. -/
  | emitted (e : Event) (calls : List Happening)
  /-- A handler was called and did these things. -/
  | called (call : Delivery) (did : List Happening)
  /-- An event was emitted too deep inside others, so that no handler was called. -/
  | dropped (e : Event)
  | failed
  deriving Inhabited

namespace Happening

mutual

/-- The calls of handlers, in the order in which they began. -/
def deliveries : Happening → List Delivery
  | .emitted _ calls => deliveriesAll calls
  | .called call did => call :: deliveriesAll did
  | .subscribed _ | .unsubscribed _ | .dropped _ | .failed => []

/-- The calls of handlers in a sequence, in the order in which they began. -/
def deliveriesAll : List Happening → List Delivery
  | [] => []
  | h :: rest => deliveries h ++ deliveriesAll rest

end

end Happening

namespace Bus

open Happening (deliveriesAll)

/-- One more subscription; a handler may subscribe more than once. -/
def subscribe (b : Bus) (s : Subscription) : Bus := ⟨b.subscriptions ++ [s]⟩

/-- The bus without a subscription, however often it was made. -/
def unsubscribe (b : Bus) (s : Subscription) : Bus := ⟨b.subscriptions.filter (· != s)⟩

/-- The handlers that an event reaches, once for each subscription. -/
def recipients (b : Bus) (e : Event) : List String :=
  (b.subscriptions.filter fun s => e.topics.contains s.topic).map (·.handler)

/-- How an event is emitted when some handlers have been called: the bus after it and what happened
meanwhile, unless it is too deep inside other events. -/
abbrev Emit := List Delivery → Bus → Event → Option (Bus × List Happening)

/-- Does actions in turn, up to the first that fails, when the handlers `before` have been called.
An event that is too deep inside others fails. -/
def carryOut (emit : Emit) :
    (before : List Delivery) → Bus → List BusAction → Bus × List Happening
  | _, b, [] => (b, [])
  | before, b, .subscribe s :: rest =>
    let (b, later) := carryOut emit before (b.subscribe s) rest
    (b, .subscribed s :: later)
  | before, b, .unsubscribe s :: rest =>
    let (b, later) := carryOut emit before (b.unsubscribe s) rest
    (b, .unsubscribed s :: later)
  | before, b, .emit e :: rest =>
    match emit before b e with
    | none => (b, [.dropped e])
    | some (b, calls) =>
      let (b, later) := carryOut emit (before ++ deliveriesAll calls) b rest
      (b, .emitted e calls :: later)
  | _, b, .fail :: _ => (b, [.failed])

section

/- What the handler called last does, given all the calls so far. -/
variable (behaviour : List Delivery → List BusAction)

/-- Calls handlers in turn for an event. -/
def callEach (emit : Emit) (e : Event) :
    (before : List Delivery) → Bus → List String → Bus × List Happening
  | _, b, [] => (b, [])
  | before, b, handler :: rest =>
    let before := before ++ [⟨handler, e⟩]
    let (b, did) := carryOut emit before b (behaviour before)
    let (b, later) := callEach emit e (before ++ deliveriesAll did) b rest
    (b, .called ⟨handler, e⟩ did :: later)

/-- Emits an event to those who are subscribed; it may lead to other events down to a depth. -/
def emit : (depth : Nat) → Emit
  | 0, _, _, _ => none
  | depth + 1, before, b, e =>
    some (callEach behaviour (emit depth) e before b (b.recipients e))

/-- What comes of actions on a bus. -/
def run (depth : Nat) (b : Bus) (actions : List BusAction) : Bus × List Happening :=
  carryOut (emit behaviour depth) [] b actions

end

/-- The bus after some actions and the calls of handlers that do the same at every call. -/
def perform (behaviour : String → List BusAction) (depth : Nat) (b : Bus)
    (actions : List BusAction) : Bus × List Delivery :=
  let (b, happened) := run (fun calls => calls.getLast?.elim [] (behaviour ·.handler)) depth b
    actions
  (b, deliveriesAll happened)

end Bus

end Continuity
