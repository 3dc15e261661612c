import Storyboard.Preview.Run

/-!
# Preview sessions

A session previews one screen of a project. Loading the screen seeds the state from the
declared variables (local ones once per widget, when there are any), clears the journal
and fires the `load` trigger. A trigger runs, in order, the enabled events of its kind
bound to the element (or to no element), and stops after an event that signals to stop
propagation. A custom event runs its listeners until the first failure.
-/

namespace Storyboard

/-- A preview of one screen. -/
structure Session where
  /-- The events and limits. -/
  hub : Hub
  /-- The declared state. -/
  declared : List StateVariable
  /-- The ids of the project's widgets, in order. -/
  widgetIds : List String
  /-- The state, wire, notes and journal. -/
  world : World
  /-- Whether the screen is loaded. -/
  loaded : Bool := false

/-- The enabled events of a trigger kind that an element fires: those bound to it and
those bound to no element. Without an element only the latter. -/
def matchingEvents (events : List EventDef) (on : TriggerKind) (elementId : Option String) :
    List EventDef :=
  events.filter fun e => e.isEnabled && e.trigger.kind == on &&
    match e.trigger.elementId, elementId with
    | none, _ => true
    | some x, some y => x == y
    | some _, none => false

namespace Session

/-- A session of a project whose requests get the given answers. -/
def ofProject (p : Project) (replies : List Reply) : Session where
  hub := { registry := p.events, maxDepth := p.runtime.maxEventDepth, allowed := p.runtime.allowedDomains }
  declared := p.stateVariables
  widgetIds := p.widgets.map (·.id)
  world := { wire := { replies := replies } }

/-- Dispatch events at depth zero in order, merging outcomes into `acc`, and stop after
one whose outcome signals to stop propagation. -/
def triggerAll (hub : Hub) (events : List EventDef) (c : Caller) (w : World) (acc : Outcome) :
    Outcome × World :=
  match events with
  | [] => (acc, w)
  | e :: rest =>
    let (r, w) := hub.dispatch 0 e c w
    if r.stopsPropagation then (acc.absorb r, w) else triggerAll hub rest c w (acc.absorb r)

/-- Fire a trigger. -/
def trigger (s : Session) (on : TriggerKind) (elementId : Option String) (c : Caller) :
    Outcome × Session :=
  let (r, w) := triggerAll s.hub (matchingEvents s.hub.registry on elementId) c s.world Outcome.ok
  (r, { s with world := w })

/-- The session as loading leaves it before the `load` trigger fires: the state seeded
afresh, the journal emptied, and the screen marked loaded. -/
def reloaded (s : Session) : Session :=
  let store := Store.ofVariables s.declared
  let store := if s.declared.any (·.scope == .widget) then
      s.widgetIds.foldl (fun st id => st.initInstance id s.declared) store
    else store
  { s with world := { s.world with store := store, journal := [] }, loaded := true }

/-- Load the screen. -/
def load (s : Session) (c : Caller) : Outcome × Session := s.reloaded.trigger .load none c

/-- Unload the screen: the state is emptied. -/
def unload (s : Session) : Session :=
  { s with world := { s.world with store := {} }, loaded := false }

/-- Fire a custom event by name; the payload becomes the params. -/
def fireCustom (s : Session) (name : String) (payload : Option Json) : Outcome × Session :=
  let (r, w) := s.hub.dispatchAll 0 (s.hub.listeners name) { params := payload } s.world Outcome.ok
  (r, { s with world := w })

/-- Dispatch the event of an id, if there is one. -/
def fireEvent (s : Session) (id : String) (c : Caller) : Option (Outcome × Session) :=
  (s.hub.registry.find? (·.id == id)).map fun e =>
    let (r, w) := s.hub.dispatch 0 e c s.world
    (r, { s with world := w })

/-- Replace the state. -/
def setState (s : Session) (store : Store) : Session :=
  { s with world := { s.world with store := store } }

/-- What a session can be asked to do. -/
inductive Op where
  /-- Load the screen. -/
  | load (c : Caller)
  /-- Unload the screen. -/
  | unload
  /-- Fire a trigger. -/
  | trigger (on : TriggerKind) (elementId : Option String) (c : Caller)
  /-- Fire a custom event. -/
  | fireCustom (name : String) (payload : Option Json)
  /-- Dispatch the event of an id. -/
  | fireEvent (id : String) (c : Caller)
  /-- Replace the state. -/
  | setState (store : Store)

/-- Carry out an operation: the outcome, when it runs events, and the session after it. -/
def apply (s : Session) : Op → Option Outcome × Session
  | .load c =>
    let (r, s) := s.load c
    (some r, s)
  | .unload => (none, s.unload)
  | .trigger on elementId c =>
    let (r, s) := s.trigger on elementId c
    (some r, s)
  | .fireCustom name payload =>
    let (r, s) := s.fireCustom name payload
    (some r, s)
  | .fireEvent id c =>
    match s.fireEvent id c with
    | some (r, s) => (some r, s)
    | none => (none, s)
  | .setState store => (none, s.setState store)

/-- Carry out operations in order. -/
def applyAll (s : Session) : List Op → Session
  | [] => s
  | op :: ops => (s.apply op).2.applyAll ops

end Session

end Storyboard
