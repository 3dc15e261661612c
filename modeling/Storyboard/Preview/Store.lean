import Storyboard.Json.Path
import Storyboard.Script.Eval
import Storyboard.Project.Basic

/-!
# The state of a running screen

A `Store` holds the app state, the screen state, and the local state of each widget
instance. It is seeded from declared state variables: app and screen variables when the
store is made, local variables once per widget instance. A `Caller` is what the code
that starts an action passes along: params, a local value of its own, and the widget
instance it runs for. `Caller.view` is what expressions see: the instance's local state
wins over the caller's own local value.
-/

namespace Storyboard

/-- The state of a running screen. -/
structure Store where
  /-- The app state. -/
  app : Json := .empty
  /-- The screen state. -/
  screen : Json := .empty
  /-- Local state by widget instance id, sorted by id. -/
  widgets : List (String × Json) := []

namespace Store

/-- Set a key of an object; other values are left as they are. -/
def putKey (root : Json) (key : String) (value : Json) : Json :=
  match root with
  | .obj fs => .obj (Json.setField key value fs)
  | other => other

/-- The store seeded with the defaults of app and screen variables, in order. -/
def ofVariables (vars : List StateVariable) : Store :=
  vars.foldl (fun s v => match v.scope with
    | .app => { s with app := putKey s.app v.key v.value }
    | .screen => { s with screen := putKey s.screen v.key v.value }
    | .widget => s) {}

/-- The defaults of the local variables, as one object. -/
def localDefaults (vars : List StateVariable) : Json :=
  .obj (vars.foldl (fun fs v => if v.scope == .widget then Json.setField v.key v.value fs else fs) [])

/-- Give a widget instance fresh local state from the local variables' defaults. -/
def initInstance (s : Store) (id : String) (vars : List StateVariable) : Store :=
  { s with widgets := Json.setField id (localDefaults vars) s.widgets }

/-- The value a scope reads from; a local scope needs an instance that exists. -/
def scopeRoot (s : Store) : Scope → Option String → Option Json
  | .app, _ => some s.app
  | .screen, _ => some s.screen
  | .widget, inst => inst.bind fun id => Json.lookup id s.widgets

/-- Write `value` at `path` in a scope. A local write needs an instance id, and makes
the instance's state when it has none yet; without an id there is nothing to write. -/
def write? (s : Store) (scope : Scope) (inst : Option String) (path : String) (value : Json) :
    Option Store :=
  match scope, inst with
  | .app, _ => some { s with app := s.app.setPath path value }
  | .screen, _ => some { s with screen := s.screen.setPath path value }
  | .widget, some id =>
    let root := (Json.lookup id s.widgets).getD .empty
    some { s with widgets := Json.setField id (root.setPath path value) s.widgets }
  | .widget, none => none

/-- The JSON form of a store. -/
def toJson (s : Store) : Json :=
  Json.ofFields [("app", s.app), ("screen", s.screen), ("widgets", .obj s.widgets)]

end Store

/-- What the starter of an action passes along. -/
structure Caller where
  /-- Navigation params, an event's payload, or a response. -/
  params : Option Json := none
  /-- A local value for callers without a widget instance. -/
  localState : Option Json := none
  /-- The widget instance the action runs for. -/
  instanceId : Option String := none

namespace Caller

/-- The same caller with other params. -/
def withParams (c : Caller) (params : Option Json) : Caller := { c with params := params }

/-- The same caller with one more param; params that are not an object start afresh. -/
def withParam (c : Caller) (key : String) (value : Json) : Caller :=
  let fs := match c.params with
    | some (.obj fs) => fs
    | _ => []
  c.withParams (some (.obj (Json.setField key value fs)))

/-- What expressions see when this caller runs against a store. -/
def view (c : Caller) (s : Store) : Bindings where
  app := s.app
  screen := s.screen
  params := c.params
  localState := (c.instanceId.bind fun id => Json.lookup id s.widgets).or c.localState

end Caller

end Storyboard
