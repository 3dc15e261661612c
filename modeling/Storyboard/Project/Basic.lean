import Storyboard.Json.Basic

/-!
# Projects

A project is what the builder saves: runtime settings, declared state variables, event
definitions and widgets. Events hold actions, and some actions hold further actions
(the branches of a condition, the steps of a batch, the callbacks of an API call), so
actions form trees.

This module holds the types only. `Project.Read` builds them from checked JSON and
`Project.Write` writes them back.
-/

namespace Storyboard

/-- Where a state variable lives. -/
inductive Scope where
  /-- Shared by the whole app. -/
  | app
  /-- Belongs to the current screen. -/
  | screen
  /-- Belongs to one widget instance; written `local` (or `widget` in project files). -/
  | widget
deriving DecidableEq, Repr

namespace Scope

/-- The name of a scope. -/
def name : Scope → String
  | .app => "app"
  | .screen => "screen"
  | .widget => "local"

/-- The scope of a name, as targets write it (`app`, `screen` or `local`). -/
def ofName? : String → Option Scope
  | "app" => some .app
  | "screen" => some .screen
  | "local" => some .widget
  | _ => none

end Scope

/-- The declared type of a state variable. -/
inductive VarType where
  | string | number | boolean | array | object
deriving DecidableEq, Repr

namespace VarType

/-- The name of a type in project files. -/
def name : VarType → String
  | .string => "string" | .number => "number" | .boolean => "boolean"
  | .array => "array" | .object => "object"

/-- The name of a type as diagnostics print it. -/
def title : VarType → String
  | .string => "String" | .number => "Number" | .boolean => "Boolean"
  | .array => "Array" | .object => "Object"

/-- Whether a value is of this type. -/
def admits : VarType → Json → Bool
  | .string, .str _ => true
  | .number, .int _ => true
  | .number, .float _ => true
  | .boolean, .bool _ => true
  | .array, .arr _ => true
  | .object, .obj _ => true
  | _, _ => false

end VarType

/-- A declared state slot with its default value. -/
structure StateVariable where
  /-- The declaration's id. -/
  id : String
  /-- The key the value is stored under. -/
  key : String
  /-- The declared type. -/
  varType : VarType
  /-- The default value. -/
  value : Json
  /-- Where the value lives. -/
  scope : Scope
  /-- A note for people. -/
  description : Option String := none

/-- What starts an event. -/
inductive TriggerKind where
  | click | change | load | submit | hover | custom
deriving DecidableEq, Repr

namespace TriggerKind

/-- The name of a trigger kind. -/
def name : TriggerKind → String
  | .click => "click" | .change => "change" | .load => "load"
  | .submit => "submit" | .hover => "hover" | .custom => "custom"

/-- The trigger kind of a name, exactly as written. -/
def ofName? : String → Option TriggerKind
  | "click" => some .click | "change" => some .change | "load" => some .load
  | "submit" => some .submit | "hover" => some .hover | "custom" => some .custom
  | _ => none

end TriggerKind

/-- The trigger of an event: its kind, the name of a custom event, and the element it
is bound to. -/
structure Trigger where
  /-- The kind of trigger. -/
  kind : TriggerKind
  /-- The name a custom event is fired by. -/
  name : Option String := none
  /-- The element the event is bound to. -/
  elementId : Option String := none

/-- How navigation moves. -/
inductive NavigationType where
  | navigateTo | navigateBack | openModal
deriving DecidableEq, Repr

/-- The name of a navigation type. -/
def NavigationType.name : NavigationType → String
  | .navigateTo => "navigate_to" | .navigateBack => "navigate_back" | .openModal => "open_modal"

/-- The parameters of a state update. -/
structure StateUpdate where
  /-- `scope.path` of the value written. -/
  target : String
  /-- `set`, `increment`, `decrement`, `push` or `remove_by_index`. -/
  operation : String := "set"
  /-- A fixed operand. -/
  value : Option Json := none
  /-- An operand computed by an expression; it wins over `value`. -/
  expression : Option String := none
  /-- The step of `increment`/`decrement` (one when absent). -/
  step : Option Float := none

/-- The parameters of an HTTP request, without its callbacks. -/
structure Request where
  /-- The method, `GET` by default. -/
  method : String := "GET"
  /-- The address, possibly with `{path}` bindings. -/
  url : String
  /-- Header fields, sorted by name. -/
  headers : List (String × String) := []
  /-- The JSON body. -/
  body : Option Json := none
  /-- Hosts allowed for this request, instead of the project's. -/
  allowedDomains : Option (List String) := none
  /-- An expression computing the result data from `params.response`. -/
  mapResponse : Option String := none

mutual
/-- An action: its id and what it does. -/
inductive Action where
  | mk (id : String) (kind : ActionKind)

/-- What an action does. -/
inductive ActionKind where
  /-- Ask the shell to navigate. -/
  | navigation (how : NavigationType) (target : Option String) (params : Option Json)
  /-- Write a state value. -/
  | stateUpdate (p : StateUpdate)
  /-- Write the value of a formula. -/
  | recalculate (target formula : String)
  /-- Send an HTTP request, then run callbacks. -/
  | apiCall (r : Request) (onSuccess onError : List Action)
  /-- Fire a custom event. -/
  | emitEvent (eventName : String) (payload : Option Json)
  /-- Run one of two branches. -/
  | condition (condition : String) (ifTrue ifFalse : List Action)
  /-- Ask the shell to show a message. -/
  | toast (message : String) (variant : Option String) (duration : Option Nat)
  /-- Ask the shell to open a widget. -/
  | openWidget (widgetId : String)
  /-- Ask the shell to close a widget. -/
  | closeWidget (widgetId : String)
  /-- Stop the remaining events of a trigger. -/
  | stopPropagation
  /-- Run actions in order; an atomic batch stops at the first failure. -/
  | batch (actions : List Action) (atomic : Bool)
  /-- An action of a type this library does not know, kept with its params. -/
  | unsupported (typeName : String) (params : Json)
end

namespace ActionKind

/-- The type name of an action kind, as project files write it. -/
def typeName : ActionKind → String
  | .navigation .. => "navigation"
  | .stateUpdate _ => "state_update"
  | .recalculate .. => "recalculate"
  | .apiCall .. => "api_call"
  | .emitEvent .. => "emit_event"
  | .condition .. => "condition"
  | .toast .. => "toast"
  | .openWidget _ => "open_widget"
  | .closeWidget _ => "close_widget"
  | .stopPropagation => "stop_propagation"
  | .batch .. => "batch"
  | .unsupported t _ => t

/-- The actions directly inside: both branches of a condition, the steps of a batch,
the success then the error callbacks of a request. -/
def children : ActionKind → List Action
  | .condition _ t f => t ++ f
  | .batch as _ => as
  | .apiCall _ s e => s ++ e
  | _ => []

end ActionKind

namespace Action

/-- The id of an action. -/
def id : Action → String
  | .mk i _ => i

/-- What an action does. -/
def kind : Action → ActionKind
  | .mk _ k => k

end Action

/-- An event definition: when it fires, the guards it checks, and its actions. -/
structure EventDef where
  /-- The event's id. -/
  id : String
  /-- What fires it. -/
  trigger : Trigger
  /-- Expressions that must all hold for the actions to run. -/
  conditions : Option (List String) := none
  /-- The actions, in order. -/
  actions : List Action := []
  /-- `some false` turns the event off. -/
  enabled : Option Bool := none

namespace EventDef

/-- Whether the event is on. -/
def isEnabled (e : EventDef) : Bool := e.enabled.getD true

/-- Whether the event answers a custom event of this name: it has a custom trigger,
and the name is the trigger's name or the event's id. -/
def listensTo (e : EventDef) (name : String) : Bool :=
  e.trigger.kind == .custom && (e.trigger.name == some name || e.id == name)

end EventDef

/-- A point in a container's frame. -/
structure Point where
  /-- Distance from the left edge. -/
  x : Float := 0
  /-- Distance from the top edge. -/
  y : Float := 0

/-- The size of a widget. -/
structure Extent where
  /-- Width. -/
  width : Float := 0
  /-- Height. -/
  height : Float := 0

/-- A widget on the screen. -/
structure Widget where
  /-- The widget's id. -/
  id : String
  /-- The widget type, such as `container` or `text`. -/
  widgetType : String
  /-- The container that holds it. -/
  parentId : Option String := none
  /-- Where it sits in its container. -/
  position : Point := {}
  /-- Its size. -/
  size : Extent := {}
  /-- Its props, sorted by key. -/
  props : List (String × Json) := []
  /-- Actions attached to it. -/
  actions : List Action := []

namespace Widget

/-- A container is a widget of type `container`, or any widget with `children` props. -/
def isContainer (w : Widget) : Bool := w.widgetType == "container" || Json.hasField "children" w.props

/-- The ids listed in `props.children`, in order; items that are not strings are skipped. -/
def childIds (w : Widget) : List String :=
  match Json.lookup "children" w.props with
  | some (.arr items) => items.filterMap Json.str?
  | _ => []

/-- Replace `props.children` by a list of ids. -/
def setChildIds (w : Widget) (ids : List String) : Widget :=
  { w with props := Json.setField "children" (.arr (ids.map .str)) w.props }

end Widget

/-- Runtime settings of a project. -/
structure Settings where
  /-- How deep custom events may fire one another. -/
  maxEventDepth : Nat := 10
  /-- Hosts that API calls may reach. -/
  allowedDomains : List String := ["localhost", "127.0.0.1"]
  /-- How long a request may take, in milliseconds. -/
  requestTimeoutMs : Nat := 10000

/-- Whether two texts are equal ignoring ASCII case. -/
def String.equalsIgnoringCase (a b : String) : Bool :=
  a.length == b.length && (a.toList.zip b.toList).all fun (x, y) => x.toLower == y.toLower

namespace Settings

/-- Allow one more host, unless it is already allowed ignoring ASCII case. -/
def allowDomain (s : Settings) (host : String) : Settings :=
  if s.allowedDomains.any (String.equalsIgnoringCase · host) then s
  else { s with allowedDomains := s.allowedDomains ++ [host] }

end Settings

/-- A project. -/
structure Project where
  /-- The project's name. -/
  name : Option String := none
  /-- Runtime settings. -/
  runtime : Settings := {}
  /-- Declared state. -/
  stateVariables : List StateVariable := []
  /-- Event definitions, in order. -/
  events : List EventDef := []
  /-- Widgets, in order. -/
  widgets : List Widget := []

end Storyboard
