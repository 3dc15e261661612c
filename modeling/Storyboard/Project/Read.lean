import Storyboard.Project.Basic
import Storyboard.Format.Text
import Storyboard.Script.Coerce

/-!
# Reading projects

Project data is first checked against its shape (`Shape.project` and friends), which
decides every fault and its message; the readers here then build the typed values from
the checked JSON, filling in defaults for absent fields.

Two lenient fields are read as numbers: the step of a state update (any value whose
number is finite), and the duration of a toast (the same, when not negative, rounded
half away from zero and clamped into 64 bits).
-/

namespace Storyboard

namespace Read

/-- A field of a checked object, `null` when absent. -/
def field (fs : List (String × Json)) (k : String) : Json := (Json.lookup k fs).getD .null

/-- A string field, empty when absent. -/
def text (fs : List (String × Json)) (k : String) : String := (field fs k).str?.getD ""

/-- An optional string field. -/
def text? (fs : List (String × Json)) (k : String) : Option String := (field fs k).str?

/-- An optional field of any value; `null` counts as absent. -/
def value? (fs : List (String × Json)) (k : String) : Option Json :=
  match field fs k with
  | .null => none
  | v => some v

/-- A list of strings. -/
def texts (v : Json) : List String := (v.items?.getD []).filterMap Json.str?

/-- A number field as a double. -/
def float (fs : List (String × Json)) (k : String) : Float := ((field fs k).asFloat?).getD 0

/-- A natural field. -/
def nat (fs : List (String × Json)) (k : String) (default : Nat) : Nat :=
  match field fs k with
  | .int n => n.toNat
  | _ => default

/-- A lenient number: the number of any value but `null`, when finite. -/
def lenientNumber (v : Option Json) : Option Float :=
  v.bind fun v => let n := Loose.toNumberOf v; if n.isFinite then some n else none

/-- A lenient duration: a lenient number that is not negative, rounded half away from
zero and clamped into 64 bits. -/
def lenientDuration (v : Option Json) : Option Nat :=
  (lenientNumber v).bind fun n => if n ≥ 0 then some (Binary64.roundToUInt64Clamped n) else none

/-- The navigation type of a name. -/
def navigationType : Json → NavigationType
  | .str "navigate_back" => .navigateBack
  | .str "open_modal" => .openModal
  | _ => .navigateTo

/-- Read a checked action; `fuel` bounds the nesting, and the depth of the JSON is
enough. -/
def action : Nat → Json → Action
  | 0, _ => .mk "" .stopPropagation
  | fuel + 1, v =>
    let fs := v.fields?.getD []
    let id := text fs "id"
    let ps := (field fs "params").fields?.getD []
    let actions := fun (k : String) => ((field ps k).items?.getD []).map (action fuel)
    let kind : ActionKind := match text fs "type" with
      | "navigation" => .navigation (navigationType (field ps "navigationType")) (text? ps "target")
          (value? ps "params")
      | "state_update" => .stateUpdate
          { target := text ps "target"
            operation := (text? ps "operation").getD "set"
            value := value? ps "value"
            expression := text? ps "expression"
            step := lenientNumber (value? ps "by") }
      | "recalculate" => .recalculate (text ps "target") (text ps "formula")
      | "api_call" => .apiCall
          { method := (text? ps "method").getD "GET"
            url := text ps "url"
            headers := ((field ps "headers").fields?.getD []).filterMap fun (k, x) => x.str?.map (k, ·)
            body := value? ps "body"
            allowedDomains := (value? ps "allowedDomains").map texts
            mapResponse := text? ps "mapResponse" }
          (actions "onSuccess") (actions "onError")
      | "emit_event" => .emitEvent (text ps "eventName") (value? ps "payload")
      | "condition" => .condition (text ps "condition") (actions "ifTrue") (actions "ifFalse")
      | "toast" => .toast (text ps "message") (text? ps "variant") (lenientDuration (value? ps "duration"))
      | "open_widget" => .openWidget (text ps "widgetId")
      | "close_widget" => .closeWidget (text ps "widgetId")
      | "stop_propagation" => .stopPropagation
      | "batch" => .batch (actions "actions") ((field ps "atomic") matches .bool true)
      | other => .unsupported other (field fs "params")
    .mk id kind

/-- Read a list of checked actions. -/
def actions (v : Json) : List Action := (v.items?.getD []).map (action (v.depth + 1))

/-- The scope of a checked name. -/
def scope : Json → Scope
  | .str "app" => .app
  | .str "screen" => .screen
  | _ => .widget

/-- The type of a checked name. -/
def varType : Json → VarType
  | .str "number" => .number
  | .str "boolean" => .boolean
  | .str "array" => .array
  | .str "object" => .object
  | _ => .string

/-- Read a checked state variable. -/
def stateVariable (v : Json) : StateVariable :=
  let fs := v.fields?.getD []
  { id := text fs "id", key := text fs "key", varType := varType (field fs "type")
    value := field fs "value", scope := scope (field fs "scope"), description := text? fs "description" }

/-- Read a checked event definition. -/
def event (v : Json) : EventDef :=
  let fs := v.fields?.getD []
  let tf := (field fs "trigger").fields?.getD []
  { id := text fs "id"
    trigger := { kind := ((text? tf "on").bind TriggerKind.ofName?).getD .click
                 name := text? tf "name", elementId := text? tf "elementId" }
    conditions := (value? fs "conditions").map texts
    actions := actions (field fs "actions")
    enabled := match field fs "enabled" with | .bool b => some b | _ => none }

/-- Read a checked widget. -/
def widget (v : Json) : Widget :=
  let fs := v.fields?.getD []
  let pos := (field fs "position").fields?.getD []
  let size := (field fs "size").fields?.getD []
  { id := text fs "id", widgetType := text fs "type", parentId := text? fs "parentId"
    position := { x := float pos "x", y := float pos "y" }
    size := { width := float size "width", height := float size "height" }
    props := (field fs "props").fields?.getD []
    actions := actions (field fs "actions") }

/-- Read checked runtime settings. -/
def settings (v : Json) : Settings :=
  let fs := v.fields?.getD []
  { maxEventDepth := nat fs "maxEventDepth" 10
    allowedDomains := match field fs "allowedDomains" with
      | .arr xs => xs.filterMap Json.str?
      | _ => ["localhost", "127.0.0.1"]
    requestTimeoutMs := nat fs "requestTimeoutMs" 10000 }

/-- Read a checked project. -/
def project (v : Json) : Project :=
  let fs := v.fields?.getD []
  { name := text? fs "name"
    runtime := settings (field fs "runtime")
    stateVariables := ((field fs "stateVariables").items?.getD []).map stateVariable
    events := ((field fs "events").items?.getD []).map event
    widgets := ((field fs "widgets").items?.getD []).map widget }

end Read

/-- Read a project file: the project, or the first fault with its place. -/
def Project.parse (text : String) : Except Fault Project :=
  (Shape.project.scanText text).map Read.project

/-- Decode an action from a value. -/
def Action.decode (v : Json) : Except String Action :=
  (Shape.action.checkValue v).map fun c => Read.action (c.depth + 1) c

/-- Decode an event definition from a value. -/
def EventDef.decode (v : Json) : Except String EventDef :=
  (Shape.event.checkValue v).map Read.event

/-- Decode a list of event definitions from a value. -/
def EventDef.decodeList (v : Json) : Except String (List EventDef) :=
  ((Shape.list Shape.event).checkValue v).map fun c => (c.items?.getD []).map Read.event

/-- Decode a widget from a value. -/
def Widget.decode (v : Json) : Except String Widget :=
  (Shape.widget.checkValue v).map Read.widget

/-- Decode a list of widgets from a value. -/
def Widget.decodeList (v : Json) : Except String (List Widget) :=
  ((Shape.list Shape.widget).checkValue v).map fun c => (c.items?.getD []).map Read.widget

/-- Decode a state variable from a value. -/
def StateVariable.decode (v : Json) : Except String StateVariable :=
  (Shape.stateVariable.checkValue v).map Read.stateVariable

/-- Decode a list of state variables from a value. -/
def StateVariable.decodeList (v : Json) : Except String (List StateVariable) :=
  ((Shape.list Shape.stateVariable).checkValue v).map fun c => (c.items?.getD []).map Read.stateVariable

/-- Decode runtime settings from a value. -/
def Settings.decode (v : Json) : Except String Settings :=
  (Shape.config.checkValue v).map Read.settings

/-- Read a trigger kind from its name, as a string value is decoded. -/
def TriggerKind.parse (s : String) : Except String TriggerKind :=
  match TriggerKind.ofName? s with
  | some k => .ok k
  | none => .error ("unknown trigger '" ++ s ++ "'")

end Storyboard
