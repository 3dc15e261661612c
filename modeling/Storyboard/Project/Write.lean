import Storyboard.Project.Basic

/-!
# Writing projects

The JSON form of each project type, as project files store it. Absent optional fields
and empty optional lists are left out; defaults are written out (`operation` is `set`,
`method` is `GET`, a navigation type is always written). A double that is not finite is
written `null`.
-/

namespace Storyboard

namespace Write

/-- An object from fields in any order. -/
def obj (fs : List (String × Json)) : Json := Json.ofFields fs

/-- A field when the value is present. -/
def opt (k : String) : Option Json → List (String × Json)
  | some v => [(k, v)]
  | none => []

/-- A double as a JSON number. -/
def float (f : Float) : Json := if f.isFinite then .float f else .null

/-- A list of strings. -/
def texts (xs : List String) : Json := .arr (xs.map .str)

mutual
/-- The JSON form of an action: `id`, `type` and (unless null) `params`. -/
def action : Action → Json
  | .mk id kind =>
    match params kind with
    | .null => obj [("id", .str id), ("type", .str kind.typeName)]
    | p => obj [("id", .str id), ("type", .str kind.typeName), ("params", p)]
/-- The params of an action kind. -/
def params : ActionKind → Json
  | .navigation how target ps =>
    obj ([("navigationType", .str how.name)] ++ opt "target" (target.map .str) ++ opt "params" ps)
  | .stateUpdate p =>
    obj ([("target", .str p.target), ("operation", .str p.operation)] ++ opt "value" p.value
      ++ opt "expression" (p.expression.map .str) ++ opt "by" (p.step.map float))
  | .recalculate target formula => obj [("target", .str target), ("formula", .str formula)]
  | .apiCall r s e =>
    obj ([("method", .str r.method), ("url", .str r.url)]
      ++ (if r.headers.isEmpty then [] else [("headers", obj (r.headers.map fun (k, v) => (k, .str v)))])
      ++ opt "body" r.body ++ opt "allowedDomains" (r.allowedDomains.map texts)
      ++ (if s.isEmpty then [] else [("onSuccess", .arr (actions s))])
      ++ (if e.isEmpty then [] else [("onError", .arr (actions e))])
      ++ opt "mapResponse" (r.mapResponse.map .str))
  | .emitEvent name payload => obj ([("eventName", .str name)] ++ opt "payload" payload)
  | .condition c t f => obj [("condition", .str c), ("ifTrue", .arr (actions t)), ("ifFalse", .arr (actions f))]
  | .toast m v d => obj ([("message", .str m)] ++ opt "variant" (v.map .str) ++ opt "duration" (d.map fun n => .int n))
  | .openWidget w => obj [("widgetId", .str w)]
  | .closeWidget w => obj [("widgetId", .str w)]
  | .stopPropagation => .null
  | .batch as atomic => obj [("actions", .arr (actions as)), ("atomic", .bool atomic)]
  | .unsupported _ p => p
/-- The JSON forms of a list of actions. -/
def actions : List Action → List Json
  | [] => []
  | a :: as => action a :: actions as
end

/-- The JSON form of a trigger. -/
def trigger (t : Trigger) : Json :=
  obj ([("on", .str t.kind.name)] ++ opt "name" (t.name.map .str) ++ opt "elementId" (t.elementId.map .str))

/-- The JSON form of an event definition. -/
def event (e : EventDef) : Json :=
  obj ([("id", .str e.id), ("trigger", trigger e.trigger)] ++ opt "conditions" (e.conditions.map texts)
    ++ [("actions", .arr (actions e.actions))] ++ opt "enabled" (e.enabled.map .bool))

/-- The JSON form of a widget. -/
def widget (w : Widget) : Json :=
  obj ([("id", .str w.id), ("type", .str w.widgetType)] ++ opt "parentId" (w.parentId.map .str)
    ++ [("position", obj [("x", float w.position.x), ("y", float w.position.y)]),
        ("size", obj [("width", float w.size.width), ("height", float w.size.height)]),
        ("props", .obj w.props)]
    ++ (if w.actions.isEmpty then [] else [("actions", .arr (actions w.actions))]))

/-- The JSON form of a state variable. -/
def stateVariable (v : StateVariable) : Json :=
  obj ([("id", .str v.id), ("key", .str v.key), ("type", .str v.varType.name), ("value", v.value),
    ("scope", .str v.scope.name)] ++ opt "description" (v.description.map .str))

/-- The JSON form of runtime settings. -/
def settings (s : Settings) : Json :=
  obj [("maxEventDepth", .int s.maxEventDepth), ("allowedDomains", texts s.allowedDomains),
    ("requestTimeoutMs", .int s.requestTimeoutMs)]

/-- The JSON form of a project. -/
def project (p : Project) : Json :=
  obj (opt "name" (p.name.map .str) ++ [("runtime", settings p.runtime),
    ("stateVariables", .arr (p.stateVariables.map stateVariable)),
    ("events", .arr (p.events.map event)), ("widgets", .arr (p.widgets.map widget))])

end Write

end Storyboard
