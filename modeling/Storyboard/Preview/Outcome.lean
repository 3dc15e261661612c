import Storyboard.Project.Basic

/-!
# Outcomes of actions and events

Running an action never throws: it yields an `Outcome` that says whether it succeeded,
which state paths it wrote, the first error met, and the signals it sends to the shell
that hosts the preview (`Effect`). Outcomes of nested actions are merged by `absorb`:
success is the conjunction, the first error stays, later writes of a path win, effects
append, and data is replaced when the later outcome has some.
-/

namespace Storyboard

/-- Why an action failed. -/
inductive Failure where
  /-- A target names no scope, or a local write has no widget instance. -/
  | invalidScope (what : String)
  /-- A state update names an operation that does not exist. -/
  | unsupportedOperation (operation : String)
  /-- An action of an unknown type was run. -/
  | unsupportedActionType (typeName : String)
  /-- A request went to a host that is not allowed. -/
  | domainNotAllowed (what : String)
  /-- Custom events fired one another too deeply. -/
  | depthExceeded (depth limit : Nat)
  /-- A request was answered with a status outside 200 to 299. -/
  | http (status : Nat) (statusText : String)
  /-- A request got no answer. -/
  | transport (message : String)

/-- The text of a failure. -/
def Failure.message : Failure → String
  | .invalidScope w => "InvalidScope: " ++ w
  | .unsupportedOperation o => "UnsupportedOperation: " ++ o
  | .unsupportedActionType t => "UnsupportedActionType: " ++ t
  | .domainNotAllowed w => "DomainNotAllowed: " ++ w
  | .depthExceeded d m => s!"MaxEventDepthExceeded: depth {d} reached the limit of {m}"
  | .http s t => s!"HttpError({s}): {t}"
  | .transport m => "Transport: " ++ m

/-- A signal to the shell that hosts the preview. -/
inductive Effect where
  /-- Navigate. -/
  | navigate (how : NavigationType) (target : Option String) (params : Option Json)
  /-- Show a message. -/
  | toast (message : String) (variant : Option String) (duration : Option Nat)
  /-- Open a widget. -/
  | openWidget (widgetId : String)
  /-- Close a widget. -/
  | closeWidget (widgetId : String)
  /-- Run no further events of the current trigger. -/
  | stopPropagation
  /-- A custom event was fired. -/
  | emitEvent (eventName : String) (payload : Option Json)

namespace Effect

/-- Whether this is the signal to stop propagation. -/
def stops : Effect → Bool
  | .stopPropagation => true
  | _ => false

/-- A JSON value for an optional one, `null` when absent. -/
def orNull : Option Json → Json
  | some v => v
  | none => .null

/-- The JSON form of a signal: its `kind` and its fields, each always present. -/
def toJson : Effect → Json
  | .navigate how t p => Json.ofFields [("kind", .str "navigate"),
      ("navigation_type", .str how.name), ("target", orNull (t.map .str)), ("params", orNull p)]
  | .toast m v d => Json.ofFields [("kind", .str "toast"), ("message", .str m),
      ("variant", orNull (v.map .str)), ("duration", orNull (d.map fun n => .int n))]
  | .openWidget w => Json.ofFields [("kind", .str "open_widget"), ("widget_id", .str w)]
  | .closeWidget w => Json.ofFields [("kind", .str "close_widget"), ("widget_id", .str w)]
  | .stopPropagation => Json.ofFields [("kind", .str "stop_propagation")]
  | .emitEvent n p => Json.ofFields [("kind", .str "emit_event"), ("event_name", .str n),
      ("payload", orNull p)]

end Effect

/-- What running an action or an event came to. -/
structure Outcome where
  /-- Whether everything succeeded. -/
  success : Bool := true
  /-- The paths written and their new values, sorted by path. -/
  changes : List (String × Json) := []
  /-- The first error met. -/
  error : Option String := none
  /-- The signals sent, in order. -/
  effects : List Effect := []
  /-- The data a request produced. -/
  data : Option Json := none

namespace Outcome

/-- Success with nothing done. -/
def ok : Outcome := {}

/-- A failure with nothing done. -/
def failure (f : Failure) : Outcome := { success := false, error := some f.message }

/-- Record a write. -/
def withChange (r : Outcome) (path : String) (value : Json) : Outcome :=
  { r with changes := Json.setField path value r.changes }

/-- Record a signal. -/
def withEffect (r : Outcome) (e : Effect) : Outcome := { r with effects := r.effects ++ [e] }

/-- Merge the outcome of a later step into this one. -/
def absorb (r o : Outcome) : Outcome where
  success := r.success && o.success
  changes := o.changes.foldl (fun cs (k, v) => Json.setField k v cs) r.changes
  error := r.error.or o.error
  effects := r.effects ++ o.effects
  data := o.data.or r.data

/-- Whether some signal stops propagation. -/
def stopsPropagation (r : Outcome) : Bool := r.effects.any Effect.stops

/-- The JSON form of an outcome; empty changes and effects, no error and no data are
left out. -/
def toJson (r : Outcome) : Json :=
  Json.ofFields ([("success", .bool r.success)]
    ++ (if r.changes.isEmpty then [] else [("changes", .obj r.changes)])
    ++ (match r.error with | some e => [("error", .str e)] | none => [])
    ++ (if r.effects.isEmpty then [] else [("effects", .arr (r.effects.map Effect.toJson))])
    ++ (match r.data with | some d => [("data", d)] | none => []))

end Outcome

/-- What one primitive action comes to: a value written at a target, a signal to the
shell, or a failure. -/
inductive Step where
  /-- A write of `value` at `target`. -/
  | write (target : String) (value : Json)
  /-- A signal to the shell. -/
  | signal (e : Effect)
  /-- A failure. -/
  | fail (f : Failure)

/-- The outcome of a single step. -/
def Step.outcome : Step → Outcome
  | .write t v => Outcome.ok.withChange t v
  | .signal e => Outcome.ok.withEffect e
  | .fail f => Outcome.failure f

end Storyboard
