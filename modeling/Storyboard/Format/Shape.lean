import Storyboard.Json.Basic
import Storyboard.Decimal.Layout
import Storyboard.Text.Unprintable

/-!
# Shapes of the project file

A `Shape` says what a decoder expects where: a string, a number of some kind, an
optional value, a list, a map, one of a fixed set of names, a record of named fields, or
an action. The project file format is written down once here, as shapes, and two
decoders follow them: `Shape.check` for values already in memory and `Shape.scan` for
text, which also names the place of a fault.

A decoder's fault message names what it found and what it expected:
`invalid type: integer `5`, expected a string`. This module holds those words:
`Shape.expecting` for the expectation and `Json.unexpected` for what was found.
-/

namespace Storyboard

/-- What a decoder expects. -/
inductive Shape where
  /-- Any value at all. -/
  | any
  /-- A string. -/
  | string
  /-- `true` or `false`. -/
  | boolean
  /-- A number, read as a double. -/
  | float
  /-- A natural below `2^64`. -/
  | u64
  /-- A natural below `2^64`, named as a size. -/
  | usize
  /-- `null`, or a value of the inner shape. -/
  | option (inner : Shape)
  /-- A list whose items have the inner shape. -/
  | list (inner : Shape)
  /-- An object whose values have the inner shape. -/
  | dict (inner : Shape)
  /-- One of a fixed set of names: each accepted spelling with the name it stands for,
  in the order the names are listed in a fault. -/
  | choice (spellings : List (String × String))
  /-- A record: its name, and its fields as key, shape and whether the field must be
  present. -/
  | record (name : String) (fields : List (String × Shape × Bool))
  /-- An action: a record of `id`, `type` and `params`, whose params must then fit the
  shape that the type asks for. -/
  | action

namespace Shape

/-- What a fault says was expected. -/
def expecting : Shape → String
  | .any => "any valid JSON value"
  | .string => "a string"
  | .boolean => "a boolean"
  | .float => "f64"
  | .u64 => "u64"
  | .usize => "usize"
  | .option inner => inner.expecting
  | .list _ => "a sequence"
  | .dict _ => "a map"
  | .choice _ => "string or map"
  | .record name _ => "struct " ++ name
  | .action => "struct RawAction"

/-- The names of a choice, as a fault lists them. -/
def listNames (names : List String) : String :=
  let q := fun (n : String) => "`" ++ n ++ "`"
  match names with
  | [] => "there are no variants"
  | [a] => q a
  | [a, b] => q a ++ " or " ++ q b
  | _ => "one of " ++ ", ".intercalate (names.map q)

/-- The fault for a name that is not among the spellings. -/
def unknownVariant (name : String) (spellings : List (String × String)) : String :=
  "unknown variant `" ++ name ++ "`, expected " ++ listNames (spellings.map (·.1))

/-- The fault for a missing field. -/
def missingField (key : String) : String := "missing field `" ++ key ++ "`"

/-- The fault for a field given twice. -/
def duplicateField (key : String) : String := "duplicate field `" ++ key ++ "`"

/-- The fault for a list of the wrong length where a record was expected. -/
def invalidLength (n : Nat) (expected : String) : String :=
  "invalid length " ++ toString n ++ ", expected " ++ expected

/-- What a record read from a list expects: `struct Name with N elements`. -/
def recordLength (name : String) (count : Nat) : String :=
  "struct " ++ name ++ " with " ++ toString count ++ " elements"

end Shape

/-! ## Naming what was found -/

namespace Json

/-- Whether a character is written as an escape when a string is quoted in a fault:
exactly the unprintable ones. -/
def escapedInQuote (c : Char) : Bool := Text.isUnprintable c

/-- Lowercase hex digits of a natural, without leading zeros. -/
def hexText (n : Nat) : String := String.ofList (Nat.toDigits 16 n)

/-- A string quoted as a fault shows it: in double quotes, with the quote, the
backslash and invisible characters escaped. -/
def quoteInFault (s : String) : String :=
  let esc : Char → List Char := fun c =>
    match c with
    | '"' => ['\\', '"']
    | '\\' => ['\\', '\\']
    | '\n' => ['\\', 'n']
    | '\r' => ['\\', 'r']
    | '\t' => ['\\', 't']
    | '\x00' => ['\\', '0']
    | c => if escapedInQuote c then ("\\u" ++ "\x7b" ++ hexText c.toNat ++ "\x7d").toList else [c]
  String.ofList ('"' :: (s.toList.flatMap esc ++ ['"']))

/-- A double as a fault names it. -/
def floatInFault (f : Float) : String := "floating point `" ++ NumberLayout.quoted.render f ++ "`"

/-- What a fault says was found, for a value of each kind. -/
def unexpected : Json → String
  | .null => "null"
  | .bool b => "boolean `" ++ (if b then "true" else "false") ++ "`"
  | .int n => "integer `" ++ toString n ++ "`"
  | .float f => floatInFault f
  | .str s => "string " ++ quoteInFault s
  | .arr _ => "sequence"
  | .obj _ => "map"

/-- The fault for a value of the wrong kind. -/
def invalidType (v : Json) (expected : String) : String :=
  "invalid type: " ++ unexpected v ++ ", expected " ++ expected

/-- The fault for a value of the right kind but out of range. -/
def invalidValue (v : Json) (expected : String) : String :=
  "invalid value: " ++ unexpected v ++ ", expected " ++ expected

end Json

/-! ## The project file format -/

namespace Shape

/-- A required field. -/
def req (key : String) (s : Shape) : String × Shape × Bool := (key, s, true)

/-- A field that may be absent. -/
def opt (key : String) (s : Shape) : String × Shape × Bool := (key, s, false)

/-- Names that stand for themselves. -/
def names (ns : List String) : Shape := .choice (ns.map fun n => (n, n))

/-- Kinds of navigation. -/
def navigationType : Shape := names ["navigate_to", "navigate_back", "open_modal"]

/-- Declared types of state variables. -/
def variableType : Shape := names ["string", "number", "boolean", "array", "object"]

/-- Scopes of state variables; `widget` is another spelling of `local`. -/
def scope : Shape :=
  .choice [("app", "app"), ("screen", "screen"), ("local", "local"), ("widget", "local")]

/-- Kinds of trigger. -/
def triggerKind : Shape := names ["click", "change", "load", "submit", "hover", "custom"]

/-- The record every action is stored as. -/
def rawAction : Shape :=
  .record "RawAction" [req "id" .string, req "type" .string, opt "params" .any]

/-- The params an action type asks for; `none` for types whose params are not read. -/
def params : String → Option Shape
  | "navigation" => some (.record "NavigationParams"
      [opt "navigationType" navigationType, opt "target" (.option .string), opt "params" (.option .any)])
  | "state_update" => some (.record "StateUpdateParams"
      [req "target" .string, opt "operation" .string, opt "value" (.option .any),
       opt "expression" (.option .string), opt "by" (.option .any)])
  | "recalculate" => some (.record "RecalculateParams" [req "target" .string, req "formula" .string])
  | "api_call" => some (.record "ApiCallParams"
      [opt "method" .string, req "url" .string, opt "headers" (.dict .string),
       opt "body" (.option .any), opt "allowedDomains" (.option (.list .string)),
       opt "onSuccess" (.list .action), opt "onError" (.list .action),
       opt "mapResponse" (.option .string)])
  | "emit_event" => some (.record "EmitEventParams" [req "eventName" .string, opt "payload" (.option .any)])
  | "condition" => some (.record "ConditionParams"
      [req "condition" .string, opt "ifTrue" (.list .action), opt "ifFalse" (.list .action)])
  | "toast" => some (.record "ToastParams"
      [req "message" .string, opt "variant" (.option .string), opt "duration" (.option .any)])
  | "open_widget" => some (.record "WidgetTargetParams" [req "widgetId" .string])
  | "close_widget" => some (.record "WidgetTargetParams" [req "widgetId" .string])
  | "batch" => some (.record "BatchParams" [opt "actions" (.list .action), opt "atomic" .boolean])
  | _ => none

/-- A declared state variable. -/
def stateVariable : Shape :=
  .record "StateVariable" [req "id" .string, req "key" .string, req "type" variableType,
    opt "value" .any, req "scope" scope, opt "description" (.option .string)]

/-- What fires an event. -/
def trigger : Shape :=
  .record "EventTrigger" [req "on" triggerKind, opt "name" (.option .string),
    opt "elementId" (.option .string)]

/-- An event definition. -/
def event : Shape :=
  .record "EventDefinition" [req "id" .string, req "trigger" trigger,
    opt "conditions" (.option (.list .string)), opt "actions" (.list .action),
    opt "enabled" (.option .boolean)]

/-- A widget's position. -/
def position : Shape := .record "Position" [req "x" .float, req "y" .float]

/-- A widget's size. -/
def size : Shape := .record "Size" [req "width" .float, req "height" .float]

/-- A widget. -/
def widget : Shape :=
  .record "Widget" [req "id" .string, req "type" .string, opt "parentId" (.option .string),
    opt "position" position, opt "size" size, opt "props" (.dict .any), opt "actions" (.list .action)]

/-- The runtime settings. -/
def config : Shape :=
  .record "RuntimeConfig" [opt "maxEventDepth" .usize, opt "allowedDomains" (.list .string),
    opt "requestTimeoutMs" .u64]

/-- A whole project. -/
def project : Shape :=
  .record "Project" [opt "name" (.option .string), opt "runtime" config,
    opt "stateVariables" (.list stateVariable), opt "events" (.list event), opt "widgets" (.list widget)]

end Shape

end Storyboard
