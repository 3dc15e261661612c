import Storyboard.Format.Shape

/-!
# Decoding values in memory

`Shape.check` decides whether a value has a shape and returns it in normal form: names
of a choice in their own spelling, records reduced to their known fields, and the params
of an action replaced by their checked form. A record's fields are visited in key order
and the first fault wins; missing fields are reported after that, in the order the
record declares them.

An action is checked in two steps: first as the record `RawAction`, then its params
against the shape its type asks for (absent params count as an empty object). A fault
in the second step names the action: `invalid params for toast action 't': …`. Params of
an unknown type are kept as they are, and `stop_propagation` drops its params.
-/

namespace Storyboard

namespace Json

mutual
/-- The nesting depth of a value: one for a scalar. -/
def depth : Json → Nat
  | .arr xs => depthItems xs + 1
  | .obj fs => depthFields fs + 1
  | _ => 1
/-- The greatest depth among items. -/
def depthItems : List Json → Nat
  | [] => 0
  | x :: xs => max (depth x) (depthItems xs)
/-- The greatest depth among field values. -/
def depthFields : List (String × Json) → Nat
  | [] => 0
  | (_, v) :: fs => max (depth v) (depthFields fs)
end

end Json

namespace Shape

/-- The fault of an action whose params do not fit its type. -/
def invalidParams (type id msg : String) : String :=
  "invalid params for " ++ type ++ " action '" ++ id ++ "': " ++ msg

/-- Check the fields of a record given as an object. -/
def checkFields (check : Shape → Json → Except String Json) (fields : List (String × Shape × Bool))
    (given : List (String × Json)) : Except String Json := do
  let mut out : List (String × Json) := []
  for (k, v) in given do
    match fields.find? (·.1 == k) with
    | some (_, s, _) => out := Json.setField k (← check s v) out
    | none => pure ()
  for (k, _, required) in fields do
    if required && !(Json.hasField k out) then throw (missingField k)
  pure (.obj out)

/-- Check the fields of a record given as a list, in declaration order. -/
def checkPositional (check : Shape → Json → Except String Json) (name : String)
    (fields : List (String × Shape × Bool)) (given : List Json) : Except String Json := do
  let expected := recordLength name fields.length
  let mut out : List (String × Json) := []
  let mut i := 0
  for (k, s, required) in fields do
    match given[i]? with
    | some v => out := Json.setField k (← check s v) out
    | none => if required then throw (invalidLength i expected)
    i := i + 1
  if fields.length < given.length then
    throw (invalidLength given.length "fewer elements in array")
  pure (.obj out)

/-- Check one of a set of names, given as a string or as an object with one key whose
value is `null`. -/
def checkChoice (spellings : List (String × String)) : Json → Except String Json
  | .str n =>
    match spellings.find? (·.1 == n) with
    | some (_, canon) => .ok (.str canon)
    | none => .error (unknownVariant n spellings)
  | .obj [(n, content)] =>
    match spellings.find? (·.1 == n) with
    | some (_, canon) =>
      if content.isNull then .ok (.str canon) else .error (Json.invalidType content "unit")
    | none => .error (unknownVariant n spellings)
  | .obj _ => .error (Json.invalidValue (.obj []) "map with a single key")
  | v => .error (Json.invalidType v "string or map")

/-- Check a value against a shape, with `fuel` bounding the nesting (the value's depth
plus one always suffices). -/
def check : Nat → Shape → Json → Except String Json
  | 0, _, _ => .error "recursion limit exceeded"
  | fuel + 1, s, v =>
    match s, v with
    | .any, v => .ok v
    | .string, .str t => .ok (.str t)
    | .boolean, .bool b => .ok (.bool b)
    | .float, .int n => .ok (.int n)
    | .float, .float f => .ok (.float f)
    | .u64, .int n => if 0 ≤ n then .ok (.int n) else .error (Json.invalidValue (.int n) "u64")
    | .usize, .int n => if 0 ≤ n then .ok (.int n) else .error (Json.invalidValue (.int n) "usize")
    | .option _, .null => .ok .null
    | .option inner, v => check fuel inner v
    | .list inner, .arr xs => return .arr (← xs.mapM (check fuel inner))
    | .dict inner, .obj fs => return .obj (← fs.mapM fun (k, x) => return (k, ← check fuel inner x))
    | .choice sp, v => checkChoice sp v
    | .record _ fields, .obj fs => checkFields (check fuel) fields fs
    | .record name fields, .arr xs => checkPositional (check fuel) name fields xs
    | .action, v => do
      let raw ← check fuel rawAction v
      let field := fun k => (raw.fields?.bind (Json.lookup k)).getD .null
      let id := (field "id").str?.getD ""
      let type := (field "type").str?.getD ""
      let params := field "params"
      match Shape.params type with
      | some ps =>
        let given := if params.isNull then Json.empty else params
        match check fuel ps given with
        | .ok p => .ok (.obj [("id", .str id), ("params", p), ("type", .str type)])
        | .error e => .error (invalidParams type id e)
      | none =>
        if type = "stop_propagation" then .ok (.obj [("id", .str id), ("type", .str type)])
        else .ok (.obj [("id", .str id), ("params", params), ("type", .str type)])
    | s, v => .error (Json.invalidType v s.expecting)

/-- Check a value against a shape. -/
def checkValue (s : Shape) (v : Json) : Except String Json := check (v.depth + 2) s v

end Shape

end Storyboard
