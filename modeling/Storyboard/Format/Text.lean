import Storyboard.Format.Value
import Storyboard.Json.Reader

/-!
# Decoding text

`Shape.scanText` decodes a text against a shape in one left-to-right pass and stops at
the first fault, so a fault early in the text wins over any later one, whatever its
kind. It agrees with `Shape.check` on what is accepted, and adds a place to each fault.

Where a fault is placed:

* a value of the wrong kind: just after it when it is a scalar, which is read in full
  first; just before it when it is a list or an object;
* a name outside a choice, or a number out of range: just after it;
* faults found away from the text (a missing field, a field given twice, the params of
  an action) are placed where the enclosing list or record stops reading: after its
  closing bracket, or after a comma and blanks that follow the faulty item.
-/

namespace Storyboard

/-- A fault met while scanning: placed already, or waiting for the enclosing list or
record to place it, with the cursor where it arose. -/
inductive ScanFault where
  /-- A fault with its place. -/
  | placed (f : Fault)
  /-- A fault to be placed by the enclosing container. -/
  | pending (message : String) (at_ : Cursor)

namespace ScanFault

/-- A fault at the last consumed byte. -/
def here (c : Cursor) (msg : String) : ScanFault := .placed ⟨msg, some c.here⟩

/-- A fault at the next byte. -/
def ahead (c : Cursor) (msg : String) : ScanFault := .placed ⟨msg, some c.ahead⟩

/-- A reader's fault, which always has its place. -/
def ofFault (f : Fault) : ScanFault := .placed f

end ScanFault

/-- The result of scanning a value: the value in normal form and the cursor after it. -/
abbrev Scanned := Except ScanFault (Json × Cursor)

namespace Cursor

/-- Lift a reader step. -/
def lift {α : Type} (r : Except Fault α) : Except ScanFault α :=
  match r with
  | .ok a => .ok a
  | .error f => .error (.placed f)

/-- What a list stops reading after a faulty item: blanks, then a closing bracket, or a
comma and the blanks after it. -/
def endListAfterFault (c : Cursor) : Cursor :=
  let c := c.skipBlank
  match c.peek with
  | some ']' => c.advance
  | some ',' => c.advance.skipBlank
  | _ => c

/-- What a record or map stops reading after a fault: blanks, then a closing brace. -/
def endObjectAfterFault (c : Cursor) : Cursor :=
  let c := c.skipBlank
  match c.peek with
  | some '\x7d' => c.advance
  | _ => c

/-- Place a waiting fault where the enclosing list stops reading. -/
def placeInList {α : Type} : Except ScanFault α → Except ScanFault α
  | .error (.pending msg c) => .error (.placed ⟨msg, some (endListAfterFault c).here⟩)
  | r => r

/-- Place a waiting fault where the enclosing record stops reading. -/
def placeInObject {α : Type} : Except ScanFault α → Except ScanFault α
  | .error (.pending msg c) => .error (.placed ⟨msg, some (endObjectAfterFault c).here⟩)
  | r => r

/-- The fault for a value of the wrong kind at the cursor (after blanks). Scalars are
read first, so the fault lands after them. -/
def wrongKind {α : Type} (c : Cursor) (expected : String) : Except ScanFault α :=
  let found (v : Json) (c : Cursor) : Except ScanFault α :=
    .error (ScanFault.here c (Json.invalidType v expected))
  match c.peek with
  | some 'n' => match c.advance.expectWord "ull".toList with
    | .ok c => found .null c
    | .error f => .error (.placed f)
  | some 't' => match c.advance.expectWord "rue".toList with
    | .ok c => found (.bool true) c
    | .error f => .error (.placed f)
  | some 'f' => match c.advance.expectWord "alse".toList with
    | .ok c => found (.bool false) c
    | .error f => .error (.placed f)
  | some '-' => match c.advance.number true with
    | .ok (n, c) => found n.toJson c
    | .error f => .error (.placed f)
  | some '"' => match c.advance.string with
    | .ok (s, c) => found (.str s) c
    | .error f => .error (.placed f)
  | some '[' => found (.arr []) c
  | some '\x7b' => found (.obj []) c
  | some ch =>
    if '0' ≤ ch ∧ ch ≤ '9' then
      match c.number false with
      | .ok (n, c) => found n.toJson c
      | .error f => .error (.placed f)
    else .error (ScanFault.ahead c Fault.expectedValue)
  | none => .error (ScanFault.ahead c Fault.expectedValue)

/-- Read a number where one is expected. -/
def numberValue (c : Cursor) (expected : String) : Except ScanFault (NumberLit × Cursor) :=
  match c.peek with
  | some '-' => lift (c.advance.number true)
  | some ch => if '0' ≤ ch ∧ ch ≤ '9' then lift (c.number false) else c.wrongKind expected
  | none => .error (ScanFault.ahead c Fault.eofValue)

/-- Read the colon after a key. -/
def colon (c : Cursor) : Except ScanFault Cursor :=
  let c := c.skipBlank
  match c.peek with
  | some ':' => .ok c.advance
  | some _ => .error (ScanFault.ahead c Fault.expectedColon)
  | none => .error (ScanFault.ahead c Fault.eofObject)

/-- Find the start of the next item of a list: `none` at the closing bracket (not
consumed), else the cursor at the item. -/
def nextItem (c : Cursor) (first : Bool) : Except ScanFault (Option Cursor) :=
  let c := c.skipBlank
  match c.peek with
  | none => .error (ScanFault.ahead c Fault.eofList)
  | some ']' => .ok none
  | some ',' =>
    if first then .ok (some c) else
    let c := c.advance.skipBlank
    match c.peek with
    | some ']' => .error (ScanFault.ahead c Fault.trailingComma)
    | none => .error (ScanFault.ahead c Fault.eofValue)
    | some _ => .ok (some c)
  | some _ => if first then .ok (some c) else .error (ScanFault.ahead c Fault.expectedListCommaOrEnd)

/-- Find the next key of an object: `none` at the closing brace (not consumed), else the
key and the cursor after it. -/
def nextKey (c : Cursor) (first : Bool) : Except ScanFault (Option (String × Cursor)) := do
  let c := c.skipBlank
  let readKey (c : Cursor) : Except ScanFault (Option (String × Cursor)) :=
    match c.advance.string with
    | .ok r => .ok (some r)
    | .error f => .error (.placed f)
  match c.peek with
  | none => .error (ScanFault.ahead c Fault.eofObject)
  | some '\x7d' => .ok none
  | some ch =>
    if first then
      if ch = '"' then readKey c else .error (ScanFault.ahead c Fault.keyMustBeString)
    else if ch = ',' then
      let c := c.advance.skipBlank
      match c.peek with
      | some '"' => readKey c
      | some '\x7d' => .error (ScanFault.ahead c Fault.trailingComma)
      | some _ => .error (ScanFault.ahead c Fault.keyMustBeString)
      | none => .error (ScanFault.ahead c Fault.eofValue)
    else .error (ScanFault.ahead c Fault.expectedObjectCommaOrEnd)

/-- Consume the closing bracket of a list whose items are all read. -/
def closeList (c : Cursor) : Except ScanFault Cursor :=
  let c := c.skipBlank
  match c.peek with
  | some ']' => .ok c.advance
  | some ',' =>
    let c := c.advance.skipBlank
    match c.peek with
    | some ']' => .error (ScanFault.ahead c Fault.trailingComma)
    | _ => .error (ScanFault.ahead c Fault.trailingCharacters)
  | some _ => .error (ScanFault.ahead c Fault.trailingCharacters)
  | none => .error (ScanFault.ahead c Fault.eofList)

/-- Open a container at the cursor, within the nesting limit. -/
def openContainer (c : Cursor) : Except ScanFault Cursor :=
  if c.room ≤ 1 then .error (ScanFault.ahead c Fault.recursionLimit)
  else .ok { c.advance with room := c.room - 1 }

/-- Read one of a set of names written as an object `{"name": null}`, whose brace is
consumed. -/
def choiceObject (c : Cursor) (spellings : List (String × String)) : Except ScanFault (Json × Cursor) := do
  let c0 := c.skipBlank
  let (name, c) ← match c0.peek with
    | some '"' => lift c0.advance.string
    | some _ => c0.wrongKind "variant identifier"
    | none => .error (ScanFault.ahead c0 Fault.eofValue)
  let canon ← match spellings.find? (·.1 == name) with
    | some (_, canon) => .ok canon
    | none => .error (ScanFault.here c (Shape.unknownVariant name spellings))
  let c ← c.colon
  let c := c.skipBlank
  let c ← match c.peek with
    | some 'n' => lift (c.advance.expectWord "ull".toList)
    | some _ => c.wrongKind "unit"
    | none => .error (ScanFault.ahead c Fault.eofValue)
  let c := c.skipBlank
  match c.peek with
  | some '\x7d' => .ok (.str canon, c.advance)
  | some _ => .error (ScanFault.here c Fault.expectedValue)
  | none => .error (ScanFault.here c Fault.eofObject)

end Cursor

namespace Shape

open Cursor in
mutual
/-- Scan one value of a shape, blanks first. `fuel` bounds the work; every step
consumes a character, so twice the length of the text is enough. -/
def scan : Nat → Shape → Cursor → Scanned
  | 0, _, c => .error (ScanFault.here c Fault.eofValue)
  | fuel + 1, s, c0 =>
    let c := c0.skipBlank
    match s with
    | .any => lift (Cursor.value (fuel + 1) c)
    | .option inner =>
      match c.peek with
      | some 'n' => do let c ← lift (c.advance.expectWord "ull".toList); pure (.null, c)
      | _ => scan fuel inner c
    | .action => do
      let (raw, c) ← scan fuel rawAction c
      match checkValue .action raw with
      | .ok v => pure (v, c)
      | .error msg => .error (.pending msg c)
    | s =>
      match c.peek with
      | none => .error (ScanFault.ahead c Fault.eofValue)
      | some ch =>
        match s, ch with
        | .string, '"' => do let (t, c) ← lift c.advance.string; pure (.str t, c)
        | .boolean, 't' => do let c ← lift (c.advance.expectWord "rue".toList); pure (.bool true, c)
        | .boolean, 'f' => do let c ← lift (c.advance.expectWord "alse".toList); pure (.bool false, c)
        | .float, _ => do let (n, c) ← c.numberValue "f64"; pure (n.toJson, c)
        | .u64, _ => wholeNumber c "u64"
        | .usize, _ => wholeNumber c "usize"
        | .list inner, '[' => do
          let inner_c ← c.openContainer
          let r := placeInList (do
            let (xs, c') ← scanItems fuel inner inner_c true []
            let c' ← closeList c'
            pure (Json.arr xs, c'))
          match r with
          | .ok (v, c') => .ok (v, { c' with room := c.room })
          | .error e => .error e
        | .dict inner, '\x7b' => do
          let inner_c ← c.openContainer
          let r := placeInObject (do
            let (fs, c') ← scanDict fuel inner inner_c true []
            pure (Json.obj fs, c'.skipBlank.advance))
          match r with
          | .ok (v, c') => .ok (v, { c' with room := c.room })
          | .error e => .error e
        | .choice sp, '"' => do
          let (name, c') ← lift c.advance.string
          match sp.find? (·.1 == name) with
          | some (_, canon) => pure (.str canon, c')
          | none => .error (ScanFault.here c' (unknownVariant name sp))
        | .choice sp, '\x7b' => do
          let inner_c ← c.openContainer
          let (v, c') ← choiceObject inner_c sp
          pure (v, { c' with room := c.room })
        | .choice _, _ => .error (ScanFault.ahead c Fault.expectedValue)
        | .record _ fields, '\x7b' => do
          let inner_c ← c.openContainer
          let r := placeInObject (do
            let (fs, c') ← scanFields fuel fields inner_c true []
            match fields.find? fun (k, _, required) => required && !(Json.hasField k fs) with
            | some (k, _, _) => .error (.pending (missingField k) c')
            | none => pure (Json.obj fs, c'.skipBlank.advance))
          match r with
          | .ok (v, c') => .ok (v, { c' with room := c.room })
          | .error e => .error e
        | .record name fields, '[' => do
          let inner_c ← c.openContainer
          let r := placeInList (do
            let (fs, c') ← scanPositional fuel name fields fields.length 0 inner_c []
            let c' ← closeList c'
            pure (Json.obj fs, c'))
          match r with
          | .ok (v, c') => .ok (v, { c' with room := c.room })
          | .error e => .error e
        | s, _ => c.wrongKind s.expecting
/-- Read a natural where one is expected. -/
def wholeNumber (c : Cursor) (expected : String) : Scanned := do
  let (n, c) ← c.numberValue expected
  match n with
  | .unsigned k => pure (.int k, c)
  | .signed k => .error (ScanFault.here c (Json.invalidValue (.int k) expected))
  | .double f => .error (ScanFault.here c (Json.invalidType (.float f) expected))
/-- Scan the items of a list up to its closing bracket (not consumed). -/
def scanItems : Nat → Shape → Cursor → Bool → List Json → Except ScanFault (List Json × Cursor)
  | 0, _, c, _, _ => .error (ScanFault.here c Fault.eofList)
  | fuel + 1, inner, c, first, acc => do
    match ← c.nextItem first with
    | none => pure (acc.reverse, c.skipBlank)
    | some c => do
      let (v, c) ← scan fuel inner c
      scanItems fuel inner c false (v :: acc)
/-- Scan the fields of a map up to its closing brace (not consumed); a later value of a
key replaces an earlier one. -/
def scanDict : Nat → Shape → Cursor → Bool → List (String × Json) →
    Except ScanFault (List (String × Json) × Cursor)
  | 0, _, c, _, _ => .error (ScanFault.here c Fault.eofObject)
  | fuel + 1, inner, c, first, acc => do
    match ← c.nextKey first with
    | none => pure (acc, c)
    | some (k, c) => do
      let c ← c.colon
      let (v, c) ← scan fuel inner c
      scanDict fuel inner c false (Json.setField k v acc)
/-- Scan the fields of a record up to its closing brace (not consumed). The value of an
unknown key is skipped; a known key given twice is a fault. -/
def scanFields : Nat → List (String × Shape × Bool) → Cursor → Bool → List (String × Json) →
    Except ScanFault (List (String × Json) × Cursor)
  | 0, _, c, _, _ => .error (ScanFault.here c Fault.eofObject)
  | fuel + 1, fields, c, first, acc => do
    match ← c.nextKey first with
    | none => pure (acc, c)
    | some (k, c) =>
      match fields.find? (·.1 == k) with
      | some (_, s, _) =>
        if Json.hasField k acc then .error (.pending (duplicateField k) c) else do
        let c ← c.colon
        let (v, c) ← scan fuel s c
        scanFields fuel fields c false (Json.setField k v acc)
      | none => do
        let c ← c.colon
        let c ← lift (Cursor.skipValue c.fuelFor c [])
        scanFields fuel fields c false acc
/-- Scan the fields of a record written as a list, in declaration order. -/
def scanPositional : Nat → String → List (String × Shape × Bool) → Nat → Nat → Cursor →
    List (String × Json) → Except ScanFault (List (String × Json) × Cursor)
  | 0, _, _, _, _, c, _ => .error (ScanFault.here c Fault.eofList)
  | _, _, [], _, _, c, acc => pure (acc, c)
  | fuel + 1, name, (k, s, required) :: rest, count, i, c, acc => do
    match ← c.nextItem (i == 0) with
    | none =>
      if required then .error (.pending (invalidLength i (recordLength name count)) c)
      else scanPositional fuel name rest count (i + 1) c acc
    | some c => do
      let (v, c) ← scan fuel s c
      scanPositional fuel name rest count (i + 1) c (Json.setField k v acc)
end

/-- Decode a whole text against a shape: the value in normal form, or the first fault
with its place. -/
def scanText (s : Shape) (text : String) : Except Fault Json :=
  let c := Cursor.start text
  match scan c.fuelFor s c with
  | .ok (v, c) =>
    match c.finish with
    | .ok () => .ok v
    | .error f => .error f
  | .error (.placed f) => .error f
  | .error (.pending msg c) => .error ⟨msg, some c.here⟩

end Shape

end Storyboard
