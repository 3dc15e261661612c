/-!
# JSON values

The dynamic data of a project: application and screen state, action parameters,
widget props and event payloads are all JSON values.

Two decisions are made once here for the whole library.

* A number is either an integer literal (`int`, within the 64-bit signed and unsigned
  ranges together) or any other number (`float`). The two never compare equal as values:
  `1` and `1.0` are different data, even though arithmetic treats them alike.
* An object is an association list kept sorted by key, each key once. Sorting is by
  code point, which is the byte order of the UTF-8 text, so walking the list visits
  keys in the order a sorted map would.

Main statements: `Json.lookup_setField_self` (a written key reads back) and
`Json.lookup_setField_ne` (other keys are untouched).
-/

namespace Storyboard

/-- A JSON value. Integer literals and other numbers are kept apart; objects hold
their fields sorted by key. -/
inductive Json where
  /-- The literal `null`. -/
  | null
  /-- `true` or `false`. -/
  | bool (b : Bool)
  /-- An integer literal, between `-2^63` and `2^64 - 1`. -/
  | int (n : Int)
  /-- Any other finite number. -/
  | float (f : Float)
  /-- A string. -/
  | str (s : String)
  /-- An array. -/
  | arr (items : List Json)
  /-- An object, its fields sorted by key with no key twice. -/
  | obj (fields : List (String × Json))

instance : Inhabited Json := ⟨.null⟩

namespace Json

/-! ## Fields of an object -/

/-- The value stored under `key`, if any. -/
def lookup (key : String) : List (String × Json) → Option Json
  | [] => none
  | (k, v) :: rest => if k = key then some v else lookup key rest

/-- Store `value` under `key`, replacing an earlier value and keeping the keys sorted. -/
def setField (key : String) (value : Json) : List (String × Json) → List (String × Json)
  | [] => [(key, value)]
  | (k, v) :: rest =>
    if key = k then (key, value) :: rest
    else if key < k then (key, value) :: (k, v) :: rest
    else (k, v) :: setField key value rest

/-- Remove the field `key`, if present. -/
def eraseField (key : String) : List (String × Json) → List (String × Json)
  | [] => []
  | (k, v) :: rest => if k = key then rest else (k, v) :: eraseField key rest

/-- Whether the object has a field `key`. -/
def hasField (key : String) (fields : List (String × Json)) : Bool :=
  (lookup key fields).isSome

/-- Build an object from fields in any order; of two fields with one key the later wins. -/
def ofFields (fields : List (String × Json)) : Json :=
  .obj (fields.foldl (fun acc (k, v) => setField k v acc) [])

/-- The empty object. -/
def empty : Json := .obj []

/-- Reading a key after a write: the value written under its own key, what was there under any
other. -/
theorem lookup_setField (key other : String) (value : Json) (fields : List (String × Json)) :
    lookup other (setField key value fields) = if key = other then some value else lookup other fields := by
  induction fields with
  | nil => by_cases h : key = other <;> simp [setField, lookup, h]
  | cons kv rest ih =>
    obtain ⟨k, v⟩ := kv
    by_cases hk : key = k
    · subst hk
      by_cases h : key = other <;> simp [setField, lookup, h]
    · by_cases hlt : key < k
      · simp [setField, lookup, hk, hlt]
      · -- the write goes past `k`, which keeps its value unless it is the key read
        by_cases hko : k = other
        · subst hko
          simp [setField, lookup, hk, hlt]
        · simp [setField, lookup, hk, hlt, hko, ih]

theorem lookup_setField_self (key : String) (value : Json) (fields : List (String × Json)) :
    lookup key (setField key value fields) = some value := by
  rw [lookup_setField, if_pos rfl]

theorem lookup_setField_ne {key other : String} (value : Json) (fields : List (String × Json))
    (h : other ≠ key) : lookup other (setField key value fields) = lookup other fields := by
  rw [lookup_setField, if_neg (Ne.symm h)]

/-! ## Kinds -/

/-- Whether the value is `null`. -/
def isNull : Json → Bool
  | .null => true
  | _ => false

/-- The fields of an object, or `none` for any other value. -/
def fields? : Json → Option (List (String × Json))
  | .obj fs => some fs
  | _ => none

theorem fields?_obj (fs : List (String × Json)) : (obj fs).fields? = some fs := rfl

/-- The text of a string value, or `none` for any other value. -/
def str? : Json → Option String
  | .str s => some s
  | _ => none

theorem str?_str (s : String) : (str s).str? = some s := rfl

/-- The items of an array, or `none` for any other value. -/
def items? : Json → Option (List Json)
  | .arr xs => some xs
  | _ => none

theorem items?_arr (xs : List Json) : (arr xs).items? = some xs := rfl

/-! ## Equality of data

Two values are the same data when they have the same shape, the same literals and the
same fields. Numbers compare within their kind: integers as integers, other numbers by
floating-point equality, and an integer never equals another number. -/

mutual
/-- Equality of data, as described above. -/
def same : Json → Json → Bool
  | .null, .null => true
  | .bool a, .bool b => a == b
  | .int a, .int b => a == b
  | .float a, .float b => a == b
  | .str a, .str b => a == b
  | .arr xs, .arr ys => sameItems xs ys
  | .obj xs, .obj ys => sameFields xs ys
  | _, _ => false
/-- Equality of two lists of items, position by position. -/
def sameItems : List Json → List Json → Bool
  | [], [] => true
  | x :: xs, y :: ys => same x y && sameItems xs ys
  | _, _ => false
/-- Equality of two sorted field lists, field by field. -/
def sameFields : List (String × Json) → List (String × Json) → Bool
  | [], [] => true
  | (k, x) :: xs, (l, y) :: ys => k == l && same x y && sameFields xs ys
  | _, _ => false
end

end Json

end Storyboard
