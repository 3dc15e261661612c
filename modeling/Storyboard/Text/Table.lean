/-!
# Tables of code points kept as text

Large character tables are written as text and read once: entries are separated by
`;`, and numbers are lowercase hexadecimal. `CodeTable.entries` splits such text,
`CodeTable.hex` reads a number, and `CodeTable.atMost` finds, in an array sorted by key,
the last entry whose key is at most a given one, by halving the interval that can hold
it.
-/

namespace Storyboard

namespace CodeTable

/-- The value of a lowercase hexadecimal digit. -/
def hexDigit (c : Char) : Nat :=
  if '0' ≤ c ∧ c ≤ '9' then c.toNat - 48
  else if 'a' ≤ c ∧ c ≤ 'f' then c.toNat - 87
  else 0

/-- Whether a character is a lowercase hexadecimal digit. -/
def isHexDigit (c : Char) : Bool := ('0' ≤ c ∧ c ≤ '9') || ('a' ≤ c ∧ c ≤ 'f')

/-- The number written in lowercase hexadecimal. -/
def hex (cs : List Char) : Nat := cs.foldl (fun acc c => acc * 16 + hexDigit c) 0

/-- The entries of table text: the pieces between semicolons, empty ones left out. -/
def entries (chunks : List String) : List (List Char) :=
  chunks.flatMap fun chunk => (chunk.toList.splitOn ';').filter (!·.isEmpty)

/-- The numbers of a comma-separated hexadecimal list. -/
def hexList (cs : List Char) : List Nat :=
  (cs.splitOn ',').filterMap fun piece => if piece.isEmpty then none else some (hex piece)

/-- The last entry of `rows[lo]`, …, `rows[hi - 1]` whose key is at most `key`, for rows
sorted by key; `none` when even the first key is larger. -/
def atMostIn {α : Type} (rows : Array (Nat × α)) (key lo hi : Nat) : Option (Nat × α) :=
  if _h : lo + 1 < hi then
    let mid := (lo + hi) / 2
    match rows[mid]? with
    | some (k, _) => if k ≤ key then atMostIn rows key mid hi else atMostIn rows key lo mid
    | none => none
  else
    match rows[lo]? with
    | some (k, v) => if k ≤ key then some (k, v) else none
    | none => none
termination_by hi - lo
decreasing_by all_goals omega

/-- The last row whose key is at most `key`, in rows sorted by key. -/
def atMost {α : Type} (rows : Array (Nat × α)) (key : Nat) : Option (Nat × α) :=
  atMostIn rows key 0 rows.size

/-- The row with exactly this key, in rows sorted by key. -/
def find? {α : Type} (rows : Array (Nat × α)) (key : Nat) : Option α :=
  match atMost rows key with
  | some (k, v) => if k = key then some v else none
  | none => none

end CodeTable

end Storyboard
