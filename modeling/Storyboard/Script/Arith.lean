import Storyboard.Decimal.Read

/-!
# Arithmetic

The grammar of arithmetic text, blanks (space, tab, carriage return, line feed) allowed
between any two tokens and at both ends:

```text
sum     := product (("+" | "-") product)*
product := unary (("*" | "/") unary)*
unary   := ("+" | "-")* primary
primary := number | "(" sum ")"
number  := digit+ ("." digit*)? | "." digit+
```

Evaluation is in doubles: the four operators associate to the left, `*` and `/` bind
tighter, and a run of signs negates when it holds an odd number of `-`. Division by
zero gives an infinity or NaN, as doubles do.

Text is first cut into tokens (`Token.scan`), then parsed by descent over the tokens
(`Arith.eval?`); both fail on any text outside the grammar.
-/

namespace Storyboard

/-- A token of arithmetic text. -/
inductive Token where
  /-- A number. -/
  | num (value : Float)
  /-- One of `+ - * /`. -/
  | op (c : Char)
  /-- An opening parenthesis. -/
  | lparen
  /-- A closing parenthesis. -/
  | rparen

namespace Token

/-- Whether a character is a blank between tokens. -/
def isGap (c : Char) : Bool := c = ' ' || c = '\t' || c = '\r' || c = '\n'

theorem length_dropWhile_le (p : Char → Bool) (cs : List Char) : (cs.dropWhile p).length ≤ cs.length :=
  (List.dropWhile_suffix p).length_le

/-- Cut text into tokens: `none` if some character starts no token. -/
def scan (cs : List Char) : Option (List Token) :=
  match cs with
  | [] => some []
  | c :: rest =>
    if isGap c then scan rest
    else if c = '+' || c = '-' || c = '*' || c = '/' then (scan rest).map (.op c :: ·)
    else if c = '(' then (scan rest).map (.lparen :: ·)
    else if c = ')' then (scan rest).map (.rparen :: ·)
    else if Decimal.isDigitChar c then
      let intPart := rest.takeWhile Decimal.isDigitChar
      match _h : rest.dropWhile Decimal.isDigitChar with
      | '.' :: r =>
        match Decimal.readFloat? (c :: intPart ++ ['.'] ++ r.takeWhile Decimal.isDigitChar) with
        | some f => (scan (r.dropWhile Decimal.isDigitChar)).map (.num f :: ·)
        | none => none
      | after =>
        match Decimal.readFloat? (c :: intPart) with
        | some f => (scan after).map (.num f :: ·)
        | none => none
    else if c = '.' then
      let frac := rest.takeWhile Decimal.isDigitChar
      if frac.isEmpty then none else
      match Decimal.readFloat? ('.' :: frac) with
      | some f => (scan (rest.dropWhile Decimal.isDigitChar)).map (.num f :: ·)
      | none => none
    else none
termination_by cs.length
decreasing_by
  all_goals simp_wf
  · have h1 := length_dropWhile_le Decimal.isDigitChar rest
    have h2 := length_dropWhile_le Decimal.isDigitChar r
    rw [_h] at h1
    simp at h1
    omega
  · have h1 := length_dropWhile_le Decimal.isDigitChar rest
    rw [_h] at h1
    omega
  · have h1 := length_dropWhile_le Decimal.isDigitChar rest
    omega

end Token

namespace Arith

/-- What a parse step gives: a value and the tokens left, no more than it was given. -/
abbrev Step (ts : List Token) := Option (Float × {r : List Token // r.length ≤ ts.length})

mutual
/-- Parse and evaluate a sum. -/
def sum (ts : List Token) : Step ts :=
  match product ts with
  | none => none
  | some (a, r) =>
    match sumRest a r.1 with
    | none => none
    | some (v, r') => some (v, ⟨r'.1, by have := r.2; have := r'.2; omega⟩)
termination_by 5 * ts.length + 4
decreasing_by
  · omega
  · have := r.2; omega

/-- The `+`/`-` steps after the first product of a sum. -/
def sumRest (acc : Float) (ts : List Token) : Step ts :=
  match ts with
  | .op c :: rest =>
    if c = '+' || c = '-' then
      match product rest with
      | none => none
      | some (b, r) =>
        match sumRest (if c = '+' then acc + b else acc - b) r.1 with
        | none => none
        | some (v, r') => some (v, ⟨r'.1, by have := r.2; have := r'.2; simp <;> omega⟩)
    else some (acc, ⟨.op c :: rest, Nat.le_refl _⟩)
  | other => some (acc, ⟨other, Nat.le_refl _⟩)
termination_by 5 * ts.length + 3
decreasing_by
  · simp <;> omega
  · have := r.2; simp <;> omega

/-- Parse and evaluate a product. -/
def product (ts : List Token) : Step ts :=
  match unary ts with
  | none => none
  | some (a, r) =>
    match productRest a r.1 with
    | none => none
    | some (v, r') => some (v, ⟨r'.1, by have := r.2; have := r'.2; omega⟩)
termination_by 5 * ts.length + 2
decreasing_by
  · omega
  · have := r.2; omega

/-- The `*`/`/` steps after the first factor of a product. -/
def productRest (acc : Float) (ts : List Token) : Step ts :=
  match ts with
  | .op c :: rest =>
    if c = '*' || c = '/' then
      match unary rest with
      | none => none
      | some (b, r) =>
        match productRest (if c = '*' then acc * b else acc / b) r.1 with
        | none => none
        | some (v, r') => some (v, ⟨r'.1, by have := r.2; have := r'.2; simp <;> omega⟩)
    else some (acc, ⟨.op c :: rest, Nat.le_refl _⟩)
  | other => some (acc, ⟨other, Nat.le_refl _⟩)
termination_by 5 * ts.length + 1
decreasing_by
  · simp <;> omega
  · have := r.2; simp <;> omega

/-- Parse and evaluate a factor with its signs. -/
def unary (ts : List Token) : Step ts :=
  match ts with
  | .op '+' :: rest =>
    match unary rest with
    | none => none
    | some (v, r) => some (v, ⟨r.1, by have := r.2; simp <;> omega⟩)
  | .op '-' :: rest =>
    match unary rest with
    | none => none
    | some (v, r) => some (-v, ⟨r.1, by have := r.2; simp <;> omega⟩)
  | .num v :: rest => some (v, ⟨rest, by simp⟩)
  | .lparen :: rest =>
    match sum rest with
    | some (v, ⟨.rparen :: after, h⟩) => some (v, ⟨after, by simp at h ⊢; omega⟩)
    | _ => none
  | _ => none
termination_by 5 * ts.length
decreasing_by
  all_goals simp
  all_goals omega
end

/-- Evaluate arithmetic text: `none` when it is outside the grammar. -/
def eval? (text : String) : Option Float := do
  let ts ← Token.scan text.toList
  let (v, rest) ← sum ts
  if rest.1.isEmpty then some v else none

end Arith

end Storyboard
