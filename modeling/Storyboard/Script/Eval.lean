import Storyboard.Script.Coerce
import Storyboard.Script.Arith
import Storyboard.Json.Path
import Storyboard.Text.Classes

/-!
# Evaluating expressions

An expression is a short text written in the builder: a path in braces, arithmetic, a
comparison, a sum over a list, or a literal. After blanks are trimmed, the first of
these readings that applies is taken:

1. `{scope.path}` alone reads the path.
2. Text with one of `+ - * /` (outside the arguments of `.reduce(…)`/`.filter(…)`) is
   arithmetic: each path token `scope.seg.seg`, braces optional, is replaced by its
   number; text that is then more than digits, blanks, operators, points and
   parentheses is zero; otherwise it is evaluated by `Arith.eval?`.
3. Text with one of `===`, `!==`, `>=`, `<=`, `>`, `<` (tried in that order, first
   occurrence) compares its two sides, each evaluated in turn.
4. Text with `.length`, `.reduce` or `.filter` works on the list before it.
5. Otherwise it is a literal: `true`, `false`, `null`, `undefined`, a number, or
   itself as a string.

Faults do not stop evaluation: the expression is `undefined` and a note is kept.

Main definitions: `Bindings.resolve`, `Expr.evaluate`, `Expr.interpolate`.
-/

namespace Storyboard

/-- What an expression can read: the app and screen state, and the params and local
state of the caller when it has them. -/
structure Bindings where
  /-- The app state. -/
  app : Json
  /-- The screen state. -/
  screen : Json
  /-- The caller's params, if any. -/
  params : Option Json := none
  /-- The caller's local state, if any. -/
  localState : Option Json := none

namespace Bindings

/-- Read `scope.path`: the first segment names the scope (`app`, `screen`, `params`,
`local`), the rest is a path inside it. -/
def resolve (b : Bindings) (path : String) : Option Json :=
  let (scope, rest) := match path.splitOn "." with
    | [] => (path, none)
    | [s] => (s, none)
    | s :: _ => (s, some (path.drop (s.length + 1)).toString)
  let root := match scope with
    | "app" => some b.app
    | "screen" => some b.screen
    | "params" => b.params
    | "local" => b.localState
    | _ => none
  root.bind fun r => match rest with
    | some p => r.getPath p
    | none => some r

end Bindings

/-- A note kept when an expression could not be evaluated. -/
structure EvalNote where
  /-- The trimmed expression, or the side of a comparison, that failed. -/
  expression : String
  /-- What went wrong. -/
  message : String

namespace Expr

/-- Whether a list starts with another. -/
def startsWith : List Char → List Char → Bool
  | _, [] => true
  | [], _ :: _ => false
  | a :: as, b :: bs => a == b && startsWith as bs

/-- The index of the first occurrence of `pat` in `cs`. -/
def findSub (cs pat : List Char) : Option Nat :=
  go cs 0
where
  /-- Search from index `i`. -/
  go : List Char → Nat → Option Nat
    | [], i => if pat.isEmpty then some i else none
    | c :: rest, i => if startsWith (c :: rest) pat then some i else go rest (i + 1)

theorem length_le_of_startsWith : ∀ {cs pat : List Char}, startsWith cs pat = true → pat.length ≤ cs.length
  | _, [], _ => by simp
  | [], _ :: _, h => by simp [startsWith] at h
  | _ :: _, _ :: _, h => by
    simp only [startsWith, Bool.and_eq_true] at h
    have := length_le_of_startsWith h.2
    simp
    omega

theorem findSub_go_bound (pat : List Char) :
    ∀ (cs : List Char) (i j : Nat), findSub.go pat cs i = some j → j + pat.length ≤ i + cs.length
  | [], i, j, h => by
    simp only [findSub.go] at h
    split at h
    · next hp =>
      simp only [Option.some.injEq] at h
      simp_all
    · simp at h
  | c :: rest, i, j, h => by
    simp only [findSub.go] at h
    split at h
    · next hs =>
      simp only [Option.some.injEq] at h
      have := length_le_of_startsWith hs
      simp at this ⊢
      omega
    · have := findSub_go_bound pat rest (i + 1) j h
      simp
      omega

/-- An occurrence ends inside the text. -/
theorem findSub_bound {cs pat : List Char} {i : Nat} (h : findSub cs pat = some i) :
    i + pat.length ≤ cs.length := by
  have := findSub_go_bound pat cs 0 i h
  omega

/-- Whether `pat` occurs in `cs`. -/
def containsSub (cs pat : List Char) : Bool := (findSub cs pat).isSome

/-- `{path}` alone: the trimmed inside, when it is not empty and holds no brace. -/
def bracePath (e : List Char) : Option (List Char) :=
  match e with
  | '\x7b' :: rest =>
    match rest.reverse with
    | '\x7d' :: inner =>
      let inner := Text.trimChars inner.reverse
      if inner.isEmpty || inner.contains '\x7b' || inner.contains '\x7d' then none else some inner
    | _ => none
  | _ => none

/-- Hide the arguments of top-level `.reduce(…)` and `.filter(…)` calls: every
character inside the parentheses becomes `_`, so their operators are not seen. One
character of the text gives one of the result. -/
def mask : List Char → Nat → List Char
  | [], _ => []
  | c :: rest, depth =>
    if depth = 0 && (startsWith (c :: rest) ".reduce(".toList || startsWith (c :: rest) ".filter(".toList) then
      let head := (c :: rest).take 8
      head ++ mask ((c :: rest).drop 8) 1
    else
      let depth := if depth > 0 then (if c = '(' then depth + 1 else if c = ')' then depth - 1 else depth) else depth
      (if depth > 0 then '_' else c) :: mask rest depth
termination_by cs => cs.length
decreasing_by all_goals (simp_all; try omega)

/-- Masking keeps the length. -/
theorem length_mask (cs : List Char) (depth : Nat) : (mask cs depth).length = cs.length := by
  fun_induction mask cs depth with
  | case1 => rfl
  | case2 c rest _ _ head ih =>
    rw [List.length_append, ih, List.length_drop]
    simp only [head, List.length_take]
    omega
  | case3 c rest _ _ _ ih => simp [ih]

/-- Whether a character may continue a path token segment. -/
def isSegmentChar (c : Char) : Bool := c.isAlphanum || c = '_' || c = '$'

/-- Read the segments `(.seg)+` of a path token: the characters taken and the rest. -/
def tokenSegments : List Char → List Char × List Char
  | '.' :: c :: rest =>
    if isSegmentChar c then
      let seg := (c :: rest).takeWhile isSegmentChar
      let after := (c :: rest).dropWhile isSegmentChar
      let (more, after) := tokenSegments after
      ('.' :: seg ++ more, after)
    else ([], '.' :: c :: rest)
  | rest => ([], rest)
termination_by cs => cs.length
decreasing_by
  have := (List.dropWhile_suffix (l := c :: rest) isSegmentChar).length_le
  simp_all <;> omega

/-- Reading segments never lengthens the rest. -/
theorem length_tokenSegments_le (cs : List Char) : (tokenSegments cs).2.length ≤ cs.length := by
  fun_induction tokenSegments cs with
  | case1 c rest _ seg after more rest' heq ih =>
    have := (List.dropWhile_suffix (l := c :: rest) isSegmentChar).length_le
    rw [heq] at ih
    simp only [after] at ih
    simp only [List.length_cons] at this ⊢
    omega
  | case2 => simp
  | case3 => simp

/-- The scope words a path token starts with. -/
def scopeWords : List (List Char) := ["app", "screen", "params", "local"].map String.toList

/-- A path token at the start of the text, scope word first: the path, the last
character the token took (the path's, or a closing brace), and the rest. -/
def tokenAt (cs : List Char) : Option (List Char × Char × List Char) :=
  match scopeWords.find? (startsWith cs ·) with
  | none => none
  | some w =>
    let t := tokenSegments (cs.drop w.length)
    if t.1.isEmpty then none
    else match t.2 with
      | '\x7d' :: r => some (w ++ t.1, '\x7d', r)
      | r => some (w ++ t.1, (w ++ t.1).getLastD ' ', r)

/-- A token takes at least its scope word, so what follows it is shorter. -/
theorem tokenAt_shorter {cs path after : List Char} {last : Char}
    (h : tokenAt cs = some (path, last, after)) : after.length < cs.length := by
  unfold tokenAt at h
  split at h
  · simp at h
  · next w hw =>
    have hs := length_le_of_startsWith (List.find?_some hw)
    have hw3 : 3 ≤ w.length := by
      have hm := List.mem_of_find?_eq_some hw
      simp only [scopeWords, List.map_cons, List.map_nil, List.mem_cons, List.not_mem_nil,
        or_false] at hm
      rcases hm with rfl | rfl | rfl | rfl <;> decide
    have ht := length_tokenSegments_le (cs.drop w.length)
    simp only [List.length_drop] at ht
    dsimp only at h
    split at h
    · simp at h
    · split at h
      · next r hr =>
        simp only [Option.some.injEq, Prod.mk.injEq] at h
        obtain ⟨-, -, rfl⟩ := h
        rw [hr] at ht
        simp at ht
        omega
      · next r _ =>
        simp only [Option.some.injEq, Prod.mk.injEq] at h
        obtain ⟨-, -, rfl⟩ := h
        omega

/-- Replace every path token by `replace path`, scanning left to right. A token starts
with an optional `{`; without it, it must not follow a word character. -/
def replaceTokens (replace : List Char → List Char) (cs : List Char) (prev : Option Char) : List Char :=
  match cs with
  | [] => []
  | c :: rest =>
    match _hb : (if c = '\x7b' then tokenAt rest else none) with
    | some (path, last, after) => replace path ++ replaceTokens replace after (some last)
    | none =>
      match _hn : (if prev.all (fun p => !Text.isWord p) then tokenAt (c :: rest) else none) with
      | some (path, last, after) => replace path ++ replaceTokens replace after (some last)
      | none => c :: replaceTokens replace rest (some c)
termination_by cs.length
decreasing_by
  · split at _hb
    · have := tokenAt_shorter _hb
      simp
      omega
    · simp at _hb
  · split at _hn
    · exact tokenAt_shorter _hn
    · simp at _hn
  · simp

/-! ## The five readings -/

/-- Whether text is arithmetic after the path tokens are replaced: not empty, and only
decimal digits of any script, blanks, operators, points and parentheses. -/
def isArithmeticText (cs : List Char) : Bool :=
  !cs.isEmpty && cs.all fun c => Text.isDecimalDigit c || Text.isBlank c || "+-*/().".toList.contains c

/-- The number a path token stands for: numbers as they are, strings read as number
literals, booleans as one and zero, everything else and every non-finite result zero. -/
def operandNumber (v : Option Json) : Float :=
  let n := match v with
    | some (.int k) => Binary64.ofInt k
    | some (.float f) => f
    | some (.str s) => (Loose.parseNumber? s).getD 0
    | some (.bool b) => if b then 1 else 0
    | _ => 0
  if n.isFinite then n else 0

/-- The text a number is spliced in as: integral values below `10^15` in magnitude as
integers, all others positionally. -/
def operandText (n : Float) : String :=
  if Binary64.isIntegral n && n.abs < 1e15 then toString (Binary64.toInt64Clamped n)
  else NumberLayout.plain.render n

/-- The amount of one line of a list: its price times its quantity (else its count,
else one), the first of those that is truthy; NaN counts as zero, and a line that is not
an object as zero. -/
def lineTotal : Json → Float
  | .obj fs =>
    let price := Loose.toNumber (Json.lookup "price" fs)
    let given := ["quantity", "count"].filterMap (Json.lookup · fs)
    let qty := match given.find? (fun v => Loose.isTruthy (some v)) with
      | some v => Loose.toNumberOf v
      | none => 1
    let t := price * qty
    if t.isNaN then 0 else t
  | _ => 0

/-- The comparison operators, in the order they are looked for. -/
def comparisons : List String := ["===", "!==", ">=", "<=", ">", "<"]

/-- The first comparison operator found in the masked text, and where. -/
def findComparison (masked : List Char) : Option (String × Nat) :=
  comparisons.findSome? fun op => (findSub masked op.toList).map (op, ·)

/-- A comparison found lies inside the text, and its operator is not empty. -/
theorem findComparison_bound {masked : List Char} {op : String} {i : Nat}
    (h : findComparison masked = some (op, i)) : 0 < op.length ∧ i + op.length ≤ masked.length := by
  obtain ⟨o, ho, hf⟩ := List.exists_of_findSome?_eq_some h
  obtain ⟨j, hj, he⟩ := Option.map_eq_some_iff.1 hf
  simp only [Prod.mk.injEq] at he
  obtain ⟨rfl, rfl⟩ := he
  have hb := findSub_bound hj
  simp only [String.length_toList] at hb
  refine ⟨?_, hb⟩
  simp only [comparisons, List.mem_cons, List.not_mem_nil, or_false] at ho
  rcases ho with rfl | rfl | rfl | rfl | rfl | rfl <;> decide

/-- Apply a comparison operator. -/
def compareWith (op : String) (l r : Option Json) : Bool :=
  if op = "===" then Loose.strictEquals l r
  else if op = "!==" then !Loose.strictEquals l r
  else Loose.relational op l r

/-- A literal: the four words, a number, or the text itself. -/
def literal (e : List Char) : Option Json :=
  let text := String.ofList e
  if text = "true" then some (.bool true)
  else if text = "false" then some (.bool false)
  else if text = "null" then some .null
  else if text = "undefined" then none
  else match (Loose.parseNumber? text).bind Loose.numberValue with
    | some v => some v
    | none => some (.str text)

/-- Read the operand of `.reduce`/`.length`: a path, braces optional. -/
def resolveOperand (b : Bindings) (src : List Char) : Option Json :=
  let s := Text.trimChars src
  b.resolve (String.ofList ((bracePath s).getD s))

/-- What an evaluation yields: the value, if any, and the notes made on the way. -/
abbrev Result := Option Json × List EvalNote

/-- Arithmetic with path tokens replaced by their numbers. -/
def arithmetic (b : Bindings) (e : List Char) : Result :=
  let text := String.ofList e
  let number := fun (path : List Char) => (operandText (operandNumber (b.resolve (String.ofList path)))).toList
  let replaced := replaceTokens number e none
  if !isArithmeticText replaced then (some (.int 0), [])
  else match Arith.eval? (String.ofList replaced) with
    | some n =>
      match Loose.numberValue n with
      | some v => (some v, [])
      | none => (none, [⟨text, "non-finite result " ++ NumberLayout.plain.render n⟩])
    | none => (none, [⟨text, "syntax error"⟩])

/-- `.reduce` sums the line amounts of the list before it, `.length` counts its items;
`.filter` is not supported. -/
def collection (b : Bindings) (e : List Char) : Result :=
  match findSub e ".reduce".toList with
  | some i =>
    let total := match resolveOperand b (e.take i) with
      | some (.arr items) => items.foldl (fun acc it => acc + lineTotal it) (-0.0)
      | _ => 0
    (some ((Loose.numberValue total).getD (.int 0)), [])
  | none =>
    if containsSub e ".filter".toList then (none, [⟨String.ofList e, ".filter is not supported"⟩])
    else match findSub e ".length".toList with
      | some i =>
        let n := match resolveOperand b (e.take i) with
          | some (.arr items) => items.length
          | _ => 0
        (some (.int n), [])
      | none => (none, [])

/-- Evaluate an expression. The two sides of a comparison are evaluated on their own,
and each is shorter than the whole. -/
def evaluate (b : Bindings) (raw : List Char) : Result :=
  let e := Text.trimChars raw
  match bracePath e with
  | some p => (b.resolve (String.ofList p), [])
  | none =>
    if (mask e 0).any (fun c => c = '+' || c = '-' || c = '*' || c = '/') then arithmetic b e
    else match _h : findComparison (mask e 0) with
      | some (op, i) =>
        let (l, nl) := evaluate b (e.take i)
        let (r, nr) := evaluate b (e.drop (i + op.length))
        (some (.bool (compareWith op l r)), nl ++ nr)
      | none =>
        if containsSub e ".length".toList || containsSub e ".reduce".toList
            || containsSub e ".filter".toList then collection b e
        else (literal e, [])
termination_by raw.length
decreasing_by
  all_goals
    have hb := findComparison_bound _h
    have hm : (mask e 0).length = (Text.trimChars raw).length := length_mask _ 0
    have ht := Text.length_trimChars_le raw
    simp only [List.length_take, List.length_drop]
    omega

/-- Evaluate an expression against bindings. -/
def eval (b : Bindings) (expr : String) : Result := evaluate b expr.toList

/-- The truth of an expression. -/
def holds (b : Bindings) (expr : String) : Bool × List EvalNote :=
  let (v, notes) := eval b expr
  (Loose.isTruthy v, notes)

/-- Replace each `{path}` of a template (a path holding no brace) by the text of its
value; a brace that opens no such binding stays as it is. -/
def interpolateChars (b : Bindings) (cs : List Char) : List Char :=
  match cs with
  | [] => []
  | c :: rest =>
    if c = '\x7b' then
      let inner := rest.takeWhile (fun d => d != '\x7b' && d != '\x7d')
      match _h : rest.dropWhile (fun d => d != '\x7b' && d != '\x7d') with
      | '\x7d' :: after =>
        if inner.isEmpty then c :: interpolateChars b rest
        else (Loose.display (b.resolve (String.ofList (Text.trimChars inner)))).toList
          ++ interpolateChars b after
      | _ => c :: interpolateChars b rest
    else c :: interpolateChars b rest
termination_by cs.length
decreasing_by
  all_goals simp
  have := (List.dropWhile_suffix (l := rest) (fun d => d != '\x7b' && d != '\x7d')).length_le
  rw [_h] at this
  simp at this
  omega

/-- A template with its bindings replaced. -/
def interpolate (b : Bindings) (template : String) : String :=
  String.ofList (interpolateChars b template.toList)

end Expr

/-- Keep the last two hundred notes of a log after adding new ones. -/
def EvalNote.keep (log new : List EvalNote) : List EvalNote :=
  let all := log ++ new
  all.drop (all.length - 200)

end Storyboard
