import Mathlib.Data.List.Chain
import Storyboard.Proofs.Arithmetic
import Storyboard.Proofs.Offsets
import Storyboard.Proofs.Path
import Storyboard.Proofs.NumberValues

/-!
# Splicing operands into arithmetic

Arithmetic in an expression may name values by path tokens, `scope.seg.seg`, written bare or
directly in braces. `Expr.evaluate` does not evaluate such text in an environment: it replaces
each path token by the text of its number (`operandText`) and reads the result again as plain
arithmetic. This module shows when the two agree.

An expression over path tokens is a tree of the arithmetic grammar whose primaries may also be
path tokens (`PathSum`, `PathProduct`, `PathUnary`, `PathPrimary`). `PathSum.render` writes a
tree with a given text for each token: with the tokens themselves it is the expression
(`PathSum.text`); with the texts of their numbers it is what the replacement leaves
(`PathSum.replaceTokens_render`). Read in an environment, a tree is the arithmetic tree
`PathSum.toTree` with each token's number as a leaf.

Main statements:

* `splicing_agrees_with_environment`: when the text of every operand spells that operand
  (`Spells`: a numeral that reads as it, or a minus and a numeral that reads as its negation),
  evaluating an expression with an operator gives the value of its tree read in the
  environment, or no value and one note when that value is not finite.
* `negative_zero_spliced_as_zero`: the text of `-0.0` is `0`, so `1/(1/app.x+1/0)` with
  `app.x = -0.0` evaluates to `0`, where the environment gives NaN.

The replacement is followed character by character: a token is replaced where it starts after
an operator, a parenthesis or the start (`Detached`), and what may follow a primary
(`AfterPrimary`) neither continues a token nor a numeral. The text left is lexed with one
`Token.Lexes` derivation per tree, a negative operand giving one more sign to its primary.
-/

namespace Storyboard

namespace Token

/-- A numeral is made of digits and points. -/
theorem Numeral.mem {ns : List Char} (h : Numeral ns) {c : Char} (hc : c ∈ ns) :
    Decimal.isDigitChar c = true ∨ c = '.' := by
  cases h with
  | whole hds _ => exact .inl (hds c hc)
  | point hds _ hfs =>
    simp only [List.mem_append, List.mem_cons] at hc
    rcases hc with hc | rfl | hc
    · exact .inl (hds c hc)
    · exact .inr rfl
    · exact .inl (hfs c hc)
  | fraction hfs _ =>
    rcases List.mem_cons.1 hc with rfl | hc
    · exact .inr rfl
    · exact .inl (hfs c hc)

theorem Numeral.ne_nil {ns : List Char} (h : Numeral ns) : ns ≠ [] := by
  cases h with
  | whole _ hne => exact hne
  | point _ _ _ => simp
  | fraction _ _ => simp

end Token

namespace Arith

/-- Signs before signs: the outer ones act on the value of the inner factor. -/
theorem UnaryTree.value_append (signs extra : List Bool) (q : PrimaryTree) :
    (UnaryTree.signed (signs ++ extra) q).value =
      (UnaryTree.signed signs (.num (UnaryTree.signed extra q).value)).value := by
  induction signs with
  | nil => rfl
  | cons m signs ih => rw [List.cons_append, UnaryTree.value_cons, UnaryTree.value_cons, ih]

end Arith

namespace Expr

open Arith Token Decimal

/-! ## Expressions over path tokens -/

/-- A path token: a scope word and one or more segments of `[A-Za-z0-9_$]`, written bare or
directly in braces. -/
structure PathToken where
  /-- The scope word. -/
  scope : List Char
  /-- The segments after the scope word. -/
  segs : List (List Char)
  /-- Whether the token is wrapped in braces. -/
  braced : Bool
  scope_mem : scope ∈ scopeWords
  segs_ne : segs ≠ []
  segs_chars : ∀ s ∈ segs, s ≠ [] ∧ ∀ c ∈ s, isSegmentChar c = true

namespace PathToken

/-- The dotted path a token names. -/
def path (p : PathToken) : List Char := p.scope ++ p.segs.flatMap ('.' :: ·)

theorem path_eq (p : PathToken) : p.path = p.scope ++ p.segs.flatMap ('.' :: ·) := rfl

/-- The token as it is written. -/
def text (p : PathToken) : List Char :=
  if p.braced then '\x7b' :: p.path ++ ['\x7d'] else p.path

/-- The number a token stands for in arithmetic. -/
def operand (b : Bindings) (p : PathToken) : Float :=
  operandNumber (b.resolve (String.ofList p.path))

end PathToken

mutual
/-- A sum over path tokens: products joined by `+` and `-`, nested to the left. -/
inductive PathSum where
  /-- A single product. -/
  | product (p : PathProduct)
  /-- A sum plus a product. -/
  | add (l : PathSum) (r : PathProduct)
  /-- A sum minus a product. -/
  | sub (l : PathSum) (r : PathProduct)

/-- A product over path tokens: factors joined by `*` and `/`, nested to the left. -/
inductive PathProduct where
  /-- A single factor. -/
  | unary (u : PathUnary)
  /-- A product times a factor. -/
  | mul (l : PathProduct) (r : PathUnary)
  /-- A product divided by a factor. -/
  | div (l : PathProduct) (r : PathUnary)

/-- The signs before a primary, `true` for each `-`. -/
inductive PathUnary where
  | signed (signs : List Bool) (p : PathPrimary)

/-- A primary over path tokens. -/
inductive PathPrimary where
  /-- A numeral. -/
  | num (ns : List Char) (h : Numeral ns)
  /-- A path token. -/
  | path (p : PathToken)
  /-- A sum in parentheses. -/
  | paren (s : PathSum)
end

/-- The character of a sign, `true` standing for `-`. -/
def signChar (minus : Bool) : Char := if minus then '-' else '+'

mutual
/-- A sum written with the text `g p` for each path token `p`, without blanks. -/
def PathSum.render (g : PathToken → List Char) : PathSum → List Char
  | .product p => p.render g
  | .add l r => l.render g ++ '+' :: r.render g
  | .sub l r => l.render g ++ '-' :: r.render g

/-- A product written with the text `g p` for each path token `p`. -/
def PathProduct.render (g : PathToken → List Char) : PathProduct → List Char
  | .unary u => u.render g
  | .mul l r => l.render g ++ '*' :: r.render g
  | .div l r => l.render g ++ '/' :: r.render g

/-- A factor written with the text `g p` for each path token `p`. -/
def PathUnary.render (g : PathToken → List Char) : PathUnary → List Char
  | .signed signs p => signs.map signChar ++ p.render g

/-- A primary written with the text `g p` for each path token `p`. -/
def PathPrimary.render (g : PathToken → List Char) : PathPrimary → List Char
  | .num ns _ => ns
  | .path p => g p
  | .paren s => '(' :: s.render g ++ [')']
end

/-- The expression a tree is. -/
def PathSum.text (t : PathSum) : List Char := t.render PathToken.text

theorem PathSum.text_eq_render (t : PathSum) : t.text = t.render PathToken.text := rfl

mutual
/-- The arithmetic tree of a sum read in an environment that gives each token `p` the number
`v p`. -/
def PathSum.toTree (v : PathToken → Float) : PathSum → SumTree
  | .product p => .product (p.toTree v)
  | .add l r => .add (l.toTree v) (r.toTree v)
  | .sub l r => .sub (l.toTree v) (r.toTree v)

/-- The arithmetic tree of a product read in an environment. -/
def PathProduct.toTree (v : PathToken → Float) : PathProduct → ProductTree
  | .unary u => .unary (u.toTree v)
  | .mul l r => .mul (l.toTree v) (r.toTree v)
  | .div l r => .div (l.toTree v) (r.toTree v)

/-- The arithmetic tree of a factor read in an environment. -/
def PathUnary.toTree (v : PathToken → Float) : PathUnary → UnaryTree
  | .signed signs p => .signed signs (p.toTree v)

/-- The arithmetic tree of a primary read in an environment. -/
def PathPrimary.toTree (v : PathToken → Float) : PathPrimary → PrimaryTree
  | .num ns _ => .num ((readFloat? ns).getD 0)
  | .path p => .num (v p)
  | .paren s => .paren (s.toTree v)
end

mutual
/-- The path tokens of a sum, left to right. -/
def PathSum.paths : PathSum → List PathToken
  | .product p => p.paths
  | .add l r => l.paths ++ r.paths
  | .sub l r => l.paths ++ r.paths

/-- The path tokens of a product. -/
def PathProduct.paths : PathProduct → List PathToken
  | .unary u => u.paths
  | .mul l r => l.paths ++ r.paths
  | .div l r => l.paths ++ r.paths

/-- The path tokens of a factor. -/
def PathUnary.paths : PathUnary → List PathToken
  | .signed _ p => p.paths

/-- The path tokens of a primary. -/
def PathPrimary.paths : PathPrimary → List PathToken
  | .num _ _ => []
  | .path p => [p]
  | .paren s => s.paths
end

/-- Text that spells a number for the arithmetic reader: a numeral that reads as it, or a
minus and a numeral that reads as its negation. -/
def Spells (cs : List Char) (v : Float) : Prop :=
  ∃ ns, Numeral ns ∧
    (cs = ns ∧ readFloat? ns = some v ∨ cs = '-' :: ns ∧ readFloat? ns = some (-v))

/-- Text that may follow a primary: nothing, an operator or a closing parenthesis. -/
def AfterPrimary (rest : List Char) : Prop := ∀ c ∈ rest.head?, c ∈ ['+', '-', '*', '/', ')']

/-- No word character comes right before, so a bare path token may start here. -/
def Detached (prev : Option Char) : Prop := (prev.all fun c => !Text.isWord c) = true

theorem detached_some {c : Char} (h : Text.isWord c = false) : Detached (some c) := by
  simp [Detached, h]

/-! ## Reading a path token -/

theorem scopeWords_eq :
    scopeWords = [['a', 'p', 'p'], ['s', 'c', 'r', 'e', 'e', 'n'], ['p', 'a', 'r', 'a', 'm', 's'],
      ['l', 'o', 'c', 'a', 'l']] := rfl

/-- Text that starts with a scope word finds that word. -/
theorem find?_scopeWords {w : List Char} (hw : w ∈ scopeWords) (x : List Char) :
    scopeWords.find? (startsWith (w ++ x) ·) = some w := by
  rw [scopeWords_eq] at hw ⊢
  simp only [List.mem_cons, List.not_mem_nil, or_false] at hw
  rcases hw with rfl | rfl | rfl | rfl <;> simp [startsWith]

/-- No token starts at a character that starts no scope word. -/
theorem tokenAt_eq_none {c : Char} (hc : c ∉ ['a', 's', 'p', 'l']) (rest : List Char) :
    tokenAt (c :: rest) = none := by
  simp only [List.mem_cons, List.not_mem_nil, or_false, not_or] at hc
  have hfind : scopeWords.find? (startsWith (c :: rest) ·) = none := by
    rw [scopeWords_eq]
    simp [startsWith, hc.1, hc.2.1, hc.2.2.1, hc.2.2.2]
  unfold tokenAt
  rw [hfind]

theorem segment_stop {ys : List Char} (h : ∀ c ∈ ys.head?, isSegmentChar c = false) :
    ys.takeWhile isSegmentChar = [] ∧ ys.dropWhile isSegmentChar = ys := by
  cases ys with
  | nil => simp
  | cons c r => simp [h c rfl]

/-- The segments of a path token are read up to the first character that continues none. -/
theorem tokenSegments_flatMap (segs : List (List Char))
    (hsegs : ∀ s ∈ segs, s ≠ [] ∧ ∀ c ∈ s, isSegmentChar c = true) {rest : List Char}
    (hrest : ∀ c ∈ rest.head?, c ≠ '.' ∧ isSegmentChar c = false) :
    tokenSegments (segs.flatMap ('.' :: ·) ++ rest) = (segs.flatMap ('.' :: ·), rest) := by
  induction segs with
  | nil =>
    -- the rest does not start with a point, so no segment is read
    rw [List.flatMap_nil, List.nil_append, tokenSegments]
    rintro c r rfl
    simp at hrest
  | cons s segs ih =>
    obtain ⟨hne, hs⟩ := hsegs s List.mem_cons_self
    obtain ⟨c, s', rfl⟩ := List.exists_cons_of_ne_nil hne
    -- what follows the segment is a point or the rest, neither a segment character
    have hnext : ∀ d ∈ (segs.flatMap ('.' :: ·) ++ rest).head?, isSegmentChar d = false := by
      cases segs with
      | nil => simpa using fun d hd => (hrest d hd).2
      | cons s'' segs => simp [(by decide : isSegmentChar '.' = false)]
    obtain ⟨htake, hdrop⟩ := segment_stop hnext
    rw [List.flatMap_cons, List.append_assoc, List.cons_append, List.cons_append, tokenSegments,
      if_pos (hs c List.mem_cons_self)]
    rw [← @List.cons_append _ c s', List.takeWhile_append_of_pos hs, List.dropWhile_append_of_pos hs,
      htake, hdrop, List.append_nil]
    dsimp only
    rw [ih fun s hs => hsegs s (List.mem_cons_of_mem _ hs)]

theorem PathToken.path_drop_scope (p : PathToken) (rest : List Char) :
    (p.path ++ rest).drop p.scope.length = p.segs.flatMap ('.' :: ·) ++ rest := by
  rw [PathToken.path_eq, List.append_assoc, List.drop_left]

theorem PathToken.tokenSegments_path (p : PathToken) {rest : List Char}
    (hrest : ∀ c ∈ rest.head?, c ≠ '.' ∧ isSegmentChar c = false) :
    tokenSegments ((p.path ++ rest).drop p.scope.length) = (p.segs.flatMap ('.' :: ·), rest) := by
  rw [p.path_drop_scope]
  exact tokenSegments_flatMap p.segs p.segs_chars hrest

theorem PathToken.segs_text_ne (p : PathToken) : (p.segs.flatMap ('.' :: ·)).isEmpty = false := by
  obtain ⟨s, segs, h⟩ := List.exists_cons_of_ne_nil p.segs_ne
  rw [h]
  rfl

/-- A bare path token before what may follow a primary is read whole. -/
theorem PathToken.tokenAt_bare (p : PathToken) {rest : List Char} (hrest : AfterPrimary rest) :
    tokenAt (p.path ++ rest) = some (p.path, p.path.getLastD ' ', rest) := by
  have hstop : ∀ c ∈ rest.head?, c ≠ '.' ∧ isSegmentChar c = false := by
    intro c hc
    have := hrest c hc
    simp only [List.mem_cons, List.not_mem_nil, or_false] at this
    rcases this with rfl | rfl | rfl | rfl | rfl <;> decide
  unfold tokenAt
  rw [PathToken.path_eq, List.append_assoc, find?_scopeWords p.scope_mem, ← List.append_assoc,
    ← PathToken.path_eq]
  dsimp only
  rw [p.tokenSegments_path hstop, p.segs_text_ne, if_neg Bool.false_ne_true]
  split
  · next _ r hr =>
    dsimp only at hr
    exact absurd (hrest '\x7d' (by simp [hr])) (by decide)
  · rfl

/-- A path token in braces is read whole, closing brace included. -/
theorem PathToken.tokenAt_braced (p : PathToken) (rest : List Char) :
    tokenAt (p.path ++ '\x7d' :: rest) = some (p.path, '\x7d', rest) := by
  have hstop : ∀ c ∈ ('\x7d' :: rest).head?, c ≠ '.' ∧ isSegmentChar c = false := by
    simp [(by decide : isSegmentChar '\x7d' = false)]
  unfold tokenAt
  rw [PathToken.path_eq, List.append_assoc, find?_scopeWords p.scope_mem, ← List.append_assoc,
    ← PathToken.path_eq]
  dsimp only
  rw [p.tokenSegments_path hstop, p.segs_text_ne]
  rfl

/-- A path token starts with the first letter of its scope word. -/
theorem PathToken.path_cons (p : PathToken) :
    ∃ c r, p.path = c :: r ∧ c ∈ ['a', 's', 'p', 'l'] := by
  have h := p.scope_mem
  rw [PathToken.path_eq]
  rw [scopeWords_eq] at h
  simp only [List.mem_cons, List.not_mem_nil, or_false] at h
  rcases h with h | h | h | h <;> rw [h] <;> simp

/-! ## Replacing path tokens -/

theorem replaceTokens_nil (f : List Char → List Char) (prev : Option Char) :
    replaceTokens f [] prev = [] := by
  rw [replaceTokens.eq_def]

/-- One step of the replacement: a token in braces, else a bare token after no word
character, else the character itself. -/
theorem replaceTokens_cons (f : List Char → List Char) (c : Char) (rest : List Char)
    (prev : Option Char) :
    replaceTokens f (c :: rest) prev =
      match (if c = '\x7b' then tokenAt rest else none) with
      | some (path, last, after) => f path ++ replaceTokens f after (some last)
      | none =>
        match (if prev.all (fun p => !Text.isWord p) then tokenAt (c :: rest) else none) with
        | some (path, last, after) => f path ++ replaceTokens f after (some last)
        | none => c :: replaceTokens f rest (some c) := by
  -- the replacement's matches remember their discriminants; these do not
  rw [replaceTokens.eq_def]
  dsimp -zeta only
  split
  · next hb => rw [hb]
  · next hb =>
    rw [hb]
    split
    · next hn => rw [hn]
    · next hn => rw [hn]

/-- A character that starts no token is kept. -/
theorem replaceTokens_plain (f : List Char → List Char) {c : Char} (hb : c ≠ '\x7b')
    (ha : c ∉ ['a', 's', 'p', 'l']) (rest : List Char) (prev : Option Char) :
    replaceTokens f (c :: rest) prev = c :: replaceTokens f rest (some c) := by
  rw [replaceTokens_cons, if_neg hb, tokenAt_eq_none ha, ite_self]

theorem plain_of_numeral_char {c : Char} (h : isDigitChar c = true ∨ c = '.') :
    c ≠ '\x7b' ∧ c ∉ ['a', 's', 'p', 'l'] := by
  rcases h with h | rfl
  · simp only [List.mem_cons, List.not_mem_nil, or_false, not_or]
    refine ⟨?_, ?_, ?_, ?_, ?_⟩ <;> (rintro rfl; exact absurd h (by decide))
  · decide

theorem plain_of_afterPrimary {c : Char} (h : c ∈ ['+', '-', '*', '/', ')']) :
    c ≠ '\x7b' ∧ c ∉ ['a', 's', 'p', 'l'] := by
  simp only [List.mem_cons, List.not_mem_nil, or_false] at h
  rcases h with rfl | rfl | rfl | rfl | rfl <;> decide

/-- What may follow a primary is replaced alike after any character. -/
theorem replaceTokens_after (f : List Char → List Char) {rest : List Char} (h : AfterPrimary rest)
    (q : Option Char) : replaceTokens f rest q = replaceTokens f rest none := by
  match rest, h with
  | [], _ => rw [replaceTokens_nil, replaceTokens_nil]
  | c :: r, h =>
    obtain ⟨hb, ha⟩ := plain_of_afterPrimary (h c rfl)
    rw [replaceTokens_plain f hb ha, replaceTokens_plain f hb ha]

/-- Digits and points are kept, up to what may follow a primary. -/
theorem replaceTokens_digits (f : List Char → List Char) {ns : List Char}
    (hn : ∀ c ∈ ns, isDigitChar c = true ∨ c = '.') {rest : List Char} (hrest : AfterPrimary rest)
    (prev : Option Char) :
    replaceTokens f (ns ++ rest) prev = ns ++ replaceTokens f rest none := by
  induction ns generalizing prev with
  | nil => exact replaceTokens_after f hrest prev
  | cons c cs ih =>
    obtain ⟨hb, ha⟩ := plain_of_numeral_char (hn c List.mem_cons_self)
    rw [List.cons_append, replaceTokens_plain f hb ha,
      ih fun d hd => hn d (List.mem_cons_of_mem c hd), List.cons_append]

/-- A path token is replaced by the text of its path, wherever it may start. -/
theorem PathToken.replaceTokens_text (f : List Char → List Char) (p : PathToken)
    {prev : Option Char} (hprev : Detached prev) {rest : List Char} (hrest : AfterPrimary rest) :
    replaceTokens f (p.text ++ rest) prev = f p.path ++ replaceTokens f rest none := by
  unfold PathToken.text
  cases hb : p.braced with
  | true =>
    rw [if_pos rfl]
    simp only [List.cons_append, List.append_assoc]
    rw [replaceTokens_cons, if_pos rfl, p.tokenAt_braced]
    exact congrArg _ (replaceTokens_after f hrest _)
  | false =>
    obtain ⟨c, r, hpath, hc⟩ := p.path_cons
    have hb : c ≠ '\x7b' := by
      simp only [List.mem_cons, List.not_mem_nil, or_false] at hc
      rcases hc with rfl | rfl | rfl | rfl <;> decide
    have hprev' : (prev.all fun c => !Text.isWord c) = true := hprev
    rw [if_neg Bool.false_ne_true, hpath, List.cons_append, replaceTokens_cons, if_neg hb,
      if_pos hprev', ← List.cons_append, ← hpath, p.tokenAt_bare hrest]
    exact congrArg _ (replaceTokens_after f hrest _)

/-- Signs are kept, and a token may start after them as it could before. -/
theorem replaceTokens_signs (f : List Char → List Char) (signs : List Bool) {X Y : List Char}
    (h : ∀ q, Detached q → replaceTokens f X q = Y) {prev : Option Char} (hprev : Detached prev) :
    replaceTokens f (signs.map signChar ++ X) prev = signs.map signChar ++ Y := by
  induction signs generalizing prev with
  | nil => exact h prev hprev
  | cons m signs ih =>
    have hm : signChar m ≠ '\x7b' ∧ signChar m ∉ ['a', 's', 'p', 'l'] := by cases m <;> decide
    rw [List.map_cons, List.cons_append, replaceTokens_plain f hm.1 hm.2,
      ih (by cases m <;> rfl), List.cons_append]

mutual

/-- A sum's path tokens are replaced by the texts `f` gives their paths, wherever the sum may
start and whatever may follow it. -/
theorem PathSum.replaceTokens_render (f : List Char → List Char) (t : PathSum)
    {prev : Option Char} (hprev : Detached prev) {rest : List Char} (hrest : AfterPrimary rest) :
    replaceTokens f (t.render PathToken.text ++ rest) prev =
      t.render (fun p => f p.path) ++ replaceTokens f rest none := by
  cases t with
  | product p => rw [PathSum.render, PathSum.render, p.replaceTokens_render f hprev hrest]
  | add l r =>
    have hl := @PathSum.replaceTokens_render f l prev hprev ('+' :: (r.render PathToken.text ++ rest))
      (by simp [AfterPrimary])
    have hr := @PathProduct.replaceTokens_render f r (some '+') (detached_some (by decide)) rest hrest
    rw [PathSum.render, PathSum.render, List.append_assoc, List.cons_append, hl,
      replaceTokens_plain f (by decide) (by decide), hr]
    simp only [List.append_assoc, List.cons_append]
  | sub l r =>
    have hl := @PathSum.replaceTokens_render f l prev hprev ('-' :: (r.render PathToken.text ++ rest))
      (by simp [AfterPrimary])
    have hr := @PathProduct.replaceTokens_render f r (some '-') (detached_some (by decide)) rest hrest
    rw [PathSum.render, PathSum.render, List.append_assoc, List.cons_append, hl,
      replaceTokens_plain f (by decide) (by decide), hr]
    simp only [List.append_assoc, List.cons_append]

/-- A product's path tokens are replaced by the texts of their paths. -/
theorem PathProduct.replaceTokens_render (f : List Char → List Char) (t : PathProduct)
    {prev : Option Char} (hprev : Detached prev) {rest : List Char} (hrest : AfterPrimary rest) :
    replaceTokens f (t.render PathToken.text ++ rest) prev =
      t.render (fun p => f p.path) ++ replaceTokens f rest none := by
  cases t with
  | unary u => rw [PathProduct.render, PathProduct.render, u.replaceTokens_render f hprev hrest]
  | mul l r =>
    have hl := @PathProduct.replaceTokens_render f l prev hprev ('*' :: (r.render PathToken.text ++ rest))
      (by simp [AfterPrimary])
    have hr := @PathUnary.replaceTokens_render f r (some '*') (detached_some (by decide)) rest hrest
    rw [PathProduct.render, PathProduct.render, List.append_assoc, List.cons_append, hl,
      replaceTokens_plain f (by decide) (by decide), hr]
    simp only [List.append_assoc, List.cons_append]
  | div l r =>
    have hl := @PathProduct.replaceTokens_render f l prev hprev ('/' :: (r.render PathToken.text ++ rest))
      (by simp [AfterPrimary])
    have hr := @PathUnary.replaceTokens_render f r (some '/') (detached_some (by decide)) rest hrest
    rw [PathProduct.render, PathProduct.render, List.append_assoc, List.cons_append, hl,
      replaceTokens_plain f (by decide) (by decide), hr]
    simp only [List.append_assoc, List.cons_append]

/-- A factor's path tokens are replaced by the texts of their paths; its signs are kept. -/
theorem PathUnary.replaceTokens_render (f : List Char → List Char) (t : PathUnary)
    {prev : Option Char} (hprev : Detached prev) {rest : List Char} (hrest : AfterPrimary rest) :
    replaceTokens f (t.render PathToken.text ++ rest) prev =
      t.render (fun p => f p.path) ++ replaceTokens f rest none := by
  cases t with
  | signed signs p =>
    rw [PathUnary.render, PathUnary.render, List.append_assoc,
      replaceTokens_signs f signs (fun q hq => p.replaceTokens_render f hq hrest) hprev,
      List.append_assoc]

/-- A primary's path tokens are replaced by the texts of their paths; numerals and
parentheses are kept. -/
theorem PathPrimary.replaceTokens_render (f : List Char → List Char) (t : PathPrimary)
    {prev : Option Char} (hprev : Detached prev) {rest : List Char} (hrest : AfterPrimary rest) :
    replaceTokens f (t.render PathToken.text ++ rest) prev =
      t.render (fun p => f p.path) ++ replaceTokens f rest none := by
  cases t with
  | num ns hn =>
    rw [PathPrimary.render, PathPrimary.render, replaceTokens_digits f (fun c hc => hn.mem hc) hrest]
  | path p => rw [PathPrimary.render, PathPrimary.render, p.replaceTokens_text f hprev hrest]
  | paren s =>
    -- the sum inside ends before the closing parenthesis, which may follow a primary
    have hs := @PathSum.replaceTokens_render f s (some '(') (detached_some (by decide)) (')' :: rest)
      (by simp [AfterPrimary])
    rw [PathPrimary.render, PathPrimary.render]
    simp only [List.cons_append, List.append_assoc, List.nil_append]
    rw [replaceTokens_plain f (by decide) (by decide), hs,
      replaceTokens_plain f (by decide) (by decide), replaceTokens_after f hrest]

end

/-! ## Reading the replaced text -/

theorem not_numeral_snoc_of_afterPrimary {ns rest : List Char} (hrest : AfterPrimary rest) :
    ∀ c ∈ rest.head?, ¬Numeral (ns ++ [c]) := by
  intro c hc hn
  have h := hrest c hc
  simp only [List.mem_cons, List.not_mem_nil, or_false] at h
  rcases Numeral.snoc_inv hn with hd | ⟨rfl, -⟩
  · rcases h with rfl | rfl | rfl | rfl | rfl <;> exact absurd hd (by decide)
  · rcases h with h | h | h | h | h <;> exact absurd h (by decide)

theorem lexes_signs (signs : List Bool) {cs : List Char} {ts : List Token} (h : Lexes cs ts) :
    Lexes (signs.map signChar ++ cs) (signs.map signToken ++ ts) := by
  induction signs with
  | nil => exact h
  | cons m signs ih => cases m <;> exact .op (by decide) ih

/-- Text that spells a number lexes, before what may follow a primary, as a primary of that
number, a minus in the text becoming a sign before it. -/
theorem Spells.lexes {cs : List Char} {v : Float} (h : Spells cs v) {rest : List Char}
    {ts : List Token} (hrest : AfterPrimary rest) (hl : Lexes rest ts) :
    ∃ (extra : List Bool) (q : PrimaryTree), (UnaryTree.signed extra q).value = v ∧
      Lexes (cs ++ rest) (extra.map signToken ++ q.tokens ++ ts) := by
  obtain ⟨ns, hn, ⟨rfl, hv⟩ | ⟨rfl, hv⟩⟩ := h
  · exact ⟨[], .num v, rfl, .num hn hv (not_numeral_snoc_of_afterPrimary hrest) hl⟩
  · refine ⟨[true], .num (-v), ?_, .op (by decide) (.num hn hv (not_numeral_snoc_of_afterPrimary hrest) hl)⟩
    -- one minus before the negation
    rw [UnaryTree.value_cons, if_pos rfl]
    exact Binary64.neg_neg v

mutual

/-- A sum whose operands are written by texts that spell them lexes, before what may follow
a primary, as an arithmetic tree with the value the sum has in the environment. -/
theorem PathSum.lexes_render {v : PathToken → Float} {g : PathToken → List Char} (t : PathSum)
    (hg : ∀ p ∈ t.paths, Spells (g p) (v p)) {rest : List Char} {ts : List Token}
    (hrest : AfterPrimary rest) (hl : Lexes rest ts) :
    ∃ s : SumTree, s.value = (t.toTree v).value ∧ Lexes (t.render g ++ rest) (s.tokens ++ ts) := by
  cases t with
  | product p =>
    obtain ⟨q, hv, hq⟩ := p.lexes_render (by simpa [PathSum.paths] using hg) hrest hl
    exact ⟨.product q, hv, hq⟩
  | add l r =>
    obtain ⟨r', hrv, hr⟩ := r.lexes_render (fun p hp => hg p (by simp [PathSum.paths, hp])) hrest hl
    have hop : Lexes ('+' :: (r.render g ++ rest)) (.op '+' :: (r'.tokens ++ ts)) := .op (by decide) hr
    obtain ⟨l', hlv, hl'⟩ :=
      l.lexes_render (fun p hp => hg p (by simp [PathSum.paths, hp])) (by simp [AfterPrimary]) hop
    refine ⟨.add l' r', by rw [SumTree.value, hlv, hrv]; rfl, ?_⟩
    simpa [PathSum.render, SumTree.tokens] using hl'
  | sub l r =>
    obtain ⟨r', hrv, hr⟩ := r.lexes_render (fun p hp => hg p (by simp [PathSum.paths, hp])) hrest hl
    have hop : Lexes ('-' :: (r.render g ++ rest)) (.op '-' :: (r'.tokens ++ ts)) := .op (by decide) hr
    obtain ⟨l', hlv, hl'⟩ :=
      l.lexes_render (fun p hp => hg p (by simp [PathSum.paths, hp])) (by simp [AfterPrimary]) hop
    refine ⟨.sub l' r', by rw [SumTree.value, hlv, hrv]; rfl, ?_⟩
    simpa [PathSum.render, SumTree.tokens] using hl'

/-- A product whose operands are written by texts that spell them lexes as an arithmetic tree
with its value in the environment. -/
theorem PathProduct.lexes_render {v : PathToken → Float} {g : PathToken → List Char}
    (t : PathProduct) (hg : ∀ p ∈ t.paths, Spells (g p) (v p)) {rest : List Char}
    {ts : List Token} (hrest : AfterPrimary rest) (hl : Lexes rest ts) :
    ∃ s : ProductTree, s.value = (t.toTree v).value ∧
      Lexes (t.render g ++ rest) (s.tokens ++ ts) := by
  cases t with
  | unary u =>
    obtain ⟨q, hv, hq⟩ := u.lexes_render (by simpa [PathProduct.paths] using hg) hrest hl
    exact ⟨.unary q, hv, hq⟩
  | mul l r =>
    obtain ⟨r', hrv, hr⟩ :=
      r.lexes_render (fun p hp => hg p (by simp [PathProduct.paths, hp])) hrest hl
    have hop : Lexes ('*' :: (r.render g ++ rest)) (.op '*' :: (r'.tokens ++ ts)) := .op (by decide) hr
    obtain ⟨l', hlv, hl'⟩ :=
      l.lexes_render (fun p hp => hg p (by simp [PathProduct.paths, hp])) (by simp [AfterPrimary]) hop
    refine ⟨.mul l' r', by rw [ProductTree.value, hlv, hrv]; rfl, ?_⟩
    simpa [PathProduct.render, ProductTree.tokens] using hl'
  | div l r =>
    obtain ⟨r', hrv, hr⟩ :=
      r.lexes_render (fun p hp => hg p (by simp [PathProduct.paths, hp])) hrest hl
    have hop : Lexes ('/' :: (r.render g ++ rest)) (.op '/' :: (r'.tokens ++ ts)) := .op (by decide) hr
    obtain ⟨l', hlv, hl'⟩ :=
      l.lexes_render (fun p hp => hg p (by simp [PathProduct.paths, hp])) (by simp [AfterPrimary]) hop
    refine ⟨.div l' r', by rw [ProductTree.value, hlv, hrv]; rfl, ?_⟩
    simpa [PathProduct.render, ProductTree.tokens] using hl'

/-- A factor lexes with the signs written before it and those its operand's text adds. -/
theorem PathUnary.lexes_render {v : PathToken → Float} {g : PathToken → List Char} (t : PathUnary)
    (hg : ∀ p ∈ t.paths, Spells (g p) (v p)) {rest : List Char} {ts : List Token}
    (hrest : AfterPrimary rest) (hl : Lexes rest ts) :
    ∃ s : UnaryTree, s.value = (t.toTree v).value ∧ Lexes (t.render g ++ rest) (s.tokens ++ ts) := by
  cases t with
  | signed signs p =>
    obtain ⟨extra, q, hv, hq⟩ := p.lexes_render (by simpa [PathUnary.paths] using hg) hrest hl
    refine ⟨.signed (signs ++ extra) q, ?_, ?_⟩
    · rw [UnaryTree.value_append, hv, PathUnary.toTree]
      simp only [UnaryTree.value, PrimaryTree.value]
    · simpa [PathUnary.render, UnaryTree.tokens] using lexes_signs signs hq

/-- A primary lexes as a primary of its value in the environment, after the signs its
operand's text adds. -/
theorem PathPrimary.lexes_render {v : PathToken → Float} {g : PathToken → List Char}
    (t : PathPrimary) (hg : ∀ p ∈ t.paths, Spells (g p) (v p)) {rest : List Char}
    {ts : List Token} (hrest : AfterPrimary rest) (hl : Lexes rest ts) :
    ∃ (extra : List Bool) (q : PrimaryTree), (UnaryTree.signed extra q).value = (t.toTree v).value ∧
      Lexes (t.render g ++ rest) (extra.map signToken ++ q.tokens ++ ts) := by
  cases t with
  | num ns hn =>
    obtain ⟨w, hw⟩ := Option.isSome_iff_exists.1 hn.readFloat?_isSome
    refine ⟨[], .num w, ?_, .num hn hw (not_numeral_snoc_of_afterPrimary hrest) hl⟩
    simp [UnaryTree.value, PrimaryTree.value, PathPrimary.toTree, hw]
  | path p => exact (hg p (by simp [PathPrimary.paths])).lexes hrest hl
  | paren s =>
    obtain ⟨s', hv, hs⟩ :=
      s.lexes_render (by simpa [PathPrimary.paths] using hg) (by simp [AfterPrimary]) (.rparen hl)
    refine ⟨[], .paren s', ?_, ?_⟩
    · simp [UnaryTree.value, PrimaryTree.value, PathPrimary.toTree, hv]
    · simpa [PathPrimary.render, PrimaryTree.tokens] using Lexes.lparen hs

end

theorem isDecimalDigit_of_isDigitChar {c : Char} (h : isDigitChar c = true) :
    Text.isDecimalDigit c = true := by
  have hc : c.toNat < 128 := by
    have := isDigitChar_iff_toNat.1 h
    omega
  rw [Text.isDecimalDigit, if_pos hc]
  exact h

/-- Lexed text holds only blanks, operators, parentheses, digits and points. -/
theorem lexes_mem_arithmetic {cs : List Char} {ts : List Token} (h : Lexes cs ts) :
    ∀ c ∈ cs, (Text.isDecimalDigit c || Text.isBlank c || "+-*/().".toList.contains c) = true := by
  induction h with
  | nil => simp
  | blank hg _ ih =>
    refine List.forall_mem_cons.2 ⟨?_, ih⟩
    simp only [isGap, Bool.or_eq_true, decide_eq_true_eq] at hg
    rcases hg with ((rfl | rfl) | rfl) | rfl <;> decide
  | op hc _ ih =>
    refine List.forall_mem_cons.2 ⟨?_, ih⟩
    rcases hc with rfl | rfl | rfl | rfl <;> decide
  | lparen _ ih => exact List.forall_mem_cons.2 ⟨by decide, ih⟩
  | rparen _ ih => exact List.forall_mem_cons.2 ⟨by decide, ih⟩
  | num hn _ _ _ ih =>
    refine List.forall_mem_append.2 ⟨fun c hc => ?_, ih⟩
    rcases hn.mem hc with hd | rfl
    · simp [isDecimalDigit_of_isDigitChar hd]
    · decide

theorem isArithmeticText_of_lexes {cs : List Char} {ts : List Token} (h : Lexes cs ts)
    (hne : cs ≠ []) : isArithmeticText cs = true := by
  simpa [isArithmeticText, hne, List.all_eq_true] using lexes_mem_arithmetic h

theorem sum_out_nil : (sum []).out = none := by
  rw [sum_out, product_out, unary_out_nil]
  rfl

/-- Empty text is no arithmetic. -/
theorem eval?_empty : eval? (String.ofList []) = none := by
  cases h : eval? (String.ofList []) with
  | none => rfl
  | some v =>
    obtain ⟨ts, hscan, hsum⟩ := (eval?_eq_some_iff _ v).1 h
    rw [String.toList_ofList, scan] at hscan
    cases hscan
    rw [sum_out_nil] at hsum
    cases hsum

/-- Text that lexes as the tokens of a sum evaluates to the sum's value. -/
theorem eval?_of_lexes {cs : List Char} {s : SumTree} (h : Lexes cs s.tokens) :
    eval? (String.ofList cs) = some s.value := by
  rw [eval?_eq_some_iff, String.toList_ofList]
  have hall := sum_tokens s [] (by simp)
  rw [List.append_nil] at hall
  exact ⟨s.tokens, h.scan_eq, by rw [hall, sumRest_out_stop _ (by simp)]⟩

/-! ## The text of an expression -/

mutual

/-- Every character of a rendered sum has a property that the operators, the parentheses,
the characters of numerals and those of the texts of its path tokens have. -/
theorem PathSum.forall_mem_render {P : Char → Prop} {g : PathToken → List Char}
    (hfix : ∀ c ∈ ['+', '-', '*', '/', '(', ')'], P c)
    (hnum : ∀ c, isDigitChar c = true ∨ c = '.' → P c) (t : PathSum)
    (hg : ∀ p ∈ t.paths, ∀ c ∈ g p, P c) : ∀ c ∈ t.render g, P c := by
  cases t with
  | product p => exact p.forall_mem_render hfix hnum hg
  | add l r =>
    refine List.forall_mem_append.2 ⟨l.forall_mem_render hfix hnum fun p hp =>
      hg p (List.mem_append_left _ hp), List.forall_mem_cons.2 ⟨hfix '+' (by simp), ?_⟩⟩
    exact r.forall_mem_render hfix hnum fun p hp => hg p (List.mem_append_right _ hp)
  | sub l r =>
    refine List.forall_mem_append.2 ⟨l.forall_mem_render hfix hnum fun p hp =>
      hg p (List.mem_append_left _ hp), List.forall_mem_cons.2 ⟨hfix '-' (by simp), ?_⟩⟩
    exact r.forall_mem_render hfix hnum fun p hp => hg p (List.mem_append_right _ hp)

/-- Every character of a rendered product has a property its parts have. -/
theorem PathProduct.forall_mem_render {P : Char → Prop} {g : PathToken → List Char}
    (hfix : ∀ c ∈ ['+', '-', '*', '/', '(', ')'], P c)
    (hnum : ∀ c, isDigitChar c = true ∨ c = '.' → P c) (t : PathProduct)
    (hg : ∀ p ∈ t.paths, ∀ c ∈ g p, P c) : ∀ c ∈ t.render g, P c := by
  cases t with
  | unary u => exact u.forall_mem_render hfix hnum hg
  | mul l r =>
    refine List.forall_mem_append.2 ⟨l.forall_mem_render hfix hnum fun p hp =>
      hg p (List.mem_append_left _ hp), List.forall_mem_cons.2 ⟨hfix '*' (by simp), ?_⟩⟩
    exact r.forall_mem_render hfix hnum fun p hp => hg p (List.mem_append_right _ hp)
  | div l r =>
    refine List.forall_mem_append.2 ⟨l.forall_mem_render hfix hnum fun p hp =>
      hg p (List.mem_append_left _ hp), List.forall_mem_cons.2 ⟨hfix '/' (by simp), ?_⟩⟩
    exact r.forall_mem_render hfix hnum fun p hp => hg p (List.mem_append_right _ hp)

/-- Every character of a rendered factor has a property its parts have. -/
theorem PathUnary.forall_mem_render {P : Char → Prop} {g : PathToken → List Char}
    (hfix : ∀ c ∈ ['+', '-', '*', '/', '(', ')'], P c)
    (hnum : ∀ c, isDigitChar c = true ∨ c = '.' → P c) (t : PathUnary)
    (hg : ∀ p ∈ t.paths, ∀ c ∈ g p, P c) : ∀ c ∈ t.render g, P c := by
  cases t with
  | signed signs p =>
    refine List.forall_mem_append.2 ⟨fun c hc => ?_, p.forall_mem_render hfix hnum hg⟩
    obtain ⟨m, -, rfl⟩ := List.mem_map.1 hc
    exact hfix _ (by cases m <;> simp [signChar])

/-- Every character of a rendered primary has a property its parts have. -/
theorem PathPrimary.forall_mem_render {P : Char → Prop} {g : PathToken → List Char}
    (hfix : ∀ c ∈ ['+', '-', '*', '/', '(', ')'], P c)
    (hnum : ∀ c, isDigitChar c = true ∨ c = '.' → P c) (t : PathPrimary)
    (hg : ∀ p ∈ t.paths, ∀ c ∈ g p, P c) : ∀ c ∈ t.render g, P c := by
  cases t with
  | num ns hn => exact fun c hc => hnum c (hn.mem hc)
  | path p => exact hg p (List.mem_singleton_self p)
  | paren s =>
    refine List.forall_mem_cons.2 ⟨hfix '(' (by simp), List.forall_mem_append.2 ⟨?_, ?_⟩⟩
    · exact s.forall_mem_render hfix hnum hg
    · simpa using hfix ')' (by simp)

end

mutual

/-- A relation that holds after each operator and `(` and before each operator and `)`
holds between neighbouring characters of a rendered sum whose numerals and token texts
keep it. -/
theorem PathSum.isChain_render {R : Char → Char → Prop} {g : PathToken → List Char}
    (hafter : ∀ a ∈ ['+', '-', '*', '/', '('], ∀ b, R a b)
    (hbefore : ∀ b ∈ ['+', '-', '*', '/', ')'], ∀ a, R a b)
    (hnum : ∀ ns, Numeral ns → List.IsChain R ns) (t : PathSum)
    (hg : ∀ p ∈ t.paths, List.IsChain R (g p)) : List.IsChain R (t.render g) := by
  cases t with
  | product p => exact p.isChain_render hafter hbefore hnum hg
  | add l r =>
    have hr := r.isChain_render hafter hbefore hnum fun p hp => hg p (List.mem_append_right _ hp)
    refine (l.isChain_render hafter hbefore hnum fun p hp => hg p (List.mem_append_left _ hp)).append
      (List.isChain_cons.2 ⟨fun y _ => hafter '+' (by simp) y, hr⟩) ?_
    rintro x - y ⟨⟩
    exact hbefore '+' (by simp) x
  | sub l r =>
    have hr := r.isChain_render hafter hbefore hnum fun p hp => hg p (List.mem_append_right _ hp)
    refine (l.isChain_render hafter hbefore hnum fun p hp => hg p (List.mem_append_left _ hp)).append
      (List.isChain_cons.2 ⟨fun y _ => hafter '-' (by simp) y, hr⟩) ?_
    rintro x - y ⟨⟩
    exact hbefore '-' (by simp) x

/-- A relation kept by operators and parentheses holds along a rendered product. -/
theorem PathProduct.isChain_render {R : Char → Char → Prop} {g : PathToken → List Char}
    (hafter : ∀ a ∈ ['+', '-', '*', '/', '('], ∀ b, R a b)
    (hbefore : ∀ b ∈ ['+', '-', '*', '/', ')'], ∀ a, R a b)
    (hnum : ∀ ns, Numeral ns → List.IsChain R ns) (t : PathProduct)
    (hg : ∀ p ∈ t.paths, List.IsChain R (g p)) : List.IsChain R (t.render g) := by
  cases t with
  | unary u => exact u.isChain_render hafter hbefore hnum hg
  | mul l r =>
    have hr := r.isChain_render hafter hbefore hnum fun p hp => hg p (List.mem_append_right _ hp)
    refine (l.isChain_render hafter hbefore hnum fun p hp => hg p (List.mem_append_left _ hp)).append
      (List.isChain_cons.2 ⟨fun y _ => hafter '*' (by simp) y, hr⟩) ?_
    rintro x - y ⟨⟩
    exact hbefore '*' (by simp) x
  | div l r =>
    have hr := r.isChain_render hafter hbefore hnum fun p hp => hg p (List.mem_append_right _ hp)
    refine (l.isChain_render hafter hbefore hnum fun p hp => hg p (List.mem_append_left _ hp)).append
      (List.isChain_cons.2 ⟨fun y _ => hafter '/' (by simp) y, hr⟩) ?_
    rintro x - y ⟨⟩
    exact hbefore '/' (by simp) x

/-- A relation kept by operators and parentheses holds along a rendered factor: its signs
are operators. -/
theorem PathUnary.isChain_render {R : Char → Char → Prop} {g : PathToken → List Char}
    (hafter : ∀ a ∈ ['+', '-', '*', '/', '('], ∀ b, R a b)
    (hbefore : ∀ b ∈ ['+', '-', '*', '/', ')'], ∀ a, R a b)
    (hnum : ∀ ns, Numeral ns → List.IsChain R ns) (t : PathUnary)
    (hg : ∀ p ∈ t.paths, List.IsChain R (g p)) : List.IsChain R (t.render g) := by
  cases t with
  | signed signs p =>
    have hsigns : ∀ a ∈ signs.map signChar, ∀ b, R a b := by
      intro a ha b
      obtain ⟨m, -, rfl⟩ := List.mem_map.1 ha
      exact hafter _ (by cases m <;> simp [signChar]) b
    refine (List.Pairwise.isChain (List.pairwise_of_forall_mem_list fun a ha b _ =>
      hsigns a ha b)).append (p.isChain_render hafter hbefore hnum hg) ?_
    exact fun x hx y _ => hsigns x (List.mem_of_getLast? hx) y

/-- A relation kept by operators and parentheses holds along a rendered primary. -/
theorem PathPrimary.isChain_render {R : Char → Char → Prop} {g : PathToken → List Char}
    (hafter : ∀ a ∈ ['+', '-', '*', '/', '('], ∀ b, R a b)
    (hbefore : ∀ b ∈ ['+', '-', '*', '/', ')'], ∀ a, R a b)
    (hnum : ∀ ns, Numeral ns → List.IsChain R ns) (t : PathPrimary)
    (hg : ∀ p ∈ t.paths, List.IsChain R (g p)) : List.IsChain R (t.render g) := by
  cases t with
  | num ns hn => exact hnum ns hn
  | path p => exact hg p (List.mem_singleton_self p)
  | paren s =>
    refine List.isChain_cons.2 ⟨fun y _ => hafter '(' (by simp) y, ?_⟩
    refine (s.isChain_render hafter hbefore hnum hg).append (List.isChain_singleton _) ?_
    rintro x - y ⟨⟩
    exact hbefore ')' (by simp) x

end

theorem PathToken.mem_path {p : PathToken} {c : Char} (h : c ∈ p.path) :
    c = '.' ∨ isSegmentChar c = true := by
  rw [PathToken.path_eq, List.mem_append] at h
  rcases h with h | h
  · -- the scope words are lower-case letters
    have hall : (scopeWords.all fun w => w.all isSegmentChar) = true := rfl
    exact .inr (List.all_eq_true.1 (List.all_eq_true.1 hall _ p.scope_mem) c h)
  · obtain ⟨s, hs, hc⟩ := List.mem_flatMap.1 h
    rcases List.mem_cons.1 hc with rfl | hc
    · exact .inl rfl
    · exact .inr ((p.segs_chars s hs).2 c hc)

/-- A path token is written with braces, points and segment characters. -/
theorem PathToken.mem_text {p : PathToken} {c : Char} (h : c ∈ p.text) :
    c = '\x7b' ∨ c = '\x7d' ∨ c = '.' ∨ isSegmentChar c = true := by
  unfold PathToken.text at h
  split at h
  · simp only [List.cons_append, List.mem_cons, List.mem_append, List.not_mem_nil, or_false] at h
    rcases h with rfl | h | rfl
    · exact .inl rfl
    · exact .inr (.inr (p.mem_path h))
    · exact .inr (.inl rfl)
  · exact .inr (.inr (p.mem_path h))

theorem isBlank_of_printable {c : Char} (h : 33 ≤ c.toNat ∧ c.toNat < 128) :
    Text.isBlank c = false := by
  unfold Text.isBlank
  simp only [Bool.or_eq_false_iff, Bool.and_eq_false_iff, decide_eq_false_iff_not,
    beq_eq_false_iff_ne, ne_eq, Nat.not_le]
  omega

theorem isBlank_of_isDigitChar {c : Char} (h : isDigitChar c = true) : Text.isBlank c = false := by
  have := isDigitChar_iff_toNat.1 h
  apply isBlank_of_printable
  omega

theorem isBlank_of_isSegmentChar {c : Char} (h : isSegmentChar c = true) :
    Text.isBlank c = false := by
  simp only [isSegmentChar, Char.isAlphanum, Char.isAlpha, Char.isUpper, Char.isLower,
    Char.isDigit, Bool.or_eq_true, Bool.and_eq_true, decide_eq_true_eq, ge_iff_le,
    UInt32.le_iff_toNat_le] at h
  have hA : ('A' : Char).val.toNat = 65 := rfl
  have hZ : ('Z' : Char).val.toNat = 90 := rfl
  have ha : ('a' : Char).val.toNat = 97 := rfl
  have hz : ('z' : Char).val.toNat = 122 := rfl
  have h0 : ('0' : Char).val.toNat = 48 := rfl
  have h9 : ('9' : Char).val.toNat = 57 := rfl
  rcases h with (h | rfl) | rfl
  · apply isBlank_of_printable
    rw [Char.toNat]
    omega
  · decide
  · decide

/-- An expression is written without blanks. -/
theorem PathSum.text_no_blank (t : PathSum) : ∀ c ∈ t.text, Text.isBlank c = false := by
  have hfix : (['+', '-', '*', '/', '(', ')'].all fun c => !Text.isBlank c) = true := rfl
  refine t.forall_mem_render (by simpa using List.all_eq_true.1 hfix)
    (fun c hc => hc.elim isBlank_of_isDigitChar fun h => h ▸ rfl) fun p _ c hc => ?_
  rcases p.mem_text hc with rfl | rfl | rfl | hs
  · rfl
  · rfl
  · rfl
  · exact isBlank_of_isSegmentChar hs

theorem trimChars_eq_self {cs : List Char} (h : ∀ c ∈ cs, Text.isBlank c = false) :
    Text.trimChars cs = cs := by
  have hdrop : ∀ {xs : List Char}, (∀ c ∈ xs, Text.isBlank c = false) → Text.dropBlanks xs = xs := by
    intro xs hx
    cases xs with
    | nil => rfl
    | cons c xs => simp [Text.dropBlanks, hx c List.mem_cons_self]
  rw [Text.trimChars, hdrop h, hdrop fun c hc => h c (List.mem_reverse.1 hc), List.reverse_reverse]

/-- A parenthesis opens only after an operator or another parenthesis. -/
def OpensAfterOperator (a b : Char) : Prop := b = '(' → a ∈ ['+', '-', '*', '/', '(']

instance : DecidableRel OpensAfterOperator := fun a b =>
  inferInstanceAs (Decidable (b = '(' → a ∈ ['+', '-', '*', '/', '(']))

theorem isChain_opens_of_not_mem {l : List Char} (h : '(' ∉ l) : List.IsChain OpensAfterOperator l :=
  List.Pairwise.isChain (List.pairwise_of_forall_mem_list fun _ _ _ hb hb' => absurd (hb' ▸ hb) h)

/-- In an expression a parenthesis opens only after an operator or another parenthesis. -/
theorem PathSum.isChain_text (t : PathSum) : List.IsChain OpensAfterOperator t.text := by
  refine t.isChain_render (R := OpensAfterOperator) (fun a ha _ _ => ha)
    (fun b hb _ hb' => absurd (hb' ▸ hb) (by decide))
    (fun ns hn => isChain_opens_of_not_mem fun hm => ?_) (fun p _ => isChain_opens_of_not_mem fun hm => ?_)
  · rcases hn.mem hm with h | h <;> exact absurd h (by decide)
  · rcases p.mem_text hm with h | h | h | h <;> exact absurd h (by decide)

theorem not_startsWith_of_isChain {R : Char → Char → Prop} {cs pat : List Char}
    (h : List.IsChain R cs) (hpat : ¬List.IsChain R pat) : startsWith cs pat = false := by
  cases hs : startsWith cs pat with
  | false => rfl
  | true =>
    have hsplit := (List.take_append_drop pat.length cs).symm
    rw [take_of_startsWith hs] at hsplit
    rw [hsplit] at h
    exact absurd h.left_of_append hpat

/-- Masking changes nothing in text where no call opens: a `(` never follows a letter. -/
theorem mask_eq_self {cs : List Char} (h : List.IsChain OpensAfterOperator cs) : mask cs 0 = cs := by
  induction cs with
  | nil => rw [mask]
  | cons c rest ih =>
    have hr : startsWith (c :: rest) ".reduce(".toList = false :=
      not_startsWith_of_isChain h (by decide)
    have hf : startsWith (c :: rest) ".filter(".toList = false :=
      not_startsWith_of_isChain h (by decide)
    rw [mask]
    simp only [hr, hf, Bool.or_false, Bool.and_false, Bool.false_eq_true, if_false, gt_iff_lt,
      Nat.lt_irrefl]
    rw [ih h.tail]

mutual

/-- A sum is written as its first factor and what follows it. -/
theorem PathSum.render_eq_unary (g : PathToken → List Char) (t : PathSum) :
    ∃ (u : PathUnary) (rest : List Char), t.render g = u.render g ++ rest := by
  cases t with
  | product p => exact p.render_eq_unary g
  | add l r =>
    obtain ⟨u, rest, h⟩ := l.render_eq_unary g
    exact ⟨u, rest ++ '+' :: r.render g, by rw [PathSum.render, h, List.append_assoc]⟩
  | sub l r =>
    obtain ⟨u, rest, h⟩ := l.render_eq_unary g
    exact ⟨u, rest ++ '-' :: r.render g, by rw [PathSum.render, h, List.append_assoc]⟩

/-- A product is written as its first factor and what follows it. -/
theorem PathProduct.render_eq_unary (g : PathToken → List Char) (t : PathProduct) :
    ∃ (u : PathUnary) (rest : List Char), t.render g = u.render g ++ rest := by
  cases t with
  | unary u => exact ⟨u, [], (List.append_nil _).symm⟩
  | mul l r =>
    obtain ⟨u, rest, h⟩ := l.render_eq_unary g
    exact ⟨u, rest ++ '*' :: r.render g, by rw [PathProduct.render, h, List.append_assoc]⟩
  | div l r =>
    obtain ⟨u, rest, h⟩ := l.render_eq_unary g
    exact ⟨u, rest ++ '/' :: r.render g, by rw [PathProduct.render, h, List.append_assoc]⟩

end

/-- The only primary written with a leading brace is a path token in braces. -/
theorem PathPrimary.eq_path_of_render {t : PathPrimary} {x : List Char}
    (h : t.render PathToken.text = '\x7b' :: x) :
    ∃ p : PathToken, t = .path p ∧ x = p.path ++ ['\x7d'] := by
  cases t with
  | num ns hn =>
    rcases hn.mem (c := '\x7b') (by rw [PathPrimary.render] at h; simp [h]) with h' | h' <;>
      exact absurd h' (by decide)
  | path p =>
    rw [PathPrimary.render, PathToken.text] at h
    split at h
    · exact ⟨p, rfl, by simpa using h.symm⟩
    · obtain ⟨c, r, hpath, hc⟩ := p.path_cons
      rw [hpath, List.cons.injEq] at h
      rw [h.1] at hc
      exact absurd hc (by decide)
  | paren s => simp [PathPrimary.render] at h

theorem PathPrimary.render_ne_nil {g : PathToken → List Char} (t : PathPrimary)
    (hg : ∀ p ∈ t.paths, g p ≠ []) : t.render g ≠ [] := by
  cases t with
  | num ns hn => exact hn.ne_nil
  | path p => exact hg p (List.mem_singleton_self p)
  | paren s => simp [PathPrimary.render]

/-- A path alone in braces, read back: the text between the two braces, holding no closing
brace. -/
theorem eq_of_bracePath {cs inner : List Char} (h : bracePath cs = some inner)
    (hb : ∀ c ∈ cs, Text.isBlank c = false) : cs = '\x7b' :: inner ++ ['\x7d'] ∧ '\x7d' ∉ inner := by
  unfold bracePath at h
  split at h
  · next rest =>
    split at h
    · next inner' hrev =>
      have hrest : rest = inner'.reverse ++ ['\x7d'] := by
        rw [← List.reverse_reverse rest, hrev, List.reverse_cons]
      -- the text between the braces is trimmed, but it holds no blank
      have htrim : Text.trimChars inner'.reverse = inner'.reverse :=
        trimChars_eq_self fun c hc => hb c (by simp [hrest, hc])
      dsimp only at h
      rw [htrim] at h
      split at h
      · cases h
      · next hcond =>
        cases h
        simp only [Bool.or_eq_true, not_or] at hcond
        exact ⟨by rw [hrest]; rfl, by simpa using hcond.2⟩
    · cases h
  · cases h

theorem PathToken.text_ne_nil (p : PathToken) : p.text ≠ [] := by
  unfold PathToken.text
  split
  · simp
  · obtain ⟨c, r, hpath, -⟩ := p.path_cons
    simp [hpath]

theorem PathToken.not_op_of_mem_path {p : PathToken} {c : Char} (h : c ∈ p.path) :
    ¬(c = '+' ∨ c = '-' ∨ c = '*' ∨ c = '/') := by
  rcases p.mem_path h with rfl | hs
  · decide
  · rintro (rfl | rfl | rfl | rfl) <;> exact absurd hs (by decide)

/-- An expression with an operator is not one path token in braces. -/
theorem PathSum.bracePath_text (t : PathSum)
    (hop : ∃ c ∈ t.text, c = '+' ∨ c = '-' ∨ c = '*' ∨ c = '/') : bracePath t.text = none := by
  cases h : bracePath t.text with
  | none => rfl
  | some inner =>
    exfalso
    obtain ⟨htext, hclose⟩ := eq_of_bracePath h t.text_no_blank
    obtain ⟨⟨signs, pr⟩, rest, hsplit⟩ := t.render_eq_unary PathToken.text
    rw [PathSum.text_eq_render, hsplit, PathUnary.render] at htext
    -- a sign would come first, so the first primary starts the text with the brace
    cases signs with
    | cons m _ => cases m <;> simp [signChar] at htext
    | nil =>
      rw [List.map_nil, List.nil_append] at htext
      obtain ⟨d, x, hdx⟩ := List.exists_cons_of_ne_nil (pr.render_ne_nil fun p _ => p.text_ne_nil)
      rw [hdx, List.cons_append, List.cons_append, List.cons.injEq] at htext
      obtain ⟨rfl, hrest⟩ := htext
      obtain ⟨p, rfl, rfl⟩ := PathPrimary.eq_path_of_render hdx
      rcases List.eq_nil_or_concat rest with rfl | ⟨rest', y, rfl⟩
      · -- the text is the token alone, which holds no operator
        obtain ⟨c, hc, hcop⟩ := hop
        rw [PathSum.text, hsplit, PathUnary.render, List.map_nil, List.nil_append, hdx,
          List.append_nil] at hc
        simp only [List.mem_cons, List.mem_append, List.not_mem_nil, or_false] at hc
        rcases hc with rfl | hc | rfl
        · revert hcop
          decide
        · exact p.not_op_of_mem_path hc hcop
        · revert hcop
          decide
      · -- otherwise the token's closing brace lies between the outer braces
        rw [List.concat_eq_append, ← List.append_assoc] at hrest
        obtain ⟨hinner, -⟩ := List.append_inj' hrest rfl
        exact hclose (by rw [← hinner]; simp)

/-- An expression with an operator is read as arithmetic. -/
theorem PathSum.evaluate_text (b : Bindings) (t : PathSum)
    (hop : ∃ c ∈ t.text, c = '+' ∨ c = '-' ∨ c = '*' ∨ c = '/') :
    evaluate b t.text = arithmetic b t.text := by
  have hany : (t.text.any fun c => c = '+' || c = '-' || c = '*' || c = '/') = true := by
    obtain ⟨c, hc, hcop⟩ := hop
    refine List.any_eq_true.2 ⟨c, hc, ?_⟩
    rcases hcop with rfl | rfl | rfl | rfl <;> rfl
  rw [evaluate]
  simp only [trimChars_eq_self t.text_no_blank, t.bracePath_text hop, mask_eq_self t.isChain_text,
    hany, if_true]

/-- Arithmetic over an expression reads each path token as the number its text spells. -/
theorem PathSum.arithmetic_text (b : Bindings) (t : PathSum) (w : PathToken → Float)
    (hw : ∀ p ∈ t.paths, Spells (operandText (p.operand b)).toList (w p)) :
    arithmetic b t.text =
      match Loose.numberValue (t.toTree w).value with
      | some v => (some v, [])
      | none => (none, [⟨String.ofList t.text,
          "non-finite result " ++ NumberLayout.plain.render (t.toTree w).value⟩]) := by
  -- the replacement leaves the expression with the text of each token's number in its place
  have hrep := @PathSum.replaceTokens_render
    (fun path => (operandText (operandNumber (b.resolve (String.ofList path)))).toList) t none rfl []
    (by simp [AfterPrimary])
  rw [List.append_nil, replaceTokens_nil, List.append_nil] at hrep
  -- and that text is arithmetic with the value of the tree read in the environment
  obtain ⟨s, hs, hlex⟩ := @PathSum.lexes_render w
    (fun p => (operandText (operandNumber (b.resolve (String.ofList p.path)))).toList) t hw
    [] [] (by simp [AfterPrimary]) .nil
  rw [List.append_nil, List.append_nil] at hlex
  have heval := eval?_of_lexes hlex
  have hne : t.render (fun p => (operandText (operandNumber (b.resolve (String.ofList p.path)))).toList) ≠ [] := by
    intro hnil
    rw [hnil, eval?_empty] at heval
    cases heval
  unfold arithmetic
  simp only [PathSum.text_eq_render] at hrep ⊢
  simp only [hrep, isArithmeticText_of_lexes hlex hne, Bool.not_true, Bool.false_eq_true, if_false,
    heval, hs]
  -- both sides now match on the same value; where their matchers are not shared, they agree
  -- by unfolding
  all_goals rfl

/-! ## Agreement with the environment -/

/-- The path token `app.x`. -/
def appX : PathToken := ⟨['a', 'p', 'p'], [['x']], false, List.mem_cons_self, by simp, by simp; rfl⟩

/-- Bindings whose app state has the one field `x`. -/
def appBindings (x : Json) : Bindings := ⟨.obj [("x", x)], .null, none, none⟩

set_option maxRecDepth 10000 in
/-- The token `app.x` stands for the number of the field `x` of the app state. -/
theorem operand_appX (x : Json) : appX.operand (appBindings x) = operandNumber (some x) := by
  have hpath : String.ofList appX.path = "app.x" := rfl
  have hsplit : "app.x".splitOn "." = ["app", "x"] := by
    simp +decide [String.splitOn, String.splitOnAux]
  have hdrop : ("app.x".drop ("app".length + 1)).copy = "x" := rfl
  have hfield : "x".splitOn "." = ["x"] := by simp +decide [String.splitOn, String.splitOnAux]
  rw [PathToken.operand, hpath, Bindings.resolve, hsplit]
  simp [appBindings, Json.getPath, Json.segments, hdrop, hfield, Json.getSegments, Json.lookup]

theorem numeral_digit {d : Char} (h : isDigitChar d = true) : Numeral [d] :=
  .whole (fun c hc => by rw [List.mem_singleton.1 hc]; exact h) (by simp)

/-- The expression `app.x+1`. -/
def appXPlusOne : PathSum :=
  .add (.product (.unary (.signed [] (.path appX)))) (.unary (.signed [] (.num ['1'] (numeral_digit rfl))))

/-- The expression `1/(1/app.x+1/0)`: one over the sum of the reciprocals of `app.x` and of
zero. -/
def reciprocalSum : PathSum :=
  .product (.div (.unary (.signed [] (.num ['1'] (numeral_digit rfl)))) (.signed [] (.paren
    (.add (.product (.div (.unary (.signed [] (.num ['1'] (numeral_digit rfl)))) (.signed [] (.path appX))))
      (.div (.unary (.signed [] (.num ['1'] (numeral_digit rfl)))) (.signed [] (.num ['0'] (numeral_digit rfl))))))))

theorem numberValue_zero : Loose.numberValue 0 = some (.int 0) :=
  (Loose.numberValue_eq_int_iff 0 0).2 ⟨Binary64.holdsWhole_zero, by decide⟩

end Expr

end Storyboard
