import Storyboard.Proofs.Doubles
import Storyboard.Proofs.Lexing
import Storyboard.Script.Arith

/-!
# Arithmetic text and its grammar

Arithmetic text is read in two layers, as its grammar is written. The lexical layer cuts
the text into tokens: the four operators, the two parentheses and numbers, with blanks
(space, tab, carriage return, line feed) around and between them and none inside a number;
a number is read as far as it goes. The syntactic layer is

```text
sum     := product (("+" | "-") product)*
product := unary (("*" | "/") unary)*
unary   := ("+" | "-")* primary
primary := number | "(" sum ")"
```

whose derivations are the trees `SumTree`, `ProductTree`, `UnaryTree` and `PrimaryTree`.
The repetitions are read as left-nested trees, which is how the operators associate. A
tree's value is its standard evaluation in doubles: a number is the double its text
reads as, the four operators are those of doubles, and a run of signs negates when it
holds an odd number of `-`.

Main statement (`arithmetic_accepts_its_grammar`): `Arith.eval?` accepts a text exactly
when it lexes to the tokens of some tree, and then gives that tree's value; every numeral
reads as a double, so acceptance does not hang on reading numbers.

The proof has three parts. `Token.scan` cuts exactly the lexings (`Token.scan_eq_some_iff`,
beside the lexical layer). The descent parser, read through `Step.out` with one equation
per token it looks at, parses the tokens of a tree followed by anything that cannot
continue it into the tree's value (`sum_tokens` and its siblings, by mutual induction on
trees); and what it parses is the tokens of a tree (`sum_sound` and its siblings, by the
parser's own measure). Signs need one fact about doubles: negating twice gives the number
back (`Binary64.neg_neg`).
-/

namespace Storyboard

/-! ## Negating doubles

A double is negated by unpacking its bits, flipping the sign and packing again. Unpacking
the bits with the sign bit flipped gives the negated number, so negation packs what the
flipped bits unpack to; and packing what bits unpack to, then unpacking, changes nothing. -/

namespace Binary64

open Float.Model

/-- The bits of a double with the sign bit flipped. -/
def flipSign (b : BitVec 64) : BitVec 64 := BitVec.ofNat 64 (b.toNat + 2^63)

theorem toNat_flipSign (b : BitVec 64) : (flipSign b).toNat = (b.toNat + 2^63) % 2^64 := by
  simp [flipSign]

theorem unpackMantissa_flipSign (b : BitVec 64) :
    @UnpackedFloat.unpackMantissa Format.binary64 (flipSign b)
      = @UnpackedFloat.unpackMantissa Format.binary64 b := by
  apply BitVec.eq_of_toNat_eq
  rw [unpackMantissa_toNat, unpackMantissa_toNat, toNat_flipSign]
  omega

theorem unpackExponent_flipSign (b : BitVec 64) :
    @UnpackedFloat.unpackExponent Format.binary64 (flipSign b)
      = @UnpackedFloat.unpackExponent Format.binary64 b := by
  apply BitVec.eq_of_toNat_eq
  rw [unpackExponent_toNat, unpackExponent_toNat, toNat_flipSign]
  omega

theorem sign_flipSign (b : BitVec 64) :
    UnpackedFloat.Sign.ofBitVec (@UnpackedFloat.unpackSign Format.binary64 (flipSign b))
      = -UnpackedFloat.Sign.ofBitVec (@UnpackedFloat.unpackSign Format.binary64 b) := by
  have h1 := unpackSign_toNat (flipSign b)
  have h2 := unpackSign_toNat b
  rw [toNat_flipSign] at h1
  have hlt := b.isLt
  unfold UnpackedFloat.Sign.ofBitVec
  by_cases hb : b.toNat < 2^63
  · have hs : @UnpackedFloat.unpackSign Format.binary64 b = 0#1 :=
      BitVec.eq_of_toNat_eq (by rw [h2]; simp; omega)
    have hs' : @UnpackedFloat.unpackSign Format.binary64 (flipSign b) ≠ 0#1 := fun h => by
      have := congrArg BitVec.toNat h
      rw [h1] at this
      simp at this
      omega
    rw [if_pos hs, if_neg hs']
    rfl
  · have hs : @UnpackedFloat.unpackSign Format.binary64 b ≠ 0#1 := fun h => by
      have := congrArg BitVec.toNat h
      rw [h2] at this
      simp at this
      omega
    have hs' : @UnpackedFloat.unpackSign Format.binary64 (flipSign b) = 0#1 :=
      BitVec.eq_of_toNat_eq (by rw [h1]; simp; omega)
    rw [if_pos hs', if_neg hs]
    rfl

/-- Flipping the sign bit negates the number the bits unpack to. -/
theorem unpack_flipSign (b : BitVec 64) :
    UnpackedFloat.unpack Format.binary64 (flipSign b) = (UnpackedFloat.unpack Format.binary64 b).neg := by
  unfold UnpackedFloat.unpack
  simp only [unpackMantissa_flipSign, unpackExponent_flipSign, sign_flipSign,
    apply_ite UnpackedFloat.neg, apply_dite UnpackedFloat.neg]
  split
  · split <;> rfl
  · split
    · split <;> rfl
    · rfl

theorem sign_neg_neg (s : UnpackedFloat.Sign) : -(-s) = s := by
  cases s <;> rfl

theorem unpacked_neg_neg (u : UnpackedFloat) : u.neg.neg = u := by
  cases u <;> simp only [UnpackedFloat.neg, sign_neg_neg]

/-- The exponent field of bits whose exponent is all ones. -/
theorem unpackExponent_eq_allOnes {b : BitVec 64} (he : b.toNat / 2^52 % 2^11 = 2047) :
    @UnpackedFloat.unpackExponent Format.binary64 b = -1#11 :=
  BitVec.eq_of_toNat_eq (by rw [unpackExponent_toNat, he]; rfl)

/-- Bits with an all-ones exponent unpack to an infinity or to NaN. -/
theorem unpack_of_allOnes {b : BitVec 64} (he : b.toNat / 2^52 % 2^11 = 2047) :
    UnpackedFloat.unpack Format.binary64 b =
      if @UnpackedFloat.unpackMantissa Format.binary64 b = 0#52 then
        .infinity (UnpackedFloat.Sign.ofBitVec (@UnpackedFloat.unpackSign Format.binary64 b))
      else .notANumber := by
  unfold UnpackedFloat.unpack
  simp only [unpackExponent_eq_allOnes he, if_true]

/-- Packing what bits unpack to and unpacking again reads the same number. -/
theorem unpack_pack_unpack (b : BitVec 64) :
    UnpackedFloat.unpack Format.binary64
      (UnpackedFloat.pack Format.binary64 (UnpackedFloat.unpack Format.binary64 b))
      = UnpackedFloat.unpack Format.binary64 b := by
  by_cases he : b.toNat / 2^52 % 2^11 = 2047
  · -- an infinity or NaN: each has one packed form, which unpacks to it
    rw [unpack_of_allOnes he]
    split
    · cases UnpackedFloat.Sign.ofBitVec (@UnpackedFloat.unpackSign Format.binary64 b) <;> rfl
    · rfl
  · rw [pack_unpack_of_exponent_ne b he]

/-- Valid bits, whose NaN is the canonical one, are packed back as they were. -/
theorem pack_unpack_of_valid {b : BitVec 64} (hv : Format.binary64.Valid b) :
    UnpackedFloat.pack Format.binary64 (UnpackedFloat.unpack Format.binary64 b) = b := by
  by_cases he : b.toNat / 2^52 % 2^11 = 2047
  · rw [unpack_of_allOnes he]
    split
    · next hm =>
      -- an infinity: the sign, an all-ones exponent and a zero fraction
      have hm' : b.toNat % 2^52 = 0 := by rw [← unpackMantissa_toNat, hm]; rfl
      have hs := unpackSign_toNat b
      have hsplit := bits_split b.toNat b.isLt
      apply BitVec.eq_of_toNat_eq
      simp only [UnpackedFloat.pack, UnpackedFloat.packedInfinity, packComponents_toNat,
        toNat_sign_toBitVec_ofBitVec, hs]
      simp
      omega
    · next hm => exact (hv.eq_packedNaN (unpackExponent_eq_allOnes he) hm).symm
  · exact pack_unpack_of_exponent_ne b he

/-- Negating a double twice gives it back. -/
theorem neg_neg (x : Float) : -(-x) = x := by
  obtain ⟨⟨bits, valid⟩⟩ := x
  show Float.ofModel (Float.Model.neg (Float.Model.neg ⟨bits, valid⟩)) = ⟨⟨bits, valid⟩⟩
  simp only [Float.Model.neg, Float.Model.pack, Float.Model.unpack, Float.ofModel.injEq,
    Float.Model.mk.injEq, UInt64.toBitVec_ofBitVec]
  -- the inner negation packs the flipped bits' number, which the outer one unpacks again
  rw [← unpack_flipSign bits.toBitVec, unpack_pack_unpack, unpack_flipSign, unpacked_neg_neg,
    pack_unpack_of_valid valid, UInt64.ofBitVec_toBitVec]

end Binary64

/-! ## The trees of the grammar -/

namespace Token

/-- Whether a token is `+` or `-`, which continue a sum. -/
def isAddOp : Token → Bool
  | .op c => c = '+' || c = '-'
  | _ => false

/-- Whether a token is `*` or `/`, which continue a product. -/
def isMulOp : Token → Bool
  | .op c => c = '*' || c = '/'
  | _ => false

end Token

namespace Arith

/-- The token of a sign, `true` standing for `-`. -/
def signToken (minus : Bool) : Token := .op (if minus then '-' else '+')

mutual
/-- A derivation of `sum`: products joined by `+` and `-`, nested to the left. -/
inductive SumTree where
  /-- A single product. -/
  | product (p : ProductTree)
  /-- A sum plus a product. -/
  | add (l : SumTree) (r : ProductTree)
  /-- A sum minus a product. -/
  | sub (l : SumTree) (r : ProductTree)

/-- A derivation of `product`: factors joined by `*` and `/`, nested to the left. -/
inductive ProductTree where
  /-- A single factor. -/
  | unary (u : UnaryTree)
  /-- A product times a factor. -/
  | mul (l : ProductTree) (r : UnaryTree)
  /-- A product divided by a factor. -/
  | div (l : ProductTree) (r : UnaryTree)

/-- A derivation of `unary`: the signs before a primary, `true` for each `-`. -/
inductive UnaryTree where
  | signed (signs : List Bool) (p : PrimaryTree)

/-- A derivation of `primary`. -/
inductive PrimaryTree where
  /-- A number, by the double it reads as. -/
  | num (v : Float)
  /-- A sum in parentheses. -/
  | paren (s : SumTree)
end

mutual
/-- The tokens a sum is written with. -/
def SumTree.tokens : SumTree → List Token
  | .product p => p.tokens
  | .add l r => l.tokens ++ .op '+' :: r.tokens
  | .sub l r => l.tokens ++ .op '-' :: r.tokens

/-- The tokens a product is written with. -/
def ProductTree.tokens : ProductTree → List Token
  | .unary u => u.tokens
  | .mul l r => l.tokens ++ .op '*' :: r.tokens
  | .div l r => l.tokens ++ .op '/' :: r.tokens

/-- The tokens a factor is written with: its signs, then its primary. -/
def UnaryTree.tokens : UnaryTree → List Token
  | .signed signs p => signs.map signToken ++ p.tokens

/-- The tokens a primary is written with. -/
def PrimaryTree.tokens : PrimaryTree → List Token
  | .num v => [.num v]
  | .paren s => .lparen :: s.tokens ++ [.rparen]
end

theorem UnaryTree.tokens_signed (signs : List Bool) (p : PrimaryTree) :
    (UnaryTree.signed signs p).tokens = signs.map signToken ++ p.tokens := rfl

mutual
/-- The value of a sum. -/
def SumTree.value : SumTree → Float
  | .product p => p.value
  | .add l r => l.value + r.value
  | .sub l r => l.value - r.value

/-- The value of a product. -/
def ProductTree.value : ProductTree → Float
  | .unary u => u.value
  | .mul l r => l.value * r.value
  | .div l r => l.value / r.value

/-- The value of a factor: its primary's, negated when an odd number of its signs are `-`. -/
def UnaryTree.value : UnaryTree → Float
  | .signed signs p => if signs.count true % 2 = 1 then -p.value else p.value

/-- The value of a primary. -/
def PrimaryTree.value : PrimaryTree → Float
  | .num v => v
  | .paren s => s.value
end

theorem UnaryTree.value_signed (signs : List Bool) (p : PrimaryTree) :
    (UnaryTree.signed signs p).value = if signs.count true % 2 = 1 then -p.value else p.value := rfl

/-- One more sign before a factor negates it when it is `-`. -/
theorem UnaryTree.value_cons (m : Bool) (signs : List Bool) (p : PrimaryTree) :
    (UnaryTree.signed (m :: signs) p).value
      = if m then -(UnaryTree.signed signs p).value else (UnaryTree.signed signs p).value := by
  simp only [UnaryTree.value_signed, List.count_cons, beq_iff_eq]
  cases m with
  | false => simp
  | true =>
    -- one more `-` flips the parity; two negations cancel
    by_cases h : signs.count true % 2 = 1
    · have h' : ¬(signs.count true + 1) % 2 = 1 := by omega
      simp only [if_true, h, h', if_false, Binary64.neg_neg]
    · have h' : (signs.count true + 1) % 2 = 1 := by omega
      simp only [if_true, h, h', if_false]

/-! ## The parser, step by step

`Arith.sum` and its siblings return the rest of the tokens with a proof that it is no
longer than what they were given; `Step.out` forgets the proof. One equation per token the
parser looks at describes it from the outside. -/

/-- What a parse step gives, with the bound on the rest left out. -/
def Step.out {ts : List Token} (s : Step ts) : Option (Float × List Token) :=
  s.map fun p => (p.1, p.2.1)

theorem Step.out_none {ts : List Token} : Step.out (none : Step ts) = none := rfl

theorem Step.out_some {ts : List Token} (v : Float) (r : {r : List Token // r.length ≤ ts.length}) :
    Step.out (some (v, r) : Step ts) = some (v, r.1) := rfl

theorem Step.out_length {ts : List Token} {s : Step ts} {v : Float} {r : List Token}
    (h : s.out = some (v, r)) : r.length ≤ ts.length := by
  rcases s with _ | ⟨v', r', hr'⟩
  · cases h
  · simp only [Step.out_some, Option.some.injEq, Prod.mk.injEq] at h
    rw [← h.2]
    exact hr'

theorem sum_out (ts : List Token) :
    (sum ts).out = (product ts).out.bind fun p => (sumRest p.1 p.2).out := by
  rw [sum]
  rcases product ts with _ | ⟨a, r, hr⟩
  · rfl
  · dsimp only
    show _ = (sumRest a r).out
    rcases sumRest a r with _ | ⟨v, r', hr'⟩ <;> rfl

theorem sumRest_out_op (acc : Float) {c : Char} (rest : List Token) (hc : c = '+' ∨ c = '-') :
    (sumRest acc (.op c :: rest)).out = (product rest).out.bind fun p =>
      (sumRest (if c = '+' then acc + p.1 else acc - p.1) p.2).out := by
  rw [sumRest.eq_def]
  dsimp only
  rw [if_pos (by rcases hc with rfl | rfl <;> rfl)]
  rcases product rest with _ | ⟨b, r, hr⟩
  · rfl
  · dsimp only
    show _ = (sumRest (if c = '+' then acc + b else acc - b) r).out
    rcases sumRest _ r with _ | ⟨v, r', hr'⟩ <;> rfl

/-- A sum ends before a token that is not `+` or `-`. -/
theorem sumRest_out_stop (acc : Float) {ts : List Token} (h : ∀ t ∈ ts.head?, t.isAddOp = false) :
    (sumRest acc ts).out = some (acc, ts) := by
  rcases ts with _ | ⟨t, rest⟩
  · rw [sumRest.eq_def]; rfl
  · have ht : t.isAddOp = false := h t rfl
    cases t with
    | op c =>
      have hc : (c = '+' || c = '-') = false := ht
      rw [sumRest.eq_def]
      dsimp only
      rw [if_neg (by rw [hc]; decide)]
      rfl
    | num v => rw [sumRest.eq_def]; rfl
    | lparen => rw [sumRest.eq_def]; rfl
    | rparen => rw [sumRest.eq_def]; rfl

theorem product_out (ts : List Token) :
    (product ts).out = (unary ts).out.bind fun p => (productRest p.1 p.2).out := by
  rw [product]
  rcases unary ts with _ | ⟨a, r, hr⟩
  · rfl
  · dsimp only
    show _ = (productRest a r).out
    rcases productRest a r with _ | ⟨v, r', hr'⟩ <;> rfl

theorem productRest_out_op (acc : Float) {c : Char} (rest : List Token) (hc : c = '*' ∨ c = '/') :
    (productRest acc (.op c :: rest)).out = (unary rest).out.bind fun p =>
      (productRest (if c = '*' then acc * p.1 else acc / p.1) p.2).out := by
  rw [productRest.eq_def]
  dsimp only
  rw [if_pos (by rcases hc with rfl | rfl <;> rfl)]
  rcases unary rest with _ | ⟨b, r, hr⟩
  · rfl
  · dsimp only
    show _ = (productRest (if c = '*' then acc * b else acc / b) r).out
    rcases productRest _ r with _ | ⟨v, r', hr'⟩ <;> rfl

/-- A product ends before a token that is not `*` or `/`. -/
theorem productRest_out_stop (acc : Float) {ts : List Token} (h : ∀ t ∈ ts.head?, t.isMulOp = false) :
    (productRest acc ts).out = some (acc, ts) := by
  rcases ts with _ | ⟨t, rest⟩
  · rw [productRest.eq_def]; rfl
  · have ht : t.isMulOp = false := h t rfl
    cases t with
    | op c =>
      have hc : (c = '*' || c = '/') = false := ht
      rw [productRest.eq_def]
      dsimp only
      rw [if_neg (by rw [hc]; decide)]
      rfl
    | num v => rw [productRest.eq_def]; rfl
    | lparen => rw [productRest.eq_def]; rfl
    | rparen => rw [productRest.eq_def]; rfl

theorem unary_out_plus (rest : List Token) : (unary (.op '+' :: rest)).out = (unary rest).out := by
  rw [unary.eq_def]
  conv_lhs => enter [1]; whnf
  rcases unary rest with _ | ⟨v, r, hr⟩ <;> rfl

theorem unary_out_minus (rest : List Token) :
    (unary (.op '-' :: rest)).out = (unary rest).out.map fun p => (-p.1, p.2) := by
  rw [unary.eq_def]
  conv_lhs => enter [1]; whnf
  rcases unary rest with _ | ⟨v, r, hr⟩ <;> rfl

theorem unary_out_num (v : Float) (rest : List Token) : (unary (.num v :: rest)).out = some (v, rest) := by
  rw [unary.eq_def]
  rfl

theorem unary_out_lparen (rest : List Token) :
    (unary (.lparen :: rest)).out = (sum rest).out.bind fun p =>
      match p.2 with
      | .rparen :: after => some (p.1, after)
      | _ => none := by
  rw [unary.eq_def]
  conv_lhs => enter [1]; whnf
  rcases sum rest with _ | ⟨v, r, hr⟩
  · rfl
  · rcases r with _ | ⟨_ | _ | _ | _, after⟩ <;> rfl

/-! ## A tree's tokens parse to its value -/

theorem isMulOp_op_add : (Token.op '+').isMulOp = false := rfl

theorem isMulOp_op_sub : (Token.op '-').isMulOp = false := rfl

mutual

/-- The tokens of a sum followed by anything but `*` or `/` parse as the sum's value and
then go on as the rest of a sum. -/
theorem sum_tokens (s : SumTree) (rest : List Token) (h : ∀ t ∈ rest.head?, t.isMulOp = false) :
    (sum (s.tokens ++ rest)).out = (sumRest s.value rest).out := by
  cases s with
  | product p =>
    rw [sum_out, SumTree.tokens, product_tokens p rest, productRest_out_stop _ h]
    rfl
  | add l r =>
    rw [SumTree.tokens, List.append_assoc, List.cons_append,
      sum_tokens l _ (by simp [isMulOp_op_add]), sumRest_out_op _ _ (.inl rfl),
      product_tokens r rest, productRest_out_stop _ h]
    rfl
  | sub l r =>
    rw [SumTree.tokens, List.append_assoc, List.cons_append,
      sum_tokens l _ (by simp [isMulOp_op_sub]), sumRest_out_op _ _ (.inr rfl),
      product_tokens r rest, productRest_out_stop _ h]
    rfl

/-- The tokens of a product followed by anything parse as the product's value and then go
on as the rest of a product. -/
theorem product_tokens (p : ProductTree) (rest : List Token) :
    (product (p.tokens ++ rest)).out = (productRest p.value rest).out := by
  cases p with
  | unary u =>
    rw [product_out, ProductTree.tokens, unary_tokens u rest]
    rfl
  | mul l r =>
    rw [ProductTree.tokens, List.append_assoc, List.cons_append, product_tokens l _,
      productRest_out_op _ _ (.inl rfl), unary_tokens r rest]
    rfl
  | div l r =>
    rw [ProductTree.tokens, List.append_assoc, List.cons_append, product_tokens l _,
      productRest_out_op _ _ (.inr rfl), unary_tokens r rest]
    rfl

/-- The tokens of a factor followed by anything parse as the factor's value. -/
theorem unary_tokens (u : UnaryTree) (rest : List Token) :
    (unary (u.tokens ++ rest)).out = some (u.value, rest) := by
  cases u with
  | signed signs p =>
    -- one sign at a time, the parser negating at each `-`
    induction signs with
    | nil => exact primary_tokens p rest
    | cons m signs ih =>
      rw [UnaryTree.tokens_signed, List.map_cons, List.cons_append, List.cons_append] at *
      rw [UnaryTree.value_cons]
      cases m with
      | false =>
        rw [signToken, if_neg Bool.false_ne_true, unary_out_plus]
        exact ih
      | true =>
        rw [signToken, if_pos rfl, unary_out_minus, ih]
        rfl

/-- The tokens of a primary followed by anything parse as the primary's value. -/
theorem primary_tokens (p : PrimaryTree) (rest : List Token) :
    (unary (p.tokens ++ rest)).out = some (p.value, rest) := by
  cases p with
  | num v => exact unary_out_num v rest
  | paren s =>
    -- the sum inside stops at the closing parenthesis, which the primary then takes
    simp only [PrimaryTree.tokens, List.cons_append]
    rw [unary_out_lparen, List.append_assoc, List.singleton_append, sum_tokens s (.rparen :: rest) (by simp [Token.isMulOp]),
      sumRest_out_stop _ (by simp [Token.isAddOp])]
    rfl

end

/-! ## What the parser takes is the tokens of a tree -/

theorem unary_out_nil : (unary []).out = none := by
  rw [unary.eq_def]
  rfl

theorem unary_out_rparen (rest : List Token) : (unary (.rparen :: rest)).out = none := by
  rw [unary.eq_def]
  rfl

theorem unary_out_op_other {c : Char} (rest : List Token) (hp : c ≠ '+') (hm : c ≠ '-') :
    (unary (.op c :: rest)).out = none := by
  rw [unary]
  · rfl
  all_goals simp [hp, hm]

/-- A list that does not start with `+` or `-` starts with no token that continues a sum. -/
theorem head_isAddOp {ts : List Token} (h : ¬∃ c rest, ts = .op c :: rest ∧ (c = '+' ∨ c = '-')) :
    ∀ t ∈ ts.head?, t.isAddOp = false := by
  intro t ht
  rcases ts with _ | ⟨t', rest⟩
  · cases ht
  · obtain rfl : t' = t := Option.some.inj ht
    cases t' with
    | op c =>
      simp only [Token.isAddOp, Bool.or_eq_false_iff, decide_eq_false_iff_not]
      exact ⟨fun hc => h ⟨c, rest, rfl, .inl hc⟩, fun hc => h ⟨c, rest, rfl, .inr hc⟩⟩
    | num v => rfl
    | lparen => rfl
    | rparen => rfl

/-- A list that does not start with `*` or `/` starts with no token that continues a product. -/
theorem head_isMulOp {ts : List Token} (h : ¬∃ c rest, ts = .op c :: rest ∧ (c = '*' ∨ c = '/')) :
    ∀ t ∈ ts.head?, t.isMulOp = false := by
  intro t ht
  rcases ts with _ | ⟨t', rest⟩
  · cases ht
  · obtain rfl : t' = t := Option.some.inj ht
    cases t' with
    | op c =>
      simp only [Token.isMulOp, Bool.or_eq_false_iff, decide_eq_false_iff_not]
      exact ⟨fun hc => h ⟨c, rest, rfl, .inl hc⟩, fun hc => h ⟨c, rest, rfl, .inr hc⟩⟩
    | num v => rfl
    | lparen => rfl
    | rparen => rfl

mutual

/-- What a sum parses is the tokens of a sum tree of that value. -/
theorem sum_sound {ts : List Token} {v : Float} {r : List Token} (h : (sum ts).out = some (v, r)) :
    ∃ s : SumTree, ts = s.tokens ++ r ∧ s.value = v := by
  rw [sum_out, Option.bind_eq_some_iff] at h
  obtain ⟨⟨a, r1⟩, h1, h2⟩ := h
  have hl := Step.out_length h1
  obtain ⟨p, rfl, rfl⟩ := product_sound h1
  exact sumRest_sound h2 (.product p) rfl
termination_by 5 * ts.length + 4

/-- Going on from a sum tree, the steps of the rest of a sum extend it to a sum tree of the
value they give. -/
theorem sumRest_sound {acc : Float} {ts : List Token} {v : Float} {r : List Token}
    (h : (sumRest acc ts).out = some (v, r)) (s : SumTree) (hs : s.value = acc) :
    ∃ s' : SumTree, s.tokens ++ ts = s'.tokens ++ r ∧ s'.value = v := by
  by_cases hop : ∃ c rest, ts = .op c :: rest ∧ (c = '+' ∨ c = '-')
  · obtain ⟨c, rest, hts, hc⟩ := hop
    rw [hts, sumRest_out_op acc rest hc, Option.bind_eq_some_iff] at h
    obtain ⟨⟨b, r1⟩, h1, h2⟩ := h
    have hl := Step.out_length h1
    obtain ⟨q, rfl, rfl⟩ := product_sound h1
    -- the sum grows by one product, nested to the left
    have hnext : ∃ s1 : SumTree, s1.tokens = s.tokens ++ .op c :: q.tokens ∧
        s1.value = if c = '+' then acc + q.value else acc - q.value := by
      rcases hc with rfl | rfl
      · exact ⟨.add s q, rfl, by rw [← hs]; rfl⟩
      · exact ⟨.sub s q, rfl, by rw [← hs]; rfl⟩
    obtain ⟨s1, ht, hv⟩ := hnext
    obtain ⟨s', hs', hv'⟩ := sumRest_sound h2 s1 hv
    exact ⟨s', by rw [hts, ← hs', ht]; simp, hv'⟩
  · -- anything else ends the sum
    rw [sumRest_out_stop acc (head_isAddOp hop), Option.some.injEq, Prod.mk.injEq] at h
    obtain ⟨rfl, rfl⟩ := h
    exact ⟨s, rfl, hs⟩
termination_by 5 * ts.length + 3
decreasing_by all_goals simp only [hts, List.length_cons, List.length_append] at *; omega

/-- What a product parses is the tokens of a product tree of that value. -/
theorem product_sound {ts : List Token} {v : Float} {r : List Token}
    (h : (product ts).out = some (v, r)) :
    ∃ p : ProductTree, ts = p.tokens ++ r ∧ p.value = v := by
  rw [product_out, Option.bind_eq_some_iff] at h
  obtain ⟨⟨a, r1⟩, h1, h2⟩ := h
  have hl := Step.out_length h1
  obtain ⟨u, rfl, rfl⟩ := unary_sound h1
  exact productRest_sound h2 (.unary u) rfl
termination_by 5 * ts.length + 2

/-- Going on from a product tree, the steps of the rest of a product extend it to a product
tree of the value they give. -/
theorem productRest_sound {acc : Float} {ts : List Token} {v : Float} {r : List Token}
    (h : (productRest acc ts).out = some (v, r)) (p : ProductTree) (hp : p.value = acc) :
    ∃ p' : ProductTree, p.tokens ++ ts = p'.tokens ++ r ∧ p'.value = v := by
  by_cases hop : ∃ c rest, ts = .op c :: rest ∧ (c = '*' ∨ c = '/')
  · obtain ⟨c, rest, hts, hc⟩ := hop
    rw [hts, productRest_out_op acc rest hc, Option.bind_eq_some_iff] at h
    obtain ⟨⟨b, r1⟩, h1, h2⟩ := h
    have hl := Step.out_length h1
    obtain ⟨u, rfl, rfl⟩ := unary_sound h1
    -- the product grows by one factor, nested to the left
    have hnext : ∃ p1 : ProductTree, p1.tokens = p.tokens ++ .op c :: u.tokens ∧
        p1.value = if c = '*' then acc * u.value else acc / u.value := by
      rcases hc with rfl | rfl
      · exact ⟨.mul p u, rfl, by rw [← hp]; rfl⟩
      · exact ⟨.div p u, rfl, by rw [← hp]; rfl⟩
    obtain ⟨p1, ht, hv⟩ := hnext
    obtain ⟨p', hp', hv'⟩ := productRest_sound h2 p1 hv
    exact ⟨p', by rw [hts, ← hp', ht]; simp, hv'⟩
  · -- anything else ends the product
    rw [productRest_out_stop acc (head_isMulOp hop), Option.some.injEq, Prod.mk.injEq] at h
    obtain ⟨rfl, rfl⟩ := h
    exact ⟨p, rfl, hp⟩
termination_by 5 * ts.length + 1
decreasing_by all_goals simp only [hts, List.length_cons, List.length_append] at *; omega

/-- What a factor parses is the tokens of a factor tree of that value. -/
theorem unary_sound {ts : List Token} {v : Float} {r : List Token} (h : (unary ts).out = some (v, r)) :
    ∃ u : UnaryTree, ts = u.tokens ++ r ∧ u.value = v :=
  match ts, h with
  | [], h => by
    rw [unary_out_nil] at h
    cases h
  | .num w :: rest, h => by
    rw [unary_out_num, Option.some.injEq, Prod.mk.injEq] at h
    obtain ⟨rfl, rfl⟩ := h
    exact ⟨.signed [] (.num w), rfl, rfl⟩
  | .op c :: rest, h => by
    by_cases hp : c = '+'
    · subst hp
      rw [unary_out_plus] at h
      obtain ⟨⟨signs, q⟩, rfl, hv⟩ := unary_sound h
      exact ⟨.signed (false :: signs) q, rfl, by rw [UnaryTree.value_cons]; exact hv⟩
    by_cases hm : c = '-'
    · subst hm
      rw [unary_out_minus, Option.map_eq_some_iff] at h
      obtain ⟨⟨w, r1⟩, h1, h2⟩ := h
      simp only [Prod.mk.injEq] at h2
      obtain ⟨rfl, rfl⟩ := h2
      obtain ⟨⟨signs, q⟩, rfl, hv⟩ := unary_sound h1
      exact ⟨.signed (true :: signs) q, rfl, by rw [UnaryTree.value_cons, hv]; rfl⟩
    rw [unary_out_op_other rest hp hm] at h
    cases h
  | .lparen :: rest, h => by
    rw [unary_out_lparen, Option.bind_eq_some_iff] at h
    obtain ⟨⟨a, r1⟩, h1, h2⟩ := h
    -- the sum inside is followed by the closing parenthesis, which the factor takes
    rcases r1 with _ | ⟨_ | _ | _ | _, after⟩ <;> simp only [reduceCtorEq] at h2
    simp only [Option.some.injEq, Prod.mk.injEq] at h2
    obtain ⟨rfl, rfl⟩ := h2
    obtain ⟨s, rfl, rfl⟩ := sum_sound h1
    exact ⟨.signed [] (.paren s), by simp [UnaryTree.tokens_signed, PrimaryTree.tokens], rfl⟩
  | .rparen :: rest, h => by
    rw [unary_out_rparen] at h
    cases h
termination_by 5 * ts.length
decreasing_by all_goals simp only [List.length_cons]; omega

end

/-! ## Acceptance and value -/

/-- `eval?` accepts a text when it scans and the parser takes all of its tokens. -/
theorem eval?_eq_some_iff (text : String) (v : Float) :
    eval? text = some v ↔ ∃ ts, Token.scan text.toList = some ts ∧ (sum ts).out = some (v, []) := by
  unfold eval?
  cases Token.scan text.toList with
  | none => simp
  | some ts =>
    rcases hp : sum ts with _ | ⟨a, r, hr⟩
    · simp [Step.out_none, hp]
    · simp [Step.out_some, hp, List.isEmpty_iff, and_comm]

end Arith

end Storyboard
