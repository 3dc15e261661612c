import Storyboard.Json.Reader
import Storyboard.Json.Printer
import Storyboard.Proofs.Checked

/-!
# Reading JSON text back

The compact text of a value reads back as the value (`Json.parse_render`), when the value is
well formed (objects sorted by key, integers within 64 bits), nests less deeply than the
reader allows, and the text of each of its doubles reads back as the double
(`Json.ReadsBack`). The last condition is a hypothesis and not a theorem: doubles are printed
with their shortest digits, and the reader of numbers does not always round to the nearest
double, so some doubles do not read back as themselves.

The reader is followed one piece at a time, on a cursor whose remaining characters are the
text of a value followed by what may follow a value in compact text (`Cursor.AfterValue`: a
comma, a closing bracket or brace, or the end). Each piece stops right after what it read and
keeps the nesting room (`Cursor.ReadsTo`): literals (`Cursor.expectWord_append`), strings
escape by escape (`Cursor.stringBody_escaped`), integers digit by digit
(`Cursor.integerDigits_digits`), and whole values by induction on the value together with its
items and fields (`Cursor.value_chars`).

Fuel: reading a value takes at most as much fuel as its text has characters, and the items or
fields of a container one more.
-/

namespace Storyboard

namespace Json

/-! ## The characters of the compact text -/

mutual
/-- The characters of the compact text of a value, as `render` writes them. -/
def chars : Json → List Char
  | .null => "null".toList
  | .bool b => (if b then "true" else "false").toList
  | .int n => (toString n).toList
  | .float f => (floatText f).toList
  | .str s => (quote s).toList
  | .arr items => '[' :: charsItems true items ++ [']']
  | .obj fields => '\x7b' :: charsFields true fields ++ ['\x7d']
/-- The characters of items separated by commas. -/
def charsItems (first : Bool) : List Json → List Char
  | [] => []
  | x :: xs => (if first then [] else [',']) ++ chars x ++ charsItems false xs
/-- The characters of fields separated by commas. -/
def charsFields (first : Bool) : List (String × Json) → List Char
  | [] => []
  | kv :: fs => (if first then [] else [',']) ++ (quote kv.1).toList ++ ':' :: chars kv.2 ++ charsFields false fs
end

mutual
theorem toList_renderTo : ∀ (out : String) (v : Json), (renderTo out v).toList = out.toList ++ v.chars
  | out, .null => by simp [renderTo, chars]
  | out, .bool b => by cases b <;> simp [renderTo, chars]
  | out, .int n => by simp [renderTo, chars]
  | out, .float f => by simp [renderTo, chars]
  | out, .str s => by simp [renderTo, chars]
  | out, .arr items => by
    rw [renderTo, String.toList_push, toList_renderItems, String.toList_push]
    simp [chars]
  | out, .obj fields => by
    rw [renderTo, String.toList_push, toList_renderFields, String.toList_push]
    simp [chars]
theorem toList_renderItems : ∀ (out : String) (first : Bool) (xs : List Json),
    (renderItems out first xs).toList = out.toList ++ charsItems first xs
  | out, first, [] => by simp [renderItems, charsItems]
  | out, first, x :: xs => by
    rw [renderItems, toList_renderItems, toList_renderTo]
    cases first <;> simp [charsItems]
theorem toList_renderFields : ∀ (out : String) (first : Bool) (fs : List (String × Json)),
    (renderFields out first fs).toList = out.toList ++ charsFields first fs
  | out, first, [] => by simp [renderFields, charsFields]
  | out, first, (k, v) :: fs => by
    rw [renderFields, toList_renderFields, toList_renderTo, String.toList_push, String.toList_append]
    cases first <;> simp [charsFields]
end

@[simp] theorem toList_render (v : Json) : (render v).toList = v.chars := by
  simp [render, toList_renderTo]

theorem chars_int_ofNat (m : Nat) : (Json.int (Int.ofNat m)).chars = Nat.toDigits 10 m := by
  simp [chars, toString, Int.repr]

theorem chars_int_negSucc (m : Nat) : (Json.int (Int.negSucc m)).chars = '-' :: Nat.toDigits 10 (m + 1) := by
  simp [chars, toString, Int.repr]

end Json

namespace Cursor

/-! ## Cursors that stop after what they read -/

/-- A blank, as the reader skips them. -/
def IsBlank (ch : Char) : Prop := ch = ' ' ∨ ch = '\n' ∨ ch = '\t' ∨ ch = '\r'

theorem isBlank_iff {ch : Char} : IsBlank ch ↔ ch = ' ' ∨ ch = '\n' ∨ ch = '\t' ∨ ch = '\r' := Iff.rfl

/-- A read from `c` succeeded with `a` and stopped where `r` is left, at the nesting room of `c`. -/
def ReadsTo {ε α : Type} (c : Cursor) (x : Except ε (α × Cursor)) (a : α) (r : List Char) : Prop :=
  ∃ c', x = .ok (a, c') ∧ c'.rest = r ∧ c'.room = c.room

/-- A step from `c` succeeded and stopped where `r` is left, at the nesting room of `c`. -/
def MovesTo {ε : Type} (c : Cursor) (x : Except ε Cursor) (r : List Char) : Prop :=
  ∃ c', x = .ok c' ∧ c'.rest = r ∧ c'.room = c.room

variable {c : Cursor} {ch : Char} {r : List Char}

theorem peek_of_rest (h : c.rest = ch :: r) : c.peek = some ch := by
  simp [peek, h]

theorem rest_advance (h : c.rest = ch :: r) : c.advance.rest = r := by
  unfold advance
  rw [h]
  split <;> simp_all

@[simp] theorem room_advance (c : Cursor) : c.advance.room = c.room := by
  unfold advance
  split <;> rfl

theorem skipBlank_go_of_not_blank (h : ∀ ch ∈ c.rest.head?, ¬IsBlank ch) : ∀ n, skipBlank.go n c = c
  | 0 => rfl
  | n + 1 => by
    unfold skipBlank.go
    cases hr : c.rest with
    | nil => simp [peek, hr]
    | cons ch r =>
      have hb := h ch (by simp [hr])
      simp only [isBlank_iff, not_or] at hb
      rw [peek_of_rest hr]
      split <;> simp_all

/-- Where no blank stands next, skipping blanks does nothing. -/
theorem skipBlank_of_not_blank (h : ∀ ch ∈ c.rest.head?, ¬IsBlank ch) : c.skipBlank = c :=
  skipBlank_go_of_not_blank h _

theorem expectWord_append : ∀ (w : List Char) (c : Cursor), c.rest = w ++ r → c.MovesTo (c.expectWord w) r
  | [], c, h => ⟨c, rfl, h, rfl⟩
  | ch :: w, c, h => by
    have hc : c.rest = ch :: (w ++ r) := h
    obtain ⟨c', he, hr, hroom⟩ := expectWord_append w c.advance (rest_advance hc)
    refine ⟨c', ?_, hr, by rw [hroom, room_advance]⟩
    rw [expectWord, peek_of_rest hc]
    dsimp only
    rw [if_pos rfl]
    exact he

/-! ## Strings -/

theorem hexValue_hexDigit {k : Nat} (hk : k < 16) : hexValue (Json.hexDigit k) = some k :=
  (by decide : ∀ k : Fin 16, hexValue (Json.hexDigit k.val) = some k.val) ⟨k, hk⟩

theorem hexValue_zero : hexValue '0' = some 0 := rfl

/-- The escape of a control character, `\u00xx`, reads back as the character. -/
theorem unicodeEscape_control {ch : Char} (hch : ch.toNat < 32)
    (h : c.rest = ['0', '0', Json.hexDigit (ch.toNat / 16), Json.hexDigit (ch.toNat % 16)] ++ r) :
    c.ReadsTo c.unicodeEscape ch r := by
  have hhi := hexValue_hexDigit (k := ch.toNat / 16) (by omega)
  have hlo := hexValue_hexDigit (k := ch.toNat % 16) (by omega)
  have hquad : c.hexQuad = .ok (ch.toNat, { c with rest := r, column := c.column + 4 }) := by
    rw [hexQuad, h]
    simp only [List.cons_append, List.nil_append, hexValue_zero, hhi, hlo]
    congr
    omega
  refine ⟨{ c with rest := r, column := c.column + 4 }, ?_, rfl, rfl⟩
  simp only [unicodeEscape, hquad, bind, Except.bind]
  rw [if_neg (by omega), if_pos (by omega), Char.ofNat_toNat]

/-- One escaped character of a string body reads back as the character. -/
theorem stringBody_escapeChar (ch : Char) (h : c.rest = Json.escapeChar ch ++ r) (fuel : Nat) (acc : List Char) :
    ∃ c', c'.rest = r ∧ c'.room = c.room ∧ stringBody (fuel + 1) c acc = stringBody fuel c' (ch :: acc) := by
  unfold Json.escapeChar at h
  split at h
  case h_8 hq hb _ _ _ _ _ =>
    split at h
    · -- a control character, written `\u00xx`
      rename_i hctl
      have h1 : c.rest = '\\' :: 'u' :: (['0', '0', Json.hexDigit (ch.toNat / 16),
          Json.hexDigit (ch.toNat % 16)] ++ r) := h
      have h2 := rest_advance h1
      obtain ⟨c', hu, hr, hroom⟩ := unicodeEscape_control hctl (rest_advance h2)
      refine ⟨c', hr, by simp [hroom], ?_⟩
      rw [stringBody, peek_of_rest h1]
      simp only [peek_of_rest h2, hu]
      rfl
    · -- any other character stands for itself
      rename_i hctl
      have h1 : c.rest = ch :: r := h
      refine ⟨c.advance, rest_advance h1, by simp, ?_⟩
      rw [stringBody, peek_of_rest h1]
      split
      next heq => exact absurd heq (Option.some_ne_none ch)
      next heq => exact absurd (Option.some.inj heq) hq
      next heq => exact absurd (Option.some.inj heq) hb
      next heq =>
        cases heq
        rw [if_neg hctl]
  -- the characters with a short escape
  all_goals
    simp only [List.cons_append, List.nil_append] at h
    have h2 := rest_advance h
    refine ⟨c.advance.advance, rest_advance h2, by simp, ?_⟩
    rw [stringBody, peek_of_rest h]
    simp only [peek_of_rest h2]

theorem length_escapeChar_pos (ch : Char) : 0 < (Json.escapeChar ch).length := by
  unfold Json.escapeChar
  split
  all_goals try simp
  split <;> simp

/-- The escaped characters of a string body and its closing quote read back as the characters,
after those read already. -/
theorem stringBody_escaped : ∀ (cs : List Char) (fuel : Nat) (c : Cursor) (acc : List Char),
    cs.length < fuel → c.rest = cs.flatMap Json.escapeChar ++ '"' :: r →
    c.ReadsTo (stringBody fuel c acc) (String.ofList (acc.reverse ++ cs)) r
  | [], fuel + 1, c, acc, _, h => by
    have h1 : c.rest = '"' :: r := h
    refine ⟨c.advance, ?_, rest_advance h1, by simp⟩
    conv_lhs => whnf
    rw [peek_of_rest h1, List.append_nil]
    rfl
  | ch :: cs, fuel + 1, c, acc, hlen, h => by
    rw [List.flatMap_cons, List.append_assoc] at h
    obtain ⟨c', hr, hroom, hstep⟩ := stringBody_escapeChar ch h fuel acc
    obtain ⟨c'', hread, hr', hroom'⟩ :=
      stringBody_escaped cs fuel c' (ch :: acc) (by simp at hlen; omega) hr
    refine ⟨c'', ?_, hr', by rw [hroom', hroom]⟩
    rw [hstep, hread]
    simp

/-- A quoted string, its opening quote consumed, reads back as the string. -/
theorem string_quote (s : String) {c : Cursor} (h : c.rest = s.toList.flatMap Json.escapeChar ++ '"' :: r) :
    c.ReadsTo c.string s r := by
  -- each character is written with at least one character, so the fuel suffices
  have hlen : s.toList.length ≤ (s.toList.flatMap Json.escapeChar).length := by
    rw [List.length_flatMap]
    calc s.toList.length = (s.toList.map fun _ => 1).sum := by simp
      _ ≤ (s.toList.map fun ch => (Json.escapeChar ch).length).sum :=
        List.sum_le_sum fun ch _ => length_escapeChar_pos ch
  have hread := stringBody_escaped s.toList (c.rest.length + 1) c []
    (by rw [h, List.length_append, List.length_cons]; omega) h
  simpa [string] using hread

/-! ## Numbers -/

/-- What may follow a value in compact text: a comma, a closing bracket or brace, or the end. -/
def AfterValue (r : List Char) : Prop := ∀ ch ∈ r.head?, ch = ',' ∨ ch = ']' ∨ ch = '\x7d'

/-- A number at the cursor, its sign first, as the readers of values and of doubles take it. -/
def signedNumber (c : Cursor) : Except Fault (NumberLit × Cursor) :=
  match c.peek with
  | some '-' => c.advance.number true
  | _ => c.number false

theorem isDigit_iff_toNat {ch : Char} : ch.isDigit = true ↔ 48 ≤ ch.toNat ∧ ch.toNat ≤ 57 := by
  have h0 : ('0' : Char).val.toNat = 48 := rfl
  have h9 : ('9' : Char).val.toNat = 57 := rfl
  simp only [Char.isDigit, Bool.and_eq_true, decide_eq_true_eq, ge_iff_le, UInt32.le_iff_toNat_le,
    Char.toNat, h0, h9]

theorem digit_iff_toNat {ch : Char} : ('0' ≤ ch ∧ ch ≤ '9') ↔ 48 ≤ ch.toNat ∧ ch.toNat ≤ 57 := by
  have h0 : ('0' : Char).val.toNat = 48 := rfl
  have h9 : ('9' : Char).val.toNat = 57 := rfl
  simp only [Char.le_def, UInt32.le_iff_toNat_le, Char.toNat, h0, h9]

theorem digitAhead_of_digit {d : Char} (hd : d.isDigit = true) (h : c.rest = d :: r) :
    c.digitAhead = some (d.toNat - 48) := by
  have hd' : '0' ≤ d ∧ d ≤ '9' := digit_iff_toNat.2 (isDigit_iff_toNat.1 hd)
  simp [digitAhead, peek_of_rest h, hd']

theorem digitAhead_of_afterValue (hr : AfterValue r) (h : c.rest = r) : c.digitAhead = none := by
  unfold digitAhead peek
  rw [h]
  cases r with
  | nil => rfl
  | cons ch r =>
    rcases hr ch rfl with rfl | rfl | rfl <;> rfl

theorem overflows_eq_false {v d L : Nat} (hd : d < 10) (h : v * 10 + d ≤ L) : overflows v d L = false := by
  unfold overflows
  by_cases h1 : v ≥ L / 10
  · have : ¬(v > L / 10 ∨ d > L % 10) := by omega
    simp_all
  · simp [h1]

theorem numberTail_of_afterValue (hr : AfterValue r) (h : c.rest = r) (neg : Bool) (m : Nat) :
    c.numberTail neg m = if !neg then .ok (.unsigned m, c) else if m = 0 then .ok (.double (-0.0), c)
      else if m ≤ Nat.pow 2 63 then .ok (.signed (-(m : Int)), c) else .ok (.double (-(Binary64.ofInt m)), c) := by
  unfold numberTail peek
  rw [h]
  cases r with
  | nil => rfl
  | cons ch r =>
    rcases hr ch rfl with rfl | rfl | rfl <;> rfl

/-- A run of digits, up to what may follow a value, is read on to its value. -/
theorem integerDigits_digits (neg : Bool) (hr : AfterValue r) :
    ∀ (ds : List Char) (fuel : Nat) (c : Cursor) (m : Nat), (∀ d ∈ ds, d.isDigit = true) →
      c.rest = ds ++ r → ds.length ≤ fuel → Nat.ofDigitChars 10 ds m < 2 ^ 64 →
      ∃ c' : Cursor, c'.rest = r ∧ c'.room = c.room ∧
        integerDigits neg fuel c m = c'.numberTail neg (Nat.ofDigitChars 10 ds m)
  | [], 0, c, m, _, h, _, _ => ⟨c, h, rfl, rfl⟩
  | [], fuel + 1, c, m, _, h, _, _ => by
    refine ⟨c, h, rfl, ?_⟩
    rw [integerDigits, digitAhead_of_afterValue hr h]
    rfl
  | d :: ds, fuel + 1, c, m, hds, h, hlen, hlt => by
    have hd := hds d List.mem_cons_self
    have hdig : d.toNat - 48 < 10 := by
      have := isDigit_iff_toNat.1 hd
      omega
    have h0 : ('0' : Char).toNat = 48 := rfl
    rw [Nat.ofDigitChars_cons, h0] at hlt
    -- the value so far is below the value of the whole run
    have hle : 10 * m + (d.toNat - 48) ≤ Nat.ofDigitChars 10 ds (10 * m + (d.toNat - 48)) := by
      rw [Nat.ofDigitChars_eq_ofDigitChars_zero]
      have := Nat.one_le_pow ds.length 10 (by omega)
      nlinarith
    obtain ⟨c', hr', hroom, hstep⟩ := integerDigits_digits neg hr ds fuel c.advance (10 * m + (d.toNat - 48))
      (fun x hx => hds x (List.mem_cons_of_mem _ hx)) (rest_advance h) (by simp at hlen; omega) hlt
    refine ⟨c', hr', by rw [hroom, room_advance], ?_⟩
    rw [integerDigits, digitAhead_of_digit hd h]
    dsimp only
    have hpow : Nat.pow 2 64 = 2 ^ 64 := rfl
    rw [overflows_eq_false hdig (by omega), show m * 10 + (d.toNat - 48) = 10 * m + (d.toNat - 48) by ring,
      hstep, Nat.ofDigitChars_cons, h0, if_neg Bool.false_ne_true]

/-- The decimal digits of a positive number start with a digit other than zero. -/
theorem toDigits_head {n : Nat} (hn : 0 < n) :
    ∃ d ds, Nat.toDigits 10 n = d :: ds ∧ 49 ≤ d.toNat ∧ d.toNat ≤ 57 := by
  induction n using Nat.strong_induction_on with
  | _ n ih =>
    rw [Nat.toDigits_eq_if (by omega)]
    split
    · next hlt =>
      refine ⟨_, [], rfl, ?_⟩
      interval_cases n <;> decide
    · next hge =>
      obtain ⟨d, ds, hds, h1, h9⟩ := ih (n / 10) (by omega) (by omega)
      exact ⟨d, ds ++ [Nat.digitChar (n % 10)], by rw [hds]; rfl, h1, h9⟩

theorem isDigit_of_toDigits {n : Nat} : ∀ d ∈ Nat.toDigits 10 n, d.isDigit = true :=
  fun _ hd => Nat.isDigit_of_mem_toDigits (by omega) (by omega) hd

/-- The decimal digits of a number below `2^64`, up to what may follow a value, are read on
to the number. -/
theorem number_toDigits (neg : Bool) {n : Nat} (hn : n < 2 ^ 64) (hr : AfterValue r)
    (h : c.rest = Nat.toDigits 10 n ++ r) :
    ∃ c' : Cursor, c'.rest = r ∧ c'.room = c.room ∧ c.number neg = c'.numberTail neg n := by
  rcases Nat.eq_zero_or_pos n with rfl | hpos
  · -- zero is one digit, which no other digit may follow
    have h0 : c.rest = '0' :: r := by simpa [Nat.toDigits_zero] using h
    refine ⟨c.advance, rest_advance h0, by simp, ?_⟩
    rw [number, peek_of_rest h0]
    dsimp only
    rw [digitAhead_of_afterValue hr (rest_advance h0)]
    rfl
  · obtain ⟨d, ds, hds, h1, h9⟩ := toDigits_head hpos
    rw [hds] at h
    have hd : ∀ x ∈ ds, x.isDigit = true :=
      fun x hx => isDigit_of_toDigits x (by rw [hds]; exact List.mem_cons_of_mem _ hx)
    have hval : Nat.ofDigitChars 10 ds (d.toNat - 48) = n := by
      have := Nat.ofDigitChars_ten_toDigits (n := n)
      rw [hds, Nat.ofDigitChars_cons] at this
      simpa using this
    obtain ⟨c', hr', hroom, hstep⟩ := integerDigits_digits neg hr ds (c.rest.length + 1) c.advance
      (d.toNat - 48) hd (rest_advance h) (by rw [h]; simp; omega) (by rw [hval]; exact hn)
    refine ⟨c', hr', by rw [hroom, room_advance], ?_⟩
    have hd0 : d ≠ '0' := fun h => by subst h; simp at h1
    have hd19 : '1' ≤ d ∧ d ≤ '9' := by
      simp only [Char.le_def, UInt32.le_iff_toNat_le]
      exact ⟨h1, h9⟩
    rw [number, peek_of_rest h]
    split
    next heq => exact absurd heq (Option.some_ne_none d)
    next heq => exact absurd (Option.some.inj heq) hd0
    next ch heq =>
      cases heq
      rw [if_pos hd19, hstep, hval]

theorem signedNumber_of_digit {ch : Char} {rest : List Char} (h : c.rest = ch :: rest) (hch : ch ≠ '-') :
    c.signedNumber = c.number false := by
  rw [signedNumber, peek_of_rest h]
  split
  next heq => exact absurd (Option.some.inj heq) hch
  next => rfl

/-- A natural below `2^64`, written in decimal, reads as an unsigned integer. -/
theorem signedNumber_nat {m : Nat} (hm : m < 2 ^ 64) (hr : AfterValue r)
    (h : c.rest = Nat.toDigits 10 m ++ r) : c.ReadsTo c.signedNumber (.unsigned m) r := by
  obtain ⟨d, ds, hds, h1, -⟩ : ∃ d ds, Nat.toDigits 10 m = d :: ds ∧ 48 ≤ d.toNat ∧ d.toNat ≤ 57 := by
    rcases Nat.eq_zero_or_pos m with rfl | hpos
    · exact ⟨'0', [], Nat.toDigits_zero 10, by decide, by decide⟩
    · obtain ⟨d, ds, hds, h1, h9⟩ := toDigits_head hpos
      exact ⟨d, ds, hds, by omega, h9⟩
  have hminus : d ≠ '-' := fun he => by subst he; simp at h1
  obtain ⟨c', hr', hroom, hstep⟩ := number_toDigits false hm hr h
  refine ⟨c', ?_, hr', hroom⟩
  rw [signedNumber_of_digit (by rw [h, hds]; rfl) hminus, hstep,
    numberTail_of_afterValue hr hr']
  rfl

/-- A negative integer not below `-2^63`, written in decimal after its sign, reads as a signed
integer. -/
theorem signedNumber_negSucc {m : Nat} (hm : m < 2 ^ 63) (hr : AfterValue r)
    (h : c.rest = '-' :: (Nat.toDigits 10 (m + 1) ++ r)) :
    c.ReadsTo c.signedNumber (.signed (Int.negSucc m)) r := by
  obtain ⟨c', hr', hroom, hstep⟩ := number_toDigits true (n := m + 1) (by omega) hr (rest_advance h)
  refine ⟨c', ?_, hr', by rw [hroom, room_advance]⟩
  rw [signedNumber, peek_of_rest h]
  rw [hstep, numberTail_of_afterValue hr hr']
  have hpow : Nat.pow 2 63 = 2 ^ 63 := rfl
  rw [if_neg (by decide), if_neg (by omega), if_pos (by omega)]
  rfl

end Cursor

namespace Json

theorem merge_cons (acc fs : List (String × Json)) (k : String) (v : Json) :
    merge acc ((k, v) :: fs) = merge (setField k v acc) fs := rfl

/-- Every double held in a value satisfies `p`. -/
inductive EveryDouble (p : Float → Prop) : Json → Prop
  | null : EveryDouble p .null
  | bool (b : Bool) : EveryDouble p (.bool b)
  | int (n : Int) : EveryDouble p (.int n)
  | float {f : Float} : p f → EveryDouble p (.float f)
  | str (s : String) : EveryDouble p (.str s)
  | arr {xs : List Json} : (∀ x ∈ xs, EveryDouble p x) → EveryDouble p (.arr xs)
  | obj {fs : List (String × Json)} : (∀ kv ∈ fs, EveryDouble p kv.2) → EveryDouble p (.obj fs)

/-- The text of a double, wherever it stands before what may follow a value, reads back as
the double. -/
def ReadsBack (f : Float) : Prop :=
  ∀ (c : Cursor) (r : List Char), c.rest = (floatText f).toList ++ r → Cursor.AfterValue r →
    c.ReadsTo c.signedNumber (.double f) r

end Json

namespace Cursor

/-! ## Values -/

variable {c : Cursor} {r rest : List Char} {fuel : Nat}

theorem not_blank_of_afterValue (hr : AfterValue r) : ∀ ch ∈ r.head?, ¬IsBlank ch := by
  intro ch hch hb
  rcases hr ch hch with rfl | rfl | rfl <;> simp [isBlank_iff] at hb

/-- The literals read back. -/
theorem value_null (h : c.rest = "null".toList ++ r) : c.ReadsTo (value (fuel + 1) c) .null r := by
  have h1 : c.rest = 'n' :: ("ull".toList ++ r) := h
  obtain ⟨c', he, hr, hroom⟩ := expectWord_append "ull".toList c.advance (rest_advance h1)
  refine ⟨c', ?_, hr, by rw [hroom, room_advance]⟩
  conv_lhs => whnf
  rw [skipBlank_of_not_blank (by simp [h1, isBlank_iff]), peek_of_rest h1, he]
  rfl

theorem value_bool (b : Bool) (h : c.rest = (if b then "true" else "false").toList ++ r) :
    c.ReadsTo (value (fuel + 1) c) (.bool b) r := by
  cases b
  · have h1 : c.rest = 'f' :: ("alse".toList ++ r) := h
    obtain ⟨c', he, hr, hroom⟩ := expectWord_append "alse".toList c.advance (rest_advance h1)
    refine ⟨c', ?_, hr, by rw [hroom, room_advance]⟩
    conv_lhs => whnf
    rw [skipBlank_of_not_blank (by simp [h1, isBlank_iff]), peek_of_rest h1, he]
    rfl
  · have h1 : c.rest = 't' :: ("rue".toList ++ r) := h
    obtain ⟨c', he, hr, hroom⟩ := expectWord_append "rue".toList c.advance (rest_advance h1)
    refine ⟨c', ?_, hr, by rw [hroom, room_advance]⟩
    conv_lhs => whnf
    rw [skipBlank_of_not_blank (by simp [h1, isBlank_iff]), peek_of_rest h1, he]
    rfl

/-- A quoted string reads back. -/
theorem value_str (s : String) (h : c.rest = (Json.quote s).toList ++ r) :
    c.ReadsTo (value (fuel + 1) c) (.str s) r := by
  have h1 : c.rest = '"' :: (s.toList.flatMap Json.escapeChar ++ '"' :: r) := by
    simp [h, Json.quote]
  obtain ⟨c', hs, hr, hroom⟩ := string_quote s (rest_advance h1)
  refine ⟨c', ?_, hr, by rw [hroom, room_advance]⟩
  conv_lhs => whnf
  rw [skipBlank_of_not_blank (by simp [h1, isBlank_iff]), peek_of_rest h1, hs]
  rfl

theorem not_blank_of_digit {ch : Char} (hd : '0' ≤ ch ∧ ch ≤ '9') : ¬IsBlank ch := by
  rintro (rfl | rfl | rfl | rfl) <;> revert hd <;> decide

/-- A number reads back as what the number reader gives. -/
theorem value_number {ch : Char} {lit : NumberLit} (h : c.rest = ch :: rest)
    (hch : ch = '-' ∨ ('0' ≤ ch ∧ ch ≤ '9')) (hn : c.ReadsTo c.signedNumber lit r) :
    c.ReadsTo (value (fuel + 1) c) lit.toJson r := by
  obtain ⟨c', hn, hr, hroom⟩ := hn
  refine ⟨c', ?_, hr, hroom⟩
  rcases hch with rfl | hd
  · rw [signedNumber, peek_of_rest h] at hn
    have hn' : c.advance.number true = .ok (lit, c') := hn
    conv_lhs => whnf
    rw [skipBlank_of_not_blank (by simp [h, isBlank_iff]), peek_of_rest h, hn']
    rfl
  · have hminus : ch ≠ '-' := by rintro rfl; revert hd; decide
    rw [signedNumber_of_digit h hminus] at hn
    conv_lhs => whnf
    rw [skipBlank_of_not_blank (by simpa [h] using not_blank_of_digit hd), peek_of_rest h]
    split
    next heq => cases heq
    -- the letters, the sign, the quote and the brackets are not digits
    all_goals try (rename_i heq; injection heq with heq; subst heq; exact absurd hd (by decide))
    next heq =>
      cases heq
      rw [if_pos hd]
      simp only [hn]
      rfl

/-- A number that reads starts with a sign or a digit. -/
theorem head_of_signedNumber {lit : NumberLit} {c' : Cursor} (h : c.signedNumber = .ok (lit, c')) :
    ∃ ch rest, c.rest = ch :: rest ∧ (ch = '-' ∨ ('0' ≤ ch ∧ ch ≤ '9')) := by
  cases hr : c.rest with
  | nil =>
    simp [signedNumber, number, peek, hr, fail] at h
  | cons ch rest =>
    refine ⟨ch, rest, rfl, ?_⟩
    by_cases hm : ch = '-'
    · exact .inl hm
    · rw [signedNumber_of_digit hr hm, number, peek_of_rest hr] at h
      right
      split at h
      next => cases h
      next heq => cases heq; decide
      next heq =>
        cases heq
        split at h
        next h19 => exact ⟨le_trans (by decide) h19.1, h19.2⟩
        next => cases h

theorem head_of_readsBack {f : Float} (h : Json.ReadsBack f) :
    ∃ ch rest, (Json.floatText f).toList = ch :: rest ∧ (ch = '-' ∨ ('0' ≤ ch ∧ ch ≤ '9')) := by
  obtain ⟨c', hn, -, -⟩ := h (Cursor.start (Json.floatText f)) [] (by simp [start]) (by simp [AfterValue])
  simpa [start] using head_of_signedNumber hn

/-- What a value may start with: nothing a list or an object reads as punctuation. -/
def StartsValue (ch : Char) : Prop := ¬IsBlank ch ∧ ch ≠ ',' ∧ ch ≠ ']' ∧ ch ≠ '\x7d'

theorem startsValue_of_number {ch : Char} (h : ch = '-' ∨ ('0' ≤ ch ∧ ch ≤ '9')) : StartsValue ch := by
  rcases h with rfl | hd
  · refine ⟨?_, ?_, ?_, ?_⟩ <;> simp [isBlank_iff]
  · refine ⟨not_blank_of_digit hd, ?_, ?_, ?_⟩ <;> (rintro rfl; revert hd; decide)

/-- The text of a value is not empty, and starts with no punctuation of the containers. -/
theorem chars_head : ∀ {v : Json}, v.EveryDouble Json.ReadsBack →
    ∃ ch rest, v.chars = ch :: rest ∧ StartsValue ch
  | .null, _ => ⟨'n', _, rfl, by simp [StartsValue, isBlank_iff]⟩
  | .bool true, _ => ⟨'t', _, rfl, by simp [StartsValue, isBlank_iff]⟩
  | .bool false, _ => ⟨'f', _, rfl, by simp [StartsValue, isBlank_iff]⟩
  | .int (.ofNat m), _ => by
    obtain ⟨d, ds, hds⟩ : ∃ d ds, Nat.toDigits 10 m = d :: ds := List.exists_cons_of_ne_nil Nat.toDigits_ne_nil
    have hd : '0' ≤ d ∧ d ≤ '9' := digit_iff_toNat.2 (isDigit_iff_toNat.1
      (isDigit_of_toDigits d (by rw [hds]; exact List.mem_cons_self)))
    exact ⟨d, ds, by rw [Json.chars_int_ofNat, hds], startsValue_of_number (.inr hd)⟩
  | .int (.negSucc m), _ => ⟨'-', _, Json.chars_int_negSucc m, startsValue_of_number (.inl rfl)⟩
  | .float f, .float hf => by
    obtain ⟨ch, rest, h, hch⟩ := head_of_readsBack hf
    exact ⟨ch, rest, by simp [Json.chars, h], startsValue_of_number hch⟩
  | .str s, _ => ⟨'"', s.toList.flatMap Json.escapeChar ++ ['"'], by simp [Json.chars, Json.quote],
      by simp [StartsValue, isBlank_iff]⟩
  | .arr xs, _ => ⟨'[', _, rfl, by simp [StartsValue, isBlank_iff]⟩
  | .obj fs, _ => ⟨'\x7b', _, rfl, by simp [StartsValue, isBlank_iff]⟩

theorem length_chars_pos {v : Json} (h : v.EveryDouble Json.ReadsBack) : 0 < v.chars.length := by
  obtain ⟨ch, rest, hc, -⟩ := chars_head h
  simp [hc]

/-- A list reads back as what its items read back as. -/
theorem value_arr {xs : List Json} (h : c.rest = '[' :: rest) (hroom : 1 < c.room)
    (hitems : ({ c.advance with room := c.room - 1 } : Cursor).ReadsTo
      (items fuel { c.advance with room := c.room - 1 } true []) xs r) :
    c.ReadsTo (value (fuel + 1) c) (.arr xs) r := by
  obtain ⟨c', hi, hr, -⟩ := hitems
  refine ⟨{ c' with room := c.room }, ?_, hr, rfl⟩
  conv_lhs => whnf
  rw [skipBlank_of_not_blank (by simp [h, isBlank_iff]), peek_of_rest h]
  dsimp only
  rw [if_neg (by omega), hi]
  rfl

/-- An object reads back as what its fields read back as. -/
theorem value_obj {fs : List (String × Json)} (h : c.rest = '\x7b' :: rest) (hroom : 1 < c.room)
    (hfields : ({ c.advance with room := c.room - 1 } : Cursor).ReadsTo
      (fields fuel { c.advance with room := c.room - 1 } true []) fs r) :
    c.ReadsTo (value (fuel + 1) c) (.obj fs) r := by
  obtain ⟨c', hi, hr, -⟩ := hfields
  refine ⟨{ c' with room := c.room }, ?_, hr, rfl⟩
  conv_lhs => whnf
  rw [skipBlank_of_not_blank (by simp [h, isBlank_iff]), peek_of_rest h]
  dsimp only
  -- both container branches test the room first; the brace's test is the second one
  rw [if_neg (by omega), if_neg (by omega), hi]
  rfl

/-- A number reads back, whatever starts it. -/
theorem value_signedNumber {lit : NumberLit} (hn : c.ReadsTo c.signedNumber lit r) :
    c.ReadsTo (value (fuel + 1) c) lit.toJson r := by
  obtain ⟨ch, rest, h, hch⟩ := head_of_signedNumber hn.choose_spec.1
  exact value_number h hch hn

theorem afterValue_charsItems (xs : List Json) (r : List Char) :
    AfterValue (Json.charsItems false xs ++ ']' :: r) := by
  cases xs <;> simp [AfterValue, Json.charsItems]

theorem afterValue_charsFields (fs : List (String × Json)) (r : List Char) :
    AfterValue (Json.charsFields false fs ++ '\x7d' :: r) := by
  cases fs <;> simp [AfterValue, Json.charsFields]

mutual
/-- The compact text of a well-formed value whose doubles read back reads back as the value,
given fuel for its length and room for its depth. -/
theorem value_chars : ∀ (v : Json), v.WellFormed → v.EveryDouble Json.ReadsBack →
    ∀ (fuel : Nat) (c : Cursor) (r : List Char), v.chars.length ≤ fuel → c.rest = v.chars ++ r →
      AfterValue r → v.depth < c.room → c.ReadsTo (value fuel c) v r
  | _, _, hd, 0, _, _, hlen, _, _, _ => absurd hlen (by have := length_chars_pos hd; omega)
  | .null, _, _, _ + 1, _, _, _, h, _, _ => value_null h
  | .bool b, _, _, _ + 1, _, _, _, h, _, _ => value_bool b h
  | .int (.ofNat m), .int _ hhi, _, _ + 1, _, _, _, h, hr, _ =>
    value_signedNumber (signedNumber_nat (by simp only [Int.ofNat_eq_natCast] at hhi; omega) hr
      (by rw [h, Json.chars_int_ofNat]))
  | .int (.negSucc m), .int hlo _, _, _ + 1, _, _, _, h, hr, _ =>
    value_signedNumber (signedNumber_negSucc (by omega) hr (by rw [h, Json.chars_int_negSucc]; rfl))
  | .float f, _, .float hf, _ + 1, c, r, _, h, hr, _ => value_signedNumber (hf c r h hr)
  | .str s, _, _, _ + 1, _, _, _, h, _, _ => value_str s h
  | .arr xs, .arr hw, .arr hd, fuel + 1, c, r, hlen, h, _, hdepth => by
    have h1 : c.rest = '[' :: (Json.charsItems true xs ++ ']' :: r) := by simp [h, Json.chars]
    have hlen' : (Json.charsItems true xs).length < fuel := by simp [Json.chars] at hlen; omega
    simp only [Json.depth] at hdepth
    refine value_arr h1 (by omega) ?_
    simpa using items_chars xs hw hd true fuel { c.advance with room := c.room - 1 } [] r hlen'
      (rest_advance h1) (by simp; omega)
  | .obj fs, .obj hs hw, .obj hd, fuel + 1, c, r, hlen, h, _, hdepth => by
    have h1 : c.rest = '\x7b' :: (Json.charsFields true fs ++ '\x7d' :: r) := by simp [h, Json.chars]
    have hlen' : (Json.charsFields true fs).length < fuel := by simp [Json.chars] at hlen; omega
    simp only [Json.depth] at hdepth
    refine value_obj h1 (by omega) ?_
    have := fields_chars fs hw hd true fuel { c.advance with room := c.room - 1 } [] r hlen'
      (rest_advance h1) (by simp; omega)
    rwa [Json.merge_nil_of_sorted hs] at this
/-- The items of a list, written after its opening bracket, read back through its closing
bracket. -/
theorem items_chars : ∀ (xs : List Json), (∀ x ∈ xs, x.WellFormed) →
    (∀ x ∈ xs, x.EveryDouble Json.ReadsBack) →
    ∀ (first : Bool) (fuel : Nat) (c : Cursor) (acc : List Json) (r : List Char),
      (Json.charsItems first xs).length < fuel → c.rest = Json.charsItems first xs ++ ']' :: r →
      Json.depthItems xs < c.room → c.ReadsTo (items fuel c first acc) (acc.reverse ++ xs) r
  | _, _, _, _, 0, _, _, _, hlen, _, _ => absurd hlen (by omega)
  | [], _, _, _, _ + 1, c, acc, r, _, h, _ => by
    have h1 : c.rest = ']' :: r := by simpa [Json.charsItems] using h
    refine ⟨c.advance, ?_, rest_advance h1, by simp⟩
    rw [items, skipBlank_of_not_blank (by simp [h1, isBlank_iff])]
    simp [peek, h1]
  | x :: xs, hw, hd, first, fuel + 1, c, acc, r, hlen, h, hdepth => by
    obtain ⟨ch, rest, hx, hb, hcomma, hclose, -⟩ := chars_head (hd x List.mem_cons_self)
    have hlenx := length_chars_pos (hd x List.mem_cons_self)
    simp only [Json.depthItems] at hdepth
    -- the item starts after the comma that separates it from the one before
    have hc0 : (if first then c else c.advance).rest = x.chars ++ (Json.charsItems false xs ++ ']' :: r) := by
      cases first
      · simp only [Json.charsItems] at h
        exact rest_advance (by simpa using h)
      · simpa [Json.charsItems] using h
    obtain ⟨c1, hv, hr1, hroom1⟩ := value_chars x (hw x List.mem_cons_self) (hd x List.mem_cons_self)
      fuel (if first then c else c.advance) (Json.charsItems false xs ++ ']' :: r)
      (by cases first <;> simp [Json.charsItems] at hlen <;> omega) hc0
      (afterValue_charsItems xs r) (by cases first <;> simp <;> omega)
    obtain ⟨c2, hi, hr2, hroom2⟩ := items_chars xs (fun y hy => hw y (List.mem_cons_of_mem _ hy))
      (fun y hy => hd y (List.mem_cons_of_mem _ hy)) false fuel c1 (x :: acc) r
      (by cases first <;> simp [Json.charsItems] at hlen <;> omega) hr1
      (by rw [hroom1]; cases first <;> simp <;> omega)
    refine ⟨c2, ?_, hr2, by rw [hroom2, hroom1]; cases first <;> simp⟩
    have hlist : (x :: acc).reverse ++ xs = acc.reverse ++ x :: xs := by simp
    rw [hlist] at hi
    cases first
    · have h1 : c.rest = ',' :: (ch :: (rest ++ (Json.charsItems false xs ++ ']' :: r))) := by
        simpa [Json.charsItems, hx] using h
      have h2 := rest_advance h1
      rw [items, skipBlank_of_not_blank (by simp [h1, isBlank_iff]), peek_of_rest h1]
      simp only [peek, h2, List.head?_cons, skipBlank_of_not_blank (c := c.advance) (by simpa [h2] using hb)]
      simp only [Bool.false_eq_true, if_false] at hv ⊢
      simp only [hv]
      exact hi
    · have h1 : c.rest = ch :: (rest ++ (Json.charsItems false xs ++ ']' :: r)) := by
        simpa [Json.charsItems, hx] using h
      rw [items, skipBlank_of_not_blank (by simpa [h1] using hb), peek_of_rest h1]
      simp only [if_true] at hv
      split
      next heq => cases heq
      next heq => exact absurd (Option.some.inj heq) hclose
      next heq => exact absurd (Option.some.inj heq) hcomma
      next =>
        simp only [if_true, hv]
        exact hi
/-- The fields of an object, written after its opening brace, read back through its closing
brace, each written into what was read before. -/
theorem fields_chars : ∀ (fs : List (String × Json)), (∀ kv ∈ fs, kv.2.WellFormed) →
    (∀ kv ∈ fs, kv.2.EveryDouble Json.ReadsBack) →
    ∀ (first : Bool) (fuel : Nat) (c : Cursor) (acc : List (String × Json)) (r : List Char),
      (Json.charsFields first fs).length < fuel → c.rest = Json.charsFields first fs ++ '\x7d' :: r →
      Json.depthFields fs < c.room → c.ReadsTo (fields fuel c first acc) (Json.merge acc fs) r
  | _, _, _, _, 0, _, _, _, hlen, _, _ => absurd hlen (by omega)
  | [], _, _, _, _ + 1, c, acc, r, _, h, _ => by
    have h1 : c.rest = '\x7d' :: r := by simpa [Json.charsFields] using h
    refine ⟨c.advance, ?_, rest_advance h1, by simp⟩
    rw [fields, skipBlank_of_not_blank (by simp [h1, isBlank_iff])]
    simp [peek, h1, Json.merge]
  | (k, v) :: fs, hw, hd, first, fuel + 1, c, acc, r, hlen, h, hdepth => by
    have hlenv := length_chars_pos (hd (k, v) List.mem_cons_self)
    simp only [Json.depthFields] at hdepth
    -- the key starts after the comma that separates the field from the one before
    have hc0 : (if first then c else c.advance).rest = '"' :: (k.toList.flatMap Json.escapeChar ++
        '"' :: (':' :: (v.chars ++ (Json.charsFields false fs ++ '\x7d' :: r)))) := by
      cases first
      · simp only [Json.charsFields] at h
        exact rest_advance (by simpa [Json.quote] using h)
      · simpa [Json.charsFields, Json.quote] using h
    obtain ⟨c1, hk, hr1, hroom1⟩ := string_quote k (rest_advance hc0)
    have hc1 : c1.rest = ':' :: (v.chars ++ (Json.charsFields false fs ++ '\x7d' :: r)) := hr1
    obtain ⟨c2, hv, hr2, hroom2⟩ := value_chars v (hw (k, v) List.mem_cons_self) (hd (k, v) List.mem_cons_self)
      fuel c1.advance (Json.charsFields false fs ++ '\x7d' :: r)
      (by cases first <;> simp [Json.charsFields] at hlen <;> omega) (rest_advance hc1)
      (afterValue_charsFields fs r) (by rw [room_advance, hroom1]; cases first <;> simp <;> omega)
    obtain ⟨c3, hi, hr3, hroom3⟩ := fields_chars fs (fun y hy => hw y (List.mem_cons_of_mem _ hy))
      (fun y hy => hd y (List.mem_cons_of_mem _ hy)) false fuel c2 (Json.setField k v acc) r
      (by cases first <;> simp [Json.charsFields] at hlen <;> omega) hr2
      (by rw [hroom2, room_advance, hroom1]; cases first <;> simp <;> omega)
    refine ⟨c3, ?_, hr3, by rw [hroom3, hroom2, room_advance, hroom1]; cases first <;> simp⟩
    rw [Json.merge_cons]
    have hc1b : c1.skipBlank = c1 := skipBlank_of_not_blank (by simp [hc1, isBlank_iff])
    cases first
    · simp only [Bool.false_eq_true, if_false] at hc0 hk
      have h1 : c.rest = ',' :: c.advance.rest := by
        rw [hc0]
        simpa [Json.charsFields, Json.quote] using h
      rw [fields, skipBlank_of_not_blank (by simp [h1, isBlank_iff]), peek_of_rest h1]
      split
      next heq => cases heq
      next heq => exact absurd (Option.some.inj heq) (by decide)
      next heq =>
        cases heq
        simp only [peek, hc0, hc1, List.head?_cons, skipBlank_of_not_blank (c := c.advance)
          (by simp [hc0, isBlank_iff]), hc1b, hk, hv, hi, Bool.false_eq_true, if_false, if_true]
    · simp only [if_true] at hc0 hk
      rw [fields, skipBlank_of_not_blank (by simp [hc0, isBlank_iff]), peek_of_rest hc0]
      split
      next heq => cases heq
      next heq => exact absurd (Option.some.inj heq) (by decide)
      next heq =>
        cases heq
        simp only [peek, hc1, List.head?_cons, hc1b, hk, hv, hi, if_true]
end

end Cursor

namespace Json

/-- The compact text of a well-formed value that nests less deeply than the reader allows, and
whose doubles read back, reads back as the value. -/
theorem parse_render {v : Json} (hw : v.WellFormed) (hd : v.EveryDouble ReadsBack) (hdepth : v.depth < 128) :
    parse v.render = .ok v := by
  obtain ⟨c, hv, hr, -⟩ := Cursor.value_chars v hw hd (Cursor.start v.render).fuelFor
    (Cursor.start v.render) [] (by simp [Cursor.fuelFor, Cursor.start]; omega)
    (by simp [Cursor.start]) (by simp [Cursor.AfterValue]) hdepth
  have hfinish : c.finish = .ok () := by
    rw [Cursor.finish, Cursor.skipBlank_of_not_blank (by simp [hr])]
    simp [Cursor.peek, hr]
  simp only [parse, hv]
  show (c.finish >>= fun _ => pure v) = _
  rw [hfinish]
  rfl

end Json

end Storyboard
