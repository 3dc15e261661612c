import Mathlib.Data.List.Induction
import Mathlib.Data.Nat.Digits.Defs
import Storyboard.Script.Coerce
import Storyboard.Proofs.Lexing

/-!
# Number texts as script reads them

Browser scripting's `Number` reads a text as a numeral once the blanks of script source are
trimmed from both ends: nothing (zero), `Infinity` with an optional sign, a decimal with an
optional sign, fraction and exponent, or a `0x`, `0o` or `0b` integer; any other text is NaN.
A decimal denotes the double nearest to its value, and a radix integer the double nearest to
it. A JSON array reads through its text, which for one item is that item's text.

This module states that grammar (`Numeral`, `ScriptNumber`) and that reading of JSON values
(`scriptNumberOf`) and compares the library's readers with them.

Main statements:
* `DecimalLiteral.readFloat?_eq_some_iff`: the decimal reader accepts exactly the signed
  decimals and gives the double nearest to each, for texts of at most 65000 characters; longer
  ones may meet the exponent's cap (its value stops growing at `2^16` as it is read).
* `readUnsigned?_eq_some_iff`: the radix reader accepts digits of its base below `2^64`, after
  an optional `+`.
* `numbers_read_as_script_numbers`: texts read as script reads them, apart from the blanks
  U+0085 (trimmed here and not by script) and U+FEFF (the reverse), a `+` after a radix prefix
  and radix integers of `2^64` or more; JSON values read as script reads them, apart from
  one-item arrays around a boolean or negative zero.
-/

namespace Storyboard

namespace Loose

open Decimal Token

/-! ## The script grammar -/

/-- The characters that script source counts as white space or line ends, and that `Number`
trims from a text: tab, line feed, vertical tab, form feed, carriage return, the space
separators (space, no-break space, the Ogham space mark, the spaces from en quad to hair
space, the narrow no-break space, the medium mathematical space, the ideographic space), the
line and paragraph separators and the byte order mark. -/
def isScriptBlank (c : Char) : Bool :=
  let n := c.toNat
  (9 ≤ n && n ≤ 13) || n == 32 || n == 0xa0 || n == 0x1680
    || (0x2000 ≤ n && n ≤ 0x200a) || n == 0x2028 || n == 0x2029 || n == 0x202f
    || n == 0x205f || n == 0x3000 || n == 0xfeff

/-- A text with the script blanks dropped from both ends. -/
def scriptTrim (cs : List Char) : List Char :=
  ((cs.dropWhile isScriptBlank).reverse.dropWhile isScriptBlank).reverse

/-- An optional sign, and whether it is a minus. -/
inductive SignOf : List Char → Bool → Prop
  | none : SignOf [] false
  | plus : SignOf ['+'] false
  | minus : SignOf ['-'] true

/-- The number that a run of decimal digits denotes. -/
def decimalValue (ds : List Char) : Nat := Nat.ofDigits 10 (ds.map (·.toNat - 48)).reverse

/-- The digits of an unsigned decimal, with its whole digits and its fraction digits: digits
with an optional point and fraction, or a point and digits. -/
inductive Mantissa : List Char → List Char → List Char → Prop
  | whole {ds : List Char} : Digits ds → ds ≠ [] → Mantissa ds ds []
  | point {ds fs : List Char} : Digits ds → ds ≠ [] → Digits fs →
      Mantissa (ds ++ '.' :: fs) ds fs
  | fraction {fs : List Char} : Digits fs → fs ≠ [] → Mantissa ('.' :: fs) [] fs

/-- An optional exponent part, `e` or `E` and a signed run of digits, with its value. -/
inductive ExponentPart : List Char → Int → Prop
  | none : ExponentPart [] 0
  | mark {e : Char} {sign ds : List Char} {neg : Bool} : (e = 'e' ∨ e = 'E') →
      SignOf sign neg → Digits ds → ds ≠ [] →
      ExponentPart (e :: sign ++ ds) (if neg then -(decimalValue ds : Int) else decimalValue ds)

/-- A signed decimal and the double nearest to its value, negative zero for a minus zero. -/
inductive DecimalLiteral : List Char → Float → Prop
  | mk {sign ms ds fs es : List Char} {neg : Bool} {x : Int} : SignOf sign neg →
      Mantissa ms ds fs → ExponentPart es x →
      DecimalLiteral (sign ++ ms ++ es)
        (Binary64.ofDecimal neg (decimalValue (ds ++ fs)) (x - fs.length))

/-- The base that a radix prefix names by its letter, in either case: `x` sixteen, `o` eight,
`b` two. -/
def radixOf : Char → Option Nat
  | 'x' | 'X' => some 16
  | 'o' | 'O' => some 8
  | 'b' | 'B' => some 2
  | _ => none

/-- The number texts of script, trimmed, with the double each denotes: nothing (zero),
`Infinity` with an optional sign, a signed decimal, or an unsigned integer after a radix
prefix (the double nearest to it). -/
inductive Numeral : List Char → Float → Prop
  | blank : Numeral [] 0
  | infinity {sign : List Char} {neg : Bool} : SignOf sign neg →
      Numeral (sign ++ ['I', 'n', 'f', 'i', 'n', 'i', 't', 'y']) (if neg then -1 / 0 else 1 / 0)
  | decimal {cs : List Char} {v : Float} : DecimalLiteral cs v → Numeral cs v
  | radix {p : Char} {b : Nat} {ds : List Char} {vs : List Nat} : radixOf p = some b →
      ds ≠ [] → ds.mapM (digitIn b) = some vs →
      Numeral ('0' :: p :: ds) (Binary64.ofInt (Nat.ofDigits b vs.reverse : Nat))

/-- Script `Number` reads the text `s` as `v`. -/
def ScriptNumber (s : String) (v : Float) : Prop := Numeral (scriptTrim s.toList) v

/-- Radix integers that are read here otherwise than script reads them: a `+` right after
the prefix, skipped here and refused by script, and digits worth `2^64` or more, refused here
and read by script. -/
def RadixQuirk (cs : List Char) : Prop :=
  ∃ p b rest, cs = '0' :: p :: rest ∧ radixOf p = some b ∧
    (rest.head? = some '+' ∨
      ∃ vs, rest.mapM (digitIn b) = some vs ∧ 2 ^ 64 ≤ Nat.ofDigits b vs.reverse)

/-! ## Trimming -/

theorem dropBlanks_eq_dropWhile (cs : List Char) :
    Text.dropBlanks cs = cs.dropWhile Text.isBlank := by
  induction cs with
  | nil => rfl
  | cons c cs ih => by_cases h : Text.isBlank c <;> simp [Text.dropBlanks, h, ih]

/-- The blanks trimmed here and those of script differ in two characters only: the next-line
character U+0085, a blank here, and the byte order mark U+FEFF, a blank of script. -/
theorem isBlank_eq_isScriptBlank {c : Char} (h85 : c ≠ '\u0085') (hbom : c ≠ '\uFEFF') :
    Text.isBlank c = isScriptBlank c := by
  have h1 : c.toNat ≠ 0x85 := fun h => h85 (Char.toNat_inj.1 h)
  have h2 : c.toNat ≠ 0xfeff := fun h => hbom (Char.toNat_inj.1 h)
  rw [Bool.eq_iff_iff]
  simp only [Text.isBlank, isScriptBlank, Bool.or_eq_true, Bool.and_eq_true, decide_eq_true_eq,
    beq_iff_eq]
  omega

theorem dropWhile_congr {p q : Char → Bool} {cs : List Char} (h : ∀ c ∈ cs, p c = q c) :
    cs.dropWhile p = cs.dropWhile q := by
  induction cs with
  | nil => rfl
  | cons c cs ih =>
    simp only [List.dropWhile_cons, h c (by simp), ih fun x hx => h x (by simp [hx])]

/-- A text without U+0085 and U+FEFF is trimmed here as script trims it. -/
theorem trimChars_eq_scriptTrim {cs : List Char} (h85 : '\u0085' ∉ cs) (hbom : '\uFEFF' ∉ cs) :
    Text.trimChars cs = scriptTrim cs := by
  have hsame : ∀ c ∈ cs, Text.isBlank c = isScriptBlank c := fun c hc =>
    isBlank_eq_isScriptBlank (fun h => h85 (h ▸ hc)) (fun h => hbom (h ▸ hc))
  have hsame' : ∀ c ∈ (cs.dropWhile Text.isBlank).reverse, Text.isBlank c = isScriptBlank c :=
    fun c hc => hsame c (List.dropWhile_subset _ (List.mem_reverse.1 hc))
  rw [Text.trimChars, dropBlanks_eq_dropWhile, dropBlanks_eq_dropWhile, dropWhile_congr hsame',
    dropWhile_congr hsame, scriptTrim]

/-! ## Digits and exponents -/

theorem decimalValue_append_singleton (ds : List Char) (c : Char) :
    decimalValue (ds ++ [c]) = decimalValue ds * 10 + (c.toNat - 48) := by
  simp only [decimalValue, List.map_append, List.map_cons, List.map_nil, List.reverse_append,
    List.reverse_cons, List.reverse_nil, List.nil_append, List.singleton_append, Nat.ofDigits_cons]
  ring

theorem digitsValue_eq_decimalValue (ds : List Char) : digitsValue ds = decimalValue ds := by
  induction ds using List.reverseRecOn with
  | nil => rfl
  | append_singleton ds c ih =>
    rw [decimalValue_append_singleton, ← ih, digitsValue, digitsValue, List.foldl_append]
    rfl

/-- A run of digits denotes less than ten to its length. -/
theorem decimalValue_lt {ds : List Char} (h : Digits ds) : decimalValue ds < 10 ^ ds.length := by
  have hlt : ∀ v ∈ (ds.map (·.toNat - 48)).reverse, v < 10 := by
    intro v hv
    obtain ⟨c, hc, rfl⟩ := List.mem_map.1 (List.mem_reverse.1 hv)
    have := isDigitChar_iff_toNat.1 (h c hc)
    omega
  simpa [decimalValue] using Nat.ofDigits_lt_base_pow_length (by norm_num) hlt

/-- A run of digits denotes a number of at most as many digits. -/
theorem digitCount_decimalValue_le {ds : List Char} (h : Digits ds) (hne : ds ≠ []) :
    Binary64.digitCount (decimalValue ds) ≤ ds.length :=
  (Nat.length_toDigits_le_iff (by norm_num) (List.length_pos_iff.2 hne)).2 (decimalValue_lt h)

/-- Exponents that give every decimal of at most 65000 digits the same double: equal, both at
least `2^16`, or both at most `-2^16`. -/
def ExponentsAlike (x x' : Int) : Prop :=
  x = x' ∨ (65536 ≤ x ∧ 65536 ≤ x') ∨ (x ≤ -65536 ∧ x' ≤ -65536)

theorem exponentValue_append_singleton (ds : List Char) (c : Char) :
    exponentValue (ds ++ [c]) =
      if exponentValue ds < 65536 then exponentValue ds * 10 + (c.toNat - 48)
      else exponentValue ds := by
  rw [exponentValue, List.foldl_append]
  rfl

/-- The exponent as read is the exponent, or both are at least `2^16`. -/
theorem exponentValue_cases (ds : List Char) :
    exponentValue ds = decimalValue ds ∨
      (65536 ≤ exponentValue ds ∧ 65536 ≤ decimalValue ds) := by
  induction ds using List.reverseRecOn with
  | nil => exact .inl rfl
  | append_singleton ds c ih =>
    rw [exponentValue_append_singleton, decimalValue_append_singleton]
    split <;> omega

theorem exponentsAlike_signed (neg : Bool) (ds : List Char) :
    ExponentsAlike (if neg then -(decimalValue ds : Int) else decimalValue ds)
      (if neg then -(exponentValue ds : Int) else exponentValue ds) := by
  unfold ExponentsAlike
  rcases exponentValue_cases ds with h | h <;> split_ifs <;> omega

/-! ## Decimals far outside the doubles -/

theorem ofDecimal_of_far_above {neg : Bool} {m : Nat} {e : Int} (hm : m ≠ 0)
    (h : 310 < (Binary64.digitCount m : Int) + e) :
    Binary64.ofDecimal neg m e = Binary64.ofParts neg (Nat.pow 2 11 - 1) 0 := by
  rw [Binary64.ofDecimal, if_neg hm, if_pos h]

theorem ofDecimal_of_far_below {neg : Bool} {m : Nat} {e : Int}
    (h : (Binary64.digitCount m : Int) + e < -330) :
    Binary64.ofDecimal neg m e = Binary64.ofParts neg 0 0 := by
  by_cases hm : m = 0
  · rw [Binary64.ofDecimal, if_pos hm]
  · rw [Binary64.ofDecimal, if_neg hm, if_neg (by omega), if_pos h]

/-- Alike exponents give a decimal of at most 65000 digits, at most 65000 of them after the
point, the same double. -/
theorem ofDecimal_exponentsAlike {neg : Bool} {m k : Nat} {x x' : Int}
    (hm : Binary64.digitCount m ≤ 65000) (hk : k ≤ 65000) (hx : ExponentsAlike x x') :
    Binary64.ofDecimal neg m (x - k) = Binary64.ofDecimal neg m (x' - k) := by
  rcases hx with rfl | ⟨h, h'⟩ | ⟨h, h'⟩
  · rfl
  · by_cases hm0 : m = 0
    · simp only [Binary64.ofDecimal, if_pos hm0]
    · have hd : 0 < Binary64.digitCount m := Nat.length_toDigits_pos
      rw [ofDecimal_of_far_above hm0 (by omega), ofDecimal_of_far_above hm0 (by omega)]
  · rw [ofDecimal_of_far_below (by omega), ofDecimal_of_far_below (by omega)]

/-! ## Reading signs, digits and exponents -/

theorem readSign_append {sign r : List Char} {neg : Bool} (hs : SignOf sign neg)
    (hr : ∀ c ∈ r.head?, c ≠ '-' ∧ c ≠ '+') : readSign (sign ++ r) = (neg, r) := by
  cases hs with
  | none =>
    rcases r with _ | ⟨c, r⟩
    · rfl
    · obtain ⟨hm, hp⟩ := hr c rfl
      rw [List.nil_append, readSign]
      all_goals simp_all
  | plus => rfl
  | minus => rfl

theorem exists_sign_readSign (cs : List Char) :
    ∃ sign, SignOf sign (readSign cs).1 ∧ cs = sign ++ (readSign cs).2 := by
  unfold readSign
  split
  · exact ⟨['-'], .minus, rfl⟩
  · exact ⟨['+'], .plus, rfl⟩
  · exact ⟨[], .none, rfl⟩

theorem takeWhile_digits_append {ds rest : List Char} (hd : Digits ds)
    (hr : ∀ c ∈ rest.head?, isDigitChar c = false) :
    (ds ++ rest).takeWhile isDigitChar = ds := by
  rw [List.takeWhile_append_of_pos hd]
  rcases rest with _ | ⟨c, r⟩
  · simp
  · simp [List.takeWhile_cons_of_neg (by simpa using hr c rfl)]

theorem dropWhile_digits_append {ds rest : List Char} (hd : Digits ds)
    (hr : ∀ c ∈ rest.head?, isDigitChar c = false) :
    (ds ++ rest).dropWhile isDigitChar = rest := by
  rw [List.dropWhile_append_of_pos hd]
  rcases rest with _ | ⟨c, r⟩
  · rfl
  · exact List.dropWhile_cons_of_neg (by simpa using hr c rfl)

namespace Mantissa

theorem digits_or {ms ds fs : List Char} (h : Mantissa ms ds fs) : ds ≠ [] ∨ fs ≠ [] := by
  cases h with
  | whole _ hne => exact .inl hne
  | point _ hne _ => exact .inl hne
  | fraction _ hne => exact .inr hne

/-- The digits of a decimal start with a digit or a point. -/
theorem head {ms ds fs : List Char} (h : Mantissa ms ds fs) :
    ∃ c t, ms = c :: t ∧ (isDigitChar c = true ∨ c = '.') := by
  cases h with
  | @whole ds hd hne =>
    obtain ⟨c, t, rfl⟩ := List.exists_cons_of_ne_nil hne
    exact ⟨c, t, rfl, .inl (hd c (by simp))⟩
  | @point ds fs hd hne _ =>
    obtain ⟨c, t, rfl⟩ := List.exists_cons_of_ne_nil hne
    exact ⟨c, t ++ '.' :: fs, rfl, .inl (hd c (by simp))⟩
  | fraction => exact ⟨'.', _, rfl, .inr rfl⟩

/-- The digits of a decimal, followed by text that goes on with no digit and no point, read as
its whole and fraction digits. -/
theorem readMantissa {ms ds fs rest : List Char} (h : Mantissa ms ds fs)
    (hr : ∀ c ∈ rest.head?, isDigitChar c = false ∧ c ≠ '.') :
    Decimal.readMantissa (ms ++ rest) = (ds, fs, rest) := by
  have hrd : ∀ c ∈ rest.head?, isDigitChar c = false := fun c hc => (hr c hc).1
  cases h with
  | whole hd _ =>
    rw [Decimal.readMantissa, takeWhile_digits_append hd hrd, dropWhile_digits_append hd hrd]
    rcases rest with _ | ⟨c, r⟩
    · rfl
    · have hc := (hr c rfl).2
      simp [hc]
  | point hd _ hf =>
    have hpt : ∀ c ∈ ('.' :: (fs ++ rest)).head?, isDigitChar c = false := by
      simp [not_digit_point]
    rw [Decimal.readMantissa, List.append_assoc, List.cons_append, takeWhile_digits_append hd hpt,
      dropWhile_digits_append hd hpt]
    simp only [takeWhile_digits_append hf hrd, dropWhile_digits_append hf hrd]
  | fraction hf _ =>
    have hpt : ¬isDigitChar '.' = true := by simp [not_digit_point]
    rw [Decimal.readMantissa, List.cons_append, List.takeWhile_cons_of_neg hpt,
      List.dropWhile_cons_of_neg hpt]
    simp only [takeWhile_digits_append hf hrd, dropWhile_digits_append hf hrd]

end Mantissa

/-- What `readMantissa` reads, when it reads some digit, is the digits of a decimal. -/
theorem exists_mantissa_readMantissa {cs ds fs rest : List Char}
    (h : readMantissa cs = (ds, fs, rest)) (hne : ds ≠ [] ∨ fs ≠ []) :
    ∃ ms, Mantissa ms ds fs ∧ cs = ms ++ rest := by
  have hcs := (List.takeWhile_append_dropWhile (p := isDigitChar) (l := cs)).symm
  have hds := digits_takeWhile cs
  unfold readMantissa at h
  split at h
  · rename_i r hdrop
    simp only [Prod.mk.injEq] at h
    obtain ⟨rfl, rfl, rfl⟩ := h
    have hr := (List.takeWhile_append_dropWhile (p := isDigitChar) (l := r)).symm
    have hfs := digits_takeWhile r
    rw [hdrop, hr] at hcs
    by_cases hnil : cs.takeWhile isDigitChar = []
    · rw [hnil] at hcs hne ⊢
      refine ⟨'.' :: r.takeWhile isDigitChar, .fraction hfs (hne.resolve_left (by simp)), ?_⟩
      simpa using hcs
    · exact ⟨_, .point hds hnil hfs, by simpa using hcs⟩
  · simp only [Prod.mk.injEq] at h
    obtain ⟨rfl, rfl, rfl⟩ := h
    exact ⟨_, .whole hds (hne.resolve_right (by simp)), hcs⟩

theorem sign_free_of_digit {c : Char} (hc : isDigitChar c = true) : c ≠ '-' ∧ c ≠ '+' := by
  constructor <;> rintro rfl <;> exact absurd hc (by decide)

theorem ExponentsAlike.symm {x x' : Int} (h : ExponentsAlike x x') : ExponentsAlike x' x := by
  unfold ExponentsAlike at *
  omega

namespace Mantissa

theorem digits {ms ds fs : List Char} (h : Mantissa ms ds fs) : Digits (ds ++ fs) := by
  cases h with
  | whole hd _ => simpa using hd
  | point hd _ hf => exact digits_append hd hf
  | fraction hf _ => simpa using hf

theorem length_le {ms ds fs : List Char} (h : Mantissa ms ds fs) :
    (ds ++ fs).length ≤ ms.length := by
  cases h <;> simp

end Mantissa

namespace ExponentPart

/-- An exponent part is empty or starts with its mark, so the digits of a decimal stop before
it. -/
theorem head {es : List Char} {x : Int} (h : ExponentPart es x) :
    ∀ c ∈ es.head?, isDigitChar c = false ∧ c ≠ '.' := by
  cases h with
  | none => simp
  | mark he _ _ _ =>
    intro c hc
    obtain rfl : _ = c := by simpa using hc
    rcases he with rfl | rfl <;> decide

/-- An exponent part reads as its value, or as an alike one once that passes `2^16`. -/
theorem readExponent? {es : List Char} {x : Int} (h : ExponentPart es x) :
    ∃ x', Decimal.readExponent? es = some (x', []) ∧ ExponentsAlike x x' := by
  cases h with
  | none => exact ⟨0, rfl, .inl rfl⟩
  | @mark e sign ds neg he hs hd hne =>
    obtain ⟨c, t, rfl⟩ := List.exists_cons_of_ne_nil hne
    have hsign : readSign (sign ++ c :: t) = (neg, c :: t) :=
      readSign_append hs fun c' hc' => by
        obtain rfl : c = c' := by simpa using hc'
        exact sign_free_of_digit (hd c (by simp))
    have hmark : (e = 'e' || e = 'E') = true := by rcases he with rfl | rfl <;> rfl
    refine ⟨_, ?_, exponentsAlike_signed neg (c :: t)⟩
    rw [List.cons_append, Decimal.readExponent?, if_pos hmark, hsign]
    simp [List.takeWhile_eq_self_iff.2 hd, List.dropWhile_eq_nil_iff.2 hd]

end ExponentPart

/-- What `readExponent?` reads to the end of its text is an exponent part, of an alike value. -/
theorem exists_exponentPart_readExponent? {cs : List Char} {x' : Int}
    (h : readExponent? cs = some (x', [])) : ∃ x, ExponentPart cs x ∧ ExponentsAlike x x' := by
  match cs, h with
  | [], h =>
    obtain rfl : (0 : Int) = x' := by simpa [Decimal.readExponent?] using h
    exact ⟨0, .none, .inl rfl⟩
  | e :: r, h =>
    rw [Decimal.readExponent?] at h
    split_ifs at h with hmark
    · obtain ⟨sign, hs, hr⟩ := exists_sign_readSign r
      generalize readSign r = sr at hs hr h
      obtain ⟨neg, r'⟩ := sr
      simp only at h hs hr
      by_cases hempty : (r'.takeWhile isDigitChar).isEmpty = true
      · simp [hempty] at h
      rw [if_neg hempty, Option.some.injEq, Prod.mk.injEq] at h
      obtain ⟨rfl, hdrop⟩ := h
      have hr' : r' = r'.takeWhile isDigitChar := by
        simpa [hdrop] using (List.takeWhile_append_dropWhile (p := isDigitChar) (l := r')).symm
      have hcs : e :: r = e :: sign ++ r'.takeWhile isDigitChar := by rw [hr, ← hr']; rfl
      rw [hcs]
      exact ⟨_, .mark (by simpa using hmark) hs (digits_takeWhile r') (by simpa using hempty),
        exponentsAlike_signed neg _⟩
    · simp at h

namespace DecimalLiteral

/-- A decimal literal of at most 65000 characters reads as the double nearest to its value. -/
theorem readFloat? {cs : List Char} {v : Float} (h : DecimalLiteral cs v)
    (hlen : cs.length ≤ 65000) :
    Decimal.readFloat? cs = some v := by
  cases h with
  | @mk sign ms ds fs es neg x hs hm he =>
  obtain ⟨c, t, rfl, hc⟩ := hm.head
  have hsign : readSign (sign ++ (c :: t ++ es)) = (neg, c :: t ++ es) :=
    readSign_append hs fun c' hc' => by
      obtain rfl : c = c' := by simpa using hc'
      rcases hc with hc | rfl
      · exact sign_free_of_digit hc
      · decide
  obtain ⟨x', hx', halike⟩ := he.readExponent?
  have hempty : (ds.isEmpty && fs.isEmpty) = false := by
    rcases hm.digits_or with h | h <;> simp [h]
  have hms := hm.length_le
  have hdigits : Binary64.digitCount (decimalValue (ds ++ fs)) ≤ 65000 := by
    have := digitCount_decimalValue_le hm.digits (by rcases hm.digits_or with h | h <;> simp [h])
    simp only [List.length_append, List.length_cons] at hlen hms this ⊢
    omega
  have hfs : fs.length ≤ 65000 := by
    simp only [List.length_append, List.length_cons] at hlen hms
    omega
  rw [Decimal.readFloat?, List.append_assoc, hsign]
  simp only [hm.readMantissa he.head, hempty, hx', Bool.false_eq_true, if_false,
    digitsValue_eq_decimalValue, Option.some.injEq]
  exact ofDecimal_exponentsAlike hdigits hfs halike.symm

/-- What `readFloat?` reads from a text of at most 65000 characters is a decimal literal. -/
theorem of_readFloat? {cs : List Char} {v : Float} (h : Decimal.readFloat? cs = some v)
    (hlen : cs.length ≤ 65000) : DecimalLiteral cs v := by
  obtain ⟨sign, hs, hcs⟩ := exists_sign_readSign cs
  rw [Decimal.readFloat?] at h
  generalize readSign cs = sr at hs hcs h
  obtain ⟨neg, r⟩ := sr
  simp only at h hs hcs
  generalize hmr : readMantissa r = mr at h
  obtain ⟨ds, fs, rest⟩ := mr
  simp only at h
  split_ifs at h with hempty
  split at h
  · rename_i x' hx'
    have hne : ds ≠ [] ∨ fs ≠ [] := by
      by_cases hds : ds = []
      · simp_all
      · exact .inl hds
    obtain ⟨ms, hm, hr⟩ := exists_mantissa_readMantissa hmr hne
    obtain ⟨x, he, halike⟩ := exists_exponentPart_readExponent? hx'
    subst hcs hr
    have hms := hm.length_le
    have hdigits : Binary64.digitCount (decimalValue (ds ++ fs)) ≤ 65000 := by
      have := digitCount_decimalValue_le hm.digits (by rcases hm.digits_or with h | h <;> simp [h])
      simp only [List.length_append] at hlen hms this ⊢
      omega
    have hfs : fs.length ≤ 65000 := by
      simp only [List.length_append] at hlen hms
      omega
    simp only [Option.some.injEq] at h
    rw [← h, digitsValue_eq_decimalValue, ← ofDecimal_exponentsAlike hdigits hfs halike,
      ← List.append_assoc]
    exact .mk hs hm he
  · simp at h

theorem readFloat?_eq_some_iff {cs : List Char} {v : Float} (hlen : cs.length ≤ 65000) :
    Decimal.readFloat? cs = some v ↔ DecimalLiteral cs v :=
  ⟨fun h => of_readFloat? h hlen, fun h => h.readFloat? hlen⟩

end DecimalLiteral

/-! ## Radix integers -/

/-- Reading digits of a base from an accumulator: the accumulator shifted past the digits, plus
the number they denote. -/
theorem foldlM_digitIn (b : Nat) (ds : List Char) (a : Nat) :
    ds.foldlM (fun acc c => (digitIn b c).map (acc * b + ·)) a
      = (ds.mapM (digitIn b)).map fun vs => a * b ^ vs.length + Nat.ofDigits b vs.reverse := by
  induction ds generalizing a with
  | nil => simp
  | cons c ds ih =>
    rw [List.foldlM_cons, List.mapM_cons]
    cases hc : digitIn b c with
    | none => rfl
    | some d =>
      simp only [Option.map_some, Option.bind_eq_bind, Option.bind_some, ih, bind_pure_comp,
        Option.map_eq_map, Option.map_map]
      congr 1
      funext vs
      simp only [Function.comp_apply, List.length_cons, Nat.ofDigits_reverse_cons, pow_succ]
      ring

/-- The radix reader accepts, when no `+` leads, digits of its base worth less than `2^64`. -/
theorem readUnsigned?_eq_some_iff {b n : Nat} {ds : List Char} (hp : ds.head? ≠ some '+') :
    readUnsigned? b ds = some n ↔
      ds ≠ [] ∧
        ∃ vs, ds.mapM (digitIn b) = some vs ∧ Nat.ofDigits b vs.reverse = n ∧ n < 2 ^ 64 := by
  rcases ds with _ | ⟨c, r⟩
  · simp [readUnsigned?]
  · have hc : c ≠ '+' := fun h => hp (by simp [h])
    have hread : readUnsigned? b (c :: r)
        = (((c :: r).mapM (digitIn b)).map fun vs => Nat.ofDigits b vs.reverse).filter
            (· < 2 ^ 64) := by
      rw [readUnsigned?, if_neg (by simp)]
      · simp only [foldlM_digitIn, zero_mul, zero_add, Nat.pow_eq]
      · intro r' heq
        exact hc (List.cons.inj heq).1
    rw [hread]
    cases hm : (c :: r).mapM (digitIn b) with
    | none => simp
    | some vs =>
      rw [Option.map_some, Option.filter_some]
      constructor
      · intro h
        split_ifs at h with hlt
        cases h
        exact ⟨by simp, vs, rfl, rfl, by simpa using hlt⟩
      · rintro ⟨-, vs', hvs, rfl, hlt⟩
        cases hvs
        rw [if_pos (decide_eq_true hlt)]

theorem radixOf_eq_ite (p : Char) :
    (if p = 'x' || p = 'X' then some 16 else if p = 'o' || p = 'O' then some 8
      else if p = 'b' || p = 'B' then some 2 else none) = radixOf p := by
  unfold radixOf
  split_ifs with hx ho hb
  · rcases (by simpa using hx : p = 'x' ∨ p = 'X') with rfl | rfl <;> rfl
  · rcases (by simpa using ho : p = 'o' ∨ p = 'O') with rfl | rfl <;> rfl
  · rcases (by simpa using hb : p = 'b' ∨ p = 'B') with rfl | rfl <;> rfl
  · split <;> simp_all

/-! ## Reading a trimmed text -/

/-- The characters of decimal literals, which the reader screens a text for: digits, points,
signs and exponent marks. -/
def isDecimalChar (c : Char) : Bool :=
  isDigitChar c || c = '.' || c = 'e' || c = 'E' || c = '+' || c = '-'

theorem isDecimalChar_of_digit {c : Char} (h : isDigitChar c = true) : isDecimalChar c = true := by
  simp [isDecimalChar, h]

theorem SignOf.allowed {sign : List Char} {neg : Bool} (h : SignOf sign neg) :
    ∀ c ∈ sign, isDecimalChar c = true := by
  cases h <;> simp [isDecimalChar]

theorem Mantissa.allowed {ms ds fs : List Char} (h : Mantissa ms ds fs) :
    ∀ c ∈ ms, isDecimalChar c = true := by
  cases h with
  | whole hd _ => exact fun c hc => isDecimalChar_of_digit (hd c hc)
  | point hd _ hf =>
    intro c hc
    rcases List.mem_append.1 hc with hc | hc
    · exact isDecimalChar_of_digit (hd c hc)
    · rcases List.mem_cons.1 hc with rfl | hc
      · rfl
      · exact isDecimalChar_of_digit (hf c hc)
  | fraction hf _ =>
    intro c hc
    rcases List.mem_cons.1 hc with rfl | hc
    · rfl
    · exact isDecimalChar_of_digit (hf c hc)

theorem ExponentPart.allowed {es : List Char} {x : Int} (h : ExponentPart es x) :
    ∀ c ∈ es, isDecimalChar c = true := by
  cases h with
  | none => simp
  | mark he hs hd _ =>
    intro c hc
    rcases List.mem_append.1 hc with hc | hc
    · rcases List.mem_cons.1 hc with rfl | hc
      · rcases he with rfl | rfl <;> rfl
      · exact hs.allowed c hc
    · exact isDecimalChar_of_digit (hd c hc)

/-- A decimal literal holds only digits, points, signs and exponent marks. -/
theorem DecimalLiteral.allowed {cs : List Char} {v : Float} (h : DecimalLiteral cs v) :
    ∀ c ∈ cs, isDecimalChar c = true := by
  cases h with
  | mk hs hm he =>
    intro c hc
    simp only [List.mem_append] at hc
    rcases hc with (hc | hc) | hc
    exacts [hs.allowed c hc, hm.allowed c hc, he.allowed c hc]

theorem DecimalLiteral.ne_nil {cs : List Char} {v : Float} (h : DecimalLiteral cs v) :
    cs ≠ [] := by
  cases h with
  | mk _ hm _ =>
    obtain ⟨c, t, rfl, -⟩ := hm.head
    simp

theorem radixOf_of_isDecimalChar {p : Char} (h : isDecimalChar p = true) : radixOf p = none := by
  unfold radixOf
  split
  all_goals first | rfl | exact absurd h (by decide)

/-- What the reader does with a text, case by case: nothing reads as zero, `Infinity` with an
optional sign as an infinity, a `0` and a radix letter as an unsigned integer in that radix, and
every other text as a decimal literal. The reader's pattern match is taken apart here once. -/
theorem readNumber?_cases (cs : List Char) :
    (cs = [] ∧ readNumber? cs = some 0) ∨
    (∃ sign neg, SignOf sign neg ∧ cs = sign ++ ['I', 'n', 'f', 'i', 'n', 'i', 't', 'y'] ∧
      readNumber? cs = some (if neg then -1 / 0 else 1 / 0)) ∨
    (∃ p rest, cs = '0' :: p :: rest ∧ readNumber? cs =
      (radixOf p).elim (readNumber?.decimalLiteral cs) fun b => (readUnsigned? b rest).map Binary64.ofInt) ∨
    ((∀ p rest, cs ≠ '0' :: p :: rest) ∧ readNumber? cs = readNumber?.decimalLiteral cs) := by
  unfold readNumber?
  split_ifs with hempty
  · exact .inl ⟨List.isEmpty_iff.1 hempty, rfl⟩
  right
  split
  next => exact .inl ⟨[], false, .none, rfl, rfl⟩
  next => exact .inl ⟨['+'], false, .plus, rfl, rfl⟩
  next => exact .inl ⟨['-'], true, .minus, rfl, rfl⟩
  next p rest =>
    refine .inr (.inl ⟨p, rest, rfl, ?_⟩)
    rw [radixOf_eq_ite]
    cases radixOf p <;> rfl
  next _ _ _ h => exact .inr (.inr ⟨h, rfl⟩)

theorem readNumber?_radix {p : Char} {b : Nat} (hb : radixOf p = some b) (rest : List Char) :
    readNumber? ('0' :: p :: rest) = (readUnsigned? b rest).map Binary64.ofInt := by
  rcases readNumber?_cases ('0' :: p :: rest) with ⟨h, -⟩ | ⟨sign, neg, hs, h, -⟩ | ⟨p', rest', h, hr⟩ |
      ⟨h, -⟩
  · cases h
  · cases hs <;> simp at h
  · obtain ⟨rfl, rfl⟩ : p = p' ∧ rest = rest' := by simpa using h
    rw [hr, hb]
    rfl
  · exact absurd rfl (h p rest)

theorem readNumber?_zero {p : Char} (hp : radixOf p = none) (rest : List Char) :
    readNumber? ('0' :: p :: rest) = readNumber?.decimalLiteral ('0' :: p :: rest) := by
  rcases readNumber?_cases ('0' :: p :: rest) with ⟨h, -⟩ | ⟨sign, neg, hs, h, -⟩ | ⟨p', rest', h, hr⟩ |
      ⟨h, -⟩
  · cases h
  · cases hs <;> simp at h
  · obtain ⟨rfl, rfl⟩ : p = p' ∧ rest = rest' := by simpa using h
    rw [hr, hp]
    rfl
  · exact absurd rfl (h p rest)

theorem readFloat?_of_decimalLiteral {cs : List Char} {v : Float}
    (h : readNumber?.decimalLiteral cs = some v) : readFloat? cs = some v := by
  unfold readNumber?.decimalLiteral at h
  split_ifs at h
  exact h

/-- A nonempty text of decimal characters is read as a decimal. -/
theorem readNumber?_of_allowed {cs : List Char} (hne : cs ≠ [])
    (h : ∀ c ∈ cs, isDecimalChar c = true) : readNumber? cs = readFloat? cs := by
  have hdec : readNumber?.decimalLiteral cs = readFloat? cs := by
    unfold readNumber?.decimalLiteral
    rw [if_pos]
    exact List.all_eq_true.2 h
  rcases readNumber?_cases cs with ⟨h0, -⟩ | ⟨sign, neg, -, hcs, -⟩ | ⟨p, rest, hcs, hr⟩ | ⟨-, hr⟩
  · exact absurd h0 hne
  · -- an infinity word holds an `I`, which no decimal holds
    exact absurd (h 'I' (by simp [hcs])) (by decide)
  · rw [hr, radixOf_of_isDecimalChar (h p (by simp [hcs]))]
    exact hdec
  · rw [hr]
    exact hdec

/-- What the reader reads from a trimmed text of at most 65000 characters with no radix quirk
is a script numeral. -/
theorem numeral_of_readNumber? {cs : List Char} {v : Float} (hlen : cs.length ≤ 65000)
    (hq : ¬RadixQuirk cs) (h : readNumber? cs = some v) : Numeral cs v := by
  rcases readNumber?_cases cs with ⟨rfl, hr⟩ | ⟨sign, neg, hs, rfl, hr⟩ | ⟨p, rest, rfl, hr⟩ | ⟨-, hr⟩
  · rw [hr] at h
    cases h
    exact .blank
  · rw [hr] at h
    cases h
    exact .infinity hs
  · rw [hr] at h
    cases hb : radixOf p with
    | none =>
      rw [hb] at h
      exact .decimal (DecimalLiteral.of_readFloat? (readFloat?_of_decimalLiteral h) hlen)
    | some b =>
      rw [hb] at h
      have hplus : rest.head? ≠ some '+' := fun hp => hq ⟨p, b, rest, rfl, hb, .inl hp⟩
      cases hr : readUnsigned? b rest with
      | none => simp [hr] at h
      | some n =>
        simp only [Option.elim, hr] at h
        cases h
        obtain ⟨hne, vs, hvs, rfl, -⟩ := (readUnsigned?_eq_some_iff hplus).1 hr
        exact .radix hb hne hvs
  · rw [hr] at h
    exact .decimal (DecimalLiteral.of_readFloat? (readFloat?_of_decimalLiteral h) hlen)

/-- A trimmed text of at most 65000 characters with no radix quirk is read exactly when it is a
script numeral, as the double the numeral denotes. -/
theorem readNumber?_eq_some_iff {cs : List Char} {v : Float} (hlen : cs.length ≤ 65000)
    (hq : ¬RadixQuirk cs) : readNumber? cs = some v ↔ Numeral cs v := by
  refine ⟨numeral_of_readNumber? hlen hq, fun h => ?_⟩
  cases h with
  | blank => rfl
  | infinity hs => cases hs <;> rfl
  | decimal hd =>
    rw [readNumber?_of_allowed hd.ne_nil hd.allowed]
    exact hd.readFloat? hlen
  | @radix p b ds vs hb hne hvs =>
    have hplus : ds.head? ≠ some '+' := fun hp => hq ⟨p, b, ds, rfl, hb, .inl hp⟩
    have hlt : Nat.ofDigits b vs.reverse < 2 ^ 64 :=
      Nat.lt_of_not_le fun hge => hq ⟨p, b, ds, rfl, hb, .inr ⟨vs, hvs, hge⟩⟩
    rw [readNumber?_radix hb, (readUnsigned?_eq_some_iff hplus).2 ⟨hne, vs, hvs, rfl, hlt⟩]
    rfl

/-- A text without U+0085 and U+FEFF, of at most 65000 characters and with no radix quirk once
trimmed, is read exactly when script reads it, as the double script reads. -/
theorem parseNumber?_eq_some_iff {s : String} {v : Float} (h85 : '\u0085' ∉ s.toList)
    (hbom : '\uFEFF' ∉ s.toList) (hlen : s.length ≤ 65000)
    (hq : ¬RadixQuirk (scriptTrim s.toList)) : parseNumber? s = some v ↔ ScriptNumber s v := by
  have htrim := trimChars_eq_scriptTrim h85 hbom
  have hlen' : (scriptTrim s.toList).length ≤ 65000 := by
    rw [← htrim]
    exact (Text.length_trimChars_le _).trans hlen
  rw [parseNumber?, htrim, ScriptNumber]
  exact readNumber?_eq_some_iff hlen' hq

/-! ## JSON values -/

/-- What script `Number` gives for a JSON value, given what it gives for a text. An array reads
through its text, its items' texts joined by commas: no item reads as zero, two or more as NaN
(no numeral holds a comma), and one item as that item's text. -/
def scriptNumberOf (text : String → Float) : Json → Float
  | .null => 0
  | .bool b => if b then 1 else 0
  | .int n => Binary64.ofInt n
  | .float f => f
  | .str s => text s
  | .arr [] => 0
  -- a boolean's text, `true` or `false`, is no numeral, and negative zero's text is `0`; the
  -- text of any other item reads as the item
  | .arr [.bool _] => nan
  | .arr [.float f] => if f = -0.0 then 0 else f
  | .arr [x] => scriptNumberOf text x
  | .arr _ => nan
  | .obj _ => nan

/-- One-item arrays around a boolean or negative zero, at any depth: their text, `true`,
`false` or `0`, does not read as the item. -/
def WrapsBoolOrNegZero : Json → Prop
  | .arr [.bool _] => True
  | .arr [.float f] => f = -0.0
  | .arr [x] => WrapsBoolOrNegZero x
  | _ => False

/-- `toNumberOf` reads a JSON value as script does, its texts as `parseNumber?` reads them,
unless one-item arrays wrap a boolean or negative zero. -/
theorem toNumberOf_eq_scriptNumberOf (j : Json) (hj : ¬WrapsBoolOrNegZero j) :
    toNumberOf j = scriptNumberOf (fun s => (parseNumber? s).getD nan) j := by
  fun_induction scriptNumberOf (fun s => (parseNumber? s).getD nan) j with
  | case3 b hb =>
    obtain rfl : b = false := by simpa using hb
    rfl
  | case8 => exact absurd trivial hj
  | case9 => exact absurd rfl hj
  | case11 x hb hf ih =>
    simp only [WrapsBoolOrNegZero] at hj
    rw [← ih hj]
    rfl
  | case12 items hnil hb hf hone =>
    rcases items with _ | ⟨a, _ | ⟨b, rest⟩⟩
    · exact absurd rfl hnil
    · exact absurd rfl (hone a)
    · rfl
  | _ => rfl

/-! ## Agreement with script -/

/-- Number texts and JSON values read as script's `Number` reads them, but for four quirks:
the blanks U+0085 (trimmed here) and U+FEFF (trimmed by script), a radix integer with a `+`
after its prefix (read here) or worth `2^64` or more (refused here), and one-item arrays around a
boolean or negative zero (read through the item here, through its text by script). Texts of
more than 65000 characters are left out, since the exponent stops growing at `2^16` as it is
read. An absent value is NaN, as script's `undefined` is. -/
theorem numbers_read_as_script_numbers (s : String) (j : Json) :
    ('\u0085' ∉ s.toList → '\uFEFF' ∉ s.toList → s.length ≤ 65000 →
      ¬RadixQuirk (scriptTrim s.toList) →
        ∀ v, parseNumber? s = some v ↔ ScriptNumber s v) ∧
    (¬WrapsBoolOrNegZero j →
      toNumberOf j = scriptNumberOf (fun t => (parseNumber? t).getD nan) j) ∧
    toNumber none = nan :=
  ⟨fun h85 hbom hlen hq _ => parseNumber?_eq_some_iff h85 hbom hlen hq,
    toNumberOf_eq_scriptNumberOf j, rfl⟩

/-- The text ` 12 ` and the array `["12"]` meet the conditions and read as script reads them. -/
theorem twelve_reads_as_script_number :
    ('\u0085' ∉ " 12 ".toList ∧ '\uFEFF' ∉ " 12 ".toList ∧ " 12 ".length ≤ 65000 ∧
      ¬RadixQuirk (scriptTrim " 12 ".toList)) ∧
    (parseNumber? " 12 " = some 12 ↔ ScriptNumber " 12 " 12) ∧
    ¬WrapsBoolOrNegZero (.arr [.str "12"]) ∧
    toNumberOf (.arr [.str "12"])
      = scriptNumberOf (fun t => (parseNumber? t).getD nan) (.arr [.str "12"]) := by
  have h85 : '\u0085' ∉ " 12 ".toList := by decide
  have hbom : '\uFEFF' ∉ " 12 ".toList := by decide
  have hlen : " 12 ".length ≤ 65000 := by decide
  have hq : ¬RadixQuirk (scriptTrim " 12 ".toList) := by
    have htrim : scriptTrim " 12 ".toList = ['1', '2'] := by decide
    rintro ⟨p, b, rest, h, -⟩
    rw [htrim] at h
    simp at h
  have hj : ¬WrapsBoolOrNegZero (.arr [.str "12"]) := by simp [WrapsBoolOrNegZero]
  exact ⟨⟨h85, hbom, hlen, hq⟩,
    (numbers_read_as_script_numbers " 12 " (.arr [.str "12"])).1 h85 hbom hlen hq 12, hj,
    (numbers_read_as_script_numbers " 12 " (.arr [.str "12"])).2.1 hj⟩

/-- `0x+1` reads as one, where script reads no number. -/
theorem plus_after_radix_prefix_is_read :
    parseNumber? "0x+1" = some (Binary64.ofInt 1) ∧ ∀ v, ¬ScriptNumber "0x+1" v := by
  refine ⟨rfl, fun v h => ?_⟩
  have htrim : scriptTrim "0x+1".toList = ['0', 'x', '+', '1'] := by decide
  rw [ScriptNumber, htrim] at h
  generalize hcs : ['0', 'x', '+', '1'] = cs at h
  cases h with
  | blank => simp at hcs
  | @infinity sign _ _ =>
    have hl := congrArg List.length hcs
    simp only [List.length_append, List.length_cons, List.length_nil] at hl
    omega
  | decimal hd => exact absurd (hd.allowed 'x' (by simp [← hcs])) (by decide)
  | radix hb hne hvs =>
    simp only [List.cons.injEq] at hcs
    obtain ⟨-, rfl, rfl⟩ := hcs
    simp [digitIn] at hvs

end Loose

end Storyboard
