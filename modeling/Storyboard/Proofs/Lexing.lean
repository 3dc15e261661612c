import Mathlib.Data.List.TakeWhile
import Storyboard.Script.Arith

/-!
# Cutting arithmetic text into tokens

The lexical layer of arithmetic text, as its grammar states it. A numeral is digits with an
optional point and fraction, or a point and some digits (`Numeral`). `Lexes` cuts text into
the four operators, the two parentheses and numbers, with blanks before any token and at
the end and none inside a number; a number runs as far as the text lets it, so that no
character after it could extend it.

Main statements: `Token.scan` succeeds exactly on the lexings and gives their tokens
(`scan_eq_some_iff`), and every numeral reads as a double (`Numeral.readFloat?_isSome`), so
that the scanner's branches for a number that does not read are never taken.

The scanner is unfolded one token at a time (`scan_gap` ... `scan_point`); a numeral that
nothing extends is followed by no digit, which pins down where each `takeWhile` stops
(`Numeral.ends`, `not_numeral_snoc`).
-/

namespace Storyboard

namespace Token

open Decimal

/-- Characters that are all ASCII digits. -/
def Digits (cs : List Char) : Prop := ∀ c ∈ cs, isDigitChar c = true

/-- The characters of a number: digits with an optional point and fraction, or a point and
some digits. -/
inductive Numeral : List Char → Prop
  | whole {ds : List Char} : Digits ds → ds ≠ [] → Numeral ds
  | point {ds fs : List Char} : Digits ds → ds ≠ [] → Digits fs → Numeral (ds ++ '.' :: fs)
  | fraction {fs : List Char} : Digits fs → fs ≠ [] → Numeral ('.' :: fs)

/-- Text cut into tokens as the grammar reads it: blanks before any token and at the end, and
each number running as far as the text lets it. -/
inductive Lexes : List Char → List Token → Prop
  | nil : Lexes [] []
  | blank {c : Char} {cs : List Char} {ts : List Token} :
      isGap c = true → Lexes cs ts → Lexes (c :: cs) ts
  | op {c : Char} {cs : List Char} {ts : List Token} :
      (c = '+' ∨ c = '-' ∨ c = '*' ∨ c = '/') → Lexes cs ts → Lexes (c :: cs) (.op c :: ts)
  | lparen {cs : List Char} {ts : List Token} : Lexes cs ts → Lexes ('(' :: cs) (.lparen :: ts)
  | rparen {cs : List Char} {ts : List Token} : Lexes cs ts → Lexes (')' :: cs) (.rparen :: ts)
  | num {ns rest : List Char} {v : Float} {ts : List Token} :
      Numeral ns → readFloat? ns = some v → (∀ c ∈ rest.head?, ¬Numeral (ns ++ [c])) →
      Lexes rest ts → Lexes (ns ++ rest) (.num v :: ts)

/-! ## Numerals -/

theorem not_digit_point : isDigitChar '.' = false := by decide

theorem isDigitChar_iff_toNat {c : Char} :
    isDigitChar c = true ↔ 48 ≤ c.toNat ∧ c.toNat ≤ 57 := by
  have h0 : ('0' : Char).val.toNat = 48 := rfl
  have h9 : ('9' : Char).val.toNat = 57 := rfl
  simp only [isDigitChar, Bool.and_eq_true, decide_eq_true_eq, Char.le_def, UInt32.le_iff_toNat_le,
    Char.toNat, h0, h9]

theorem digits_append {as bs : List Char} (ha : Digits as) (hb : Digits bs) : Digits (as ++ bs) := by
  intro c hc
  rcases List.mem_append.1 hc with h | h
  exacts [ha c h, hb c h]

theorem digits_takeWhile (cs : List Char) : Digits (cs.takeWhile isDigitChar) :=
  fun _ h => List.mem_takeWhile_imp h

theorem not_digit_of_mem_head_dropWhile {cs : List Char} {c : Char}
    (h : c ∈ (cs.dropWhile isDigitChar).head?) : isDigitChar c = false := by
  have hd := List.head?_dropWhile_not isDigitChar cs
  rw [Option.mem_def.1 h] at hd
  exact hd

/-- A sign is read only from a leading `-` or `+`. -/
theorem readSign_of_ne {c : Char} (hm : c ≠ '-') (hp : c ≠ '+') (r : List Char) :
    readSign (c :: r) = (false, c :: r) := by
  rw [readSign]
  all_goals simp_all

theorem readSign_of_digit {c : Char} (hc : isDigitChar c = true) (r : List Char) :
    readSign (c :: r) = (false, c :: r) := by
  have hm : c ≠ '-' := by rintro rfl; exact absurd hc (by decide)
  have hp : c ≠ '+' := by rintro rfl; exact absurd hc (by decide)
  exact readSign_of_ne hm hp r

namespace Numeral

theorem snoc_digit {ns : List Char} {c : Char} (h : Numeral ns) (hc : isDigitChar c = true) :
    Numeral (ns ++ [c]) := by
  have hcs : Digits [c] := by simpa [Digits] using hc
  cases h with
  | whole hds hne => exact .whole (digits_append hds hcs) (by simp)
  | point hds hne hfs =>
    rw [List.append_assoc, List.cons_append]
    exact .point hds hne (digits_append hfs hcs)
  | fraction hfs hne =>
    rw [List.cons_append]
    exact .fraction (digits_append hfs hcs) (by simp)

/-- What can follow a numeral and leave one: a digit, or a point after digits alone. -/
theorem snoc_inv {ns : List Char} {c : Char} (h : Numeral (ns ++ [c])) :
    isDigitChar c = true ∨ (c = '.' ∧ Digits ns) := by
  generalize hm : ns ++ [c] = m at h
  cases h with
  | whole hds hne => exact .inl (hds c (by rw [← hm]; simp))
  | @point ds fs hds hne hfs =>
    rcases List.eq_nil_or_concat fs with rfl | ⟨fs', x, rfl⟩
    · obtain ⟨rfl, hc⟩ := List.append_inj' hm rfl
      exact .inr ⟨by simpa using hc, hds⟩
    · have hm' : ns ++ [c] = (ds ++ '.' :: fs') ++ [x] := by rw [hm]; simp
      obtain ⟨-, hc⟩ := List.append_inj' hm' rfl
      obtain rfl : c = x := by simpa using hc
      exact .inl (hfs c (by simp))
  | @fraction fs hfs hne =>
    rcases List.eq_nil_or_concat fs with rfl | ⟨fs', x, rfl⟩
    · exact absurd rfl hne
    · have hm' : ns ++ [c] = ('.' :: fs') ++ [x] := by rw [hm]; simp
      obtain ⟨-, hc⟩ := List.append_inj' hm' rfl
      obtain rfl : c = x := by simpa using hc
      exact .inl (hfs c (by simp))

/-- A numeral that nothing extends is followed by no digit. -/
theorem ends {ns rest : List Char} (h : Numeral ns) (hend : ∀ c ∈ rest.head?, ¬Numeral (ns ++ [c])) :
    rest.takeWhile isDigitChar = [] ∧ rest.dropWhile isDigitChar = rest := by
  rcases rest with _ | ⟨x, r⟩
  · exact ⟨rfl, rfl⟩
  · have hx : ¬isDigitChar x = true := fun hx => hend x rfl (h.snoc_digit hx)
    exact ⟨List.takeWhile_cons_of_neg hx, List.dropWhile_cons_of_neg hx⟩

/-- Every numeral reads as a double, so reading a number never fails. -/
theorem readFloat?_isSome {ns : List Char} (h : Numeral ns) : (readFloat? ns).isSome := by
  cases h with
  | @whole ds hds hne =>
    obtain ⟨d, ds', rfl⟩ := List.exists_cons_of_ne_nil hne
    have hd := hds d (by simp)
    simp [readFloat?, readMantissa, readExponent?, readSign_of_digit hd, List.takeWhile_eq_self_iff.2 hds, List.dropWhile_eq_nil_iff.2 hds]
  | @point ds fs hds hne hfs =>
    obtain ⟨d, ds', rfl⟩ := List.exists_cons_of_ne_nil hne
    have hd := hds d (by simp)
    have hds' : Digits ds' := fun x hx => hds x (List.mem_cons_of_mem d hx)
    simp [readFloat?, readMantissa, readExponent?, readSign_of_digit hd, List.takeWhile_cons_of_pos hd, List.dropWhile_cons_of_pos hd,
      List.takeWhile_append_of_pos hds', List.dropWhile_append_of_pos hds', not_digit_point,
      List.takeWhile_eq_self_iff.2 hfs, List.dropWhile_eq_nil_iff.2 hfs]
  | @fraction fs hfs hne =>
    simp [readFloat?, readMantissa, readExponent?, readSign_of_ne (c := '.') (by decide) (by decide),
      not_digit_point, List.takeWhile_eq_self_iff.2 hfs,
      List.dropWhile_eq_nil_iff.2 hfs, hne]

end Numeral

/-- Past the digits that follow it, a numeral can only go on with a point, and only if it
has none. -/
theorem not_numeral_snoc {ns rest : List Char} {c : Char} (hc : c ∈ (rest.dropWhile isDigitChar).head?)
    (hpt : c = '.' → '.' ∈ ns) : ¬Numeral (ns ++ [c]) := by
  intro hn
  rcases hn.snoc_inv with hd | ⟨rfl, hds⟩
  · rw [not_digit_of_mem_head_dropWhile hc] at hd
    cases hd
  · exact absurd (hds '.' (hpt rfl)) (by decide)

/-! ## The scanner, one token at a time -/

/-- A digit starts no other kind of token. -/
theorem digit_starts_number {c : Char} (hc : isDigitChar c = true) :
    isGap c = false ∧ (c = '+' || c = '-' || c = '*' || c = '/') = false ∧ c ≠ '(' ∧ c ≠ ')' := by
  refine ⟨?_, ?_, ?_, ?_⟩
  · cases h : isGap c
    · rfl
    · simp only [isGap, Bool.or_eq_true, decide_eq_true_eq] at h
      rcases h with ((rfl | rfl) | rfl) | rfl <;> exact absurd hc (by decide)
  · cases h : (c = '+' || c = '-' || c = '*' || c = '/')
    · rfl
    · simp only [Bool.or_eq_true, decide_eq_true_eq] at h
      rcases h with ((rfl | rfl) | rfl) | rfl <;> exact absurd hc (by decide)
  · rintro rfl
    exact absurd hc (by decide)
  · rintro rfl
    exact absurd hc (by decide)

/-- One step of the scanner: what the first character starts. A digit starts a number that
takes the point after its digits, if there is one, and the digits after that; a point starts
a number when digits follow it. -/
theorem scan_cons (c : Char) (rest : List Char) :
    scan (c :: rest) =
      if isGap c then scan rest
      else if c = '+' || c = '-' || c = '*' || c = '/' then (scan rest).map (.op c :: ·)
      else if c = '(' then (scan rest).map (.lparen :: ·)
      else if c = ')' then (scan rest).map (.rparen :: ·)
      else if isDigitChar c then
        if (rest.dropWhile isDigitChar).head? = some '.' then
          (readFloat? (c :: rest.takeWhile isDigitChar ++ ['.'] ++
              (rest.dropWhile isDigitChar).tail.takeWhile isDigitChar)).bind fun f =>
            (scan ((rest.dropWhile isDigitChar).tail.dropWhile isDigitChar)).map (.num f :: ·)
        else
          (readFloat? (c :: rest.takeWhile isDigitChar)).bind fun f =>
            (scan (rest.dropWhile isDigitChar)).map (.num f :: ·)
      else if c = '.' then
        if rest.takeWhile isDigitChar = [] then none
        else
          (readFloat? ('.' :: rest.takeWhile isDigitChar)).bind fun f =>
            (scan (rest.dropWhile isDigitChar)).map (.num f :: ·)
      else none := by
  rw [scan.eq_def]
  -- the list is a cons: take its branch, keeping the lets the cases below unfold
  dsimp -zeta only
  split_ifs <;> try rfl
  · -- digits and a point: what follows the digits starts with the point
    rename_i hpt
    obtain ⟨r, hr⟩ := List.head?_eq_some_iff.1 hpt
    dsimp only
    split
    · next r' heq =>
      obtain rfl : r' = r := (List.cons.inj (heq.symm.trans hr)).2
      rw [hr, List.tail_cons]
      cases readFloat? (c :: rest.takeWhile isDigitChar ++ ['.'] ++ r'.takeWhile isDigitChar) <;> rfl
    · next hne => exact absurd hr (hne r)
  · -- digits with no point after them
    rename_i hpt
    dsimp only
    split
    · next r heq => exact absurd (by rw [heq]; rfl) hpt
    · cases readFloat? (c :: rest.takeWhile isDigitChar) <;> rfl
  · -- a point with no digits after it
    rename_i hfrac
    simp [hfrac]
  · -- a point and the digits after it
    rename_i hfrac
    dsimp only
    rw [if_neg (by simpa [List.isEmpty_iff] using hfrac)]
    cases readFloat? ('.' :: rest.takeWhile isDigitChar) <;> rfl

theorem scan_gap {c : Char} (h : isGap c = true) (rest : List Char) : scan (c :: rest) = scan rest := by
  rw [scan_cons, if_pos h]

theorem scan_op {c : Char} (h : c = '+' ∨ c = '-' ∨ c = '*' ∨ c = '/') (rest : List Char) :
    scan (c :: rest) = (scan rest).map (.op c :: ·) := by
  rcases h with rfl | rfl | rfl | rfl <;> rw [scan_cons] <;> rfl

theorem scan_lparen (rest : List Char) : scan ('(' :: rest) = (scan rest).map (.lparen :: ·) := by
  rw [scan_cons]
  rfl

theorem scan_rparen (rest : List Char) : scan (')' :: rest) = (scan rest).map (.rparen :: ·) := by
  rw [scan_cons]
  rfl

/-- Digits that no point follows are read as a whole number. -/
theorem scan_digit_whole {c : Char} (hc : isDigitChar c = true) {rest : List Char}
    (hd : ∀ r, rest.dropWhile isDigitChar ≠ '.' :: r) :
    scan (c :: rest) = (readFloat? (c :: rest.takeWhile isDigitChar)).bind fun f =>
      (scan (rest.dropWhile isDigitChar)).map (.num f :: ·) := by
  obtain ⟨hg, ho, hl, hr⟩ := digit_starts_number hc
  have hpt : (rest.dropWhile isDigitChar).head? ≠ some '.' := fun h => by
    obtain ⟨r, hr⟩ := List.head?_eq_some_iff.1 h
    exact hd r hr
  rw [scan_cons, if_neg (by simp [hg]), if_neg (by simp [ho]), if_neg hl, if_neg hr, if_pos hc,
    if_neg hpt]

/-- Digits followed by a point take the point and the digits after it. -/
theorem scan_digit_point {c : Char} (hc : isDigitChar c = true) {rest r : List Char}
    (hd : rest.dropWhile isDigitChar = '.' :: r) :
    scan (c :: rest) =
      (readFloat? (c :: rest.takeWhile isDigitChar ++ ['.'] ++ r.takeWhile isDigitChar)).bind fun f =>
        (scan (r.dropWhile isDigitChar)).map (.num f :: ·) := by
  obtain ⟨hg, ho, hl, hr⟩ := digit_starts_number hc
  rw [scan_cons, if_neg (by simp [hg]), if_neg (by simp [ho]), if_neg hl, if_neg hr, if_pos hc,
    if_pos (by rw [hd]; rfl), hd, List.tail_cons]

/-- A point followed by digits is read as a fraction. -/
theorem scan_point {rest : List Char} (hne : rest.takeWhile isDigitChar ≠ []) :
    scan ('.' :: rest) = (readFloat? ('.' :: rest.takeWhile isDigitChar)).bind fun f =>
      (scan (rest.dropWhile isDigitChar)).map (.num f :: ·) := by
  rw [scan_cons]
  simp +decide only [hne, if_true, if_false]

/-- The scanner reads a numeral that nothing extends as one number. -/
theorem scan_numeral {ns rest : List Char} {v : Float} (hn : Numeral ns) (hv : readFloat? ns = some v)
    (hend : ∀ c ∈ rest.head?, ¬Numeral (ns ++ [c])) :
    scan (ns ++ rest) = (scan rest).map (.num v :: ·) := by
  obtain ⟨htake, hdrop⟩ := hn.ends hend
  cases hn with
  | @whole ds hds hne =>
    obtain ⟨d, ds', rfl⟩ := List.exists_cons_of_ne_nil hne
    have hds' : Digits ds' := fun x hx => hds x (List.mem_cons_of_mem d hx)
    -- no point follows, or the numeral would take it
    have hpt : ∀ r, (ds' ++ rest).dropWhile isDigitChar ≠ '.' :: r := by
      intro r h
      rw [List.dropWhile_append_of_pos hds', hdrop] at h
      subst h
      exact hend '.' rfl (.point hds hne (fun _ h => nomatch h))
    rw [List.cons_append, scan_digit_whole (hds d (by simp)) hpt, List.takeWhile_append_of_pos hds',
      htake, List.append_nil, hv, List.dropWhile_append_of_pos hds', hdrop]
    rfl
  | @point ds fs hds hne hfs =>
    obtain ⟨d, ds', rfl⟩ := List.exists_cons_of_ne_nil hne
    have hds' : Digits ds' := fun x hx => hds x (List.mem_cons_of_mem d hx)
    have hpt : (ds' ++ '.' :: (fs ++ rest)).dropWhile isDigitChar = '.' :: (fs ++ rest) := by
      rw [List.dropWhile_append_of_pos hds', List.dropWhile_cons_of_neg (by decide)]
    simp only [List.cons_append, List.append_assoc]
    rw [scan_digit_point (hds d (by simp)) hpt, List.takeWhile_append_of_pos hds',
      List.takeWhile_cons_of_neg (by decide), List.append_nil, List.takeWhile_append_of_pos hfs, htake,
      List.append_nil, List.dropWhile_append_of_pos hfs, hdrop]
    simp only [List.cons_append, List.append_assoc, List.nil_append] at hv ⊢
    rw [hv]
    rfl
  | @fraction fs hfs hne =>
    have hfrac : (fs ++ rest).takeWhile isDigitChar = fs := by
      rw [List.takeWhile_append_of_pos hfs, htake, List.append_nil]
    rw [List.cons_append, scan_point (by rw [hfrac]; exact hne), hfrac, hv, List.dropWhile_append_of_pos hfs, hdrop]
    rfl

/-! ## The scanner cuts exactly the lexings -/

/-- A lexing is what the scanner gives. -/
theorem Lexes.scan_eq {cs : List Char} {ts : List Token} (h : Lexes cs ts) : scan cs = some ts := by
  induction h with
  | nil => rw [scan.eq_def]
  | blank hg _ ih => rw [scan_gap hg, ih]
  | op hc _ ih => rw [scan_op hc, ih]; rfl
  | lparen _ ih => rw [scan_lparen, ih]; rfl
  | rparen _ ih => rw [scan_rparen, ih]; rfl
  | num hn hv hend _ ih => rw [scan_numeral hn hv hend, ih]; rfl

/-- What the scanner gives is a lexing. -/
theorem lexes_of_scan {cs : List Char} {ts : List Token} (h : scan cs = some ts) : Lexes cs ts := by
  fun_induction scan cs generalizing ts with
  | case1 =>
    cases h
    exact .nil
  | case2 c rest hg ih => exact .blank hg (ih h)
  | case3 c rest _ hop ih =>
    obtain ⟨ts', h', rfl⟩ := Option.map_eq_some_iff.1 h
    exact .op (by simpa [or_assoc] using hop) (ih h')
  | case4 rest _ _ ih =>
    obtain ⟨ts', h', rfl⟩ := Option.map_eq_some_iff.1 h
    exact .lparen (ih h')
  | case5 rest _ _ _ ih =>
    obtain ⟨ts', h', rfl⟩ := Option.map_eq_some_iff.1 h
    exact .rparen (ih h')
  | case6 c rest _ _ _ _ hc intPart r hd f hf =>
    -- digits, a point and the digits after it
    rename_i ih
    obtain ⟨ts', h', rfl⟩ := Option.map_eq_some_iff.1 h
    have hsplit : c :: rest = ((c :: rest.takeWhile isDigitChar) ++ '.' :: r.takeWhile isDigitChar) ++
        r.dropWhile isDigitChar := by
      conv => lhs; rw [← List.takeWhile_append_dropWhile (p := isDigitChar) (l := rest), hd,
        ← List.takeWhile_append_dropWhile (p := isDigitChar) (l := r)]
      simp
    have hn : Numeral ((c :: rest.takeWhile isDigitChar) ++ '.' :: r.takeWhile isDigitChar) :=
      .point (fun x hx => (List.mem_cons.1 hx).elim (· ▸ hc) (digits_takeWhile rest x))
        (List.cons_ne_nil _ _) (digits_takeWhile r)
    rw [hsplit]
    exact .num hn (by simpa using hf) (fun x hx => not_numeral_snoc hx (fun _ => by simp)) (ih h')
  | case7 => cases h
  | case8 c rest _ _ _ _ hc intPart f hf hd =>
    -- digits with no point after them
    rename_i ih
    obtain ⟨ts', h', rfl⟩ := Option.map_eq_some_iff.1 h
    have hsplit : c :: rest = (c :: rest.takeWhile isDigitChar) ++ rest.dropWhile isDigitChar := by
      rw [List.cons_append, List.takeWhile_append_dropWhile]
    have hn : Numeral (c :: rest.takeWhile isDigitChar) :=
      .whole (fun x hx => (List.mem_cons.1 hx).elim (· ▸ hc) (digits_takeWhile rest x)) (List.cons_ne_nil _ _)
    rw [hsplit]
    refine .num hn hf (fun x hx => not_numeral_snoc hx ?_) (ih h')
    rintro rfl
    obtain ⟨tail, htail⟩ := List.head?_eq_some_iff.1 hx
    exact absurd htail (hd tail)
  | case9 => cases h
  | case10 => cases h
  | case11 rest frac hne f hf =>
    -- a point and the digits after it
    rename_i ih
    obtain ⟨ts', h', rfl⟩ := Option.map_eq_some_iff.1 h
    have hn : Numeral ('.' :: rest.takeWhile isDigitChar) :=
      .fraction (digits_takeWhile rest) (fun h => hne (List.isEmpty_iff.2 h))
    rw [← List.takeWhile_append_dropWhile (p := isDigitChar) (l := rest), ← List.cons_append]
    exact .num hn hf (fun x hx => not_numeral_snoc hx (fun _ => by simp)) (ih h')
  | case12 => cases h
  | case13 => cases h

/-- The scanner succeeds exactly on text the grammar cuts into tokens, and gives those tokens. -/
theorem scan_eq_some_iff {cs : List Char} {ts : List Token} : scan cs = some ts ↔ Lexes cs ts :=
  ⟨lexes_of_scan, Lexes.scan_eq⟩

end Token

end Storyboard
