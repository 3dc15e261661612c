import Storyboard.Proofs.Offsets

/-!
# What masking hides

Before it looks for an operator, `Expr.evaluate` hides the arguments of `.reduce(…)` and
`.filter(…)` calls: every character strictly inside a call's argument list becomes `_`, one `_`
for each of its bytes in the text as it is stored (`maskBytes`), so that operators written inside
a call's arguments do not split the expression.

Here the positions hidden are described on their own, without the scan. A character is inside a
call (`InsideCall`) when it comes after an opening `.reduce(` or `.filter(` and every stretch of
the text from the opening up to and including it opens at least as many parentheses as it closes
(`Enclosed`): the parenthesis that closes the call is the first one that closes more than the
stretch before it opened, and a call never closed runs to the end of the text. An opening inside
another call's arguments opens nothing new: all it encloses is inside the outer call already, so
taking every opening, not only the outermost, describes the same positions.

Main statement (`masking_hides_call_arguments`): masking keeps the byte length; every byte of the
masked text is `_` when it belongs to a character inside a call, and the text's own byte
otherwise; so an operator byte is seen exactly where the text has it outside every call.

The proof follows the scan (`mask`, one character at a time, with the depth of the call it is
in): a step at depth zero that meets an opening keeps the opening and goes on at depth one, and
any other step hides the character when the depth after it is positive. Through the scan the
hidden characters are those still enclosed by the parentheses open at the start, or inside a call
(`getElem?_mask`). The bytes follow character by character (`getElem?_hiddenBytes`).
-/

namespace Storyboard

namespace Expr

/-- The openings of the calls whose arguments are hidden. -/
def callOpenings : List (List Char) := [".reduce(".toList, ".filter(".toList]

/-- The parentheses a text opens and does not close; negative when it closes more. -/
def parenBalance (l : List Char) : Int := (l.count '(' : Int) - l.count ')'

/-- The character at `i` of `l` is still enclosed by `d` parentheses open before `l`: no prefix of
`l` up to and including it closes more than `d` parentheses beyond those it opens. -/
def Enclosed (d : Int) (l : List Char) (i : Nat) : Prop :=
  i < l.length ∧ ∀ k ≤ i + 1, 0 < d + parenBalance (l.take k)

instance (d : Int) (l : List Char) (i : Nat) : Decidable (Enclosed d l i) :=
  inferInstanceAs (Decidable (_ ∧ _))

/-- The character at `j` of `s` is inside the argument list of a call: a call opens at some `k`
and ends its opening before `j`, and the character is still enclosed by the opening's
parenthesis. -/
def InsideCall (s : List Char) (j : Nat) : Prop :=
  ∃ k < j, ∃ o ∈ callOpenings, o <+: s.drop k ∧ k + o.length ≤ j ∧
    Enclosed 1 (s.drop (k + o.length)) (j - (k + o.length))

instance (s : List Char) (j : Nat) : Decidable (InsideCall s j) :=
  inferInstanceAs (Decidable (∃ k, k < j ∧ _))

/-- The UTF-8 bytes of a text. -/
def utf8Bytes (cs : List Char) : List UInt8 := cs.flatMap String.utf8EncodeChar

/-- Byte `i` of `s` belongs to a character inside the argument list of a call. -/
def InsideByte (s : List Char) (i : Nat) : Prop :=
  ∃ j < s.length, InsideCall s j ∧ String.utf8Len (s.take j) ≤ i ∧ i < String.utf8Len (s.take (j + 1))

instance (s : List Char) (i : Nat) : Decidable (InsideByte s i) :=
  inferInstanceAs (Decidable (∃ j, j < s.length ∧ _))

/-! ## Parentheses -/

@[simp] theorem parenBalance_nil : parenBalance [] = 0 := rfl

theorem parenBalance_cons (c : Char) (l : List Char) :
    parenBalance (c :: l) = parenBalance [c] + parenBalance l := by
  simp only [parenBalance, List.count_cons, List.count_nil]
  push_cast
  omega

theorem parenBalance_append (l m : List Char) :
    parenBalance (l ++ m) = parenBalance l + parenBalance m := by
  simp only [parenBalance, List.count_append]
  push_cast
  omega

theorem parenBalance_singleton (c : Char) :
    parenBalance [c] = if c = '(' then 1 else if c = ')' then -1 else 0 := by
  by_cases h1 : c = '('
  · subst h1
    rfl
  · by_cases h2 : c = ')'
    · subst h2
      rfl
    · simp [parenBalance, h1, h2]

/-- Each opening is eight characters that never close more than they open and open one. -/
theorem callOpenings_plain : ∀ o ∈ callOpenings,
    o.length = 8 ∧ parenBalance o = 1 ∧ (∀ k ≤ 8, 0 ≤ parenBalance (o.take k)) ∧
      o.head? = some '.' ∧ ∀ k < 8, 0 < k → o[k]? ≠ some '.' := by
  decide

/-! ## Enclosed characters -/

theorem Enclosed.lt_length {d : Int} {l : List Char} {i : Nat} (h : Enclosed d l i) : i < l.length :=
  h.1

/-- Nothing is enclosed when no parenthesis is open. -/
theorem not_enclosed_of_nonpos {d : Int} (hd : d ≤ 0) (l : List Char) (i : Nat) : ¬ Enclosed d l i :=
  fun h => by
    have := h.2 0 (Nat.zero_le _)
    simp only [List.take_zero, parenBalance_nil] at this
    omega

theorem Enclosed.mono {d d' : Int} {l : List Char} {i : Nat} (h : Enclosed d l i) (hd : d ≤ d') :
    Enclosed d' l i :=
  ⟨h.1, fun k hk => by have := h.2 k hk; omega⟩

/-- The first character is enclosed when the parentheses are still open after it. -/
theorem enclosed_cons_zero (d : Int) (c : Char) (l : List Char) :
    Enclosed d (c :: l) 0 ↔ 0 < d ∧ 0 < d + parenBalance [c] := by
  constructor
  · intro h
    exact ⟨by simpa using h.2 0 (Nat.zero_le _), by simpa using h.2 1 le_rfl⟩
  · rintro ⟨h0, h1⟩
    refine ⟨Nat.succ_pos _, fun k hk => ?_⟩
    rcases Nat.le_one_iff_eq_zero_or_eq_one.1 hk with rfl | rfl
    · simpa using h0
    · simpa using h1

/-- A later character is enclosed when the parentheses are open before the first and, counting
the first, still open up to it. -/
theorem enclosed_cons_succ (d : Int) (c : Char) (l : List Char) (i : Nat) :
    Enclosed d (c :: l) (i + 1) ↔ 0 < d ∧ Enclosed (d + parenBalance [c]) l i := by
  constructor
  · intro h
    refine ⟨by simpa using h.2 0 (Nat.zero_le _), by simpa using h.1, fun k hk => ?_⟩
    have := h.2 (k + 1) (by omega)
    rw [List.take_succ_cons, parenBalance_cons] at this
    omega
  · rintro ⟨h0, hl, hk⟩
    refine ⟨by simpa using hl, fun k hk' => ?_⟩
    cases k with
    | zero => simpa using h0
    | succ k =>
      have := hk k (by omega)
      rw [List.take_succ_cons, parenBalance_cons]
      omega

/-- A character past a first stretch `l` is enclosed when no prefix of the stretch closes the
parentheses and, counting the stretch, they are still open up to the character. -/
theorem enclosed_append {d : Int} {l r : List Char} {i : Nat}
    (hl : ∀ k ≤ l.length, 0 < d + parenBalance (l.take k)) (hr : Enclosed (d + parenBalance l) r i) :
    Enclosed d (l ++ r) (l.length + i) := by
  refine ⟨by simpa using hr.1, fun k hk => ?_⟩
  by_cases hkl : k ≤ l.length
  · rw [List.take_append_of_le_length hkl]
    exact hl k hkl
  · obtain ⟨k', rfl⟩ : ∃ k', k = l.length + k' := ⟨k - l.length, by omega⟩
    rw [List.take_append, List.take_of_length_le (by omega), Nat.add_sub_cancel_left,
      parenBalance_append]
    have := hr.2 k' (by omega)
    omega

/-- A call opened inside enclosing parentheses encloses nothing they do not: its arguments are
enclosed by them already. -/
theorem enclosed_of_opening {d : Nat} {s o : List Char} {i : Nat} (hd : 0 < d) (ho : o ∈ callOpenings)
    (hp : o <+: s) (h : Enclosed 1 (s.drop o.length) i) : Enclosed d s (o.length + i) := by
  obtain ⟨hlen, hbal, hpre, -, -⟩ := callOpenings_plain o ho
  obtain ⟨r, rfl⟩ := hp
  rw [List.drop_left] at h
  refine enclosed_append (fun k hk => ?_) (h.mono (by omega))
  have := hpre k (by omega)
  omega

/-! ## Characters inside calls -/

theorem InsideCall.lt_length {s : List Char} {j : Nat} (h : InsideCall s j) : j < s.length := by
  obtain ⟨k, -, o, -, -, hle, he⟩ := h
  have := he.lt_length
  rw [List.length_drop] at this
  omega

/-- A character before the end of an opening is inside no call. -/
theorem not_insideCall_of_lt {s : List Char} {j : Nat} (hj : j < 8) : ¬ InsideCall s j := by
  rintro ⟨k, -, o, ho, -, hle, -⟩
  have := (callOpenings_plain o ho).1
  omega

/-- A text starts with a pattern when the pattern is a prefix of it. -/
theorem startsWith_eq_true_iff {cs pat : List Char} : startsWith cs pat = true ↔ pat <+: cs := by
  induction pat generalizing cs with
  | nil => simp [startsWith]
  | cons a pat ih =>
    cases cs with
    | nil => simp [startsWith]
    | cons c cs =>
      simp only [startsWith, Bool.and_eq_true, beq_iff_eq, ih, List.cons_prefix_cons]
      exact ⟨fun h => ⟨h.1.symm, h.2⟩, fun h => ⟨h.1.symm, h.2⟩⟩

/-- The scan's test for an opening: the text starts with one of the openings. -/
theorem opens_iff_startsWith {cs : List Char} :
    (∃ o ∈ callOpenings, o <+: cs) ↔
      (startsWith cs ".reduce(".toList || startsWith cs ".filter(".toList) = true := by
  simp only [callOpenings, List.mem_cons, List.not_mem_nil, or_false, Bool.or_eq_true,
    startsWith_eq_true_iff]
  constructor
  · rintro ⟨o, rfl | rfl, hp⟩
    · exact .inl hp
    · exact .inr hp
  · rintro (hp | hp)
    · exact ⟨_, .inl rfl, hp⟩
    · exact ⟨_, .inr rfl, hp⟩

/-- Two openings never overlap: one that starts after another starts past its end. -/
theorem opening_after_opening {s o o' : List Char} {k : Nat} (ho : o ∈ callOpenings) (hp : o <+: s)
    (ho' : o' ∈ callOpenings) (hp' : o' <+: s.drop k) (hk : 0 < k) : 8 ≤ k := by
  obtain ⟨hlen, -, -, -, hdot⟩ := callOpenings_plain o ho
  obtain ⟨hlen', -, -, hhead', -⟩ := callOpenings_plain o' ho'
  by_contra hk8
  -- the character at `k` is the first opening's own, which is no point, and the later one's first
  obtain ⟨t, rfl⟩ := hp
  obtain ⟨t', ht'⟩ := hp'
  have hs : (o ++ t)[k]? = o[k]? := List.getElem?_append_left (by omega)
  have hs' : (o ++ t)[k]? = some '.' := by
    have h0 : ((o ++ t).drop k)[0]? = o'[0]? := by
      rw [← ht', List.getElem?_append_left (by omega)]
    rw [List.getElem?_drop, Nat.add_zero] at h0
    rw [h0, ← List.head?_eq_getElem?, hhead']
  exact hdot k (by omega) hk (hs ▸ hs')

/-- The characters after the first: inside a call there, or inside one opening at the first. -/
theorem insideCall_cons_succ (c : Char) (l : List Char) (j : Nat) :
    InsideCall (c :: l) (j + 1) ↔ InsideCall l j ∨
      ∃ o ∈ callOpenings, o <+: c :: l ∧ o.length ≤ j + 1 ∧
        Enclosed 1 ((c :: l).drop o.length) (j + 1 - o.length) := by
  constructor
  · rintro ⟨k, hk, o, ho, hp, hle, he⟩
    cases k with
    | zero => exact .inr ⟨o, ho, by simpa using hp, by omega, by simpa using he⟩
    | succ k =>
      refine .inl ⟨k, by omega, o, ho, by simpa using hp, by omega, ?_⟩
      rw [List.drop_succ_cons] at hp
      simpa [Nat.add_right_comm k 1, Nat.succ_sub_succ] using he
  · rintro (⟨k, hk, o, ho, hp, hle, he⟩ | ⟨o, ho, hp, hle, he⟩)
    · refine ⟨k + 1, by omega, o, ho, by simpa using hp, by omega, ?_⟩
      simpa [Nat.add_right_comm k 1, Nat.succ_sub_succ] using he
    · have := (callOpenings_plain o ho).1
      exact ⟨0, by omega, o, ho, by simpa using hp, by omega, by simpa using he⟩

/-- Past a call's opening, a character is inside a call when the opening's parenthesis still
encloses it, or when a later call encloses it. -/
theorem insideCall_of_opening {s o : List Char} {j : Nat} (ho : o ∈ callOpenings) (hp : o <+: s)
    (hj : 8 ≤ j) :
    InsideCall s j ↔ Enclosed 1 (s.drop 8) (j - 8) ∨ InsideCall (s.drop 8) (j - 8) := by
  constructor
  · rintro ⟨k, hk, o', ho', hp', hle, he⟩
    have hlen' := (callOpenings_plain o' ho').1
    rw [hlen'] at hle he
    rcases Nat.eq_zero_or_pos k with rfl | hk0
    · exact .inl (by simpa using he)
    · -- a later opening starts past the end of the first
      obtain ⟨m, rfl⟩ : ∃ m, k = 8 + m :=
        ⟨k - 8, by have := opening_after_opening ho hp ho' hp' hk0; omega⟩
      refine .inr ⟨m, by omega, o', ho', by rwa [List.drop_drop], by omega, ?_⟩
      rw [hlen', List.drop_drop, show 8 + (m + 8) = 8 + m + 8 by omega,
        show j - 8 - (m + 8) = j - (8 + m + 8) by omega]
      exact he
  · rintro (he | ⟨m, hm, o', ho', hp', hle, he⟩)
    · have hlen := (callOpenings_plain o ho).1
      refine ⟨0, by omega, o, ho, by simpa using hp, by omega, ?_⟩
      rw [Nat.zero_add, hlen]
      exact he
    · refine ⟨8 + m, by omega, o', ho', by rwa [List.drop_drop] at hp', by omega, ?_⟩
      rw [List.drop_drop, ← Nat.add_assoc,
        show j - 8 - (m + o'.length) = j - (8 + m + o'.length) by omega] at he
      exact he

/-! ## The scan -/

section Step

/-! One step of the scan over a character `c` that is not taken as an opening: the depth `d`
before it moves to `d'` by the character's balance inside a call, and stays zero outside. -/

variable {d d' : Nat} {c : Char} {rest : List Char}

/-- The first character is hidden exactly when it is enclosed. -/
theorem pos_iff_enclosed_cons_zero (hin : 0 < d → (d' : Int) = d + parenBalance [c])
    (hout : d = 0 → d' = 0) : 0 < d' ↔ Enclosed d (c :: rest) 0 := by
  rw [enclosed_cons_zero]
  by_cases hd : 0 < d
  · have := hin hd
    constructor
    · intro h
      exact ⟨by omega, by omega⟩
    · intro h
      omega
  · rw [hout (by omega)]
    constructor
    · intro h
      omega
    · intro h
      omega

/-- A later character is hidden in the rest, from the depth after the first, exactly when it is
hidden in the whole text from the depth before it. -/
theorem hidden_iff_hidden_cons_succ {j : Nat} (hin : 0 < d → (d' : Int) = d + parenBalance [c])
    (hout : d = 0 → d' = 0) (hnot : d = 0 → ¬ ∃ o ∈ callOpenings, o <+: c :: rest) :
    (Enclosed d' rest j ∨ InsideCall rest j) ↔
      (Enclosed d (c :: rest) (j + 1) ∨ InsideCall (c :: rest) (j + 1)) := by
  rw [insideCall_cons_succ, enclosed_cons_succ]
  by_cases hd : 0 < d
  · rw [← hin hd]
    constructor
    · rintro (he | hi)
      · exact .inl ⟨by omega, he⟩
      · exact .inr (.inl hi)
    · rintro (⟨-, he⟩ | hi | ⟨o, ho, hp, hle, he⟩)
      · exact .inl he
      · exact .inr hi
      · -- a call opened here is inside the enclosing parentheses
        have hinside := enclosed_of_opening hd ho hp he
        rw [Nat.add_sub_cancel' hle, enclosed_cons_succ, ← hin hd] at hinside
        exact .inl hinside.2
  · have hd0 : d = 0 := by omega
    rw [hout hd0]
    constructor
    · rintro (he | hi)
      · exact absurd he (not_enclosed_of_nonpos (by omega) _ _)
      · exact .inr (.inl hi)
    · rintro (⟨h, -⟩ | hi | ⟨o, ho, hp, -⟩)
      · omega
      · exact .inr hi
      · exact absurd ⟨o, ho, hp⟩ (hnot hd0)

end Step

/-- The characters the scan hides, from the depth `d` it starts at: those still enclosed by the
`d` parentheses open at the start, and those inside a call. -/
theorem getElem?_mask (cs : List Char) (d j : Nat) :
    (mask cs d)[j]? = if Enclosed d cs j ∨ InsideCall cs j then some '_' else cs[j]? := by
  fun_induction mask cs d generalizing j with
  | case1 d =>
    rw [if_neg]
    rintro (h | h)
    · exact absurd h.lt_length (Nat.not_lt_zero _)
    · exact absurd h.lt_length (Nat.not_lt_zero _)
  | case2 c rest d hcall head ih =>
    -- at depth zero an opening is kept and the scan goes on at depth one
    obtain ⟨hd, hopen⟩ := Bool.and_eq_true_iff.1 hcall
    obtain rfl : d = 0 := of_decide_eq_true hd
    obtain ⟨o, ho, hp⟩ := opens_iff_startsWith.2 hopen
    have hlen := (callOpenings_plain o ho).1
    have hhead : head.length = 8 := by
      simp only [head, List.length_take]
      have := hp.length_le
      omega
    have h0 : ¬ Enclosed ((0 : Nat) : Int) (c :: rest) j := not_enclosed_of_nonpos (by omega) _ _
    simp only [h0, false_or]
    by_cases hj : j < 8
    · rw [List.getElem?_append_left (by omega), if_neg (not_insideCall_of_lt hj)]
      simp only [head, List.getElem?_take, if_pos hj]
    · have ih1 : (mask ((c :: rest).drop 8) 1)[j - 8]? =
          if Enclosed 1 ((c :: rest).drop 8) (j - 8) ∨ InsideCall ((c :: rest).drop 8) (j - 8)
          then some '_' else ((c :: rest).drop 8)[j - 8]? := ih (j - 8)
      have hin := insideCall_of_opening (j := j) ho hp (by omega)
      have hget : (c :: rest)[j]? = ((c :: rest).drop 8)[j - 8]? := by
        rw [List.getElem?_drop, Nat.add_sub_cancel' (by omega)]
      rw [List.getElem?_append_right (by omega), hhead, ih1]
      simp only [hin, hget]
  | case3 c rest d hcall d' ih =>
    -- the depth after a character: one more or one fewer at a parenthesis inside a call
    have hd' : (0 < d → (d' : Int) = d + parenBalance [c]) ∧ (d = 0 → d' = 0) := by
      refine ⟨fun hd => ?_, fun hd => ?_⟩
      · simp only [d', dif_pos hd, parenBalance_singleton]
        split
        · omega
        · split <;> omega
      · simp only [d']
        rw [dif_neg (by omega)]
        exact hd
    -- an opening at depth zero is the other case, so one met here is inside enclosing parentheses
    have hnot : d = 0 → ¬ ∃ o ∈ callOpenings, o <+: c :: rest := by
      rintro rfl hopen
      apply hcall
      rw [opens_iff_startsWith.1 hopen]
      rfl
    cases j with
    | zero =>
      simp only [List.getElem?_cons_zero, not_insideCall_of_lt (s := c :: rest) (j := 0) (by decide),
        or_false]
      have hpos : 0 < d' ↔ Enclosed d (c :: rest) 0 := pos_iff_enclosed_cons_zero hd'.1 hd'.2
      by_cases he : Enclosed d (c :: rest) 0
      · rw [if_pos he, if_pos (hpos.2 he)]
      · rw [if_neg he, if_neg (mt hpos.1 he)]
    | succ j =>
      rw [List.getElem?_cons_succ, List.getElem?_cons_succ, ih]
      have hiff := hidden_iff_hidden_cons_succ (j := j) hd'.1 hd'.2 hnot
      by_cases h : Enclosed d' rest j ∨ InsideCall rest j
      · rw [if_pos h, if_pos (hiff.1 h)]
      · rw [if_neg h, if_neg (mt hiff.2 h)]

/-! ## Bytes -/

theorem utf8Bytes_cons (c : Char) (cs : List Char) :
    utf8Bytes (c :: cs) = String.utf8EncodeChar c ++ utf8Bytes cs :=
  List.flatMap_cons

theorem length_utf8Bytes (cs : List Char) : (utf8Bytes cs).length = String.utf8Len cs := by
  induction cs with
  | nil => rfl
  | cons c cs ih =>
    rw [utf8Bytes_cons, List.length_append, String.length_utf8EncodeChar, ih, String.utf8Len_cons,
      Nat.add_comm]

theorem utf8Bytes_underscores (n : Nat) : utf8Bytes (List.replicate n '_') = List.replicate n 95 := by
  induction n with
  | zero => rfl
  | succ n ih => rw [List.replicate_succ, utf8Bytes_cons, ih]; rfl

/-- The bytes of a text whose characters stand at positions `k`, `k + 1`, …, those at the
positions `H` holds of written as `_`, one for each of their bytes. -/
def hiddenBytes (H : Nat → Prop) [DecidablePred H] : List Char → Nat → List UInt8
  | [], _ => []
  | c :: cs, k =>
    (if H k then List.replicate c.utf8Size 95 else String.utf8EncodeChar c) ++ hiddenBytes H cs (k + 1)

/-- A text masked character by character, laid out in bytes: the characters hidden become
`_` bytes, one for each of their bytes. -/
theorem utf8Bytes_flatMap_spread (H : Nat → Prop) [DecidablePred H] (xs : List Char) :
    ∀ (ms : List Char) (k : Nat), (∀ j < xs.length, ms[j]? = if H (k + j) then some '_' else xs[j]?) →
      utf8Bytes ((xs.zip ms).flatMap spread) = hiddenBytes H xs k := by
  induction xs with
  | nil => intro ms k _; rfl
  | cons x xs ih =>
    intro ms k hm
    obtain ⟨m, ms, rfl⟩ : ∃ m ms', ms = m :: ms' := by
      cases ms with
      | nil =>
        have := hm 0 (Nat.succ_pos _)
        split at this <;> simp at this
      | cons m ms => exact ⟨m, ms, rfl⟩
    have hrest : ∀ j < xs.length, ms[j]? = if H (k + 1 + j) then some '_' else xs[j]? := fun j hj => by
      simpa [Nat.add_right_comm k 1 j, Nat.add_assoc] using hm (j + 1) (by simp; omega)
    have hfirst : m = if H k then '_' else x := by
      have := hm 0 (Nat.succ_pos _)
      simp only [List.getElem?_cons_zero, Nat.add_zero] at this
      split at this <;> (rename_i h; simp only [h, if_true, if_false]; exact Option.some.inj this)
    rw [List.zip_cons_cons, List.flatMap_cons, utf8Bytes.eq_def, List.flatMap_append,
      ← utf8Bytes.eq_def, ← utf8Bytes.eq_def, ih ms (k + 1) hrest, hiddenBytes, hfirst]
    by_cases h : H k
    · rw [if_pos h, if_pos h, spread, if_pos rfl, utf8Bytes_underscores]
    · rw [if_neg h, if_neg h, spread_self, utf8Bytes.eq_def, List.flatMap_singleton]

/-- Byte `i` of a text with hidden characters is `_` when it belongs to a hidden character, and
the text's own byte otherwise. -/
theorem getElem?_hiddenBytes (H : Nat → Prop) [DecidablePred H] (s : List Char) :
    ∀ (k i : Nat), (hiddenBytes H s k)[i]? =
      if ∃ j < s.length, H (k + j) ∧ String.utf8Len (s.take j) ≤ i ∧ i < String.utf8Len (s.take (j + 1))
      then some 95 else (utf8Bytes s)[i]? := by
  induction s with
  | nil => intro k i; simp [hiddenBytes, utf8Bytes]
  | cons c cs ih =>
    intro k i
    have hblock : (if H k then List.replicate c.utf8Size (95 : UInt8) else String.utf8EncodeChar c).length
        = c.utf8Size := by
      split <;> simp
    rw [hiddenBytes, utf8Bytes_cons]
    by_cases hi : i < c.utf8Size
    · -- a byte of the first character, hidden when the first character is
      have hcond : (∃ j < (c :: cs).length, H (k + j) ∧ String.utf8Len ((c :: cs).take j) ≤ i ∧
          i < String.utf8Len ((c :: cs).take (j + 1))) ↔ H k := by
        constructor
        · rintro ⟨j, -, hH, hlo, -⟩
          cases j with
          | zero => simpa using hH
          | succ j =>
            rw [List.take_succ_cons, String.utf8Len_cons] at hlo
            omega
        · intro hH
          exact ⟨0, by simp, by simpa using hH, by simp, by simpa [String.utf8Len_cons] using hi⟩
      rw [List.getElem?_append_left (by omega), List.getElem?_append_left (by simpa using hi)]
      by_cases hH : H k
      · rw [if_pos hH, if_pos (hcond.2 hH), List.getElem?_replicate, if_pos hi]
      · rw [if_neg hH, if_neg (mt hcond.1 hH)]
    · -- a byte of a later character
      have hcond : (∃ j < (c :: cs).length, H (k + j) ∧ String.utf8Len ((c :: cs).take j) ≤ i ∧
          i < String.utf8Len ((c :: cs).take (j + 1))) ↔
          (∃ j < cs.length, H (k + 1 + j) ∧ String.utf8Len (cs.take j) ≤ i - c.utf8Size ∧
            i - c.utf8Size < String.utf8Len (cs.take (j + 1))) := by
        constructor
        · rintro ⟨j, hj, hH, hlo, hhi⟩
          cases j with
          | zero => simp [String.utf8Len_cons] at hhi; omega
          | succ j =>
            rw [List.take_succ_cons, String.utf8Len_cons] at hlo hhi
            exact ⟨j, by simpa using hj, by simpa [Nat.add_right_comm k 1 j, Nat.add_assoc] using hH,
              by omega, by omega⟩
        · rintro ⟨j, hj, hH, hlo, hhi⟩
          refine ⟨j + 1, by simpa using hj, by simpa [Nat.add_assoc, Nat.add_comm 1 j] using hH, ?_, ?_⟩
          · rw [List.take_succ_cons, String.utf8Len_cons]
            omega
          · rw [List.take_succ_cons, String.utf8Len_cons]
            omega
      rw [List.getElem?_append_right (by omega), hblock, ih, List.getElem?_append_right (by simpa using hi),
        String.length_utf8EncodeChar]
      by_cases h : ∃ j < cs.length, H (k + 1 + j) ∧ String.utf8Len (cs.take j) ≤ i - c.utf8Size ∧
          i - c.utf8Size < String.utf8Len (cs.take (j + 1))
      · rw [if_pos h, if_pos (hcond.2 h)]
      · rw [if_neg h, if_neg (mt hcond.1 h)]

/-! ## Masking -/

/-- Masking from depth zero hides exactly the characters inside calls. -/
theorem getElem?_mask_zero (s : List Char) (j : Nat) :
    (mask s 0)[j]? = if InsideCall s j then some '_' else s[j]? := by
  have h0 : ¬ Enclosed ((0 : Nat) : Int) s j := not_enclosed_of_nonpos (by omega) _ _
  rw [getElem?_mask]
  simp only [h0, false_or]

/-- Masking in bytes writes the text with the characters inside calls hidden. -/
theorem utf8Bytes_maskBytes (s : List Char) :
    utf8Bytes (maskBytes s 0) = hiddenBytes (InsideCall s) s 0 := by
  rw [maskBytes_eq_flatMap]
  exact utf8Bytes_flatMap_spread _ s (mask s 0) 0 fun j _ => by
    rw [Nat.zero_add]
    exact getElem?_mask_zero s j

/-- No operator is written with the byte of `_`. -/
theorem operator_byte_ne_underscore {op : Char} (hop : op ∈ "+-*/=!<>".toList) : op.toUInt8 ≠ 95 := by
  have hops : "+-*/=!<>".toList = ['+', '-', '*', '/', '=', '!', '<', '>'] := by decide
  rw [hops] at hop
  simp only [List.mem_cons, List.not_mem_nil, or_false] at hop
  rcases hop with rfl | rfl | rfl | rfl | rfl | rfl | rfl | rfl <;> decide

/-- Masking the arguments of `.reduce(…)` and `.filter(…)` keeps the text's byte length, and
every byte of the masked text is `_` where it belongs to a character strictly inside a call's
argument list (after the opening parenthesis and before the one that closes it, or to the end
of the text when none does) and the text's own byte elsewhere; character by character, the
characters inside calls become `_` and the others are kept. So an operator `+ - * / = ! < >` is
seen in the masked text exactly where the text has it outside every call. -/
theorem masking_hides_call_arguments (s : List Char) :
    (utf8Bytes (maskBytes s 0)).length = (utf8Bytes s).length ∧
      (∀ i, (utf8Bytes (maskBytes s 0))[i]? = if InsideByte s i then some 95 else (utf8Bytes s)[i]?) ∧
      (∀ j, (mask s 0)[j]? = if InsideCall s j then some '_' else s[j]?) ∧
      ∀ op ∈ "+-*/=!<>".toList, ∀ i,
        (utf8Bytes (maskBytes s 0))[i]? = some op.toUInt8 ↔
          (utf8Bytes s)[i]? = some op.toUInt8 ∧ ¬ InsideByte s i := by
  have hbyte : ∀ i, (utf8Bytes (maskBytes s 0))[i]? =
      if InsideByte s i then some 95 else (utf8Bytes s)[i]? := fun i => by
    rw [utf8Bytes_maskBytes, getElem?_hiddenBytes]
    simp only [Nat.zero_add]
    rfl
  refine ⟨by rw [length_utf8Bytes, length_utf8Bytes, utf8Len_maskBytes], hbyte,
    getElem?_mask_zero s, fun op hop i => ?_⟩
  have hne := operator_byte_ne_underscore hop
  rw [hbyte]
  by_cases h : InsideByte s i
  · rw [if_pos h]
    simp [h, Ne.symm hne]
  · rw [if_neg h]
    simp [h]

/-- In `x.filter(a>(b))<c` the call's arguments `a>(b)` are hidden, and the `<` after the call
is not. -/
example : (List.range 17).filter (fun j => decide (InsideCall "x.filter(a>(b))<c".toList j)) =
    [9, 10, 11, 12, 13] := by
  decide

end Expr

end Storyboard
