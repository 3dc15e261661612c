import Mathlib.Data.String.Basic
import Storyboard.Script.Eval

/-!
# Where a comparison is split

`Expr.evaluate` looks for a comparison operator in a masked copy of the expression, in
which the arguments of `.reduce(…)` and `.filter(…)` calls are hidden, and splits the
expression itself where the operator was found. Text is stored as UTF-8, so that place is
a byte offset, and splitting there is only safe when it falls between two characters of the
expression.

The masked copy is made byte for byte: a hidden character becomes one `_` for each of its
bytes (`maskBytes`), so the copy has the expression's byte length and every kept character
sits at its own byte offset. A comparison is found in this copy exactly when it is found in
the copy made character for character (`mask`), which is the one `Expr.evaluate` reads; the
byte offset found, and the offset just past the operator, are then the byte lengths of the
prefixes of the expression before and after the operator. So the expression is split
between characters, at the places `Expr.evaluate` splits it, and both sides are shorter.

Main statement: `comparison_split_on_char_boundaries`.

Both copies are laid over the pairs of the expression's characters with their masked forms
(`maskBytes_eq_flatMap`): the character copy is the masked forms, the byte copy spreads each
of them over the bytes of its character (`spread`). An operator holds no `_`, so no match
starts among a hidden character's bytes, and the first match in each copy is at the same
pair (`findSub_flatMap_spread`).
-/

namespace Storyboard

namespace Expr

/-- Masking as it is done on UTF-8 text: a hidden character becomes one `_` for each of its
bytes, so that byte offsets are kept. -/
def maskBytes : List Char → Nat → List Char
  | [], _ => []
  | c :: rest, depth =>
    if depth = 0 && (startsWith (c :: rest) ".reduce(".toList || startsWith (c :: rest) ".filter(".toList) then
      (c :: rest).take 8 ++ maskBytes ((c :: rest).drop 8) 1
    else
      let depth := if depth > 0 then (if c = '(' then depth + 1 else if c = ')' then depth - 1 else depth) else depth
      (if depth > 0 then List.replicate c.utf8Size '_' else [c]) ++ maskBytes rest depth
termination_by cs => cs.length
decreasing_by all_goals (simp_all; try omega)

/-- A character with its masked form, laid out in bytes: a hidden one as one `_` for each
byte of the character, a kept one as itself. -/
def spread (p : Char × Char) : List Char :=
  if p.2 = '_' then List.replicate p.1.utf8Size '_' else [p.2]

/-! ## Both copies over the same pairs -/

theorem spread_self (c : Char) : spread (c, c) = [c] := by
  unfold spread
  split
  · next h =>
    subst h
    rfl
  · rfl

theorem flatMap_spread_zip_self (l : List Char) : (l.zip l).flatMap spread = l := by
  induction l with
  | nil => rfl
  | cons c l ih => rw [List.zip_cons_cons, List.flatMap_cons, spread_self, ih, List.singleton_append]

theorem mem_zip_self {l : List Char} {p : Char × Char} (h : p ∈ l.zip l) : p.2 = p.1 := by
  induction l with
  | nil => cases h
  | cons c l ih =>
    rcases List.mem_cons.1 h with rfl | h
    · rfl
    · exact ih h

/-- The characters a call's opening takes are kept as they are. -/
theorem zip_take_append (l m : List Char) (n : Nat) :
    l.zip (l.take n ++ m) = (l.take n).zip (l.take n) ++ (l.drop n).zip m := by
  conv => lhs; arg 1; rw [← List.take_append_drop n l]
  exact List.zip_append rfl

/-- Masking in bytes spreads each character's masked form over its bytes. -/
theorem maskBytes_eq_flatMap (cs : List Char) (depth : Nat) :
    maskBytes cs depth = (cs.zip (mask cs depth)).flatMap spread := by
  fun_induction mask cs depth with
  | case1 => rw [maskBytes]; rfl
  | case2 c rest d hcall head ih =>
    rw [maskBytes, if_pos hcall, ih, zip_take_append, List.flatMap_append, flatMap_spread_zip_self]
  | case3 c rest d hcall d' ih =>
    have hd' : (if d > 0 then (if c = '(' then d + 1 else if c = ')' then d - 1 else d) else d) = d' := by
      simp only [d', dite_eq_ite]
    rw [maskBytes, if_neg hcall]
    dsimp only
    rw [hd', ih, List.zip_cons_cons, List.flatMap_cons]
    by_cases hd : d' > 0
    · simp only [d', hd, if_true, spread]
    · simp only [d', hd, if_false, spread_self]

/-- Masking keeps a character or hides it as `_`. -/
theorem mask_kept_or_hidden (cs : List Char) (depth : Nat) :
    ∀ p ∈ cs.zip (mask cs depth), p.2 = p.1 ∨ p.2 = '_' := by
  fun_induction mask cs depth with
  | case1 => simp
  | case2 c rest d hcall head ih =>
    intro p hp
    rw [zip_take_append] at hp
    rcases List.mem_append.1 hp with h | h
    · exact .inl (mem_zip_self h)
    · exact ih p h
  | case3 c rest d hcall d' ih =>
    intro p hp
    rw [List.zip_cons_cons] at hp
    rcases List.mem_cons.1 hp with rfl | h
    · by_cases hd : d' > 0
      · exact .inr (by simp only [d', hd, if_true])
      · exact .inl (by simp only [d', hd, if_false])
    · exact ih p h

theorem utf8Len_underscores (n : Nat) : String.utf8Len (List.replicate n '_') = n := by
  induction n with
  | zero => rfl
  | succ n ih => rw [List.replicate_succ, String.utf8Len_cons, ih]; rfl

/-- A character spread over its bytes takes as many bytes as the character. -/
theorem utf8Len_spread {p : Char × Char} (hp : p.2 = p.1 ∨ p.2 = '_') :
    String.utf8Len (spread p) = p.1.utf8Size := by
  unfold spread
  split
  · exact utf8Len_underscores _
  · next h =>
    rw [hp.resolve_right h, String.utf8Len_cons, String.utf8Len_nil, Nat.zero_add]

theorem utf8Len_flatMap_spread :
    ∀ xs : List (Char × Char), (∀ p ∈ xs, p.2 = p.1 ∨ p.2 = '_') →
      String.utf8Len (xs.flatMap spread) = String.utf8Len (xs.map Prod.fst)
  | [], _ => rfl
  | p :: xs, hm => by
    rw [List.flatMap_cons, List.map_cons, String.utf8Len_append, String.utf8Len_cons,
      utf8Len_flatMap_spread xs fun q hq => hm q (List.mem_cons_of_mem p hq),
      utf8Len_spread (hm p List.mem_cons_self), Nat.add_comm]

/-- Masking in bytes keeps the byte length. -/
theorem utf8Len_maskBytes (cs : List Char) (depth : Nat) :
    String.utf8Len (maskBytes cs depth) = String.utf8Len cs := by
  rw [maskBytes_eq_flatMap, utf8Len_flatMap_spread _ (mask_kept_or_hidden cs depth),
    List.map_fst_zip (Nat.le_of_eq (length_mask cs depth).symm)]

/-! ## Searching both copies -/

theorem findSub_go_succ (pat : List Char) : ∀ (cs : List Char) (i : Nat),
    findSub.go pat cs (i + 1) = (findSub.go pat cs i).map (· + 1)
  | [], i => by
    simp only [findSub.go]
    split <;> rfl
  | c :: rest, i => by
    simp only [findSub.go]
    split
    · rfl
    · exact findSub_go_succ pat rest (i + 1)

/-- Searching from a character: a match there, or one further on. -/
theorem findSub_cons (c : Char) (rest pat : List Char) :
    findSub (c :: rest) pat =
      if startsWith (c :: rest) pat then some 0 else (findSub rest pat).map (· + 1) := by
  simp only [findSub, findSub.go]
  split
  · rfl
  · exact findSub_go_succ pat rest 0

theorem findSub_nil {pat : List Char} (hne : pat ≠ []) : findSub [] pat = none := by
  simp [findSub, findSub.go, hne]

/-- A match found is there. -/
theorem startsWith_of_findSub : ∀ {cs pat : List Char} {i : Nat}, findSub cs pat = some i →
    startsWith (cs.drop i) pat = true
  | [], pat, i, h => by
    cases pat with
    | nil => simp [startsWith]
    | cons a pat => simp [findSub_nil] at h
  | c :: rest, pat, i, h => by
    rw [findSub_cons] at h
    split at h
    · next hs =>
      obtain rfl : 0 = i := Option.some.inj h
      exact hs
    · obtain ⟨j, hj, rfl⟩ := Option.map_eq_some_iff.1 h
      rw [List.drop_succ_cons]
      exact startsWith_of_findSub hj

theorem take_of_startsWith : ∀ {cs pat : List Char}, startsWith cs pat = true → cs.take pat.length = pat
  | _, [], _ => rfl
  | [], _ :: _, h => by simp [startsWith] at h
  | c :: cs, a :: pat, h => by
    simp only [startsWith, Bool.and_eq_true, beq_iff_eq] at h
    rw [List.length_cons, List.take_succ_cons, h.1, take_of_startsWith h.2]

/-- A text made of `_` does not start with a pattern that holds none. -/
theorem startsWith_underscore {pat : List Char} (hpat : '_' ∉ pat) (hne : pat ≠ []) (rest : List Char) :
    startsWith ('_' :: rest) pat = false := by
  obtain ⟨a, pat, rfl⟩ := List.exists_cons_of_ne_nil hne
  have ha : a ≠ '_' := fun h => hpat (h ▸ List.mem_cons_self)
  simp [startsWith, Ne.symm ha]

/-- No match starts among a hidden character's bytes. -/
theorem findSub_underscores {pat : List Char} (hpat : '_' ∉ pat) (hne : pat ≠ []) (n : Nat)
    (cs : List Char) : findSub (List.replicate n '_' ++ cs) pat = (findSub cs pat).map (· + n) := by
  induction n with
  | zero => simp
  | succ n ih =>
    rw [List.replicate_succ, List.cons_append, findSub_cons, startsWith_underscore hpat hne,
      if_neg Bool.false_ne_true, ih, Option.map_map]
    rfl

/-- A pattern without `_` starts the byte copy exactly when it starts the character copy. -/
theorem startsWith_flatMap_spread :
    ∀ (xs : List (Char × Char)) (pat : List Char), '_' ∉ pat →
      startsWith (xs.flatMap spread) pat = startsWith (xs.map Prod.snd) pat
  | _, [], _ => by simp [startsWith]
  | [], _ :: _, _ => rfl
  | p :: xs, a :: pat, hpat => by
    have ha : a ≠ '_' := fun h => hpat (h ▸ List.mem_cons_self)
    by_cases hp : p.2 = '_'
    · -- both start with `_`, which the pattern does not
      obtain ⟨n, hn⟩ : ∃ n, p.1.utf8Size = n + 1 :=
        ⟨_, (Nat.succ_pred_eq_of_pos (Char.utf8Size_pos _)).symm⟩
      rw [List.flatMap_cons, spread, if_pos hp, hn, List.replicate_succ, List.map_cons, hp]
      simp only [List.cons_append, startsWith, beq_false_of_ne (Ne.symm ha), Bool.false_and]
    · rw [List.flatMap_cons, spread, if_neg hp, List.map_cons, List.singleton_append]
      simp only [startsWith]
      rw [startsWith_flatMap_spread xs pat fun h => hpat (List.mem_cons_of_mem a h)]

/-- The pattern a kept run of the character copy starts with is in the text itself. -/
theorem startsWith_map_fst :
    ∀ (xs : List (Char × Char)) (pat : List Char), (∀ p ∈ xs, p.2 = p.1 ∨ p.2 = '_') → '_' ∉ pat →
      startsWith (xs.map Prod.snd) pat = true → startsWith (xs.map Prod.fst) pat = true
  | _, [], _, _, _ => by simp [startsWith]
  | [], _ :: _, _, _, h => by simp [startsWith] at h
  | p :: xs, a :: pat, hm, hpat, h => by
    simp only [List.map_cons, startsWith, Bool.and_eq_true, beq_iff_eq] at h ⊢
    -- the pattern's first character is not `_`, so this character is kept
    have hkeep : p.2 = p.1 :=
      (hm p List.mem_cons_self).resolve_right fun hp => hpat (hp ▸ h.1 ▸ List.mem_cons_self)
    exact ⟨hkeep ▸ h.1, startsWith_map_fst xs pat (fun q hq => hm q (List.mem_cons_of_mem p hq))
      (fun hp => hpat (List.mem_cons_of_mem a hp)) h.2⟩

theorem utf8Len_take_succ_cons (c : Char) (l : List Char) (k : Nat) :
    String.utf8Len ((c :: l).take (k + 1)) = c.utf8Size + String.utf8Len (l.take k) := by
  rw [List.take_succ_cons, String.utf8Len_cons, Nat.add_comm]

theorem utf8Len_take_underscores (n : Nat) (l : List Char) (k : Nat) :
    String.utf8Len ((List.replicate n '_' ++ l).take (k + n)) = n + String.utf8Len (l.take k) := by
  rw [List.take_append, List.take_of_length_le (by simp), List.length_replicate, Nat.add_sub_cancel,
    String.utf8Len_append, utf8Len_underscores]

/-- The first match in the byte copy is at the byte offset, in the text, of the first match in
the character copy. -/
theorem findSub_flatMap_spread {pat : List Char} (hpat : '_' ∉ pat) (hne : pat ≠ []) :
    ∀ xs : List (Char × Char), (∀ p ∈ xs, p.2 = p.1 ∨ p.2 = '_') →
      (findSub (xs.flatMap spread) pat).map (fun k => String.utf8Len ((xs.flatMap spread).take k)) =
        (findSub (xs.map Prod.snd) pat).map (fun i => String.utf8Len ((xs.map Prod.fst).take i))
  | [], _ => by simp only [List.flatMap_nil, List.map_nil, findSub_nil hne, Option.map_none]
  | p :: xs, hm => by
    have ih := findSub_flatMap_spread hpat hne xs fun q hq => hm q (List.mem_cons_of_mem p hq)
    -- both sides go on past this character by its byte size, when no match starts here
    have hpast := congrArg (Option.map (p.1.utf8Size + ·)) ih
    simp only [Option.map_map, Function.comp_def] at hpast
    by_cases hp : p.2 = '_'
    · -- a hidden character: no match starts among its bytes
      have hflat : (p :: xs).flatMap spread = List.replicate p.1.utf8Size '_' ++ xs.flatMap spread := by
        rw [List.flatMap_cons, spread, if_pos hp]
      rw [hflat, List.map_cons, List.map_cons, hp, findSub_underscores hpat hne, findSub_cons,
        startsWith_underscore hpat hne, if_neg Bool.false_ne_true, Option.map_map, Option.map_map]
      simp only [Function.comp_def, utf8Len_take_underscores, utf8Len_take_succ_cons]
      exact hpast
    · -- a kept character: itself in both copies
      have hkeep : p.2 = p.1 := (hm p List.mem_cons_self).resolve_right hp
      have hstart := startsWith_flatMap_spread (p :: xs) pat hpat
      have hflat : (p :: xs).flatMap spread = p.1 :: xs.flatMap spread := by
        rw [List.flatMap_cons, spread, if_neg hp, hkeep, List.singleton_append]
      rw [hflat, List.map_cons, hkeep] at hstart
      rw [hflat, List.map_cons, List.map_cons, hkeep, findSub_cons, findSub_cons, hstart]
      split
      · rfl
      · simp only [Option.map_map, Function.comp_def, utf8Len_take_succ_cons]
        exact hpast

/-! ## The comparison split -/

/-- The comparison operators are not empty, hold no `_`, and take one byte a character. -/
theorem comparisons_plain : ∀ op ∈ comparisons,
    op.toList ≠ [] ∧ '_' ∉ op.toList ∧ String.utf8Len op.toList = op.length := by
  simp only [comparisons, List.mem_cons, List.not_mem_nil, or_false]
  rintro op (rfl | rfl | rfl | rfl | rfl | rfl) <;> decide

/-- Looking for each operator in turn finds the same one in both copies, at the same place of
the text. -/
theorem findSome_flatMap_spread (xs : List (Char × Char)) (hm : ∀ p ∈ xs, p.2 = p.1 ∨ p.2 = '_') :
    ∀ ops : List String, (∀ op ∈ ops, op.toList ≠ [] ∧ '_' ∉ op.toList) →
      (ops.findSome? fun op => (findSub (xs.flatMap spread) op.toList).map (op, ·)).map
          (fun r => (r.1, String.utf8Len ((xs.flatMap spread).take r.2))) =
        (ops.findSome? fun op => (findSub (xs.map Prod.snd) op.toList).map (op, ·)).map
          (fun r => (r.1, String.utf8Len ((xs.map Prod.fst).take r.2)))
  | [], _ => rfl
  | op :: ops, hops => by
    obtain ⟨hne, hpat⟩ := hops op List.mem_cons_self
    have h := findSub_flatMap_spread hpat hne xs hm
    have ih := findSome_flatMap_spread xs hm ops fun o ho => hops o (List.mem_cons_of_mem op ho)
    rw [List.findSome?_cons, List.findSome?_cons]
    cases hs : findSub (xs.map Prod.snd) op.toList with
    | none =>
      rw [hs, Option.map_none, Option.map_eq_none_iff] at h
      simp only [h, Option.map_none]
      exact ih
    | some i =>
      rw [hs, Option.map_some, Option.map_eq_some_iff] at h
      obtain ⟨k, hk, hkv⟩ := h
      simp only [hk, Option.map_some, hkv]

/-- The comparison found in the byte copy is the one found in the character copy, at the
byte offset of the same place of the text. -/
theorem findComparison_maskBytes (e : List Char) :
    (findComparison (maskBytes e 0)).map (fun r => (r.1, String.utf8Len ((maskBytes e 0).take r.2))) =
      (findComparison (mask e 0)).map (fun r => (r.1, String.utf8Len (e.take r.2))) := by
  have hlen := length_mask e 0
  have h := findSome_flatMap_spread (e.zip (mask e 0)) (mask_kept_or_hidden e 0) comparisons
    fun op hop => ⟨(comparisons_plain op hop).1, (comparisons_plain op hop).2.1⟩
  rwa [← maskBytes_eq_flatMap, List.map_snd_zip (Nat.le_of_eq hlen),
    List.map_fst_zip (Nat.le_of_eq hlen.symm)] at h

/-- Past the operator found, the text has moved on by the operator's length in bytes. -/
theorem utf8Len_take_past_comparison {e : List Char} {op : String} {i : Nat}
    (h : findComparison (mask e 0) = some (op, i)) :
    String.utf8Len (e.take i) + op.length = String.utf8Len (e.take (i + op.length)) := by
  obtain ⟨o, ho, hf⟩ := List.exists_of_findSome?_eq_some h
  obtain ⟨j, hj, he⟩ := Option.map_eq_some_iff.1 hf
  simp only [Prod.mk.injEq] at he
  obtain ⟨rfl, rfl⟩ := he
  obtain ⟨-, hpat, hbytes⟩ := comparisons_plain o ho
  have hlen := length_mask e 0
  -- the operator's characters are kept, so they are the text's own
  have hstart : startsWith (e.drop j) o.toList = true := by
    have hs := startsWith_of_findSub hj
    rw [← List.map_snd_zip (Nat.le_of_eq hlen), ← List.map_drop] at hs
    have hk := startsWith_map_fst _ _ (fun p hp => mask_kept_or_hidden e 0 p (List.mem_of_mem_drop hp))
      hpat hs
    rwa [List.map_drop, List.map_fst_zip (Nat.le_of_eq hlen.symm)] at hk
  have hop := take_of_startsWith hstart
  rw [String.length_toList] at hop
  rw [List.take_add, hop, String.utf8Len_append, hbytes]

/-- Every place at which `evaluate` splits an expression at a comparison lies between two of
its characters. Masking in bytes keeps the expression's byte length; the byte copy has a
comparison exactly when the character copy does; and the byte offset found there, and the
offset past the operator, are the byte lengths of the parts of the expression before the
operator and up to its end, where `evaluate` splits it into two shorter sides. -/
theorem comparison_split_on_char_boundaries (e : List Char) :
    String.utf8Len (maskBytes e 0) = String.utf8Len e ∧
      (findComparison (maskBytes e 0)).isSome = (findComparison (mask e 0)).isSome ∧
      ∀ op k, findComparison (maskBytes e 0) = some (op, k) →
        ∃ i, findComparison (mask e 0) = some (op, i) ∧
          String.utf8Len ((maskBytes e 0).take k) = String.utf8Len (e.take i) ∧
          String.utf8Len ((maskBytes e 0).take k) + op.length = String.utf8Len (e.take (i + op.length)) ∧
          (e.take i).length < e.length ∧ (e.drop (i + op.length)).length < e.length := by
  have hfind := findComparison_maskBytes e
  refine ⟨utf8Len_maskBytes e 0, ?_, ?_⟩
  · have := congrArg Option.isSome hfind
    simpa only [Option.isSome_map] using this
  · intro op k hk
    rw [hk, Option.map_some] at hfind
    obtain ⟨⟨o, i⟩, hi, heq⟩ := Option.map_eq_some_iff.1 hfind.symm
    simp only [Prod.mk.injEq] at heq
    obtain ⟨rfl, hoff⟩ := heq
    obtain ⟨hpos, hbound⟩ := findComparison_bound hi
    rw [length_mask] at hbound
    refine ⟨i, hi, hoff.symm, by rw [← hoff, utf8Len_take_past_comparison hi], ?_, ?_⟩
    · rw [List.length_take]
      omega
    · rw [List.length_drop]
      omega

end Expr

end Storyboard
