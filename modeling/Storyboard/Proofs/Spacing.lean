import Mathlib.Algebra.BigOperators.Ring.Finset
import Mathlib.Algebra.Order.BigOperators.Group.List
import Mathlib.Data.Rat.Floor
import Mathlib.Tactic.Linarith
import Storyboard.Proofs.Reflow

/-!
# Spacing over exact arithmetic

Placing is written once for any `Scalar`, and `reflow` moves the children, in placing order,
to the spots it computes (`reflow_getElem?`). Over exact rationals, with rounding that takes ties
away from zero as doubles do, it can be reasoned about. When a flex container's sizes, padding
and gap are whole numbers and its children, of whole sizes, fit along the main axis with their
gaps inside the padding, every spreading places each child at a whole number inside the padding,
and each child at least a gap after the end of the one before it; across the main axis a child
that fits inside the padding, or is stretched, stays inside it.

The clamping that placing applies changes nothing then: the spreadings only move the children
by the free space, which the fit leaves, and rounding keeps whole numbers, respects order and
commutes with adding whole numbers.

* `roundHalfAway_mono`, `roundHalfAway_intCast`, `roundHalfAway_add_intCast`: rounding is
  monotone, keeps whole numbers, and commutes with adding a whole number, so it keeps whole
  gaps (`roundHalfAway_add_le`).
* `clampRound_of_mem`, `clampRound_mem`: a value between the bounds is only rounded; between
  whole bounds in order, a clamped value rounds to a whole number between them.
* `Frame.spotsFrom_across`: each spot holds across the main axis what `across` gives.
* `Frame.across_fits`: across the main axis a child that fits, or is stretched, lands inside the
  padding.
* `Frame.start_spread`: every spreading starts at the padding plus part of the free space and
  steps by the gap plus part of it, within the free space.
* `Frame.spotsFrom_fit`: from a cursor where the rest fits, each child lands inside the padding
  and the next one at least a gap further.
* `flex_children_fit`: the statement for every spreading and placement.
-/

namespace Storyboard

/-! ## Rounding half away from zero -/

/-- The nearest whole number to a rational, a tie going away from zero, as doubles round. -/
def roundHalfAway (q : ℚ) : ℚ := if q < 0 then -⌊-q + 1 / 2⌋ else ⌊q + 1 / 2⌋

theorem roundHalfAway_of_nonneg {q : ℚ} (h : 0 ≤ q) : roundHalfAway q = ⌊q + 1 / 2⌋ :=
  if_neg (not_lt.2 h)

theorem roundHalfAway_of_neg {q : ℚ} (h : q < 0) : roundHalfAway q = -⌊-q + 1 / 2⌋ :=
  if_pos h

/-- Rounding gives a whole number. -/
theorem roundHalfAway_eq_intCast (q : ℚ) : ∃ z : ℤ, roundHalfAway q = z := by
  by_cases h : q < 0
  · exact ⟨-⌊-q + 1 / 2⌋, by rw [roundHalfAway_of_neg h, Int.cast_neg]⟩
  · exact ⟨⌊q + 1 / 2⌋, roundHalfAway_of_nonneg (not_lt.1 h)⟩

/-- A whole number plus a half rounds down to it. -/
theorem floor_intCast_add_half (z : ℤ) : ⌊(z : ℚ) + 1 / 2⌋ = z :=
  Int.floor_eq_iff.2 ⟨by linarith, by linarith⟩

/-- A whole number rounds to itself. -/
@[simp] theorem roundHalfAway_intCast (z : ℤ) : roundHalfAway z = z := by
  by_cases h : (z : ℚ) < 0
  · have hneg : ⌊-(z : ℚ) + 1 / 2⌋ = -z := by
      rw [← Int.cast_neg]
      exact floor_intCast_add_half (-z)
    rw [roundHalfAway_of_neg h, hneg, Int.cast_neg, neg_neg]
  · rw [roundHalfAway_of_nonneg (not_lt.1 h), floor_intCast_add_half]

/-- Rounding respects order. -/
theorem roundHalfAway_mono {x y : ℚ} (h : x ≤ y) : roundHalfAway x ≤ roundHalfAway y := by
  by_cases hy : y < 0
  · -- both below zero: their magnitudes compare the other way
    rw [roundHalfAway_of_neg (lt_of_le_of_lt h hy), roundHalfAway_of_neg hy, neg_le_neg_iff,
      Int.cast_le]
    exact Int.floor_le_floor (by linarith)
  · rw [roundHalfAway_of_nonneg (not_lt.1 hy)]
    by_cases hx : x < 0
    · rw [roundHalfAway_of_neg hx]
      have h₁ : (0 : ℚ) ≤ ⌊-x + 1 / 2⌋ := Int.cast_nonneg (Int.floor_nonneg.2 (by linarith))
      have h₂ : (0 : ℚ) ≤ ⌊y + 1 / 2⌋ := Int.cast_nonneg (Int.floor_nonneg.2 (by linarith))
      linarith
    · rw [roundHalfAway_of_nonneg (not_lt.1 hx), Int.cast_le]
      exact Int.floor_le_floor (by linarith)

/-- Adding a whole number to a number that is not negative, keeping it so, adds it to the
rounding. -/
theorem roundHalfAway_add_intCast {x : ℚ} (hx : 0 ≤ x) {z : ℤ} (hxz : 0 ≤ x + z) :
    roundHalfAway (x + z) = roundHalfAway x + z := by
  rw [roundHalfAway_of_nonneg hxz, roundHalfAway_of_nonneg hx, add_right_comm,
    Int.floor_add_intCast, Int.cast_add]

/-- Rounding keeps whole gaps: a value at least `k` past a nonnegative one rounds at least `k`
past its rounding. -/
theorem roundHalfAway_add_le {x y : ℚ} {k : ℤ} (hx : 0 ≤ x) (hxk : 0 ≤ x + k) (h : x + k ≤ y) :
    roundHalfAway x + k ≤ roundHalfAway y := by
  rw [← roundHalfAway_add_intCast hx hxk]
  exact roundHalfAway_mono h

/-- A whole number at most a value is at most its rounding. -/
theorem le_roundHalfAway {z : ℤ} {x : ℚ} (h : (z : ℚ) ≤ x) : (z : ℚ) ≤ roundHalfAway x := by
  simpa using roundHalfAway_mono h

/-- A value at most a whole number rounds to at most it. -/
theorem roundHalfAway_le {z : ℤ} {x : ℚ} (h : x ≤ z) : roundHalfAway x ≤ z := by
  simpa using roundHalfAway_mono h

/-! ## Exact rationals as the numbers of placing -/

/-- Exact rationals: the larger and the smaller of two are `max` and `min`, and rounding
takes ties away from zero, as doubles do. -/
instance : Scalar ℚ where
  ofCount := Nat.cast
  larger := max
  smaller := min
  round := roundHalfAway

namespace Scalar

@[simp] theorem ofCount_rat (n : Nat) : (ofCount n : ℚ) = n := rfl

@[simp] theorem larger_rat (a b : ℚ) : larger a b = max a b := rfl

@[simp] theorem smaller_rat (a b : ℚ) : smaller a b = min a b := rfl

@[simp] theorem round_rat (a : ℚ) : round a = roundHalfAway a := rfl

end Scalar

theorem clampRound_rat (v lo hi : ℚ) : clampRound v lo hi = roundHalfAway (max (min v hi) lo) :=
  rfl

/-- A value already between the bounds is only rounded. -/
theorem clampRound_of_mem {v lo hi : ℚ} (hlo : lo ≤ v) (hhi : v ≤ hi) :
    clampRound v lo hi = roundHalfAway v := by
  rw [clampRound_rat, min_eq_left hhi, max_eq_left hlo]

/-- Between whole bounds in order, a clamped value rounds to a whole number between them. -/
theorem clampRound_mem (v : ℚ) {lo hi : ℤ} (h : lo ≤ hi) :
    ∃ z : ℤ, clampRound v lo hi = z ∧ lo ≤ z ∧ z ≤ hi := by
  obtain ⟨z, hz⟩ := roundHalfAway_eq_intCast (max (min v hi) lo)
  have hlo : (lo : ℚ) ≤ z := hz ▸ le_roundHalfAway (le_max_right _ _)
  have hhi : (z : ℚ) ≤ hi := hz ▸ roundHalfAway_le (max_le (min_le_right _ _) (Int.cast_le.2 h))
  exact ⟨z, by rw [clampRound_rat, hz], Int.cast_le.1 hlo, Int.cast_le.1 hhi⟩

/-! ## Across the main axis -/

namespace Frame

variable {α : Type} [Scalar α] (f : Frame α)

/-- A child's size across is its own, or under `stretch` the room inside the padding. -/
theorem across_snd (x : α) :
    (f.across x).2 = if f.align = .stretch then Scalar.round (Scalar.larger (f.cross - 2.0 * f.padding) 0.0)
      else x := by
  obtain ⟨justify, align, main, cross, padding, gap⟩ := f
  cases align <;> rfl

/-- Whatever the placement across, the place is clamped inside the padding for the child's
size across. -/
theorem across_fst (x : α) :
    ∃ pos, (f.across x).1 = clampRound pos f.padding (f.cross - f.padding - (f.across x).2) := by
  obtain ⟨justify, align, main, cross, padding, gap⟩ := f
  cases align <;> exact ⟨_, rfl⟩

/-- Each spot holds, across the main axis, what `across` gives for its child. -/
theorem spotsFrom_across {β : Type} (l : List β) (h : β → α × α) (step cursor : α) :
    ∀ p ∈ (f.spotsFrom step cursor (l.map h)).zip l,
      p.1.cross = (f.across (h p.2).2).1 ∧ p.1.crossSize = (f.across (h p.2).2).2 := by
  induction l generalizing cursor with
  | nil => simp [spotsFrom_nil]
  | cons b l ih =>
    intro p hp
    simp only [List.map_cons, spotsFrom_cons, List.zip_cons_cons, List.mem_cons] at hp
    rcases hp with rfl | hp
    · exact ⟨rfl, rfl⟩
    · exact ih _ p hp

end Frame

/-- Across the main axis, a child of whole size that fits inside the padding, or is
stretched, lands on a whole number inside it; stretching sets its size to the room inside
the padding. -/
theorem Frame.across_fits (f : Frame ℚ) {cross padding : ℤ} (hc : f.cross = cross)
    (hp : f.padding = padding) (hroom : 2 * padding ≤ cross) {x : ℤ}
    (hx : x ≤ cross - 2 * padding ∨ f.align = .stretch) :
    (padding : ℚ) ≤ (f.across x).1 ∧ (f.across x).1 + (f.across x).2 ≤ cross - padding ∧
      (f.align = .stretch → (f.across x).2 = cross - 2 * padding) := by
  -- the size across is a whole number that fits inside the padding
  have hstretch : f.align = .stretch → (f.across x).2 = ((cross - 2 * padding : ℤ) : ℚ) := by
    intro hs
    have hroom' : (0 : ℚ) ≤ cross - 2 * padding := by exact_mod_cast sub_nonneg.2 hroom
    rw [across_snd, if_pos hs, hc, hp]
    norm_num [max_eq_left hroom']
    exact_mod_cast roundHalfAway_intCast (cross - 2 * padding)
  obtain ⟨s, hs, hsfit⟩ : ∃ s : ℤ, (f.across x).2 = s ∧ s ≤ cross - 2 * padding := by
    by_cases h : f.align = .stretch
    · exact ⟨_, hstretch h, le_rfl⟩
    · rw [across_snd, if_neg h]
      exact ⟨x, rfl, hx.resolve_right h⟩
  obtain ⟨pos, hpos⟩ := f.across_fst x
  obtain ⟨z, hz, hlo, hhi⟩ := clampRound_mem pos (show padding ≤ cross - padding - s by omega)
  rw [hc, hp, hs] at hpos
  have hcast : (f.across x).1 = z := by rw [hpos, ← hz]; push_cast; rfl
  refine ⟨by rw [hcast]; exact_mod_cast hlo, ?_, fun h => by rw [hstretch h]; push_cast; ring⟩
  rw [hcast, hs]
  have : z + s ≤ cross - padding := by omega
  exact_mod_cast this

/-! ## Along the main axis -/

/-- Every spreading starts the first child at the padding plus part of the free space and
steps by the gap plus part of it, the parts together within the free space, so that the
children end no further than the far padding. -/
theorem Frame.start_spread (f : Frame ℚ) {mains : List ℚ} (hn : mains ≠ [])
    (hfree : 0 ≤ f.main - 2 * f.padding - (mains.sum + (mains.length - 1) * f.gap)) :
    ∃ a b : ℚ, 0 ≤ a ∧ 0 ≤ b ∧ f.start mains = (f.padding + a, f.gap + b) ∧
      a + (mains.length - 1) * b ≤ f.main - 2 * f.padding - (mains.sum + (mains.length - 1) * f.gap) := by
  obtain ⟨justify, align, main, cross, padding, gap⟩ := f
  obtain ⟨F, hF⟩ : ∃ F, F = main - 2 * padding - (mains.sum + (mains.length - 1) * gap) := ⟨_, rfl⟩
  simp only at hfree ⊢
  rw [← hF] at hfree ⊢
  -- the space left free is what the children and the gaps leave
  have hsum : mains.foldl (· + ·) 0 = mains.sum := List.sum_eq_foldl.symm
  have hmax : max (main - 2 * padding - (mains.sum + (mains.length - 1) * gap)) 0 = F := by
    rw [← hF]
    exact max_eq_left hfree
  have hlen : (1 : ℚ) ≤ mains.length := by exact_mod_cast List.length_pos_of_ne_nil hn
  cases justify with
  | flexStart => exact ⟨0, 0, le_rfl, le_rfl, by norm_num [start], by linarith⟩
  | center =>
    exact ⟨F / 2, 0, by linarith, le_rfl, by norm_num [start, hsum, hmax], by linarith⟩
  | flexEnd => exact ⟨F, 0, hfree, le_rfl, by norm_num [start, hsum, hmax], by linarith⟩
  | spaceBetween =>
    by_cases h : 1 < mains.length
    · -- the free space goes between the children, in equal parts
      have hgaps : (0 : ℚ) < mains.length - 1 := by
        have : (1 : ℚ) < mains.length := by exact_mod_cast h
        linarith
      refine ⟨0, F / (mains.length - 1), le_rfl, div_nonneg hfree hgaps.le,
        by norm_num [start, hsum, hmax, h], ?_⟩
      rw [mul_div_cancel₀ F hgaps.ne']
      linarith
    · -- a lone child is centred
      have hone : (mains.length : ℚ) = 1 := by
        have : mains.length = 1 := by
          have := List.length_pos_of_ne_nil hn
          omega
        exact_mod_cast this
      exact ⟨F / 2, 0, by linarith, le_rfl, by norm_num [start, hsum, hmax, h], by
        rw [hone]
        linarith⟩
  | spaceAround =>
    -- each child gets an equal part of the free space, half of it on either side
    have hpos : (0 : ℚ) < mains.length := by linarith
    have hpart : 0 ≤ F / mains.length := div_nonneg hfree hpos.le
    have hsplit : ((mains.length : ℚ) - 1) * (F / mains.length) = F - F / mains.length := by
      rw [sub_mul, mul_div_cancel₀ F hpos.ne', one_mul]
    exact ⟨F / mains.length / 2, F / mains.length, by linarith, hpart,
      by norm_num [start, hsum, hmax], by linarith⟩

/-- From a cursor inside the padding from which the rest fits before the far padding, each
child lands on a whole number inside the padding, the first where the cursor rounds, and
each next child at least a gap after the end of the one before it. -/
theorem Frame.spotsFrom_fit (f : Frame ℚ) {main padding gap : ℤ} (hm : f.main = main)
    (hp : f.padding = padding) (hgap : 0 ≤ gap) {step : ℚ} (hstep : (gap : ℚ) ≤ step)
    (sizes : List (ℤ × ℤ)) (hsizes : ∀ s ∈ sizes, 0 ≤ s.1) {cursor : ℚ} (hcur : (padding : ℚ) ≤ cursor)
    (hpad : 0 ≤ padding)
    (hend : cursor + (sizes.map fun s => (s.1 : ℚ)).sum + ((sizes.length : ℚ) - 1) * step
      ≤ main - padding) :
    (∀ p ∈ (f.spotsFrom step cursor (sizes.map fun s => ((s.1 : ℚ), (s.2 : ℚ)))).zip sizes,
        ∃ z : ℤ, p.1.main = z ∧ padding ≤ z ∧ z + p.2.1 ≤ main - padding) ∧
      (∀ sp ∈ (f.spotsFrom step cursor (sizes.map fun s => ((s.1 : ℚ), (s.2 : ℚ)))).head?,
        sp.main = roundHalfAway cursor) ∧
      ((f.spotsFrom step cursor (sizes.map fun s => ((s.1 : ℚ), (s.2 : ℚ)))).zip sizes).IsChain
        fun (p q : Spot ℚ × (ℤ × ℤ)) => p.1.main + p.2.1 + gap ≤ q.1.main := by
  induction sizes generalizing cursor with
  | nil => simp [spotsFrom_nil]
  | cons s rest ih =>
    obtain ⟨m, x⟩ := s
    have hm0 : (0 : ℚ) ≤ m := by exact_mod_cast hsizes (m, x) List.mem_cons_self
    have hrest : ∀ s ∈ rest, 0 ≤ s.1 := fun s hs => hsizes s (List.mem_cons_of_mem _ hs)
    have hsum0 : (0 : ℚ) ≤ (rest.map fun s => (s.1 : ℚ)).sum :=
      List.sum_nonneg fun y hy => by
        obtain ⟨s, hs, rfl⟩ := List.mem_map.1 hy
        exact_mod_cast hrest s hs
    have hstep0 : (0 : ℚ) ≤ step := le_trans (by exact_mod_cast hgap) hstep
    have hmore : (0 : ℚ) ≤ rest.length * step := mul_nonneg (Nat.cast_nonneg _) hstep0
    simp only [List.map_cons, List.sum_cons, List.length_cons, Nat.cast_add, Nat.cast_one,
      add_sub_cancel_right] at hend
    -- the first child ends before the far padding, so it is only rounded
    have hfirst : cursor ≤ (main : ℚ) - padding - m := by linarith
    have hhead : clampRound cursor f.padding (f.main - f.padding - m) = roundHalfAway cursor := by
      rw [hm, hp]
      exact clampRound_of_mem hcur hfirst
    -- the rest starts from the next cursor, from which it fits
    have hlast : (rest.length : ℚ) * step = step + ((rest.length : ℚ) - 1) * step := by ring
    have hnext : (padding : ℚ) ≤ cursor + (m + step) := by linarith
    obtain ⟨ih₁, ih₂, ih₃⟩ := ih hrest hnext (by linarith)
    refine ⟨?_, by simp [spotsFrom_cons, hhead], ?_⟩
    · intro p hp'
      simp only [List.map_cons, spotsFrom_cons, List.zip_cons_cons, List.mem_cons] at hp'
      rcases hp' with rfl | hp'
      · -- clamped between whole bounds, it lands on a whole number between them
        have hroom : padding ≤ main - padding - m := by
          have h : (padding : ℚ) ≤ ((main - padding - m : ℤ) : ℚ) := by
            push_cast
            linarith
          exact_mod_cast h
        obtain ⟨z, hz, hlo, hhi⟩ := clampRound_mem cursor hroom
        refine ⟨z, ?_, hlo, by simp only; omega⟩
        push_cast at hz
        simp only [hm, hp]
        exact hz
      · exact ih₁ p hp'
    · cases rest with
      | nil => simp [spotsFrom_cons, spotsFrom_nil]
      | cons s' rest' =>
        simp only [List.map_cons, spotsFrom_cons, List.zip_cons_cons, List.isChain_cons_cons,
          List.head?_cons, Option.mem_def, Option.some.injEq, forall_eq'] at ih₂ ih₃ ⊢
        refine ⟨?_, ih₃⟩
        -- the next child starts at least a gap after this one ends, and rounding keeps that
        have hcur0 : (0 : ℚ) ≤ cursor := le_trans (by exact_mod_cast hpad) hcur
        have hgap0 : (0 : ℚ) ≤ gap := by exact_mod_cast hgap
        have hkeep := roundHalfAway_add_le (k := m + gap) hcur0 (by push_cast; linarith)
          (show cursor + ((m + gap : ℤ) : ℚ) ≤ cursor + (m + step) by push_cast; linarith)
        rw [hhead, ih₂]
        push_cast at hkeep
        linarith

/-- Over exact arithmetic, a flex container whose size, padding and gap are whole numbers,
with children of whole sizes that fit along the main axis with their gaps inside the
padding, places them, whatever its spreading: each on a whole number inside the padding,
and each next child at least a gap after the end of the one before it. Across the main
axis, when the padding leaves room, a child that fits inside it, or is stretched, lies
inside it, and stretching sets its size to the room inside the padding. -/
theorem flex_children_fit (justify : Justify) (align : Align) (main cross padding gap : ℤ)
    (sizes : List (ℤ × ℤ)) (hpad : 0 ≤ padding) (hgap : 0 ≤ gap) (hn : sizes ≠ [])
    (hsizes : ∀ s ∈ sizes, 0 ≤ s.1)
    (hfit : (sizes.map Prod.fst).sum + ((sizes.length : ℤ) - 1) * gap ≤ main - 2 * padding) :
    let spots := (Frame.mk justify align (main : ℚ) cross padding gap).spots
      (sizes.map fun s => ((s.1 : ℚ), (s.2 : ℚ)))
    spots.length = sizes.length ∧
      (∀ p ∈ spots.zip sizes, ∃ z : ℤ, p.1.main = z ∧ padding ≤ z ∧ z + p.2.1 ≤ main - padding) ∧
      (spots.zip sizes).IsChain (fun (p q : Spot ℚ × (ℤ × ℤ)) => p.1.main + p.2.1 + gap ≤ q.1.main) ∧
      (2 * padding ≤ cross → ∀ p ∈ spots.zip sizes, (p.2.2 ≤ cross - 2 * padding ∨ align = .stretch) →
        (padding : ℚ) ≤ p.1.cross ∧ p.1.cross + p.1.crossSize ≤ cross - padding ∧
          (align = .stretch → p.1.crossSize = cross - 2 * padding)) := by
  intro spots
  set f : Frame ℚ := ⟨justify, align, main, cross, padding, gap⟩ with hf
  have hmains : (sizes.map fun s => ((s.1 : ℚ), (s.2 : ℚ))).map Prod.fst = sizes.map fun s => (s.1 : ℚ) := by
    simp
  have hfitQ : 0 ≤ f.main - 2 * f.padding - ((sizes.map fun s => (s.1 : ℚ)).sum
      + (((sizes.map fun s => (s.1 : ℚ)).length : ℚ) - 1) * f.gap) := by
    have h : (((sizes.map Prod.fst).sum + ((sizes.length : ℤ) - 1) * gap : ℤ) : ℚ) ≤ main - 2 * padding := by
      exact_mod_cast hfit
    push_cast [Int.cast_list_sum, List.map_map, Function.comp_def] at h
    simp only [hf, List.length_map]
    linarith
  obtain ⟨a, b, ha, hb, hstart, hab⟩ := f.start_spread (by simpa using hn) hfitQ
  have hspots : spots = f.spotsFrom (gap + b) (padding + a) (sizes.map fun s => ((s.1 : ℚ), (s.2 : ℚ))) := by
    show f.spotsFrom _ _ _ = _
    rw [hmains, hstart]
  -- from the start, the children with their steps fit before the far padding
  have hend : (padding + a : ℚ) + (sizes.map fun s => (s.1 : ℚ)).sum + ((sizes.length : ℚ) - 1) * (gap + b)
      ≤ main - padding := by
    simp only [hf, List.length_map] at hab
    rw [mul_add]
    linarith
  obtain ⟨hin, -, hchain⟩ := f.spotsFrom_fit rfl rfl hgap (by linarith) sizes
    hsizes (by linarith) hpad hend
  refine ⟨by simp [spots], hspots ▸ hin, hspots ▸ hchain, fun hroom p hp hx => ?_⟩
  obtain ⟨hcross, hsize⟩ := f.spotsFrom_across sizes (fun s => ((s.1 : ℚ), (s.2 : ℚ))) _ _ p (hspots ▸ hp)
  rw [hcross, hsize]
  exact f.across_fits rfl rfl hroom hx

/-- Three children 50 wide spread apart in a row 300 wide with a gap of 10 fit, each at
least the gap after the one before it. -/
theorem three_children_spread_between :
    (0 : ℤ) ≤ 0 ∧ (0 : ℤ) ≤ 10 ∧ [((50 : ℤ), (20 : ℤ)), (50, 20), (50, 20)] ≠ [] ∧
      (∀ s ∈ [((50 : ℤ), (20 : ℤ)), (50, 20), (50, 20)], 0 ≤ s.1) ∧
      ([((50 : ℤ), (20 : ℤ)), (50, 20), (50, 20)].map Prod.fst).sum
        + (([((50 : ℤ), (20 : ℤ)), (50, 20), (50, 20)].length : ℤ) - 1) * 10 ≤ 300 - 2 * 0 ∧
      let spots := (Frame.mk .spaceBetween .flexStart ((300 : ℤ) : ℚ) ((100 : ℤ) : ℚ) ((0 : ℤ) : ℚ)
        ((10 : ℤ) : ℚ)).spots ([((50 : ℤ), (20 : ℤ)), (50, 20), (50, 20)].map fun s => ((s.1 : ℚ), (s.2 : ℚ)))
      spots.length = [((50 : ℤ), (20 : ℤ)), (50, 20), (50, 20)].length ∧
        (∀ p ∈ spots.zip [((50 : ℤ), (20 : ℤ)), (50, 20), (50, 20)],
          ∃ z : ℤ, p.1.main = z ∧ 0 ≤ z ∧ z + p.2.1 ≤ 300 - 0) ∧
        (spots.zip [((50 : ℤ), (20 : ℤ)), (50, 20), (50, 20)]).IsChain
          (fun (p q : Spot ℚ × (ℤ × ℤ)) => p.1.main + p.2.1 + (10 : ℤ) ≤ q.1.main) ∧
        (2 * 0 ≤ (100 : ℤ) → ∀ p ∈ spots.zip [((50 : ℤ), (20 : ℤ)), (50, 20), (50, 20)],
          (p.2.2 ≤ 100 - 2 * 0 ∨ Align.flexStart = .stretch) →
            ((0 : ℤ) : ℚ) ≤ p.1.cross ∧ p.1.cross + p.1.crossSize ≤ ((100 : ℤ) : ℚ) - ((0 : ℤ) : ℚ) ∧
              (Align.flexStart = .stretch → p.1.crossSize = ((100 : ℤ) : ℚ) - 2 * ((0 : ℤ) : ℚ))) :=
  ⟨le_rfl, by decide, by decide, by decide, by decide,
    flex_children_fit .spaceBetween .flexStart 300 100 0 10 _ le_rfl (by decide) (by decide)
      (by decide) (by decide)⟩

end Storyboard
