import Storyboard.Proofs.ExactSums
import Storyboard.Proofs.Reads

/-!
# Counters

A state update with operation `increment` or `decrement` reads the value at its target, takes
its number (`Loose.toNumberOrZero`), moves it by the step (one when absent) in double
arithmetic, and writes the JSON value of the result (`Loose.numberValue`). When the number read
is a whole number `X` and the step a whole number `K` with `|X|, |X + K| < 2^53`, both moves are
exact and both values written are integers: incrementing and then decrementing writes `X + K`,
then `X`, and the target reads `X` again. When the value read was that integer itself, in a
well-formed root, the second write gives the store back exactly, unless the read counted the
items of an array: writing `items.length` replaces the array by an object.

The store side is two laws of `Store.write?`, in the manner of a map: the second of two writes
at one path wins (`Store.write?_write?`), and writing back what a path reads changes nothing
unless the read was a count (`Store.write?_eq_self_iff`). The number side is the exactness of
whole sums below `2^53` (`Binary64.holdsWhole_add`).

Main statement: `increment_then_decrement_restores`. A value that is not whole need not come
back: `0.1 + 1 - 1` is the double next above `0.1`.
-/

namespace Storyboard

namespace Store

variable {s s₁ : Store} {scope : Scope} {inst : Option String} {path : String}

/-- A write goes through unless it is a local write without an instance. -/
theorem write?_isSome (hinst : scope = .widget → inst ≠ none) (v : Json) :
    ∃ s', s.write? scope inst path v = some s' := by
  cases scope with
  | app => exact ⟨_, rfl⟩
  | screen => exact ⟨_, rfl⟩
  | widget =>
    obtain ⟨id, rfl⟩ := Option.ne_none_iff_exists'.1 (hinst rfl)
    exact ⟨_, rfl⟩

/-- After a write, the root its scope names is the old root (`{}` for local state the store did
not hold) with the value written at the path. -/
theorem scopeRoot_of_write? {v : Json} (h : s.write? scope inst path v = some s₁) :
    s₁.scopeRoot scope inst = some (((s.scopeRoot scope inst).getD .empty).setPath path v) := by
  cases scope with
  | app =>
    simp only [write?, Option.some.injEq] at h
    subst h
    rfl
  | screen =>
    simp only [write?, Option.some.injEq] at h
    subst h
    rfl
  | widget =>
    cases inst with
    | none => simp [write?] at h
    | some id =>
      simp only [write?, Option.some.injEq] at h
      subst h
      simp [scopeRoot, Json.lookup_setField_self]

/-- The second of two writes at one path wins. -/
theorem write?_write? {v : Json} (h : s.write? scope inst path v = some s₁) (u : Json) :
    s₁.write? scope inst path u = s.write? scope inst path u := by
  cases scope with
  | app =>
    simp only [write?, Option.some.injEq] at h
    subst h
    simp [write?, Json.setPath, Json.setSegments_setSegments]
  | screen =>
    simp only [write?, Option.some.injEq] at h
    subst h
    simp [write?, Json.setPath, Json.setSegments_setSegments]
  | widget =>
    cases inst with
    | none => simp [write?] at h
    | some id =>
      simp only [write?, Option.some.injEq] at h
      subst h
      simp [write?, Json.lookup_setField_self, Json.setPath, Json.setSegments_setSegments,
        Json.setField_setField]

/-- Writing back the value a path reads in a well-formed root leaves the store as it was,
unless the read counted the items of an array. -/
theorem write?_of_getPath {root u : Json} (hroot : s.scopeRoot scope inst = some root)
    (hwf : root.WellFormed) (hu : root.getPath path = some u)
    (hc : ¬ Json.CountsItems root (Json.segments path)) (hs : Json.Sorted s.widgets) :
    s.write? scope inst path u = some s := by
  have hset : root.setPath path u = root := Json.setSegments_getSegments hwf hu hc
  cases scope with
  | app =>
    simp only [scopeRoot, Option.some.injEq] at hroot
    subst hroot
    simp [write?, hset]
  | screen =>
    simp only [scopeRoot, Option.some.injEq] at hroot
    subst hroot
    simp [write?, hset]
  | widget =>
    cases inst with
    | none => simp [scopeRoot] at hroot
    | some id =>
      simp only [scopeRoot, Option.bind_some] at hroot
      simp [write?, hroot, hset, Json.setField_of_lookup hs hroot]

/-- Writing back the value a path reads in a well-formed root leaves the store as it was
exactly when the read did not count the items of an array. -/
theorem write?_eq_self_iff {root u : Json} (hroot : s.scopeRoot scope inst = some root)
    (hwf : root.WellFormed) (hu : root.getPath path = some u) (hs : Json.Sorted s.widgets) :
    s.write? scope inst path u = some s ↔ ¬ Json.CountsItems root (Json.segments path) := by
  refine ⟨fun h hc => ?_, fun hc => write?_of_getPath hroot hwf hu hc hs⟩
  -- the root after the write is the root with the count written over the counted array
  have h' := scopeRoot_of_write? h
  rw [hroot, Option.getD_some, Option.some.injEq] at h'
  exact Json.setSegments_ne_of_countsItems u hc h'.symm

end Store

/-- A write at a target that names a scope and path, which the store takes, records the write
and keeps the rest of the world. -/
theorem writeTarget_of_write? {t path : String} {scope : Scope} (ht : Target.Names t scope path)
    {c : Caller} {w : World} {v : Json} {s' : Store}
    (h : w.store.write? scope c.instanceId path v = some s') :
    writeTarget t v c w = (.write t v, { w with store := s' }) := by
  simp [writeTarget, splitTarget_eq_ok_iff.2 ht, h]

namespace StateUpdate

variable {p : StateUpdate} {scope : Scope} {path : String}

/-- `increment` writes the number at the target moved up by the step. -/
theorem run_increment (hop : p.operation = "increment") (ht : Target.Names p.target scope path)
    (c : Caller) (w : World) :
    p.run c w = writeTarget p.target ((Loose.numberValue (Loose.toNumberOrZero
      ((w.store.scopeRoot scope c.instanceId).bind (·.getPath path)) + p.step.getD 1)).getD .null) c w := by
  simp only [run, splitTarget_eq_ok_iff.2 ht, hop]

/-- `decrement` writes the number at the target moved down by the step. -/
theorem run_decrement (hop : p.operation = "decrement") (ht : Target.Names p.target scope path)
    (c : Caller) (w : World) :
    p.run c w = writeTarget p.target ((Loose.numberValue (Loose.toNumberOrZero
      ((w.store.scopeRoot scope c.instanceId).bind (·.getPath path)) + -p.step.getD 1)).getD .null) c w := by
  simp only [run, splitTarget_eq_ok_iff.2 ht, hop]

end StateUpdate

/-- An integer value's number is the double nearest to it. -/
theorem Loose.toNumber_int (n : Int) : Loose.toNumber (some (.int n)) = Binary64.ofInt n := by
  simp [Loose.toNumber, Loose.toNumberOf]

/-! ## Moving a counter up and down -/

open Binary64

/-- The number of an integer value below `2^53` holds that integer. -/
theorem Loose.holdsWhole_int {n : Int} (h : n.natAbs < 2 ^ 53) :
    HoldsWhole (Loose.toNumberOrZero (some (.int n))) n := by
  have hy : HoldsWhole (Loose.toNumber (some (.int n))) n := by
    rw [Loose.toNumber_int]
    exact holdsWhole_ofInt h
  rw [Loose.toNumberOrZero_of_holdsWhole hy]
  exact hy

/-- Moving a whole number by a whole step writes the integer sum. -/
theorem moved_whole {x d : Float} {X D : Int} (hx : HoldsWhole x X) (hd : HoldsWhole d D)
    (h : (X + D).natAbs < 2 ^ 53) : (Loose.numberValue (x + d)).getD .null = .int (X + D) := by
  rw [Loose.numberValue_of_holdsWhole (holdsWhole_add hx hd h) h]
  rfl

/-- Incrementing by a whole step `K` a target whose number holds the whole `X`, then
decrementing it by the same step, writes the integer `X + K` and then the integer `X`. -/
theorem run_up_then_down {t path : String} {scope : Scope} (ht : Target.Names t scope path)
    (c : Caller) (w : World) {k : Float} {X K : Int}
    (hx : HoldsWhole (Loose.toNumberOrZero ((w.store.scopeRoot scope c.instanceId).bind
      (·.getPath path))) X)
    (hk : HoldsWhole k K) (hXK : (X + K).natAbs < 2 ^ 53) (hX : X.natAbs < 2 ^ 53) {s₁ s₂ : Store}
    (h₁ : w.store.write? scope c.instanceId path (.int (X + K)) = some s₁)
    (h₂ : w.store.write? scope c.instanceId path (.int X) = some s₂) :
    StateUpdate.run { target := t, operation := "increment", step := some k } c w
        = (.write t (.int (X + K)), { w with store := s₁ }) ∧
      StateUpdate.run { target := t, operation := "decrement", step := some k } c
          { w with store := s₁ } = (.write t (.int X), { w with store := s₂ }) := by
  constructor
  · rw [StateUpdate.run_increment rfl ht, Option.getD_some, moved_whole hx hk hXK]
    exact writeTarget_of_write? ht h₁
  · -- the first write reads back as the integer `X + K`, whose number holds it
    have hread : (s₁.scopeRoot scope c.instanceId).bind (·.getPath path) = some (.int (X + K)) := by
      rw [Store.scopeRoot_of_write? h₁, Option.bind_some]
      simp [Json.getPath, Json.setPath, Json.getSegments_setSegments]
    have hback : X + K + -K = X := by omega
    rw [StateUpdate.run_decrement rfl ht]
    dsimp only
    rw [hread, Option.getD_some,
      moved_whole (Loose.holdsWhole_int hXK) (holdsWhole_neg hk) (by rw [hback]; exact hX), hback]
    exact writeTarget_of_write? ht (by rw [Store.write?_write? h₁]; exact h₂)

/-- Incrementing a target by a whole step and then decrementing it by the same step. When the
number of the value read is a whole number `X` and `|X|, |X + K| < 2^53`, and the target does
not refuse the caller, the two runs write the integers `X + K` and `X`, and the target then
reads the JSON value of the number first read, the integer `X`. When the value read is the
integer `n` in a well-formed root of a store whose local states are sorted by instance, the
second run gives back the whole world exactly when the read did not count the items of an
array. -/
theorem increment_then_decrement_restores {t path : String} {scope : Scope}
    (ht : Target.Names t scope path) (c : Caller) (w : World) {k : Float} {K : Int}
    (hk : isIntegral k = true) (hK : truncate? k = some K) :
    let inc : StateUpdate := { target := t, operation := "increment", step := some k }
    let dec : StateUpdate := { target := t, operation := "decrement", step := some k }
    let current := (w.store.scopeRoot scope c.instanceId).bind (·.getPath path)
    (∀ X : Int, isIntegral (Loose.toNumberOrZero current) = true →
        truncate? (Loose.toNumberOrZero current) = some X →
        X.natAbs < 2 ^ 53 → (X + K).natAbs < 2 ^ 53 → ¬ Target.Refuses t c →
        (inc.run c w).1 = .write t (.int (X + K)) ∧
        (dec.run c (inc.run c w).2).1 = .write t (.int X) ∧
        ((dec.run c (inc.run c w).2).2.store.scopeRoot scope c.instanceId).bind (·.getPath path)
          = Loose.numberValue (Loose.toNumberOrZero current) ∧
        Loose.numberValue (Loose.toNumberOrZero current) = some (.int X)) ∧
    (∀ (root : Json) (n : Int), w.store.scopeRoot scope c.instanceId = some root →
        root.getPath path = some (.int n) → root.WellFormed → Json.Sorted w.store.widgets →
        n.natAbs < 2 ^ 53 → (n + K).natAbs < 2 ^ 53 →
        (inc.run c w).1 = .write t (.int (n + K)) ∧
          (dec.run c (inc.run c w).2 = (.write t (.int n), w) ↔
            ¬ Json.CountsItems root (Json.segments path))) := by
  intro inc dec current
  have hkw : HoldsWhole k K := (holdsWhole_iff k K).2 ⟨hk, hK⟩
  constructor
  · intro X hint htr hX hXK hok
    have hx : HoldsWhole (Loose.toNumberOrZero current) X := (holdsWhole_iff _ X).2 ⟨hint, htr⟩
    -- a write that is not refused goes through, at both values
    have hinst : scope = .widget → c.instanceId ≠ none := fun hw hi =>
      hok ((Target.refuses_iff ht c).2 ⟨hw, hi⟩)
    obtain ⟨s₁, h₁⟩ : ∃ s₁, w.store.write? scope c.instanceId path (.int (X + K)) = some s₁ :=
      Store.write?_isSome hinst _
    obtain ⟨s₂, h₂⟩ : ∃ s₂, w.store.write? scope c.instanceId path (.int X) = some s₂ :=
      Store.write?_isSome hinst _
    obtain ⟨hinc, hdec⟩ := run_up_then_down ht c w hx hkw hXK hX h₁ h₂
    have hnum := Loose.numberValue_of_holdsWhole hx hX
    refine ⟨by rw [hinc], by rw [hinc, hdec], ?_, hnum⟩
    rw [hinc, hdec, hnum]
    dsimp only
    rw [Store.scopeRoot_of_write? h₂, Option.bind_some]
    simp [Json.getPath, Json.setPath, Json.getSegments_setSegments]
  · intro root n hroot hn hwf hs hn53 hnK
    have hcur : current = some (.int n) := by
      show (w.store.scopeRoot scope c.instanceId).bind (·.getPath path) = _
      rw [hroot, Option.bind_some, hn]
    have hx : HoldsWhole (Loose.toNumberOrZero current) n := by
      rw [hcur]
      exact Loose.holdsWhole_int hn53
    -- the store holds a root for the target's scope, so a local target has an instance
    have hinst : scope = .widget → c.instanceId ≠ none := fun hw hi => by
      subst hw
      simp [Store.scopeRoot, hi] at hroot
    obtain ⟨s₁, h₁⟩ : ∃ s₁, w.store.write? scope c.instanceId path (.int (n + K)) = some s₁ :=
      Store.write?_isSome hinst _
    obtain ⟨s₂, h₂⟩ : ∃ s₂, w.store.write? scope c.instanceId path (.int n) = some s₂ :=
      Store.write?_isSome hinst _
    obtain ⟨hinc, hdec⟩ := run_up_then_down ht c w hx hkw hnK hn53 h₁ h₂
    refine ⟨by rw [hinc], ?_⟩
    -- the world comes back exactly when the second write leaves the store as it was
    rw [hinc, hdec, ← Store.write?_eq_self_iff hroot hwf hn hs, h₂]
    constructor
    · intro h
      have hs₂ : s₂ = w.store := congrArg (fun r => r.2.store) h
      rw [hs₂]
    · intro h
      obtain rfl : s₂ = w.store := Option.some.inj h
      rfl

/-- The counter `app.n` at 40, moved up and down by 2, comes back as it was. -/
theorem counting_up_and_down_by_two :
    let w : World := { store := { app := .obj [("n", .int 40)] } }
    Target.Names "app.n" .app "n" ∧ isIntegral 2 = true ∧ truncate? 2 = some 2 ∧
      StateUpdate.run { target := "app.n", operation := "decrement", step := some 2 } {}
          (StateUpdate.run { target := "app.n", operation := "increment", step := some 2 } {} w).2
        = (.write "app.n" (.int 40), w) := by
  intro w
  have ht : Target.Names "app.n" .app "n" := ⟨"app", by decide, by simp, by decide, rfl⟩
  have hk : isIntegral 2 = true := by decide
  have hK : truncate? 2 = some 2 := by decide
  have hwf : (Json.obj [("n", .int 40)]).WellFormed := by
    refine .obj (by simp [Json.Sorted]) ?_
    simp only [List.mem_singleton, forall_eq]
    exact .int (by norm_num) (by norm_num)
  have hseg : Json.segments "n" = ["n"] := by
    simp +decide [Json.segments, String.splitOn, String.splitOnAux]
  have hn : (Json.obj [("n", .int 40)]).getPath "n" = some (.int 40) := by
    rw [Json.getPath, hseg]
    rfl
  have hc : ¬ Json.CountsItems (.obj [("n", .int 40)]) (Json.segments "n") := by
    rintro ⟨init, xs, h, -⟩
    rw [hseg] at h
    have h' := congrArg List.getLast? h
    simp at h'
  exact ⟨ht, hk, hK, ((increment_then_decrement_restores ht {} w hk hK).2 _ 40 rfl hn hwf
    List.Pairwise.nil (by decide) (by decide)).2.2 hc⟩

/-- Moving the count `app.items.length` of a two-item array up and down by 1 writes the count
over the array: the array does not come back. -/
theorem counting_items_is_not_restored :
    let w : World := { store := { app := .obj [("items", .arr [.int 1, .int 2])] } }
    let inc : StateUpdate := { target := "app.items.length", operation := "increment", step := some 1 }
    let dec : StateUpdate := { target := "app.items.length", operation := "decrement", step := some 1 }
    (w.store.scopeRoot .app none).bind (·.getPath "items.length") = some (.int 2) ∧
      (dec.run {} (inc.run {} w).2).2.store.app = .obj [("items", .obj [("length", .int 2)])] := by
  intro w inc dec
  have ht : Target.Names "app.items.length" .app "items.length" :=
    ⟨"app", by decide, by simp, by decide, rfl⟩
  have hseg : Json.segments "items.length" = ["items", "length"] := by
    simp +decide [Json.segments, String.splitOn, String.splitOnAux]
  -- the count of the array is read as the integer 2
  have hcur : (w.store.scopeRoot .app none).bind (·.getPath "items.length") = some (.int 2) := by
    show Json.getPath _ "items.length" = _
    rw [Json.getPath, hseg]
    rfl
  have hx : HoldsWhole (Loose.toNumberOrZero ((w.store.scopeRoot .app none).bind
      (·.getPath "items.length"))) 2 := by
    rw [hcur]
    exact Loose.holdsWhole_int (by decide)
  have hk : HoldsWhole 1 1 := (holdsWhole_iff 1 1).2 ⟨by decide, by decide⟩
  obtain ⟨hinc, hdec⟩ := run_up_then_down ht {} w hx hk (by decide) (by decide) rfl rfl
  refine ⟨hcur, ?_⟩
  rw [hinc, hdec]
  show Json.setPath _ "items.length" (.int 2) = _
  rw [Json.setPath, hseg]
  rfl

end Storyboard
