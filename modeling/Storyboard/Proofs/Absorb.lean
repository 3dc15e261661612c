import Mathlib.Data.String.Basic
import Storyboard.Preview.Outcome

/-!
# Merging outcomes

`Outcome.absorb` merges the outcome of a later step into an earlier one. Merging is
associative, with `Outcome.ok` as its unit, as long as the changes are kept sorted by
path, which every outcome the runtime builds is. So an outcome built by absorbing nested
outcomes is the one built by absorbing all their steps one by one (`Step.absorb_fold`).

The one part that needs care is `changes`: a field list kept sorted by path, where a
later write of a path wins. Two sorted field lists are equal as soon as every path reads
the same in both (`Json.eq_of_lookup_eq`), and reading a merged list is reading the
later list first (`Json.lookup_merge`).

Reading a fold of steps: it succeeds when no step failed, its error is the message of the
first failure, and its signals are those of the steps, in order.
-/

namespace Storyboard

namespace Json

/-- Field lists whose keys strictly increase, the form objects and changes are kept in. -/
def Sorted (fs : List (String × Json)) : Prop := fs.Pairwise (fun a b => a.1 < b.1)

/-- Write the fields of `more` into `fs`, in order. -/
def merge (fs more : List (String × Json)) : List (String × Json) :=
  more.foldl (fun cs (k, v) => setField k v cs) fs

theorem merge_nil (fs : List (String × Json)) : merge fs [] = fs := rfl

theorem lookup_append (key : String) (xs ys : List (String × Json)) :
    lookup key (xs ++ ys) = (lookup key xs).or (lookup key ys) := by
  induction xs with
  | nil => simp [lookup]
  | cons kv rest ih =>
    obtain ⟨k, v⟩ := kv
    by_cases h : k = key <;> simp [lookup, h, ih]

theorem lookup_eq_none {key : String} {fs : List (String × Json)} (h : ∀ b ∈ fs, b.1 ≠ key) :
    lookup key fs = none := by
  induction fs with
  | nil => rfl
  | cons kv rest ih =>
    obtain ⟨k, v⟩ := kv
    have hk : k ≠ key := h (k, v) (by simp)
    simp only [lookup, hk, if_false]
    exact ih fun b hb => h b (by simp [hb])

theorem mem_of_lookup_eq_some {key : String} {v : Json} {fs : List (String × Json)}
    (h : lookup key fs = some v) : (key, v) ∈ fs := by
  induction fs with
  | nil => simp [lookup] at h
  | cons kv rest ih =>
    obtain ⟨k, u⟩ := kv
    by_cases hk : k = key
    · subst hk
      simp only [lookup, if_true, Option.some.injEq] at h
      simp [h]
    · simp only [lookup, hk, if_false] at h
      exact List.mem_cons_of_mem _ (ih h)

theorem mem_setField {key : String} {value : Json} {fs : List (String × Json)}
    {b : String × Json} (h : b ∈ setField key value fs) : b = (key, value) ∨ b ∈ fs := by
  induction fs with
  | nil => simpa [setField] using h
  | cons kv rest ih =>
    obtain ⟨k, v⟩ := kv
    simp only [setField] at h
    split at h
    · rcases List.mem_cons.1 h with h | h
      · exact .inl h
      · exact .inr (List.mem_cons_of_mem _ h)
    · split at h
      · rcases List.mem_cons.1 h with h | h
        · exact .inl h
        · exact .inr h
      · rcases List.mem_cons.1 h with h | h
        · exact .inr (h ▸ List.mem_cons_self)
        · rcases ih h with h | h
          · exact .inl h
          · exact .inr (List.mem_cons_of_mem _ h)

theorem sorted_setField {key : String} {value : Json} {fs : List (String × Json)}
    (h : Sorted fs) : Sorted (setField key value fs) := by
  induction fs with
  | nil => simp [Sorted, setField]
  | cons kv rest ih =>
    obtain ⟨k, v⟩ := kv
    have hrest : Sorted rest := (List.pairwise_cons.1 h).2
    have hk : ∀ b ∈ rest, k < b.1 := (List.pairwise_cons.1 h).1
    simp only [setField]
    split
    · rename_i he
      subst he
      exact List.pairwise_cons.2 ⟨hk, hrest⟩
    · split
      · rename_i _ hlt
        refine List.pairwise_cons.2 ⟨?_, h⟩
        intro b hb
        rcases List.mem_cons.1 hb with rfl | hb
        · exact hlt
        · exact lt_trans hlt (hk b hb)
      · rename_i hne hlt
        -- the key goes after `k`, so `k` stays first
        have hgt : k < key := lt_of_le_of_ne (not_lt.1 hlt) (Ne.symm hne)
        refine List.pairwise_cons.2 ⟨?_, ih hrest⟩
        intro b hb
        rcases mem_setField hb with rfl | hb
        · exact hgt
        · exact hk b hb

/-- A key is written at most once in a sorted list, so reading it from the end finds the
same value. -/
theorem lookup_reverse {fs : List (String × Json)} (h : Sorted fs) (key : String) :
    lookup key fs.reverse = lookup key fs := by
  induction fs with
  | nil => rfl
  | cons kv rest ih =>
    obtain ⟨k, v⟩ := kv
    have hrest : Sorted rest := (List.pairwise_cons.1 h).2
    rw [List.reverse_cons, lookup_append, ih hrest]
    by_cases hk : k = key
    · subst hk
      have hnone : lookup k rest = none :=
        lookup_eq_none fun b hb => ne_of_gt ((List.pairwise_cons.1 h).1 b hb)
      simp [lookup, hnone]
    · simp [lookup, hk]

theorem lookup_merge (key : String) (fs more : List (String × Json)) :
    lookup key (merge fs more) = (lookup key more.reverse).or (lookup key fs) := by
  induction more generalizing fs with
  | nil => simp [merge, lookup]
  | cons kv rest ih =>
    obtain ⟨k, v⟩ := kv
    have hstep : merge fs ((k, v) :: rest) = merge (setField k v fs) rest := rfl
    rw [hstep, ih, List.reverse_cons, lookup_append]
    by_cases hk : k = key
    · subst hk
      simp [lookup, lookup_setField_self]
    · simp [lookup, hk, lookup_setField_ne _ _ (Ne.symm hk)]

theorem sorted_merge {fs : List (String × Json)} (more : List (String × Json)) (h : Sorted fs) :
    Sorted (merge fs more) := by
  induction more generalizing fs with
  | nil => exact h
  | cons kv rest ih => exact ih (sorted_setField h)

/-- Two sorted field lists that read the same at every key are the same list. -/
theorem eq_of_lookup_eq {xs ys : List (String × Json)} (hx : Sorted xs) (hy : Sorted ys)
    (h : ∀ key, lookup key xs = lookup key ys) : xs = ys := by
  induction xs generalizing ys with
  | nil =>
    cases ys with
    | nil => rfl
    | cons lu _ =>
      have := h lu.1
      simp [lookup] at this
  | cons kv xs ih =>
    obtain ⟨k, v⟩ := kv
    cases ys with
    | nil =>
      have := h k
      simp [lookup] at this
    | cons lu ys =>
      obtain ⟨l, u⟩ := lu
      have hxk : ∀ b ∈ xs, k < b.1 := (List.pairwise_cons.1 hx).1
      have hyl : ∀ b ∈ ys, l < b.1 := (List.pairwise_cons.1 hy).1
      -- each head key is read in the other list, so neither is below the other
      have hkl : k = l := by
        by_contra hne
        have h1 : lookup k ((l, u) :: ys) = some v := by rw [← h k]; simp [lookup]
        have h2 : lookup l ((k, v) :: xs) = some u := by rw [h l]; simp [lookup]
        simp only [lookup, Ne.symm hne, if_false] at h1
        simp only [lookup, hne, if_false] at h2
        have hlk := hyl _ (mem_of_lookup_eq_some h1)
        have hkl := hxk _ (mem_of_lookup_eq_some h2)
        exact lt_asymm hlk hkl
      subst hkl
      have hvu : v = u := by simpa [lookup] using h k
      subst hvu
      have htail : ∀ key, lookup key xs = lookup key ys := by
        intro key
        by_cases hk : k = key
        · subst hk
          rw [lookup_eq_none fun b hb => ne_of_gt (hxk b hb),
            lookup_eq_none fun b hb => ne_of_gt (hyl b hb)]
        · simpa [lookup, hk] using h key
      rw [ih (List.pairwise_cons.1 hx).2 (List.pairwise_cons.1 hy).2 htail]

/-- A sorted list is its own merge into the empty object. -/
theorem merge_nil_of_sorted {fs : List (String × Json)} (h : Sorted fs) : merge [] fs = fs :=
  eq_of_lookup_eq (sorted_merge _ .nil) h fun key => by
    simp [lookup_merge, lookup_reverse h, lookup]

end Json

namespace Outcome

/-- An outcome whose changes are kept sorted by path. -/
def Sorted (r : Outcome) : Prop := Json.Sorted r.changes

/-- The outcome with its data left out: what the claims about merging compare. -/
def sansData (r : Outcome) : Outcome := { r with data := none }

@[simp] theorem sansData_success (r : Outcome) : r.sansData.success = r.success := rfl

@[simp] theorem sansData_changes (r : Outcome) : r.sansData.changes = r.changes := rfl

@[simp] theorem sansData_error (r : Outcome) : r.sansData.error = r.error := rfl

@[simp] theorem sansData_effects (r : Outcome) : r.sansData.effects = r.effects := rfl

/-- Merging, field by field. The proofs below rewrite with this and never unfold `absorb`. -/
theorem absorb_eq (r o : Outcome) : r.absorb o =
    ⟨r.success && o.success, Json.merge r.changes o.changes, r.error.or o.error, r.effects ++ o.effects,
      o.data.or r.data⟩ := rfl

theorem ok_eq : ok = ⟨true, [], none, [], none⟩ := rfl

theorem absorb_changes (r o : Outcome) : (r.absorb o).changes = Json.merge r.changes o.changes :=
  rfl

theorem absorb_success (r o : Outcome) : (r.absorb o).success = (r.success && o.success) := rfl

theorem absorb_error (r o : Outcome) : (r.absorb o).error = r.error.or o.error := rfl

theorem absorb_effects (r o : Outcome) : (r.absorb o).effects = r.effects ++ o.effects := rfl

theorem sorted_ok : ok.Sorted := List.Pairwise.nil

theorem sorted_failure (f : Failure) : (failure f).Sorted := List.Pairwise.nil

theorem sorted_absorb {r : Outcome} (o : Outcome) (hr : r.Sorted) : (r.absorb o).Sorted :=
  Json.sorted_merge _ hr

theorem sorted_sansData {r : Outcome} (hr : r.Sorted) : r.sansData.Sorted := hr

@[simp] theorem absorb_ok (r : Outcome) : r.absorb ok = r := by
  cases r
  simp [absorb_eq, ok_eq, Json.merge_nil]

theorem ok_absorb {o : Outcome} (ho : o.Sorted) : ok.absorb o = o := by
  obtain ⟨success, changes, error, effects, data⟩ := o
  have hch : Json.merge [] changes = changes := by
    apply Json.eq_of_lookup_eq (Json.sorted_merge _ List.Pairwise.nil) ho
    intro key
    simp [Json.lookup_merge, Json.lookup_reverse ho, Json.lookup]
  simp only [absorb_eq, ok_eq, hch, Bool.true_and, List.nil_append, Option.none_or, Option.or_none]

theorem absorb_assoc {r o : Outcome} (p : Outcome) (hr : r.Sorted) (ho : o.Sorted) :
    (r.absorb o).absorb p = r.absorb (o.absorb p) := by
  -- every field is associative on its own; the changes need both lists sorted
  have hch : Json.merge (Json.merge r.changes o.changes) p.changes
      = Json.merge r.changes (Json.merge o.changes p.changes) := by
    apply Json.eq_of_lookup_eq (Json.sorted_merge _ (Json.sorted_merge _ hr))
      (Json.sorted_merge _ hr)
    intro key
    rw [Json.lookup_merge, Json.lookup_merge, Json.lookup_merge,
      Json.lookup_reverse (Json.sorted_merge _ ho), Json.lookup_merge,
      Json.lookup_reverse ho, Option.or_assoc]
  simp only [absorb_eq, hch, Bool.and_assoc, Option.or_assoc, List.append_assoc]

theorem sansData_absorb (r o : Outcome) : (r.absorb o).sansData = r.sansData.absorb o.sansData :=
  rfl

/-- The changes of a merge read the later outcome's write of a path first. -/
theorem lookup_absorb_changes (r : Outcome) {o : Outcome} (ho : o.Sorted) (key : String) :
    Json.lookup key (r.absorb o).changes = (Json.lookup key o.changes).or (Json.lookup key r.changes) := by
  rw [absorb_changes, Json.lookup_merge, Json.lookup_reverse ho]

/-- An outcome fails exactly when it carries an error. -/
def FailsWithError (r : Outcome) : Prop := r.success = false ↔ r.error.isSome

theorem failsWithError_absorb {r o : Outcome} (hr : r.FailsWithError) (ho : o.FailsWithError) :
    (r.absorb o).FailsWithError := by
  simp only [FailsWithError, absorb_success, absorb_error, Bool.and_eq_false_iff, Option.isSome_or,
    Bool.or_eq_true]
  exact or_congr hr ho

/-- Merging is a monoid on outcomes whose changes are kept sorted by path, as the runtime
keeps them, with `ok` as unit. Field by field, success is the conjunction, the error is the
first one, the changes are a map in which later writes win, the signals come in order and the
data is the last one given; so merging outcomes that fail exactly when they carry an error
gives another such outcome. -/
theorem absorb_forms_a_monoid (a b c : Outcome) (ha : a.Sorted) (hb : b.Sorted) :
    ((a.absorb b).absorb c = a.absorb (b.absorb c) ∧ ok.absorb a = a ∧ a.absorb ok = a) ∧
    ((a.absorb b).success = (a.success && b.success) ∧ (a.absorb b).error = a.error.or b.error ∧
      (a.absorb b).Sorted ∧
      (∀ key, Json.lookup key (a.absorb b).changes =
        (Json.lookup key b.changes).or (Json.lookup key a.changes)) ∧
      (a.absorb b).effects = a.effects ++ b.effects ∧ (a.absorb b).data = b.data.or a.data) ∧
    (a.FailsWithError → b.FailsWithError → (a.absorb b).FailsWithError) :=
  ⟨⟨absorb_assoc c ha hb, ok_absorb ha, absorb_ok a⟩,
    ⟨rfl, rfl, sorted_absorb b ha, lookup_absorb_changes a hb, rfl, rfl⟩, failsWithError_absorb⟩

/-- The merges of a write, then a failure, then a failure that also writes. -/
theorem absorbing_writes_and_failures :
    let a := ok.withChange "app.a" (.int 1)
    let b := failure (.unsupportedOperation "x")
    let c := (failure (.invalidScope "y")).withChange "app.b" (.int 2)
    a.Sorted ∧ b.Sorted ∧
    (((a.absorb b).absorb c = a.absorb (b.absorb c) ∧ ok.absorb a = a ∧ a.absorb ok = a) ∧
      ((a.absorb b).success = (a.success && b.success) ∧ (a.absorb b).error = a.error.or b.error ∧
        (a.absorb b).Sorted ∧
        (∀ key, Json.lookup key (a.absorb b).changes =
          (Json.lookup key b.changes).or (Json.lookup key a.changes)) ∧
        (a.absorb b).effects = a.effects ++ b.effects ∧ (a.absorb b).data = b.data.or a.data) ∧
      (a.FailsWithError → b.FailsWithError → (a.absorb b).FailsWithError)) :=
  have ha : (ok.withChange "app.a" (.int 1)).Sorted := Json.sorted_setField sorted_ok
  have hb : (failure (.unsupportedOperation "x")).Sorted := sorted_failure _
  ⟨ha, hb, absorb_forms_a_monoid _ _ ((failure (.invalidScope "y")).withChange "app.b" (.int 2)) ha hb⟩

end Outcome

namespace Step

/-- The failure of a step, if it is one. -/
def failure? : Step → Option Failure
  | .fail f => some f
  | _ => none

/-- The signal of a step, if it is one. -/
def signal? : Step → Option Effect
  | .signal e => some e
  | _ => none

/-- Whether a step is a failure. -/
def isFailure (s : Step) : Bool := s.failure?.isSome

/-- Absorb the outcomes of steps into `acc`, in order. -/
def fold (acc : Outcome) (ss : List Step) : Outcome := ss.foldl (fun r s => r.absorb s.outcome) acc

@[simp] theorem fold_nil (acc : Outcome) : fold acc [] = acc := rfl

@[simp] theorem fold_cons (acc : Outcome) (s : Step) (ss : List Step) :
    fold acc (s :: ss) = fold (acc.absorb s.outcome) ss := rfl

theorem fold_append (acc : Outcome) (ss tt : List Step) :
    fold acc (ss ++ tt) = fold (fold acc ss) tt :=
  List.foldl_append

/-! The outcome of one step, field by field. The proofs about folds rewrite with these and
never unfold the outcome. -/

theorem success_outcome (s : Step) : s.outcome.success = !s.isFailure := by
  cases s <;> rfl

theorem error_outcome (s : Step) : s.outcome.error = s.failure?.map Failure.message := by
  cases s <;> rfl

theorem effects_outcome (s : Step) : s.outcome.effects = s.signal?.toList := by
  cases s <;> rfl

theorem sorted_outcome (s : Step) : s.outcome.Sorted := by
  cases s with
  | write t v => exact Json.sorted_setField Outcome.sorted_ok
  | signal e => exact Outcome.sorted_ok
  | fail f => exact Outcome.sorted_failure f

theorem sansData_outcome (s : Step) : s.outcome.sansData = s.outcome := by
  cases s <;> rfl

theorem sorted_fold {acc : Outcome} (ss : List Step) (h : acc.Sorted) : (fold acc ss).Sorted := by
  induction ss generalizing acc with
  | nil => exact h
  | cons s ss ih => exact ih (Outcome.sorted_absorb _ h)

/-- Absorbing a fold is folding on: the law that lets nested outcomes be flattened. -/
theorem absorb_fold {r o : Outcome} (ss : List Step) (hr : r.Sorted) (ho : o.Sorted) :
    r.absorb (fold o ss) = fold (r.absorb o) ss := by
  induction ss generalizing o with
  | nil => rfl
  | cons s ss ih =>
    rw [fold_cons, ih (Outcome.sorted_absorb _ ho), fold_cons, Outcome.absorb_assoc _ hr ho]

theorem absorb_fold_ok {r : Outcome} (ss : List Step) (hr : r.Sorted) :
    r.absorb (fold Outcome.ok ss) = fold r ss := by
  rw [absorb_fold ss hr Outcome.sorted_ok, Outcome.absorb_ok]

theorem sansData_fold (acc : Outcome) (ss : List Step) :
    (fold acc ss).sansData = fold acc.sansData ss := by
  induction ss generalizing acc with
  | nil => rfl
  | cons s ss ih => rw [fold_cons, ih, Outcome.sansData_absorb, sansData_outcome, fold_cons]

theorem fold_success (acc : Outcome) (ss : List Step) :
    (fold acc ss).success = (acc.success && !ss.any isFailure) := by
  induction ss generalizing acc with
  | nil => simp
  | cons s ss ih =>
    rw [fold_cons, ih, Outcome.absorb_success, success_outcome, List.any_cons, Bool.not_or,
      Bool.and_assoc]

theorem fold_error (acc : Outcome) (ss : List Step) :
    (fold acc ss).error = acc.error.or ((ss.findSome? failure?).map Failure.message) := by
  induction ss generalizing acc with
  | nil => simp
  | cons s ss ih =>
    rw [fold_cons, ih, Outcome.absorb_error, error_outcome, Option.or_assoc, List.findSome?_cons]
    -- the first failure is this step's when it is one, and the rest's first otherwise
    cases s.failure? <;> rfl

theorem fold_effects (acc : Outcome) (ss : List Step) :
    (fold acc ss).effects = acc.effects ++ ss.filterMap signal? := by
  induction ss generalizing acc with
  | nil => simp
  | cons s ss ih =>
    rw [fold_cons, ih, Outcome.absorb_effects, effects_outcome, List.filterMap_cons,
      List.append_assoc]
    cases s.signal? <;> rfl

/-- A fold of steps fails exactly when it carries an error. -/
theorem fold_ok_success_eq_false_iff (ss : List Step) :
    (fold Outcome.ok ss).success = false ↔ (fold Outcome.ok ss).error.isSome := by
  rw [fold_success, fold_error]
  simp [Outcome.ok_eq, isFailure, Option.isSome_iff_ne_none]

end Step

end Storyboard
