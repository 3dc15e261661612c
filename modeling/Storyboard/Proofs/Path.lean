import Storyboard.Json.Path
import Storyboard.Proofs.Checked

/-!
# Laws of dotted paths

Writing a path makes its place exist, so reading the same path afterwards finds exactly
the value written (`getPath_setPath`), whatever the value held before: scalars and
`null` on the way become objects, an array keeps its shape only where the segment is an
index it can hold, and a `length` segment written into an array turns it into an object
whose `length` key is then read back.

A later write of a path supersedes an earlier one entirely (`setPath_setPath`): the objects,
the `null` slot appended to an array and the scalars or arrays turned into objects by the
first write are walked by the second exactly as the second would walk its own, and the last
value stored wins.

Writing back what was read leaves a value unchanged, except where the read came from
derived data (`setPath_eq_self_iff`): a `length` segment at the end of a path that reads an
array answers the number of items, and writing there replaces the array by an object.

A write leaves alone every read that branches off it inside an object
(`getPath_setPath_of_branch`): after the segments the two paths share, they go on by different
keys of the object those segments read. Above that object the values may be objects or arrays;
at it, an array would not do, since a write there may append, turn the array into an object,
or reach one item by two spellings of its index.

The proofs walk both functions down the segments together. The one step that needs
care is an array: the writer keeps it only for a segment that reads as an index, and
such a segment is never `length`, so the reader takes the same index.
-/

namespace Storyboard

namespace Json

/-- `length` does not read as an index. -/
theorem readIndex_length : Decimal.readIndex? "length".toList = none := by
  decide

/-- A segment that reads as an index is not `length`. -/
theorem ne_length_of_readIndex {s : String} {i : Nat} (h : Decimal.readIndex? s.toList = some i) :
    s ≠ "length" := by
  rintro rfl
  rw [readIndex_length] at h
  exact absurd h (by simp)

/-! ## One segment at a time

The equations of the reader and the writer, one for each kind of value the first segment meets.
The proofs below rewrite with these and never unfold the two functions.
-/

theorem getSegments_nil (v : Json) : getSegments v [] = some v := by
  cases v <;> rfl

theorem getSegments_obj_cons (fs : List (String × Json)) (s : String) (rest : List String) :
    getSegments (.obj fs) (s :: rest) = (lookup s fs).bind fun child => getSegments child rest :=
  rfl

theorem getSegments_arr_cons (xs : List Json) (s : String) (rest : List String) :
    getSegments (.arr xs) (s :: rest) =
      if s = "length" then (if rest.isEmpty then some (.int xs.length) else none)
      else match Decimal.readIndex? s.toList with
        | some i => xs[i]?.bind fun child => getSegments child rest
        | none => none :=
  rfl

/-- Nothing is read below a scalar. -/
theorem getSegments_scalar_cons {root : Json} (hobj : ∀ fs, root ≠ .obj fs) (harr : ∀ xs, root ≠ .arr xs)
    (s : String) (rest : List String) : getSegments root (s :: rest) = none := by
  cases root
  case obj fs => exact absurd rfl (hobj fs)
  case arr xs => exact absurd rfl (harr xs)
  all_goals rfl

theorem setSegments_nil (root v : Json) : setSegments root [] v = v := by
  cases root <;> rfl

theorem setSegments_obj_cons (fs : List (String × Json)) (s : String) (rest : List String) (v : Json) :
    setSegments (.obj fs) (s :: rest) v = .obj (setField s (setSegments ((lookup s fs).getD .null) rest v) fs) :=
  rfl

theorem setSegments_arr_cons (xs : List Json) (s : String) (rest : List String) (v : Json) :
    setSegments (.arr xs) (s :: rest) v =
      match Decimal.readIndex? s.toList with
      | some i =>
        if i ≤ xs.length then
          let xs := if i = xs.length then xs ++ [.null] else xs
          .arr (xs.set i (setSegments (xs.getD i .null) rest v))
        else .obj [(s, setSegments .null rest v)]
      | none => .obj [(s, setSegments .null rest v)] :=
  rfl

/-- Writing below a scalar makes an object of one field. -/
theorem setSegments_scalar_cons {root : Json} (hobj : ∀ fs, root ≠ .obj fs) (harr : ∀ xs, root ≠ .arr xs)
    (s : String) (rest : List String) (v : Json) :
    setSegments root (s :: rest) v = .obj [(s, setSegments .null rest v)] := by
  cases root
  case obj fs => exact absurd rfl (hobj fs)
  case arr xs => exact absurd rfl (harr xs)
  all_goals rfl

/-- Reading the segments just written gives the value written. -/
theorem getSegments_setSegments (root : Json) (segs : List String) (v : Json) :
    getSegments (setSegments root segs v) segs = some v := by
  induction segs generalizing root with
  | nil => rw [setSegments_nil, getSegments_nil]
  | cons s rest ih =>
    cases root with
    | obj fs => simp [setSegments_obj_cons, getSegments_obj_cons, lookup_setField_self, ih]
    | arr xs =>
      simp only [setSegments_arr_cons]
      split
      · rename_i i hi
        have hs : s ≠ "length" := ne_length_of_readIndex hi
        split
        · rename_i hle
          simp only [getSegments_arr_cons, hs, if_false, hi]
          by_cases he : i = xs.length
          · simp [he, ih]
          · have hlt : i < xs.length := by omega
            simp [he, hlt, ih]
        · simp [getSegments_obj_cons, lookup, ih]
      · simp [getSegments_obj_cons, lookup, ih]
    | _ => simp [setSegments_scalar_cons, getSegments_obj_cons, lookup, ih]

/-- After writing `v` at a dotted path, reading that path gives `v`. -/
theorem getPath_setPath (root : Json) (path : String) (v : Json) :
    getPath (setPath root path v) path = some v :=
  getSegments_setSegments root (segments path) v

/-! ## A later write supersedes an earlier one -/

/-- Writing a key twice keeps the second value, in the place of the first. -/
theorem setField_setField (key : String) (x y : Json) (fs : List (String × Json)) :
    setField key y (setField key x fs) = setField key y fs := by
  induction fs with
  | nil => simp [setField]
  | cons kv rest ih =>
    obtain ⟨k, v⟩ := kv
    by_cases he : key = k
    · simp [setField, he]
    · by_cases hlt : key < k
      · simp [setField, he, hlt]
      · simp [setField, he, hlt, ih]

/-- A write through an array at an index it holds rewrites that item in place. -/
theorem setSegments_arr_index {xs : List Json} {s : String} {i : Nat}
    (hi : Decimal.readIndex? s.toList = some i) (hlt : i < xs.length) (rest : List String) (v : Json) :
    setSegments (.arr xs) (s :: rest) v = .arr (xs.set i (setSegments xs[i] rest v)) := by
  simp [setSegments_arr_cons, hi, Nat.le_of_lt hlt, Nat.ne_of_lt hlt, List.getD_eq_getElem?_getD, hlt]

/-- A write into an object that keeps one field: the field written again. -/
theorem setSegments_single_field (s : String) (x : Json) (rest : List String) (w : Json) :
    setSegments (.obj [(s, x)]) (s :: rest) w = .obj [(s, setSegments x rest w)] := by
  simp [setSegments_obj_cons, lookup, setField]

/-- Two writes of the same segments come to the second alone. -/
theorem setSegments_setSegments (root : Json) (segs : List String) (v w : Json) :
    setSegments (setSegments root segs v) segs w = setSegments root segs w := by
  induction segs generalizing root with
  | nil => rfl
  | cons s rest ih =>
    cases root with
    | obj fs =>
      simp only [setSegments_obj_cons, lookup_setField_self, Option.getD_some, ih, setField_setField]
    | arr xs =>
      simp only [setSegments_arr_cons]
      split
      · rename_i i hi
        split
        · rename_i hle
          -- after the first write the slot `i` lies inside the array, so the second write
          -- appends nothing and rewrites the same slot
          generalize hys : (if i = xs.length then xs ++ [null] else xs) = ys
          have hlt : i < ys.length := by
            subst hys
            split
            · simp
              omega
            · omega
          rw [setSegments_arr_index hi (by simpa using hlt)]
          simp [List.getD_eq_getElem?_getD, hlt, ih]
        · simp only [setSegments_single_field, ih]
      · simp only [setSegments_single_field, ih]
    | _ => simp [setSegments_scalar_cons, setSegments_single_field, ih]

/-- A later write to a dotted path supersedes an earlier one: writing `v` and then `w` at the
same path gives what writing `w` alone gives. -/
theorem setPath_setPath (root : Json) (path : String) (v w : Json) :
    setPath (setPath root path v) path w = setPath root path w :=
  setSegments_setSegments root (segments path) v w

/-! ## Writing back what was read -/

/-- The read of `segs` ends in a `length` segment on an array: it answers the number of
items, which is not stored in the value. -/
def CountsItems (root : Json) (segs : List String) : Prop :=
  ∃ init xs, segs = init ++ ["length"] ∧ getSegments root init = some (.arr xs)

/-- Reading a joined path reads the first part, then the second from there. -/
theorem getSegments_append (root : Json) (p q : List String) :
    getSegments root (p ++ q) = (getSegments root p).bind fun child => getSegments child q := by
  induction p generalizing root with
  | nil => simp [getSegments_nil]
  | cons s rest ih =>
    cases root with
    | obj fs =>
      simp only [List.cons_append, getSegments_obj_cons, ih, Option.bind_assoc]
    | arr xs =>
      simp only [List.cons_append, getSegments_arr_cons]
      split
      · -- `length` reads only as the last segment, and a count has no places below it
        cases rest with
        | nil => cases q <;> simp [getSegments_nil, getSegments_scalar_cons]
        | cons _ _ => simp
      · split
        · simp only [ih, Option.bind_assoc]
        · rfl
    | _ => rfl

/-- Writing at a count turns the array into an object holding the count's key. -/
theorem setSegments_count (xs : List Json) (q : List String) (v : Json) :
    setSegments (.arr xs) ("length" :: q) v = .obj [("length", setSegments .null q v)] := rfl

/-- Writing below a scalar replaces it as writing below `null` does. -/
theorem setSegments_int (n : Int) (segs : List String) (v : Json) :
    setSegments (.int n) segs v = setSegments .null segs v := by
  cases segs <;> rfl

/-- Writing below a place that reads `child` is writing into `child` and storing the result
there. -/
theorem setSegments_append {root child : Json} {p : List String}
    (h : getSegments root p = some child) (q : List String) (v : Json) :
    setSegments root (p ++ q) v = setSegments root p (setSegments child q v) := by
  induction p generalizing root with
  | nil =>
    simp only [getSegments_nil, Option.some.injEq] at h
    subst h
    rfl
  | cons s rest ih =>
    cases root with
    | obj fs =>
      simp only [getSegments_obj_cons, Option.bind_eq_some_iff] at h
      obtain ⟨c, hc, hrest⟩ := h
      simp only [List.cons_append, setSegments_obj_cons, hc, Option.getD_some, ih hrest]
    | arr xs =>
      simp only [getSegments_arr_cons] at h
      split at h
      · -- a count: the array becomes an object either way
        rename_i hs
        subst hs
        cases rest with
        | nil =>
          simp only [List.isEmpty_nil, if_true, Option.some.injEq] at h
          subst h
          simp only [List.cons_append, List.nil_append, setSegments_count, setSegments_int]
          rfl
        | cons _ _ => simp at h
      · split at h
        · rename_i i hi
          obtain ⟨c, hc, hrest⟩ := Option.bind_eq_some_iff.1 h
          have hlt : i < xs.length := (List.getElem?_eq_some_iff.1 hc).1
          have hget : xs.getD i .null = c := by simp [List.getD_eq_getElem?_getD, hc]
          simp only [List.cons_append, setSegments_arr_cons, hi, Nat.le_of_lt hlt, if_true, Nat.ne_of_lt hlt,
            if_false, hget, ih hrest]
        · exact absurd h (by simp)
    | _ => exact absurd h (by simp [getSegments_scalar_cons])

/-- A value whose read of `s` finds `child` counts items below `s` when `child` counts them. -/
theorem CountsItems.cons {root child : Json} {s : String} {rest : List String}
    (h : getSegments root [s] = some child) (hc : CountsItems child rest) :
    CountsItems root (s :: rest) := by
  obtain ⟨init, xs, rfl, hxs⟩ := hc
  refine ⟨s :: init, xs, rfl, ?_⟩
  rw [show s :: init = [s] ++ init from rfl, getSegments_append, h]
  exact hxs

/-- In a sorted field list, storing the value a key already holds changes nothing. -/
theorem setField_of_lookup {fs : List (String × Json)} (hs : Sorted fs) {key : String} {v : Json}
    (h : lookup key fs = some v) : setField key v fs = fs := by
  induction fs with
  | nil => simp [lookup] at h
  | cons kv rest ih =>
    obtain ⟨k, x⟩ := kv
    by_cases hk : k = key
    · subst hk
      simp only [lookup, if_true, Option.some.injEq] at h
      simp [setField, h]
    · simp only [lookup, hk, if_false] at h
      -- the key lies further on, so it is above `k`
      have hgt : k < key := (List.pairwise_cons.1 hs).1 _ (mem_of_lookup_eq_some h)
      simp [setField, Ne.symm hk, not_lt_of_gt hgt, ih (List.pairwise_cons.1 hs).2 h]

/-- Writing back a stored value that was read leaves a well-formed value unchanged. -/
theorem setSegments_getSegments {root : Json} (hr : root.WellFormed) {segs : List String} {u : Json}
    (h : getSegments root segs = some u) (hc : ¬ CountsItems root segs) :
    setSegments root segs u = root := by
  induction segs generalizing root with
  | nil =>
    simp only [getSegments_nil, Option.some.injEq] at h
    subst h
    rfl
  | cons s rest ih =>
    rw [show s :: rest = [s] ++ rest from rfl, getSegments_append] at h
    obtain ⟨child, hs, hrest⟩ := Option.bind_eq_some_iff.1 h
    have hcc : ¬ CountsItems child rest := fun hcc => hc (hcc.cons hs)
    cases root with
    | obj fs =>
      simp only [getSegments_obj_cons, getSegments_nil, Option.bind_eq_some_iff] at hs
      obtain ⟨c, hlook, hcs⟩ := hs
      simp only [Option.some.injEq] at hcs
      subst hcs
      have hsorted : Sorted fs := by cases hr with | obj hs _ => exact hs
      simp only [setSegments_obj_cons, hlook, Option.getD_some, ih (hr.lookup hlook) hrest hcc,
        setField_of_lookup hsorted hlook]
    | arr xs =>
      simp only [getSegments_arr_cons] at hs
      split at hs
      · -- a count, excluded by hypothesis: nothing can be read below it
        rename_i hl
        subst hl
        cases rest with
        | nil => exact absurd ⟨[], xs, rfl, rfl⟩ hc
        | cons _ _ =>
          simp only [List.isEmpty_nil, if_true, Option.some.injEq] at hs
          subst hs
          simp [getSegments_scalar_cons] at hrest
      · split at hs
        · rename_i i hi
          obtain ⟨c, hcx, hcs⟩ := Option.bind_eq_some_iff.1 hs
          simp only [getSegments_nil, Option.some.injEq] at hcs
          subst hcs
          have hlt : i < xs.length := (List.getElem?_eq_some_iff.1 hcx).1
          have hmem : c ∈ xs := List.mem_of_getElem? hcx
          have hwf : c.WellFormed := by cases hr with | arr h => exact h c hmem
          have hget : xs.getD i .null = c := by simp [List.getD_eq_getElem?_getD, hcx]
          simp only [setSegments_arr_cons, hi, Nat.le_of_lt hlt, if_true, Nat.ne_of_lt hlt, if_false, hget,
            ih hwf hrest hcc]
          rw [← (List.getElem?_eq_some_iff.1 hcx).2, List.set_getElem_self]
        · exact absurd hs (by simp)
    | _ => exact absurd hs (by simp [getSegments_scalar_cons])

/-- Writing at a count turns the counted array into an object, so the value changes. -/
theorem setSegments_ne_of_countsItems {root : Json} {segs : List String} (u : Json)
    (hc : CountsItems root segs) : setSegments root segs u ≠ root := by
  obtain ⟨init, xs, rfl, hxs⟩ := hc
  intro heq
  rw [setSegments_append hxs] at heq
  -- reading the prefix back finds the object written there, where the array was
  have hread := getSegments_setSegments root init (setSegments (.arr xs) ["length"] u)
  rw [heq, hxs, setSegments_count] at hread
  simp at hread

/-- Writing back the value a dotted path reads leaves a well-formed value unchanged, unless
the read is a count of an array's items; writing at a count changes the value. -/
theorem setPath_eq_self_iff {root : Json} (hr : root.WellFormed) {path : String} {u : Json}
    (h : getPath root path = some u) :
    setPath root path u = root ↔ ¬ CountsItems root (segments path) :=
  ⟨fun heq hc => setSegments_ne_of_countsItems u hc heq, setSegments_getSegments hr h⟩

/-- Writing an item of a list back where it was read keeps the value. -/
theorem setPath_eq_self_iff_items :
    (Json.obj [("items", .arr [.int 1, .int 2])]).WellFormed ∧
      getPath (.obj [("items", .arr [.int 1, .int 2])]) "items.1" = some (.int 2) ∧
      (setPath (.obj [("items", .arr [.int 1, .int 2])]) "items.1" (.int 2) =
          .obj [("items", .arr [.int 1, .int 2])] ↔
        ¬ CountsItems (.obj [("items", .arr [.int 1, .int 2])]) (segments "items.1")) := by
  have hwf : (Json.obj [("items", .arr [.int 1, .int 2])]).WellFormed := by
    refine .obj (by simp [Sorted]) ?_
    simp only [List.mem_singleton, forall_eq]
    refine .arr ?_
    simp only [List.mem_cons, List.not_mem_nil, or_false, forall_eq_or_imp, forall_eq]
    exact ⟨.int (by norm_num) (by norm_num), .int (by norm_num) (by norm_num)⟩
  have hget : getPath (.obj [("items", .arr [.int 1, .int 2])]) "items.1" = some (.int 2) := by
    have hseg : "items.1".splitOn "." = ["items", "1"] := by simp +decide [String.splitOn, String.splitOnAux]
    rw [getPath, segments, hseg]
    rfl
  exact ⟨hwf, hget, setPath_eq_self_iff hwf hget⟩

/-- Writing back the count of an array's items replaces the array by an object. -/
theorem writing_back_a_count_replaces_the_array :
    getPath (.arr [.int 1, .int 2]) "length" = some (.int 2) ∧
      setPath (.arr [.int 1, .int 2]) "length" (.int 2) ≠ .arr [.int 1, .int 2] := by
  have hseg : "length".splitOn "." = ["length"] := by simp +decide [String.splitOn, String.splitOnAux]
  refine ⟨?_, ?_⟩
  · rw [getPath, segments, hseg]
    rfl
  · rw [setPath, segments, hseg, setSegments_count]
    simp

/-! ## Reads that branch off a write -/

/-- Writing below one key of an object leaves what is read below another key. -/
theorem getSegments_setSegments_obj_ne (fs : List (String × Json)) {a b : String} (hab : a ≠ b)
    (prest qrest : List String) (v : Json) :
    getSegments (setSegments (.obj fs) (a :: prest) v) (b :: qrest)
      = getSegments (.obj fs) (b :: qrest) := by
  simp only [setSegments_obj_cons, getSegments_obj_cons, lookup_setField_ne _ _ (Ne.symm hab)]

/-- A write leaves alone a read that shares its first segments `pre` and then goes on by
another key of the object that `pre` reads. -/
theorem getSegments_setSegments_of_branch {root : Json} {pre : List String}
    {fs : List (String × Json)} (hobj : getSegments root pre = some (.obj fs)) {a b : String}
    (hab : a ≠ b) (prest qrest : List String) (v : Json) :
    getSegments (setSegments root (pre ++ a :: prest) v) (pre ++ b :: qrest)
      = getSegments root (pre ++ b :: qrest) := by
  -- the write stores a new object at `pre`, which the read then enters by `b`
  rw [setSegments_append hobj, getSegments_append, getSegments_setSegments, Option.bind_some,
    getSegments_setSegments_obj_ne fs hab, getSegments_append, hobj, Option.bind_some]

/-- A write never disturbs a read along a path that branches off it through an object: when
the segments of `p` and `q` agree up to a first difference, `a` against `b`, and the common
segments read an object, reading `q` after writing `p` gives what reading `q` gave before. -/
theorem getPath_setPath_of_branch {root : Json} {p q : String} {pre prest qrest : List String}
    {a b : String} (hp : segments p = pre ++ a :: prest) (hq : segments q = pre ++ b :: qrest)
    (hab : a ≠ b) (hobj : ∃ fs, getSegments root pre = some (.obj fs)) (v : Json) :
    getPath (setPath root p v) q = getPath root q := by
  obtain ⟨fs, hfs⟩ := hobj
  unfold getPath setPath
  rw [hp, hq]
  exact getSegments_setSegments_of_branch hfs hab prest qrest v

/-- Writing a user's name leaves the user's age as it was. -/
theorem writing_the_name_keeps_the_age :
    let root : Json := .obj [("user", .obj [("age", .int 3), ("name", .str "Aki")])]
    segments "user.name" = ["user"] ++ "name" :: [] ∧ segments "user.age" = ["user"] ++ "age" :: [] ∧
      "name" ≠ "age" ∧ (∃ fs, getSegments root ["user"] = some (.obj fs)) ∧
      getPath (setPath root "user.name" (.str "Mio")) "user.age" = getPath root "user.age" := by
  intro root
  have hp : segments "user.name" = ["user"] ++ "name" :: [] := by
    simp +decide [segments, String.splitOn, String.splitOnAux]
  have hq : segments "user.age" = ["user"] ++ "age" :: [] := by
    simp +decide [segments, String.splitOn, String.splitOnAux]
  have hab : "name" ≠ "age" := by decide
  have hobj : ∃ fs, getSegments root ["user"] = some (.obj fs) := ⟨_, rfl⟩
  exact ⟨hp, hq, hab, hobj, getPath_setPath_of_branch hp hq hab hobj _⟩

end Json

end Storyboard
