import Storyboard.Proofs.Placement

/-!
# Placing children twice

`reflow` moves every child of a flex container to the spot that placing computes from the
container and from the children's sizes, in placing order. What placing reads of the
children never changes by being placed: their ids, which fix the order, their sizes along
the main axis, and their sizes across it, which only `stretch` overwrites, with a value that
does not depend on the child. So placing children that are already placed puts each one
where it is.

* `getElem?_foldl_set_of_mem`, `foldl_set_self`: writing entries into a list one at a time,
  when no index is written twice, leaves each written index holding its value; writing the
  values a list already holds changes nothing.
* `placementOrder_map_fst_of_ids`: the placing order reads only the children's ids.
* `Frame.spots_congr`: the spots read the children's sizes across only through the place and
  size that `across` makes of them.
* `reflow_getElem?`: each child ends at its spot.
* `placings_of_placed`, `reflow_of_placed`: children found each as it was or at its spot are
  taken in the same order and placed at the same spots.
* `reflow_idempotent`: placing twice is placing once.
* `reflow_written`: writing back any of the children placing moved, and placing again, places
  them as the first time.
-/

namespace Storyboard

/-! ## Writing entries into a list -/

section SetFold

variable {α γ : Type} (idx : γ → Nat) (val : γ → α)

/-- Writing into a list the values it already holds changes nothing. -/
theorem foldl_set_self {es : List γ} {l : List α} (h : ∀ e ∈ es, l[idx e]? = some (val e)) :
    es.foldl (fun l e => l.set (idx e) (val e)) l = l := by
  induction es with
  | nil => rfl
  | cons e es ih =>
    obtain ⟨hi, hv⟩ := List.getElem?_eq_some_iff.1 (h e List.mem_cons_self)
    rw [List.foldl_cons, ← hv, List.set_getElem_self]
    exact ih fun e' he' => h e' (List.mem_cons_of_mem e he')

/-- An index that no entry writes keeps its value. -/
theorem getElem?_foldl_set_of_not_mem {es : List γ} {j : Nat} (hj : ∀ e ∈ es, idx e ≠ j)
    (l : List α) : (es.foldl (fun l e => l.set (idx e) (val e)) l)[j]? = l[j]? := by
  induction es generalizing l with
  | nil => rfl
  | cons e es ih =>
    rw [List.foldl_cons, ih (fun e' he' => hj e' (List.mem_cons_of_mem e he')),
      List.getElem?_set_ne (hj e List.mem_cons_self)]

/-- When no two entries write one index, an index written holds the value written there. -/
theorem getElem?_foldl_set_of_mem {es : List γ} (hnd : (es.map idx).Nodup) {e : γ} (he : e ∈ es)
    {l : List α} (hi : idx e < l.length) :
    (es.foldl (fun l e => l.set (idx e) (val e)) l)[idx e]? = some (val e) := by
  induction es generalizing l with
  | nil => cases he
  | cons e' es ih =>
    rw [List.map_cons, List.nodup_cons] at hnd
    rw [List.foldl_cons]
    rcases List.mem_cons.1 he with rfl | he
    · -- the later entries write other indices
      have hother : ∀ x ∈ es, idx x ≠ idx e := fun x hx hx' => hnd.1 (hx' ▸ List.mem_map_of_mem hx)
      rw [getElem?_foldl_set_of_not_mem idx val hother, List.getElem?_set_self hi]
    · exact ih hnd.2 he (by simpa using hi)

end SetFold

/-- Two lists of pairs with the same first components, whose second components are read
off the first by one partial function, are equal. -/
theorem eq_of_map_fst_eq {α β : Type} {g : α → Option β} {l₁ l₂ : List (α × β)}
    (h : l₁.map Prod.fst = l₂.map Prod.fst) (h₁ : ∀ p ∈ l₁, g p.1 = some p.2)
    (h₂ : ∀ p ∈ l₂, g p.1 = some p.2) : l₁ = l₂ := by
  induction l₁ generalizing l₂ with
  | nil => exact (List.map_eq_nil_iff.1 h.symm).symm
  | cons p ps ih =>
    cases l₂ with
    | nil => cases h
    | cons q qs =>
      simp only [List.map_cons, List.cons.injEq] at h
      have hsnd : p.2 = q.2 := by
        have hp := h₁ p List.mem_cons_self
        rw [h.1, h₂ q List.mem_cons_self] at hp
        exact (Option.some_inj.1 hp).symm
      rw [Prod.ext h.1 hsnd, ih h.2 (fun p' hp' => h₁ p' (List.mem_cons_of_mem p hp'))
        (fun q' hq' => h₂ q' (List.mem_cons_of_mem q hq'))]

/-! ## The placing order -/

/-- The placing order of children pairs each index with its id exactly as sorting the ids
by their rank in the container's list does. -/
theorem placementOrder_keys (c : Widget) (kids : List Widget) :
    (placementOrder c kids).map (fun p => (p.1, p.2.id)) =
      ((kids.map Widget.id).zipIdx.map fun p => (p.2, p.1)).mergeSort fun a b =>
        (c.childIds.findIdx? (· == a.2)).getD c.childIds.length
          ≤ (c.childIds.findIdx? (· == b.2)).getD c.childIds.length := by
  unfold placementOrder
  dsimp only
  -- sorting the pairs and then keeping the ids is sorting the pairs of index and id
  refine (List.map_mergeSort (s := ?s) ?_).trans ?_
  case refine_2 =>
    rw [List.map_map, List.zipIdx_map, List.map_map]
    rfl
  · intro a _ b _
    rfl

/-- The placing order reads only the children's ids. -/
theorem placementOrder_map_fst_of_ids {c : Widget} {kids kids' : List Widget}
    (h : kids'.map Widget.id = kids.map Widget.id) :
    (placementOrder c kids').map Prod.fst = (placementOrder c kids).map Prod.fst := by
  have hk := placementOrder_keys c kids
  have hk' := placementOrder_keys c kids'
  rw [h, ← hk] at hk'
  have e := congrArg (List.map Prod.fst) hk'
  simpa only [List.map_map, Function.comp_def] using e

/-- The placing order holds each index of the children once. -/
theorem placementOrder_perm (c : Widget) (kids : List Widget) :
    ((placementOrder c kids).map Prod.fst).Perm (List.range' 0 kids.length) := by
  have hp := ((List.mergeSort_perm _ _).map Prod.fst : ((placementOrder c kids).map Prod.fst).Perm _)
  rw [List.map_map] at hp
  refine hp.trans (List.Perm.of_eq ?_)
  rw [← List.zipIdx_map_snd 0 kids]
  rfl

theorem placementOrder_nodup (c : Widget) (kids : List Widget) :
    ((placementOrder c kids).map Prod.fst).Nodup :=
  (placementOrder_perm c kids).nodup_iff.2 List.nodup_range'

@[simp] theorem length_placementOrder (c : Widget) (kids : List Widget) :
    (placementOrder c kids).length = kids.length := by
  simpa using (placementOrder_perm c kids).length_eq

/-! ## Spots -/

namespace Frame

variable {α : Type} [Scalar α] (f : Frame α)

/-- The size across that placing gives a child places it again where it was. -/
theorem across_across (x : α) : f.across (f.across x).2 = f.across x := by
  obtain ⟨justify, align, main, cross, padding, gap⟩ := f
  cases align <;> rfl

theorem spotsFrom_nil (step cursor : α) : f.spotsFrom step cursor [] = [] := rfl

theorem spotsFrom_cons (step cursor : α) (s : α × α) (rest : List (α × α)) :
    f.spotsFrom step cursor (s :: rest) =
      ⟨clampRound cursor f.padding (f.main - f.padding - s.1), (f.across s.2).1, (f.across s.2).2⟩ ::
        f.spotsFrom step (cursor + (s.1 + step)) rest := rfl

@[simp] theorem length_spotsFrom (step cursor : α) (sizes : List (α × α)) :
    (f.spotsFrom step cursor sizes).length = sizes.length := by
  induction sizes generalizing cursor with
  | nil => rfl
  | cons s rest ih => simp [spotsFrom_cons, ih]

@[simp] theorem length_spots (sizes : List (α × α)) : (f.spots sizes).length = sizes.length :=
  f.length_spotsFrom _ _ sizes

/-- Placing reads the sizes across of the children only through the place and size `across`
makes of them. -/
theorem spotsFrom_congr (step cursor : α) {sizes sizes' : List (α × α)}
    (h : sizes'.map (fun s => (s.1, f.across s.2)) = sizes.map fun s => (s.1, f.across s.2)) :
    f.spotsFrom step cursor sizes' = f.spotsFrom step cursor sizes := by
  induction sizes generalizing sizes' cursor with
  | nil => rw [List.map_eq_nil_iff.1 h]
  | cons s rest ih =>
    cases sizes' with
    | nil => cases h
    | cons s' rest' =>
      simp only [List.map_cons, List.cons.injEq, Prod.mk.injEq] at h
      obtain ⟨⟨h1, h2⟩, hrest⟩ := h
      simp only [spotsFrom_cons, h1, h2, ih _ hrest]

theorem spots_congr {sizes sizes' : List (α × α)}
    (h : sizes'.map (fun s => (s.1, f.across s.2)) = sizes.map fun s => (s.1, f.across s.2)) :
    f.spots sizes' = f.spots sizes := by
  -- the start reads only the sizes along the main axis
  have hmain : sizes'.map Prod.fst = sizes.map Prod.fst := by
    simpa [List.map_map, Function.comp_def] using congrArg (List.map Prod.fst) h
  simp only [spots, hmain, f.spotsFrom_congr _ _ h]

/-- Each spot gives its child the size across that `across` computes from the child's own. -/
theorem crossSize_of_mem_zip_spotsFrom {β : Type} (l : List β) (h : β → α × α) (step cursor : α) :
    ∀ e ∈ l.zip (f.spotsFrom step cursor (l.map h)), e.2.crossSize = (f.across (h e.1).2).2 := by
  induction l generalizing cursor with
  | nil => simp
  | cons b l ih =>
    intro e he
    simp only [List.map_cons, spotsFrom_cons, List.zip_cons_cons, List.mem_cons] at he
    rcases he with rfl | he
    · rfl
    · exact ih _ e he

end Frame

namespace Widget

variable (w : Widget) (dir : Direction) (s s' : Spot Float)

@[simp] theorem placedAt_placedAt : (w.placedAt dir s).placedAt dir s' = w.placedAt dir s' := by
  cases dir <;> rfl

@[simp] theorem id_placedAt : (w.placedAt dir s).id = w.id := by
  cases dir <;> rfl

@[simp] theorem along_placedAt : (w.placedAt dir s).along dir = w.along dir := by
  cases dir <;> rfl

@[simp] theorem across_placedAt : (w.placedAt dir s).across dir = s.crossSize := by
  cases dir <;> rfl

@[simp] theorem sizesAlong_placedAt : (w.placedAt dir s).sizesAlong dir = (w.along dir, s.crossSize) := by
  cases dir <;> rfl

end Widget

/-! ## Placing -/

section Reflow

variable (c : Widget) (kids : List Widget)

/-- The sizes of the children of a container that placing reads, in placing order. -/
def placingSizes : List (Float × Float) :=
  (placementOrder c kids).map fun e => e.2.sizesAlong (FlexLayout.ofWidget c).direction

@[simp] theorem length_placingSizes : (placingSizes c kids).length = kids.length := by
  simp [placingSizes]

/-- The children of a flex container in placing order, each with its spot. -/
def placings : List ((Nat × Widget) × Spot Float) :=
  (placementOrder c kids).zip (((FlexLayout.ofWidget c).frame c).spots (placingSizes c kids))

/-- Outside a flex container with children, nothing moves. -/
theorem reflow_of_inactive (h : (FlexLayout.ofWidget c).mode ≠ .flex ∨ kids = []) :
    reflow c kids = kids := by
  unfold reflow
  rw [if_pos]
  rcases h with h | rfl
  · simp [h]
  · simp

/-- In a flex container with children, each child is moved to its spot. -/
theorem reflow_of_active (hm : (FlexLayout.ofWidget c).mode = .flex) (hk : kids ≠ []) :
    reflow c kids = (placings c kids).foldl
      (fun l e => l.set e.1.1 (e.1.2.placedAt (FlexLayout.ofWidget c).direction e.2)) kids := by
  unfold reflow
  rw [if_neg (by simpa [hm] using hk)]
  rfl

/-- Placing keeps the number of children. -/
@[simp] theorem length_reflow : (reflow c kids).length = kids.length := by
  simpa using congrArg List.length (reflow_unplaced c kids)

theorem map_fst_placings : (placings c kids).map (fun e => e.1.1) = (placementOrder c kids).map Prod.fst := by
  rw [show (fun e : (Nat × Widget) × Spot Float => e.1.1) = Prod.fst ∘ Prod.fst from rfl,
    ← List.map_map, placings, List.map_fst_zip (by simp)]

/-- Every child has its place in the placing order, with its spot. -/
theorem exists_mem_placings {j : Nat} (hj : j < kids.length) :
    ∃ e ∈ placings c kids, e.1.1 = j := by
  have h1 : j ∈ (placementOrder c kids).map Prod.fst :=
    (placementOrder_perm c kids).mem_iff.2 (List.mem_range'_1.2 ⟨Nat.zero_le j, by omega⟩)
  rw [← map_fst_placings] at h1
  obtain ⟨e, he, rfl⟩ := List.mem_map.1 h1
  exact ⟨e, he, rfl⟩

/-- Each child is given at its spot the size across that `across` computes from its own. -/
theorem crossSize_of_mem_placings {e : (Nat × Widget) × Spot Float} (he : e ∈ placings c kids) :
    e.2.crossSize = (((FlexLayout.ofWidget c).frame c).across
      (e.1.2.across (FlexLayout.ofWidget c).direction)).2 :=
  Frame.crossSize_of_mem_zip_spotsFrom _ (placementOrder c kids)
    (fun e => e.2.sizesAlong (FlexLayout.ofWidget c).direction) _ _ e he

/-- In a flex container, each child ends at its spot. -/
theorem reflow_getElem? (hm : (FlexLayout.ofWidget c).mode = .flex) {e : (Nat × Widget) × Spot Float}
    (he : e ∈ placings c kids) :
    (reflow c kids)[e.1.1]? = some (e.1.2.placedAt (FlexLayout.ofWidget c).direction e.2) := by
  have hord : kids[e.1.1]? = some e.1.2 := getElem?_of_mem_placementOrder (List.of_mem_zip he).1
  have hk : kids ≠ [] := by
    rintro rfl
    simp at hord
  rw [reflow_of_active c kids hm hk]
  refine getElem?_foldl_set_of_mem _ _ ?_ he (List.getElem?_eq_some_iff.1 hord).1
  rw [map_fst_placings]
  exact placementOrder_nodup c kids

end Reflow

/-! ## Placing children placed before -/

section Placed

variable {c : Widget} {kids kids' : List Widget} (hlen : kids'.length = kids.length)
  (h : ∀ e ∈ placings c kids, kids'[e.1.1]? = some e.1.2 ∨
    kids'[e.1.1]? = some (e.1.2.placedAt (FlexLayout.ofWidget c).direction e.2))
include hlen h

/-- Children found each as it was or at its spot keep their ids. -/
theorem map_id_of_placed : kids'.map Widget.id = kids.map Widget.id := by
  apply List.ext_getElem?
  intro j
  rw [List.getElem?_map, List.getElem?_map]
  by_cases hj : j < kids.length
  · obtain ⟨e, he, rfl⟩ := exists_mem_placings c kids hj
    have hk : kids[e.1.1]? = some e.1.2 := getElem?_of_mem_placementOrder (List.of_mem_zip he).1
    rcases h e he with h1 | h1 <;> simp [h1, hk]
  · rw [List.getElem?_eq_none (by omega), List.getElem?_eq_none (by omega)]

theorem placementOrder_of_placed :
    placementOrder c kids' = (placementOrder c kids).map fun p => (p.1, kids'[p.1]?.getD p.2) := by
  refine eq_of_map_fst_eq (g := fun i => kids'[i]?) ?_ (fun p hp => getElem?_of_mem_placementOrder hp) ?_
  · rw [placementOrder_map_fst_of_ids (map_id_of_placed hlen h), List.map_map]
    rfl
  · intro p hp
    obtain ⟨q, hq, rfl⟩ := List.mem_map.1 hp
    have hi : q.1 < kids'.length := by
      rw [hlen]
      exact (List.getElem?_eq_some_iff.1 (getElem?_of_mem_placementOrder hq)).1
    simp [List.getElem?_eq_getElem hi]

/-- Children found each as it was or at its spot are placed in the same order at the same
spots: what placing reads of a child at its spot, its size across through `across`, is what it
read of the child before. -/
theorem placings_of_placed :
    placings c kids' = (placings c kids).map fun e => ((e.1.1, kids'[e.1.1]?.getD e.1.2), e.2) := by
  have hfst : (placings c kids).map Prod.fst = placementOrder c kids :=
    List.map_fst_zip (by simp)
  have hsizes : ((placementOrder c kids').map fun e => e.2.sizesAlong (FlexLayout.ofWidget c).direction).map
        (fun s => (s.1, ((FlexLayout.ofWidget c).frame c).across s.2))
      = ((placementOrder c kids).map fun e => e.2.sizesAlong (FlexLayout.ofWidget c).direction).map
        (fun s => (s.1, ((FlexLayout.ofWidget c).frame c).across s.2)) := by
    rw [placementOrder_of_placed hlen h, ← hfst]
    simp only [List.map_map]
    refine List.map_congr_left fun e he => ?_
    have hcross := crossSize_of_mem_placings c kids he
    rcases h e he with h1 | h1
    · simp [h1]
    · simp [h1, Widget.sizesAlong, hcross, Frame.across_across]
  unfold placings placingSizes
  rw [((FlexLayout.ofWidget c).frame c).spots_congr hsizes, placementOrder_of_placed hlen h,
    List.zip_map_left]
  rfl

/-- In a flex container, children found each as it was or at its spot are placed as before. -/
theorem reflow_of_placed (hm : (FlexLayout.ofWidget c).mode = .flex) : reflow c kids' = reflow c kids := by
  apply List.ext_getElem?
  intro j
  by_cases hj : j < kids.length
  · obtain ⟨e, he, rfl⟩ := exists_mem_placings c kids hj
    have he' : ((e.1.1, kids'[e.1.1]?.getD e.1.2), e.2) ∈ placings c kids' := by
      rw [placings_of_placed hlen h]
      exact List.mem_map_of_mem he
    rw [reflow_getElem? c kids hm he, reflow_getElem? c kids' hm he']
    rcases h e he with h1 | h1 <;> simp [h1]
  · rw [List.getElem?_eq_none (by simp; omega), List.getElem?_eq_none (by simp; omega)]

end Placed

/-! ## Placing twice -/

section Twice

variable (c : Widget) (kids : List Widget)

/-- Placed again, every child gets the spot it was placed at. -/
theorem placings_reflow (hm : (FlexLayout.ofWidget c).mode = .flex) :
    placings c (reflow c kids)
      = (placings c kids).map fun e => ((e.1.1, e.1.2.placedAt (FlexLayout.ofWidget c).direction e.2), e.2) := by
  rw [placings_of_placed (length_reflow c kids) fun e he => .inr (reflow_getElem? c kids hm he)]
  refine List.map_congr_left fun e he => ?_
  rw [reflow_getElem? c kids hm he]
  rfl

/-- Placing children once more puts each where it already is: placing twice is placing
once, for every container and every list of children. -/
theorem reflow_idempotent (c : Widget) (kids : List Widget) :
    reflow c (reflow c kids) = reflow c kids := by
  by_cases hact : (FlexLayout.ofWidget c).mode = .flex ∧ kids ≠ []
  · obtain ⟨hm, hk⟩ := hact
    have hk' : reflow c kids ≠ [] := by
      intro h
      have hlen := congrArg List.length (reflow_unplaced c kids)
      rw [h] at hlen
      exact hk (List.eq_nil_of_length_eq_zero (by simpa using hlen.symm))
    rw [reflow_of_active c _ hm hk', placings_reflow c kids hm]
    refine foldl_set_self _ _ fun e he => ?_
    obtain ⟨x, hx, rfl⟩ := List.mem_map.1 he
    simpa using reflow_getElem? c kids hm hx
  · -- outside a flex container with children nothing moves, twice
    have h : (FlexLayout.ofWidget c).mode ≠ .flex ∨ kids = [] := by
      by_cases hm : (FlexLayout.ofWidget c).mode = .flex
      · exact .inr (by simpa [hm] using hact)
      · exact .inl hm
    rw [reflow_of_inactive c kids h, reflow_of_inactive c kids h]

/-- Writing back any of the children that placing moved, and placing again, places them as the
first time. -/
theorem reflow_written (c : Widget) (kids : List Widget) (pick : Widget → Widget → Bool) :
    reflow c ((kids.zip (reflow c kids)).map fun p => if pick p.1 p.2 then p.2 else p.1)
      = reflow c kids := by
  by_cases hm : (FlexLayout.ofWidget c).mode = .flex
  · refine reflow_of_placed (by simp) (fun e he => ?_) hm
    have hk : kids[e.1.1]? = some e.1.2 := getElem?_of_mem_placementOrder (List.of_mem_zip he).1
    have hr := reflow_getElem? c kids hm he
    rw [List.getElem?_map,
      (List.getElem?_zip_eq_some (z := (e.1.2, e.1.2.placedAt (FlexLayout.ofWidget c).direction e.2))).2
        ⟨hk, hr⟩]
    by_cases hp : pick e.1.2 (e.1.2.placedAt (FlexLayout.ofWidget c).direction e.2) <;> simp [hp]
  · -- outside a flex container placing moves nothing, so nothing is written back
    have hsame : (kids.zip kids).map (fun p => if pick p.1 p.2 then p.2 else p.1) = kids := by
      induction kids with
      | nil => rfl
      | cons k ks ih => simp [ih]
    rw [reflow_of_inactive c kids (.inl hm), hsame, reflow_of_inactive c kids (.inl hm)]

end Twice

end Storyboard
