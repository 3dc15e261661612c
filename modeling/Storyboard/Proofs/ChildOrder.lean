import Mathlib.Data.List.FinRange
import Storyboard.Proofs.Reflow

/-!
# The order children are placed in

A flex container places its children one after the other: first those its `children` prop
lists, in the order of the first place each id has there, then the unlisted ones in the order
they are given (`placedOrder_spec`). Which spot a child gets depends only on that order and on
its id (`reflow_eq_map_placeAmong`). Reordering the children given, so long as the unlisted
ones keep their order, leaves the placing order as it was, so placing commutes with every such
permutation (`reflow_commutes_with_reordering`).

* `placedOrder_eq_mergeSort`: the placing order is the stable sort of the children by the
  first place of their id in `children`, unlisted ids counting as last.
* `eq_filter_append_filter`: a list in which no entry without a property comes before one
  with it is the entries with it followed by the others.
* `placedOrder_congr`: a permutation that keeps the unlisted children in their order keeps
  the placing order.
-/

namespace Storyboard

/-! ## Permuting the places of a list -/

/-- A list with its places permuted: place `i` takes the entry at place `σ i`. -/
def permuted {α : Type} {n : Nat} (σ : Equiv.Perm (Fin n)) (l : List α) : List α :=
  (List.finRange n).filterMap fun i => l[(σ i : Nat)]?

@[simp] theorem permuted_map {α β : Type} {n : Nat} (σ : Equiv.Perm (Fin n)) (f : α → β)
    (l : List α) : permuted σ (l.map f) = (permuted σ l).map f := by
  simp [permuted, List.map_filterMap, List.getElem?_map]

theorem permuted_perm {α : Type} (l : List α) (σ : Equiv.Perm (Fin l.length)) :
    (permuted σ l).Perm l := by
  have h : permuted σ l = List.ofFn (l.get ∘ σ) := by
    rw [permuted, List.ofFn_eq_map, ← List.filterMap_eq_map]
    congr 1
    funext i
    simp
  rw [h]
  exact (σ.ofFn_comp_perm l.get).trans (by rw [List.ofFn_get])

/-- A list in which no entry without a property comes before one with it is the entries with
the property followed by the others. -/
theorem eq_filter_append_filter {α : Type} {p : α → Bool} {l : List α}
    (h : l.Pairwise fun a b => p b = true → p a = true) :
    l = l.filter p ++ l.filter (fun a => !p a) := by
  induction l with
  | nil => rfl
  | cons x xs ih =>
    rw [List.pairwise_cons] at h
    by_cases hx : p x = true
    · simp [hx, ← ih h.2]
    · -- nothing after `x` has the property
      have hnone : ∀ y ∈ xs, p y = false := fun y hy => by
        by_contra hy'
        exact hx (h.1 y hy (by simpa using hy'))
      have h1 : xs.filter p = [] := List.filter_eq_nil_iff.2 (by simpa using hnone)
      have h2 : xs.filter (fun a => !p a) = xs := List.filter_eq_self.2 (by simpa using hnone)
      simp [hx, h1, h2]

/-! ## The placing order -/

/-- The children of a container in the order they are placed. -/
def placedOrder (c : Widget) (kids : List Widget) : List Widget :=
  (placementOrder c kids).map Prod.snd

theorem placedOrder_eq_mergeSort (c : Widget) (kids : List Widget) :
    placedOrder c kids =
      kids.mergeSort fun a b => c.childIds.idxOf a.id ≤ c.childIds.idxOf b.id := by
  unfold placedOrder placementOrder
  dsimp only
  rw [List.map_mergeSort (s := fun a b => decide (c.childIds.idxOf a.id ≤ c.childIds.idxOf b.id))]
  · rw [List.map_map]
    congr 1
    simp [Function.comp_def]
  · intro a _ b _
    simp [List.idxOf, List.findIdx_eq_getD_findIdx?]

section Order

variable {c : Widget} {kids : List Widget}

theorem perm_placedOrder (c : Widget) (kids : List Widget) : (placedOrder c kids).Perm kids := by
  rw [placedOrder_eq_mergeSort]
  exact List.mergeSort_perm _ _

theorem placedOrder_sorted (c : Widget) (kids : List Widget) :
    (placedOrder c kids).Pairwise fun a b => c.childIds.idxOf a.id ≤ c.childIds.idxOf b.id := by
  rw [placedOrder_eq_mergeSort]
  have h : (kids.mergeSort fun a b => c.childIds.idxOf a.id ≤ c.childIds.idxOf b.id).Pairwise
      fun a b => decide (c.childIds.idxOf a.id ≤ c.childIds.idxOf b.id) = true :=
    List.pairwise_mergeSort (fun a b d hab hbc => by simp only [decide_eq_true_eq] at *; omega)
      (fun a b => by simp only [Bool.or_eq_true, decide_eq_true_eq]; omega) kids
  simpa only [decide_eq_true_eq] using h

/-- Two children listed at the same first place have the same id. -/
theorem id_eq_of_idxOf_eq {a b : Widget} (ha : a.id ∈ c.childIds)
    (h : c.childIds.idxOf a.id = c.childIds.idxOf b.id) : a.id = b.id := by
  have hb : b.id ∈ c.childIds := by
    rw [← List.idxOf_lt_length_iff, ← h]
    exact List.idxOf_lt_length_iff.2 ha
  rw [← List.getElem_idxOf (List.idxOf_lt_length_iff.2 ha),
    ← List.getElem_idxOf (List.idxOf_lt_length_iff.2 hb)]
  simp only [h]

/-- Children with distinct ids are placed listed ones first, by the first place of their id,
then the unlisted ones in the order given. -/
theorem placedOrder_spec (hids : (kids.map Widget.id).Nodup) :
    placedOrder c kids = (placedOrder c kids).filter (fun w => w.id ∈ c.childIds)
        ++ kids.filter (fun w => w.id ∉ c.childIds) ∧
      ((placedOrder c kids).filter fun w => w.id ∈ c.childIds).Perm
        (kids.filter fun w => w.id ∈ c.childIds) ∧
      ((placedOrder c kids).filter fun w => w.id ∈ c.childIds).Pairwise
        fun a b => c.childIds.idxOf a.id < c.childIds.idxOf b.id := by
  have hperm := perm_placedOrder c kids
  have hsorted := placedOrder_sorted c kids
  -- a listed child is placed before every unlisted one
  have hsplit := eq_filter_append_filter (p := fun w => decide (w.id ∈ c.childIds))
    (hsorted.imp fun {a b} hab hb => by
      simp only [decide_eq_true_eq] at hb ⊢
      by_contra ha
      rw [List.idxOf_eq_length ha] at hab
      exact absurd (List.idxOf_lt_length_iff.2 hb) (by omega))
  -- the unlisted children all rank last, so the stable sort keeps their order
  have hsub : (kids.filter fun w => w.id ∉ c.childIds).Sublist (placedOrder c kids) := by
    rw [placedOrder_eq_mergeSort]
    refine List.sublist_mergeSort
      (fun a b d hab hbc => by simp only [decide_eq_true_eq] at *; omega)
      (fun a b => by simp only [Bool.or_eq_true, decide_eq_true_eq]; omega) ?_ List.filter_sublist
    refine List.Pairwise.imp_of_mem (R := fun _ _ => True) (fun {a b} ha hb _ => ?_)
      (List.pairwise_of_forall (by simp))
    simp only [List.mem_filter, decide_eq_true_eq] at ha hb
    rw [List.idxOf_eq_length ha.2, List.idxOf_eq_length hb.2]
    simp
  have hunlisted : (placedOrder c kids).filter (fun w => w.id ∉ c.childIds)
      = kids.filter (fun w => w.id ∉ c.childIds) := by
    have h := hsub.filter (fun w => decide (w.id ∉ c.childIds))
    rw [List.filter_filter] at h
    simp only [Bool.and_self] at h
    exact (h.eq_of_length (hperm.filter _).length_eq.symm).symm
  -- the listed children have distinct ids, so distinct first places
  have hlisted := hperm.filter (fun w => decide (w.id ∈ c.childIds))
  have hnd : (((placedOrder c kids).filter fun w => w.id ∈ c.childIds).map Widget.id).Nodup :=
    (hlisted.map _).nodup_iff.2 (hids.sublist (List.filter_sublist.map _))
  refine ⟨?_, hlisted, ?_⟩
  · rw [← hunlisted]
    simpa only [decide_not] using hsplit
  · refine ((hsorted.sublist List.filter_sublist).and (List.pairwise_map.1 hnd)).imp_of_mem
      fun {a b} ha _ hab => lt_of_le_of_ne hab.1 fun h => hab.2 (id_eq_of_idxOf_eq ?_ h)
    simpa using (List.mem_filter.1 ha).2

/-- Reordering children with distinct ids keeps the placing order when the unlisted ones keep
their order. -/
theorem placedOrder_congr {kids' : List Widget} (hids : (kids.map Widget.id).Nodup)
    (hperm : kids'.Perm kids)
    (hkeep : kids'.filter (fun w => w.id ∉ c.childIds) = kids.filter (fun w => w.id ∉ c.childIds)) :
    placedOrder c kids' = placedOrder c kids := by
  have hids' : (kids'.map Widget.id).Nodup := (hperm.map _).nodup_iff.2 hids
  obtain ⟨h₁, hp₁, hs₁⟩ := placedOrder_spec (c := c) hids
  obtain ⟨h₂, hp₂, hs₂⟩ := placedOrder_spec (c := c) hids'
  -- the listed children are sorted alike, by distinct first places
  have hl : (placedOrder c kids').filter (fun w => w.id ∈ c.childIds)
      = (placedOrder c kids).filter (fun w => w.id ∈ c.childIds) :=
    List.Perm.eq_of_pairwise (fun _ _ _ _ hab hba => absurd (lt_trans hab hba) (lt_irrefl _)) hs₂ hs₁
      (hp₂.trans ((hperm.filter _).trans hp₁.symm))
  rw [h₂, h₁, hl, hkeep]

end Order

/-! ## Spots by id -/

theorem lookup_eq_some_of_mem {β : Type} {l : List (String × β)} (hnd : (l.map Prod.fst).Nodup)
    {k : String} {v : β} (h : (k, v) ∈ l) : l.lookup k = some v := by
  induction l with
  | nil => cases h
  | cons kv l ih =>
    obtain ⟨k', v'⟩ := kv
    rw [List.map_cons, List.nodup_cons] at hnd
    rcases List.mem_cons.1 h with he | hl
    · obtain ⟨rfl, rfl⟩ := Prod.mk.inj he
      exact List.lookup_cons_self
    · have hk : (k == k') = false := by
        rw [beq_eq_false_iff_ne]
        rintro rfl
        exact hnd.1 (List.mem_map.2 ⟨_, hl, rfl⟩)
      rw [List.lookup_cons, hk]
      exact ih hnd.2 hl

/-- The spots a flex container gives its children, by id, when they are placed in the order
`ws`. -/
def spotsAmong (c : Widget) (ws : List Widget) : List (String × Spot Float) :=
  let l := FlexLayout.ofWidget c
  (ws.map Widget.id).zip ((l.frame c).spots (ws.map (·.sizesAlong l.direction)))

/-- Where a flex container puts a child when its children are placed in the order `ws`: at
the spot of its id. -/
def placeAmong (c : Widget) (ws : List Widget) (w : Widget) : Widget :=
  ((spotsAmong c ws).lookup w.id).elim w (w.placedAt (FlexLayout.ofWidget c).direction)

theorem map_placings (c : Widget) (kids : List Widget) :
    (placings c kids).map (fun e => (e.1.2.id, e.2)) = spotsAmong c (placedOrder c kids) := by
  simp [placings, spotsAmong, placingSizes, placedOrder, List.zip_map_left, List.map_map,
    Function.comp_def]

/-- In a flex container, each of the children, given with distinct ids, goes to the spot of
its id in the placing order. -/
theorem reflow_eq_map_placeAmong {c : Widget} {kids : List Widget}
    (hm : (FlexLayout.ofWidget c).mode = .flex) (hids : (kids.map Widget.id).Nodup) :
    reflow c kids = kids.map (placeAmong c (placedOrder c kids)) := by
  by_cases hk : kids = []
  · subst hk
    rw [reflow_of_inactive c [] (.inr rfl)]
    rfl
  have hlen := length_reflow c kids
  apply List.ext_getElem?
  intro i
  rw [List.getElem?_map]
  by_cases hi : i < kids.length
  · -- the child at `i` has an entry in the placing order
    have hmem : i ∈ (placings c kids).map (fun e => e.1.1) := by
      rw [map_fst_placings]
      exact (placementOrder_perm c kids).mem_iff.2 (by simp; omega)
    obtain ⟨e, he, rfl⟩ := List.mem_map.1 hmem
    rw [reflow_getElem? c kids hm he, getElem?_of_mem_placementOrder (List.of_mem_zip he).1,
      Option.map_some]
    -- the child's spot is the one its id gets
    have hnd : ((spotsAmong c (placedOrder c kids)).map Prod.fst).Nodup := by
      rw [spotsAmong, List.map_fst_zip (by simp)]
      exact ((perm_placedOrder c kids).map _).nodup_iff.2 hids
    have hspot := lookup_eq_some_of_mem hnd (map_placings c kids ▸ List.mem_map_of_mem he)
    simp [placeAmong, hspot]
  · rw [List.getElem?_eq_none (by omega), List.getElem?_eq_none (by omega)]
    rfl

/-- A flex container places its children, given with distinct ids, in the order of the first
place of each id in its `children` prop, then the unlisted ones in the order given, and each
child goes to the spot of its place in that order. So in every layout mode, placing commutes
with every permutation of the children that keeps the unlisted ones in their order. -/
theorem reflow_commutes_with_reordering (c : Widget) (kids : List Widget)
    (hids : (kids.map Widget.id).Nodup) :
    (∃ listed, placedOrder c kids = listed ++ kids.filter (fun w => w.id ∉ c.childIds) ∧
      listed.Perm (kids.filter fun w => w.id ∈ c.childIds) ∧
      listed.Pairwise fun a b => c.childIds.idxOf a.id < c.childIds.idxOf b.id) ∧
    ((FlexLayout.ofWidget c).mode = .flex →
      reflow c kids = kids.map (placeAmong c (placedOrder c kids))) ∧
    ∀ σ : Equiv.Perm (Fin kids.length),
      (permuted σ kids).filter (fun w => w.id ∉ c.childIds) = kids.filter (fun w => w.id ∉ c.childIds) →
      reflow c (permuted σ kids) = permuted σ (reflow c kids) := by
  obtain ⟨hsplit, hperm, hsorted⟩ := placedOrder_spec (c := c) hids
  refine ⟨⟨_, hsplit, hperm, hsorted⟩, fun hm => reflow_eq_map_placeAmong hm hids, fun σ hkeep => ?_⟩
  by_cases hm : (FlexLayout.ofWidget c).mode = .flex
  · -- both orders place each child at the spot of its id
    have hp := permuted_perm kids σ
    rw [reflow_eq_map_placeAmong hm ((hp.map _).nodup_iff.2 hids), placedOrder_congr hids hp hkeep,
      reflow_eq_map_placeAmong hm hids, permuted_map]
  · rw [reflow_of_inactive c _ (.inl hm), reflow_of_inactive c _ (.inl hm)]

/-- Three children, the third and the first listed in that order. -/
theorem reordering_three_children :
    let c : Widget :=
      { id := "box", widgetType := "container",
        props := [("children", .arr [.str "c2", .str "c0"]), ("gap", .int 10)] }
    let kids : List Widget := [{ id := "c0", widgetType := "text", size := ⟨50, 20⟩ },
      { id := "c1", widgetType := "text", size := ⟨60, 20⟩ },
      { id := "c2", widgetType := "text", size := ⟨70, 20⟩ }]
    (kids.map Widget.id).Nodup ∧
    ((∃ listed, placedOrder c kids = listed ++ kids.filter (fun w => w.id ∉ c.childIds) ∧
      listed.Perm (kids.filter fun w => w.id ∈ c.childIds) ∧
      listed.Pairwise fun a b => c.childIds.idxOf a.id < c.childIds.idxOf b.id) ∧
    ((FlexLayout.ofWidget c).mode = .flex →
      reflow c kids = kids.map (placeAmong c (placedOrder c kids))) ∧
    ∀ σ : Equiv.Perm (Fin kids.length),
      (permuted σ kids).filter (fun w => w.id ∉ c.childIds) = kids.filter (fun w => w.id ∉ c.childIds) →
      reflow c (permuted σ kids) = permuted σ (reflow c kids)) := by
  intro c kids
  have hids : (kids.map Widget.id).Nodup := by decide
  exact ⟨hids, reflow_commutes_with_reordering c kids hids⟩

end Storyboard
