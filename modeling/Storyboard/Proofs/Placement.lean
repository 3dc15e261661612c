import Mathlib.Data.String.Basic
import Storyboard.Layout.Tree

/-!
# Re-placing moves widgets and changes nothing else

The edits of a `Tree` end by re-placing the children of the containers they touched
(`Tree.relayout`, and `Tree.relayoutAll` from the top). Re-placing only ever writes back
a child with a new position and size. This file proves that, as an equation on the tree
with positions and sizes forgotten (`Tree.unplaced`): every fact about ids, parents,
types and props that holds before re-placing holds after it.

The tree keeps its widgets sorted by id (`Tree.Sorted`); `Tree.put` relies on it to
replace the widget of an id in place, and keeps it.
-/

namespace Storyboard

/-- A widget with its position and size forgotten. -/
def Widget.unplaced (w : Widget) : Widget := { w with position := {}, size := {} }

namespace Widget

variable (w : Widget)

@[simp] theorem unplaced_id : w.unplaced.id = w.id := rfl

@[simp] theorem unplaced_parentId : w.unplaced.parentId = w.parentId := rfl

@[simp] theorem unplaced_props : w.unplaced.props = w.props := rfl

@[simp] theorem unplaced_widgetType : w.unplaced.widgetType = w.widgetType := rfl

@[simp] theorem unplaced_unplaced : w.unplaced.unplaced = w.unplaced := rfl

theorem isContainer_unplaced : w.unplaced.isContainer = w.isContainer := rfl

theorem childIds_unplaced : w.unplaced.childIds = w.childIds := rfl

end Widget

namespace Tree

/-- The widgets are in increasing order of id, so each id has at most one. -/
def Sorted (t : Tree) : Prop := t.widgets.Pairwise (fun a b => a.id < b.id)

/-- The tree with positions and sizes forgotten. -/
def unplaced (t : Tree) : Tree := { t with widgets := t.widgets.map Widget.unplaced }

@[simp] theorem unplaced_roots (t : Tree) : t.unplaced.roots = t.roots := rfl

/-- In a sorted list, a widget is known by its id. -/
theorem eq_of_mem_of_id_eq {l : List Widget} (hs : l.Pairwise (fun a b => a.id < b.id))
    {x y : Widget} (hx : x ∈ l) (hy : y ∈ l) (h : x.id = y.id) : x = y := by
  induction l with
  | nil => cases hx
  | cons z zs ih =>
    rw [List.pairwise_cons] at hs
    rcases List.mem_cons.1 hx with rfl | hx'
    · rcases List.mem_cons.1 hy with rfl | hy'
      · rfl
      · exact absurd h (ne_of_lt (hs.1 y hy'))
    · rcases List.mem_cons.1 hy with rfl | hy'
      · exact absurd h.symm (ne_of_lt (hs.1 x hx'))
      · exact ih hs.2 hx' hy'

/-- The widget of an id is the one there with that id. -/
theorem get?_eq_some_iff {t : Tree} (hs : t.Sorted) {id : String} {w : Widget} :
    t.get? id = some w ↔ w ∈ t.widgets ∧ w.id = id := by
  constructor
  · intro h
    exact ⟨List.mem_of_find?_eq_some h, by simpa using List.find?_some h⟩
  · rintro ⟨hw, rfl⟩
    obtain ⟨y, hy⟩ : ∃ y, t.get? w.id = some y :=
      Option.isSome_iff_exists.1 (List.find?_isSome.2 ⟨w, hw, by simp⟩)
    have hyw : y = w := eq_of_mem_of_id_eq hs (List.mem_of_find?_eq_some hy) hw
      (by simpa using List.find?_some hy)
    rw [hy, hyw]

theorem get?_eq_none_iff {t : Tree} {id : String} :
    t.get? id = none ↔ ∀ w ∈ t.widgets, w.id ≠ id := by
  simp [get?, List.find?_eq_none]

theorem get?_unplaced (t : Tree) (id : String) :
    t.unplaced.get? id = (t.get? id).map Widget.unplaced := by
  simp only [get?, unplaced, List.find?_map]
  rfl

theorem sorted_iff_unplaced (t : Tree) :
    t.Sorted ↔ t.unplaced.widgets.Pairwise (fun a b => a.id < b.id) := by
  rw [unplaced, List.pairwise_map]
  rfl

theorem sorted_of_unplaced_eq {t t' : Tree} (h : t'.unplaced = t.unplaced) (hs : t.Sorted) :
    t'.Sorted := by
  rw [sorted_iff_unplaced, h]
  exact (sorted_iff_unplaced t).1 hs

/-- A sorted tree has one widget per id. -/
theorem Sorted.nodup_ids {t : Tree} (hs : t.Sorted) : (t.widgets.map (·.id)).Nodup :=
  List.Pairwise.imp (fun h => ne_of_lt h) (List.pairwise_map.2 hs)

@[simp] theorem put_roots (t : Tree) (w : Widget) : (t.put w).roots = t.roots := rfl

/-! The two equations of the walk that puts a widget in. The proofs below rewrite with these
and never unfold the walk. -/

theorem put_go_nil (w : Widget) : put.go w [] = [w] := rfl

theorem put_go_cons (w y : Widget) (ys : List Widget) :
    put.go w (y :: ys) =
      if y.id == w.id then w :: ys else if w.id < y.id then w :: y :: ys else y :: put.go w ys :=
  rfl

/-- Putting a widget in a sorted list keeps the others of other ids and drops the one
of its id. -/
theorem mem_put_go (w : Widget) {l : List Widget} (hl : l.Pairwise (fun a b => a.id < b.id))
    (x : Widget) : x ∈ put.go w l ↔ x = w ∨ (x ∈ l ∧ x.id ≠ w.id) := by
  induction l with
  | nil => simp [put_go_nil]
  | cons y ys ih =>
    rw [List.pairwise_cons] at hl
    rw [put_go_cons]
    by_cases hy : y.id = w.id
    · -- the widget of that id is replaced; the later ones have greater ids
      simp only [hy, beq_self_eq_true, if_true, List.mem_cons]
      constructor
      · rintro (rfl | hx)
        · exact Or.inl rfl
        · exact Or.inr ⟨Or.inr hx, fun h => absurd (hy ▸ hl.1 x hx) (h ▸ lt_irrefl _)⟩
      · rintro (rfl | ⟨rfl | hx, hne⟩)
        · exact Or.inl rfl
        · exact absurd hy hne
        · exact Or.inr hx
    · by_cases hwy : w.id < y.id
      · -- it comes first, before ids that are all greater
        simp only [beq_iff_eq, hy, hwy, if_true, if_false, List.mem_cons]
        constructor
        · rintro (rfl | rfl | hx)
          · exact Or.inl rfl
          · exact Or.inr ⟨Or.inl rfl, hy⟩
          · exact Or.inr ⟨Or.inr hx, ne_of_gt (lt_trans hwy (hl.1 x hx))⟩
        · rintro (rfl | ⟨rfl | hx, -⟩)
          · exact Or.inl rfl
          · exact Or.inr (Or.inl rfl)
          · exact Or.inr (Or.inr hx)
      · simp only [beq_iff_eq, hy, hwy, if_false, List.mem_cons, ih hl.2]
        constructor
        · rintro (rfl | rfl | ⟨hx, hne⟩)
          · exact Or.inr ⟨Or.inl rfl, hy⟩
          · exact Or.inl rfl
          · exact Or.inr ⟨Or.inr hx, hne⟩
        · rintro (rfl | ⟨rfl | hx, hne⟩)
          · exact Or.inr (Or.inl rfl)
          · exact Or.inl rfl
          · exact Or.inr (Or.inr ⟨hx, hne⟩)

theorem sorted_put_go (w : Widget) {l : List Widget}
    (hl : l.Pairwise (fun a b => a.id < b.id)) :
    (put.go w l).Pairwise (fun a b => a.id < b.id) := by
  induction l with
  | nil => simp [put_go_nil]
  | cons y ys ih =>
    have hl' := hl
    rw [List.pairwise_cons] at hl
    rw [put_go_cons]
    by_cases hy : y.id = w.id
    · simp only [hy, beq_self_eq_true, if_true]
      exact List.Pairwise.cons (fun z hz => hy ▸ hl.1 z hz) hl.2
    · by_cases hwy : w.id < y.id
      · simp only [beq_iff_eq, hy, hwy, if_true, if_false]
        refine List.Pairwise.cons (fun z hz => ?_) hl'
        rcases List.mem_cons.1 hz with rfl | hz
        · exact hwy
        · exact lt_trans hwy (hl.1 z hz)
      · simp only [beq_iff_eq, hy, hwy, if_false]
        -- the widget goes after `y`
        have hyw : y.id < w.id := lt_of_le_of_ne (not_lt.1 hwy) hy
        refine List.Pairwise.cons (fun z hz => ?_) (ih hl.2)
        rcases (mem_put_go w hl.2 z).1 hz with rfl | ⟨hz, -⟩
        · exact hyw
        · exact hl.1 z hz

theorem Sorted.put {t : Tree} (hs : t.Sorted) (w : Widget) : (t.put w).Sorted :=
  sorted_put_go w hs

theorem mem_put {t : Tree} (hs : t.Sorted) (w x : Widget) :
    x ∈ (t.put w).widgets ↔ x = w ∨ (x ∈ t.widgets ∧ x.id ≠ w.id) :=
  mem_put_go w hs x

/-- Putting back a widget as it was, up to position and size, changes nothing else. -/
theorem unplaced_put {t : Tree} (hs : t.Sorted) {w : Widget}
    (hw : ∃ x ∈ t.widgets, x.unplaced = w.unplaced) : (t.put w).unplaced = t.unplaced := by
  suffices h : ∀ l : List Widget, l.Pairwise (fun a b => a.id < b.id) →
      (∃ x ∈ l, x.unplaced = w.unplaced) →
      (put.go w l).map Widget.unplaced = l.map Widget.unplaced by
    show ({ t with widgets := put.go w t.widgets } : Tree).unplaced = t.unplaced
    simp only [unplaced, h t.widgets hs hw]
  intro l
  induction l with
  | nil =>
    rintro - ⟨x, hx, -⟩
    cases hx
  | cons y ys ih =>
    rintro hl ⟨x, hx, hxw⟩
    have hxid : x.id = w.id := by
      rw [← Widget.unplaced_id x, hxw, Widget.unplaced_id]
    have hl' := hl
    rw [List.pairwise_cons] at hl
    rw [put_go_cons]
    by_cases hy : y.id = w.id
    · -- the widget replaced is `x` itself
      have hxy : x = y := eq_of_mem_of_id_eq hl' hx List.mem_cons_self (hxid.trans hy.symm)
      simp only [hy, beq_self_eq_true, if_true, List.map_cons, ← hxw, hxy]
    · by_cases hwy : w.id < y.id
      · exfalso
        rcases List.mem_cons.1 hx with rfl | hx
        · exact hy hxid
        · exact lt_asymm hwy (hxid ▸ hl.1 x hx)
      · simp only [beq_iff_eq, hy, hwy, if_false, List.map_cons]
        have hxy : x ≠ y := fun h => hy (h ▸ hxid)
        rw [ih hl.2 ⟨x, (List.mem_cons.1 hx).resolve_left hxy, hxw⟩]

end Tree

/-- Setting entries of a list to widgets that agree with the list's own, up to position
and size, keeps it the same up to position and size. -/
theorem foldl_set_unplaced {γ : Type} {kids : List Widget} (entries : List γ) (idx : γ → Nat)
    (val : γ → Widget)
    (h : ∀ e ∈ entries, ∃ w, kids[idx e]? = some w ∧ (val e).unplaced = w.unplaced)
    (l : List Widget) (hl : l.map Widget.unplaced = kids.map Widget.unplaced) :
    (entries.foldl (fun l e => l.set (idx e) (val e)) l).map Widget.unplaced
      = kids.map Widget.unplaced := by
  induction entries generalizing l with
  | nil => exact hl
  | cons e es ih =>
    rw [List.foldl_cons]
    refine ih (fun e' he' => h e' (List.mem_cons_of_mem e he')) _ ?_
    obtain ⟨w, hget, hw⟩ := h e List.mem_cons_self
    rw [List.map_set, hl, hw]
    -- the entry set is the widget that was there
    obtain ⟨hi, rfl⟩ := List.getElem?_eq_some_iff.1 hget
    have hi' : idx e < (kids.map Widget.unplaced).length := by simpa using hi
    have hsame : kids[idx e].unplaced = (kids.map Widget.unplaced)[idx e] := by simp
    rw [hsame, List.set_getElem_self]

/-- Every entry of the order in which a container places its children is a child at its
index. -/
theorem getElem?_of_mem_placementOrder {c : Widget} {kids : List Widget} {p : Nat × Widget}
    (hp : p ∈ placementOrder c kids) : kids[p.1]? = some p.2 := by
  unfold placementOrder at hp
  rw [List.mem_mergeSort, List.mem_map] at hp
  obtain ⟨⟨w, i⟩, hmem, rfl⟩ := hp
  obtain ⟨-, hi, hw⟩ := List.mem_zipIdx hmem
  simp only [Nat.zero_add] at hi
  simp [hw, hi]

/-- A widget moved to a spot keeps all but its position and size. -/
@[simp] theorem Widget.unplaced_placedAt (w : Widget) (dir : Direction) (s : Spot Float) :
    (w.placedAt dir s).unplaced = w.unplaced := by
  cases dir <;> rfl

/-- Laying out a container's children moves and resizes them and changes nothing else. -/
theorem reflow_unplaced (c : Widget) (kids : List Widget) :
    (reflow c kids).map Widget.unplaced = kids.map Widget.unplaced := by
  unfold reflow
  dsimp only
  split
  · rfl
  · refine foldl_set_unplaced _ (fun e : (Nat × Widget) × Spot Float => e.1.1)
      (fun e => e.1.2.placedAt (FlexLayout.ofWidget c).direction e.2) (fun e he => ?_) _ rfl
    exact ⟨e.1.2, getElem?_of_mem_placementOrder (List.of_mem_zip he).1, Widget.unplaced_placedAt _ _ _⟩

namespace Tree

theorem mem_of_get? {t : Tree} {id : String} {w : Widget} (h : t.get? id = some w) :
    w ∈ t.widgets :=
  List.mem_of_find?_eq_some h

theorem id_of_get? {t : Tree} {id : String} {w : Widget} (h : t.get? id = some w) :
    w.id = id := by
  simpa using List.find?_some h

/-- The children found for a widget are widgets of the tree that name it as parent. -/
theorem mem_childrenOf {t : Tree} {id : String} {x : Widget} (h : x ∈ t.childrenOf id) :
    x ∈ t.widgets ∧ x.parentId = some id := by
  unfold childrenOf at h
  split at h
  · cases h
  · rcases List.mem_append.1 h with h | h
    · rw [List.mem_filter, List.mem_filterMap] at h
      obtain ⟨⟨cid, -, hget⟩, hp⟩ := h
      exact ⟨mem_of_get? hget, by simpa using hp⟩
    · rw [List.mem_filter, Bool.and_eq_true] at h
      exact ⟨h.1, by simpa using h.2.1⟩

/-- Pairs of a list and its re-placed copy agree up to position and size. -/
theorem unplaced_eq_of_mem_zip {l₁ l₂ : List Widget}
    (h : l₁.map Widget.unplaced = l₂.map Widget.unplaced) {a b : Widget}
    (hab : (a, b) ∈ l₁.zip l₂) : a ∈ l₁ ∧ a.unplaced = b.unplaced := by
  induction l₁ generalizing l₂ with
  | nil => cases hab
  | cons x xs ih =>
    cases l₂ with
    | nil => cases hab
    | cons y ys =>
      simp only [List.map_cons, List.cons.injEq] at h
      rw [List.zip_cons_cons, List.mem_cons] at hab
      rcases hab with hab | hab
      · obtain ⟨rfl, rfl⟩ := Prod.mk.injEq _ _ _ _ ▸ hab
        exact ⟨List.mem_cons_self, h.1⟩
      · obtain ⟨hm, he⟩ := ih h.2 hab
        exact ⟨List.mem_cons_of_mem x hm, he⟩

/-- Writing back re-placed children one pair at a time keeps the tree the same up to
position and size. -/
theorem foldl_put_unplaced {β : Type} {t₀ : Tree} (hs : t₀.Sorted)
    (pairs : List (Widget × Widget))
    (hpairs : ∀ p ∈ pairs, p.1 ∈ t₀.widgets ∧ p.1.unplaced = p.2.unplaced)
    (f : Tree × β → Widget × Widget → Tree × β)
    (hf : ∀ acc p, (f acc p).1 = acc.1 ∨ (f acc p).1 = acc.1.put p.2)
    (acc : Tree × β) (hacc : acc.1.unplaced = t₀.unplaced) :
    (pairs.foldl f acc).1.unplaced = t₀.unplaced := by
  induction pairs generalizing acc with
  | nil => exact hacc
  | cons p ps ih =>
    rw [List.foldl_cons]
    refine ih (fun q hq => hpairs q (List.mem_cons_of_mem p hq)) _ ?_
    obtain ⟨hmem, hsame⟩ := hpairs p List.mem_cons_self
    rcases hf acc p with h | h
    · rw [h, hacc]
    · -- the widget of that id in the current tree is the child before re-placing
      have hw : ∃ x ∈ acc.1.widgets, x.unplaced = p.2.unplaced := by
        have hin : p.1.unplaced ∈ acc.1.unplaced.widgets := by
          rw [hacc]
          exact List.mem_map_of_mem hmem
        obtain ⟨x, hx, hxe⟩ := List.mem_map.1 hin
        exact ⟨x, hx, hxe.trans hsame⟩
      rw [h, unplaced_put (sorted_of_unplaced_eq hacc hs) hw, hacc]

theorem relayoutFrom_unplaced (ids : List String) (t : Tree) (queue seen changed : List String)
    (hs : t.Sorted) : (t.relayoutFrom ids queue seen changed).2.unplaced = t.unplaced := by
  fun_induction t.relayoutFrom ids queue seen changed with
  | case1 t seen changed => rfl
  | case2 t seen changed cur rest hskip ih => exact ih hs
  | case3 t seen changed cur rest hskip parent hget hnot ih => exact ih hs
  | case4 t seen changed cur rest hskip parent hget hcont kids step t' queue' changed' hfold ih =>
    -- the children are written back re-placed, then the walk goes on from there
    have h1 : t'.unplaced = t.unplaced := by
      have h :=
        foldl_put_unplaced hs (kids.zip (reflow parent kids)) ?_ step ?_ (t, rest, changed) rfl
      · rw [hfold] at h
        exact h
      · intro p hp
        obtain ⟨hk, he⟩ := unplaced_eq_of_mem_zip (reflow_unplaced parent kids).symm hp
        exact ⟨(mem_childrenOf hk).1, he⟩
      · intro acc p
        obtain ⟨t0, q, ch⟩ := acc
        obtain ⟨before, child⟩ := p
        dsimp only [step]
        split
        · exact Or.inr rfl
        · exact Or.inl rfl
    exact (ih (sorted_of_unplaced_eq h1 hs)).trans h1
  | case5 t seen changed cur rest hskip hnone ih => exact ih hs

theorem relayout_unplaced {t : Tree} (hs : t.Sorted) (id : String) :
    (t.relayout id).2.unplaced = t.unplaced :=
  relayoutFrom_unplaced _ t _ _ _ hs

theorem unplaced_of_relayout_eq {t t' : Tree} (hs : t.Sorted) {id : String} {ch : List String}
    (h : t.relayout id = (ch, t')) : t'.unplaced = t.unplaced := by
  have hu := relayout_unplaced hs id
  rw [h] at hu
  exact hu

theorem relayoutEach_unplaced (ids : List String) (t : Tree) (queue seen changed : List String)
    (hs : t.Sorted) : (t.relayoutEach ids queue seen changed).2.unplaced = t.unplaced := by
  fun_induction t.relayoutEach ids queue seen changed with
  | case1 t seen changed => rfl
  | case2 t seen changed cur rest hskip ih => exact ih hs
  | case3 t seen changed cur rest hskip ch t' hre ih =>
    have h1 := unplaced_of_relayout_eq hs hre
    exact (ih (sorted_of_unplaced_eq h1 hs)).trans h1

theorem relayoutAll_unplaced {t : Tree} (hs : t.Sorted) : t.relayoutAll.2.unplaced = t.unplaced :=
  relayoutEach_unplaced _ t _ _ _ hs

end Tree

end Storyboard
