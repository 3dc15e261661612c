import Storyboard.Proofs.Nesting
import Storyboard.Proofs.Reflow

/-!
# Re-placing every container lays a tree out

Re-placing the children of a container (`Tree.relayout`) writes back each child that placing
moved or resized, comparing coordinates and sides as doubles, so that a NaN always counts as
changed. A container is settled (`Tree.Settled`) when placing its children again would write back
nothing new: each child placing finds moved or resized is already exactly its placed copy. In a
tree whose numbers are not NaN that is to say placing finds no child moved or resized. A tree is
laid out (`Tree.LaidOut`) when all its containers are settled.

Placing reads of a child only its id, its size along the main axis, and its size across through
the place and size `across` makes of it, and it changes none of these. So children some of which
were written back are placed again as before (`reflow_written`), and re-placing a container
settles it (`Tree.Linked.relayout_settles`). In a laid-out tree re-placing reports only widgets
with a coordinate or a side not equal to itself (`Tree.LaidOut.relayoutAll_reports`). Re-placing from a container writes only below it
(`Tree.relayout_get?_of_not_below`).

The walk of `relayout_all` goes from the top down and re-places each container once. Its
invariant (`Tree.Sweep`) is that of a worklist: every container done is settled, and every widget
whose parent is done is done or queued. Re-placing a container never unsettles one done before,
since none of those lies below it.

Main statement:
* `Tree.relayoutAll_lays_out`: re-placing every container lays out every linked tree; a linked
  tree is laid out exactly when re-placing every container leaves it as it is; and on a laid-out
  tree re-placing from any container changes nothing, while re-placing every container reports
  only widgets with a coordinate or a side not equal to itself.
-/

namespace Storyboard

namespace Widget

/-- Whether placing moved or resized a child, as re-placing compares the child with its placed
copy: a coordinate or a side counts as changed when it is not equal to the one before, so a NaN
always counts. -/
def replaced (before child : Widget) : Bool :=
  (child.position.x != before.position.x || child.position.y != before.position.y) ||
    (child.size.width != before.size.width || child.size.height != before.size.height)

end Widget

namespace Tree

variable {t : Tree}

/-- A container is settled when placing its children again would write back nothing new: every
child that placing finds moved or resized is already exactly where, and as large as, placing
puts it. -/
def Settled (t : Tree) (c : Widget) : Prop :=
  ∀ p ∈ (t.childrenOf c.id).zip (reflow c (t.childrenOf c.id)), p.1.replaced p.2 = true → p.2 = p.1

/-- A tree is laid out when every container in it is settled. -/
def LaidOut (t : Tree) : Prop := ∀ c ∈ t.widgets, c.isContainer = true → t.Settled c

/-- Putting in a widget that is there already changes nothing. -/
theorem put_go_of_mem (w : Widget) {l : List Widget} (hl : l.Pairwise (fun a b => a.id < b.id))
    (hw : w ∈ l) : put.go w l = l := by
  induction l with
  | nil => cases hw
  | cons y ys ih =>
    have hl' := hl
    rw [List.pairwise_cons] at hl
    rw [put_go_cons]
    by_cases hy : y.id = w.id
    · have hyw : y = w := eq_of_mem_of_id_eq hl' List.mem_cons_self hw hy
      simp [hyw]
    · have hw' : w ∈ ys := (List.mem_cons.1 hw).resolve_left fun h => hy (h ▸ rfl)
      have hwy : ¬ w.id < y.id := fun h => lt_asymm h (hl.1 w hw')
      simp [hy, hwy, ih hl.2 hw']

theorem put_of_mem (hs : t.Sorted) {w : Widget} (hw : w ∈ t.widgets) : t.put w = t := by
  show ({ t with widgets := put.go w t.widgets } : Tree) = t
  rw [put_go_of_mem w hs hw]

/-! ## Writing back placed children -/

/-- What re-placing does with a child and its placed copy: the tree takes the copy exactly when
it was moved or resized; the queue gains its id, if at all, only when it is a container, and the
report only when it was moved or resized. -/
structure WritesBack (f : Tree × List String × List String → Widget × Widget →
    Tree × List String × List String) : Prop where
  tree : ∀ acc p, (f acc p).1 = if p.1.replaced p.2 then acc.1.put p.2 else acc.1
  queue : ∀ acc p, (f acc p).2.1 = acc.2.1 ∨
    p.2.isContainer = true ∧ (f acc p).2.1 = acc.2.1 ++ [p.2.id]
  report : ∀ acc p, (f acc p).2.2 = acc.2.2 ∨
    p.1.replaced p.2 = true ∧ (f acc p).2.2 = acc.2.2 ++ [p.2.id]

/-- The step of re-placing, spelled out, writes back. -/
theorem WritesBack.of_eq (f : Tree × List String × List String → Widget × Widget →
    Tree × List String × List String)
    (h : ∀ t q ch b c, f (t, q, ch) (b, c) =
      if b.replaced c then
        (t.put c, if (c.size.width != b.size.width || c.size.height != b.size.height) && c.isContainer
          then q ++ [c.id] else q, ch ++ [c.id])
      else
        (t, if (c.size.width != b.size.width || c.size.height != b.size.height) && c.isContainer
          then q ++ [c.id] else q, ch)) :
    WritesBack f := by
  refine ⟨fun acc p => ?_, fun acc p => ?_, fun acc p => ?_⟩ <;>
    obtain ⟨t, q, ch⟩ := acc <;> obtain ⟨b, c⟩ := p <;> rw [h]
  · split <;> rfl
  · split <;> dsimp only <;> split <;> simp_all
  · split <;> simp_all

section Fold

variable {f : Tree × List String × List String → Widget × Widget → Tree × List String × List String}
  (hw : WritesBack f)
include hw

theorem WritesBack.sorted_foldl (pairs : List (Widget × Widget)) (acc : Tree × List String × List String)
    (hs : acc.1.Sorted) : (pairs.foldl f acc).1.Sorted := by
  induction pairs generalizing acc with
  | nil => exact hs
  | cons p ps ih =>
    refine ih _ ?_
    rw [hw.tree]
    split
    · exact hs.put _
    · exact hs

/-- Writing back copies that are, where placing moved them, the widgets already there leaves
the tree as it is. -/
theorem WritesBack.foldl_tree_eq (pairs : List (Widget × Widget)) (acc : Tree × List String × List String)
    (h : ∀ p ∈ pairs, p.1.replaced p.2 = true → acc.1.put p.2 = acc.1) :
    (pairs.foldl f acc).1 = acc.1 := by
  induction pairs generalizing acc with
  | nil => rfl
  | cons p ps ih =>
    have hstep : (f acc p).1 = acc.1 := by
      rw [hw.tree]
      split
      · next hrep => exact h p List.mem_cons_self hrep
      · rfl
    rw [List.foldl_cons, ih (f acc p) fun q hq => hstep ▸ h q (List.mem_cons_of_mem p hq), hstep]

/-- A widget that no pair writes keeps its place. -/
theorem WritesBack.get?_foldl_of_not_mem (pairs : List (Widget × Widget))
    {acc : Tree × List String × List String} (hs : acc.1.Sorted) {y : String}
    (hy : ∀ p ∈ pairs, p.2.id ≠ y) : (pairs.foldl f acc).1.get? y = acc.1.get? y := by
  induction pairs generalizing acc with
  | nil => rfl
  | cons p ps ih =>
    have hstep : (f acc p).1.get? y = acc.1.get? y := by
      rw [hw.tree]
      split
      · rw [get?_put hs, if_neg (hy p List.mem_cons_self)]
      · rfl
    have hs' : (f acc p).1.Sorted := hw.sorted_foldl [p] acc hs
    rw [List.foldl_cons, ih hs' fun q hq => hy q (List.mem_cons_of_mem p hq), hstep]

/-- When each pair writes the id of its first widget, and no id twice, each widget is afterwards
its placed copy if placing moved or resized it, and as it was otherwise. -/
theorem WritesBack.get?_foldl_of_mem {pairs : List (Widget × Widget)}
    (hid : ∀ p ∈ pairs, p.2.id = p.1.id) (hnd : (pairs.map (·.1.id)).Nodup)
    (acc : Tree × List String × List String) (hs : acc.1.Sorted) {p : Widget × Widget} (hp : p ∈ pairs) :
    (pairs.foldl f acc).1.get? p.1.id = if p.1.replaced p.2 then some p.2 else acc.1.get? p.1.id := by
  induction pairs generalizing acc with
  | nil => cases hp
  | cons q qs ih =>
    rw [List.map_cons, List.nodup_cons] at hnd
    have hs' : (f acc q).1.Sorted := hw.sorted_foldl [q] acc hs
    rw [List.foldl_cons]
    rcases List.mem_cons.1 hp with rfl | hp
    · -- the later pairs write other ids
      have hother : ∀ r ∈ qs, r.2.id ≠ p.1.id := fun r hr hr' =>
        hnd.1 (List.mem_map.2 ⟨r, hr, (hid r (List.mem_cons_of_mem _ hr)).symm.trans hr'⟩)
      rw [hw.get?_foldl_of_not_mem qs hs' hother, hw.tree]
      split
      · rw [get?_put hs, if_pos (hid p List.mem_cons_self)]
      · rfl
    · have hne : q.2.id ≠ p.1.id := fun h =>
        hnd.1 (List.mem_map.2 ⟨p, hp, h.symm.trans (hid q List.mem_cons_self)⟩)
      have hq : (f acc q).1.get? p.1.id = acc.1.get? p.1.id :=
        hw.get?_foldl_of_not_mem [q] hs fun r hr => by rw [List.mem_singleton.1 hr]; exact hne
      rw [ih (fun r hr => hid r (List.mem_cons_of_mem _ hr)) hnd.2 (f acc q) hs' hp, hq]

end Fold

/-- Pieces of a run that each stay, or grow by the id of a pair that `P` holds of, grow only by
ids of such pairs. -/
theorem mem_foldl_of_grows {β : Type} (g : β → List String) {f : β → Widget × Widget → β}
    (P : Widget × Widget → Prop) (hg : ∀ acc p, g (f acc p) = g acc ∨ P p ∧ g (f acc p) = g acc ++ [p.2.id])
    (pairs : List (Widget × Widget)) (acc : β) :
    ∀ x ∈ g (pairs.foldl f acc), x ∈ g acc ∨ ∃ p ∈ pairs, P p ∧ x = p.2.id := by
  induction pairs generalizing acc with
  | nil => exact fun x hx => .inl hx
  | cons p ps ih =>
    intro x hx
    rcases ih (f acc p) x hx with hx | ⟨q, hq, hPq, rfl⟩
    · rcases hg acc p with h | ⟨hPp, h⟩ <;> rw [h] at hx
      · exact .inl hx
      · rcases List.mem_append.1 hx with hx | hx
        · exact .inl hx
        · exact .inr ⟨p, List.mem_cons_self, hPp, List.mem_singleton.1 hx⟩
    · exact .inr ⟨q, List.mem_cons_of_mem p hq, hPq, rfl⟩

/-- The pairs re-placing walks through are children of the container and their placed copies. -/
theorem mem_zip_reflow_childrenOf (hs : t.Sorted) {cur : String} {c : Widget} {p : Widget × Widget}
    (hp : p ∈ (t.childrenOf cur).zip (reflow c (t.childrenOf cur))) :
    p.1 ∈ t.widgets ∧ p.2.id = p.1.id ∧ t.parentOf p.1.id = some cur := by
  obtain ⟨hk, hsame⟩ := unplaced_eq_of_mem_zip (reflow_unplaced c _).symm hp
  refine ⟨(mem_childrenOf hk).1, ?_, parentOf_of_mem_childrenOf hs (List.mem_map_of_mem hk)⟩
  rw [← Widget.unplaced_id p.2, ← hsame, Widget.unplaced_id]

/-- Writing back the children of a container keeps the tree the same up to positions and
sizes. -/
theorem WritesBack.unplaced_foldl {f : Tree × List String × List String → Widget × Widget →
    Tree × List String × List String} (hw : WritesBack f) (hs : t.Sorted) (cur : String) (c : Widget)
    (q ch : List String) :
    (((t.childrenOf cur).zip (reflow c (t.childrenOf cur))).foldl f (t, q, ch)).1.unplaced = t.unplaced :=
  foldl_put_unplaced hs _
    (fun p hp => (unplaced_eq_of_mem_zip (reflow_unplaced c _).symm hp).imp_left
      fun hk => (mem_childrenOf hk).1)
    f (fun acc p => by rw [hw.tree]; split <;> simp) (t, q, ch) rfl

/-- Looking up in a tree, by id, the widgets of two lists with the same ids gives the same
widgets, when every one is there. -/
theorem map_get?_getD_of_ids (t' : Tree) {A B : List Widget} (hAB : A.map (·.id) = B.map (·.id))
    (hB : ∀ b ∈ B, (t'.get? b.id).isSome) :
    A.map (fun k => (t'.get? k.id).getD k) = B.map fun k => (t'.get? k.id).getD k := by
  induction A generalizing B with
  | nil => cases B with
    | nil => rfl
    | cons => cases hAB
  | cons a A ih =>
    cases B with
    | nil => cases hAB
    | cons b B =>
      simp only [List.map_cons, List.cons.injEq] at hAB ⊢
      obtain ⟨w, hw⟩ := Option.isSome_iff_exists.1 (hB b List.mem_cons_self)
      exact ⟨by rw [hAB.1, hw]; rfl, ih hAB.2 fun b' hb' => hB b' (List.mem_cons_of_mem _ hb')⟩

/-- Two trees with the same widgets up to position and size find the same children for each
widget, each as the second tree has it. -/
theorem childrenOf_of_unplaced_eq {t' : Tree} (h : t'.unplaced = t.unplaced) (hs : t.Sorted)
    (x : String) : t'.childrenOf x = (t.childrenOf x).map fun k => (t'.get? k.id).getD k := by
  have hs' := sorted_of_unplaced_eq h hs
  -- each child found in `t'` is the widget `t'` has for its id
  have hself : (t'.childrenOf x).map (fun k => (t'.get? k.id).getD k) = t'.childrenOf x := by
    refine (List.map_congr_left fun k hk => ?_).trans (List.map_id _)
    rw [(get?_eq_some_iff hs').2 ⟨(mem_childrenOf hk).1, rfl⟩]
    rfl
  rw [← hself]
  -- the children found in both trees have the same ids, all of them widgets of `t'`
  have hsome : ∀ k ∈ t.childrenOf x, (t'.get? k.id).isSome := fun k hk => by
    rw [isSome_of_unplaced_eq h, (get?_eq_some_iff hs).2 ⟨(mem_childrenOf hk).1, rfl⟩]
    rfl
  exact map_get?_getD_of_ids t' (map_id_childrenOf_of_unplaced_eq h x) hsome

/-! ## One walk of re-placing -/

/-- The walk of re-placing lists, beyond what it was given, only children of containers in any
set `Q` that holds its queue and the children of its members. -/
theorem relayoutFrom_listed (ids : List String) (t : Tree) (queue seen changed : List String)
    (hs : t.Sorted) {Q : String → Prop} (hQ : ∀ p k, Q p → t.parentOf k = some p → Q k)
    (hq : ∀ x ∈ queue, Q x) :
    ∀ x ∈ (t.relayoutFrom ids queue seen changed).1, x ∈ changed ∨ ∃ p, t.parentOf x = some p ∧ Q p := by
  fun_induction t.relayoutFrom ids queue seen changed with
  | case1 t seen changed => exact fun x hx => .inl hx
  | case2 t seen changed cur rest hskip ih => exact ih hs hQ fun x hx => hq x (List.mem_cons_of_mem _ hx)
  | case3 t seen changed cur rest hskip parent hget hnot ih =>
    exact ih hs hQ fun x hx => hq x (List.mem_cons_of_mem _ hx)
  | case4 t seen changed cur rest hskip parent hget hcont kids step t' queue' changed' hfold ih =>
    have hw : WritesBack step := .of_eq step fun _ _ _ _ _ => rfl
    have hcur : Q cur := hq cur List.mem_cons_self
    -- what writing back the children of `cur` adds is their ids
    have hkid : ∀ (P : Widget × Widget → Prop) x, (∃ p ∈ kids.zip (reflow parent kids), P p ∧ x = p.2.id) →
        t.parentOf x = some cur := by
      rintro P x ⟨p, hp, -, rfl⟩
      obtain ⟨-, hid, hpar⟩ := mem_zip_reflow_childrenOf hs hp
      rw [hid, hpar]
    have hu : t'.unplaced = t.unplaced := by
      have h := hw.unplaced_foldl hs cur parent rest changed
      rwa [hfold] at h
    have hpar : ∀ x, t'.parentOf x = t.parentOf x := parentOf_of_unplaced_eq hu
    have hqueue := mem_foldl_of_grows (·.2.1) _ hw.queue (kids.zip (reflow parent kids)) (t, rest, changed)
    have hreport := mem_foldl_of_grows (·.2.2) _ hw.report (kids.zip (reflow parent kids)) (t, rest, changed)
    rw [hfold] at hqueue hreport
    intro x hx
    have hQ' : ∀ p k, Q p → t'.parentOf k = some p → Q k := fun p k hp hk => hQ p k hp (hpar k ▸ hk)
    have hq' : ∀ y ∈ queue', Q y := fun y hy => by
      rcases hqueue y hy with hy | hy
      · exact hq y (List.mem_cons_of_mem _ hy)
      · exact hQ cur y hcur (hkid _ y hy)
    rcases ih (sorted_of_unplaced_eq hu hs) hQ' hq' x hx with hx | ⟨p, hp, hQp⟩
    · rcases hreport x hx with hx | hx
      · exact .inl hx
      · exact .inr ⟨cur, hkid _ x hx, hcur⟩
    · exact .inr ⟨p, hpar x ▸ hp, hQp⟩
  | case5 t seen changed cur rest hskip hnone ih =>
    exact ih hs hQ fun x hx => hq x (List.mem_cons_of_mem _ hx)

/-- Re-placing from a container leaves as it was every widget whose parent is not below the
container, nor the container itself. -/
theorem relayout_get?_of_not_below (hs : t.Sorted) {x y : String}
    (hy : ∀ p, t.parentOf y = some p → ∀ k, t.ancestor k p ≠ some x) :
    (t.relayout x).2.get? y = t.get? y := by
  by_cases hmem : y ∈ (t.relayout x).1
  · -- a listed widget has its parent below `x`
    have hQ : ∀ p k, (∃ j, t.ancestor j p = some x) → t.parentOf k = some p → ∃ j, t.ancestor j k = some x :=
      fun p k ⟨j, hj⟩ hk => ⟨j + 1, ancestor_succ_of_parentOf hk hj⟩
    rcases relayoutFrom_listed _ t [x] [] [] hs hQ (fun q hq => ⟨0, by simp_all [ancestor_zero]⟩) y hmem with
      h | ⟨p, hp, j, hj⟩
    · cases h
    · exact absurd hj (hy p hp j)
  · exact (relayout_reports hs x).frame y hmem

/-- Re-placing a container writes back, among its children, each one placing moved or resized, as
placing left it; the rest of the walk, which counts the container done, touches none of them. -/
theorem relayoutFrom_children (ids : List String) (t : Tree) (queue seen changed : List String)
    (hs : t.Sorted) {cur : String} {rest : List String} (hq : queue = cur :: rest) (hcur : cur ∉ seen)
    (hid : cur ∈ ids) {c : Widget} (hget : t.get? cur = some c) (hc : c.isContainer = true)
    (hnd : (t.kidsOf cur).Nodup) :
    ∀ p ∈ (t.childrenOf cur).zip (reflow c (t.childrenOf cur)),
      (t.relayoutFrom ids queue seen changed).2.get? p.1.id = some (if p.1.replaced p.2 then p.2 else p.1) := by
  fun_cases t.relayoutFrom ids queue seen changed with
  | case1 => cases hq
  | case2 cur' rest' hskip =>
    obtain ⟨h1, h2⟩ := List.cons.inj hq
    subst cur' rest'
    exact absurd hskip (by simp [hcur, hid])
  | case3 cur' rest' hskip parent hget' hnot =>
    obtain ⟨h1, h2⟩ := List.cons.inj hq
    subst cur' rest'
    rw [hget] at hget'
    cases hget'
    simp [hc] at hnot
  | case4 cur' rest' hskip parent hget' hcont kids step t' queue' changed' hfold =>
    obtain ⟨h1, h2⟩ := List.cons.inj hq
    subst cur' rest'
    rw [hget] at hget'
    cases hget'
    have hw : WritesBack step := .of_eq step fun _ _ _ _ _ => rfl
    intro p hp
    obtain ⟨hmem, hpid, hpar⟩ := mem_zip_reflow_childrenOf hs hp
    -- writing back the children of `cur` leaves each as placing left it, or as it was
    have hnd' : ((kids.zip (reflow c kids)).map (·.1.id)).Nodup := by
      have hfst : (kids.zip (reflow c kids)).map Prod.fst = kids := List.map_fst_zip (by simp)
      rw [show (fun q : Widget × Widget => q.1.id) = Widget.id ∘ Prod.fst from rfl, ← List.map_map, hfst]
      exact nodup_childrenOf hs hnd
    have h1 := hw.get?_foldl_of_mem (fun q hq => (mem_zip_reflow_childrenOf hs hq).2.1) hnd'
      (t, rest, changed) hs hp
    rw [hfold] at h1
    -- the rest of the walk lists no child of `cur`, which it counts done
    have hu : t'.unplaced = t.unplaced := by
      have h := hw.unplaced_foldl hs cur c rest changed
      rwa [hfold] at h
    obtain ⟨more, -, hr⟩ := relayoutFrom_reports ids t' queue' (cur :: seen) changed'
      (sorted_of_unplaced_eq hu hs)
    by_cases hin : p.1.id ∈ more
    · obtain ⟨q, hq', hqs⟩ := hr.below _ hin
      rw [parentOf_of_unplaced_eq hu, hpar] at hq'
      exact absurd (Option.some.inj hq' ▸ List.mem_cons_self) hqs
    · rw [hr.frame _ hin, h1]
      split <;> simp [(get?_eq_some_iff hs).2 ⟨hmem, rfl⟩]
  | case5 cur' rest' hskip hnone =>
    obtain ⟨h1, h2⟩ := List.cons.inj hq
    subst cur' rest'
    rw [hget] at hnone
    cases hnone

/-- Re-placing from a container of a linked tree settles it and leaves the container itself as
it was: its children are written back where placing moved or resized them, and placing them
again writes back nothing new. -/
theorem Linked.relayout_settles (hl : t.Linked) {x : String} {c : Widget} (hget : t.get? x = some c)
    (hc : c.isContainer = true) : (t.relayout x).2.get? x = some c ∧ (t.relayout x).2.Settled c := by
  have hu : (t.relayout x).2.unplaced = t.unplaced := relayout_unplaced hl.sorted x
  have hxid : c.id = x := id_of_get? hget
  -- the container's parent is not below it, since the tree has no cycle
  have hx : (t.relayout x).2.get? x = t.get? x :=
    relayout_get?_of_not_below hl.sorted fun p hp k hk =>
      (hl.rooted x (by rw [hget]; rfl)).not_cycle k (ancestor_succ_of_parentOf hp hk)
  refine ⟨hx.trans hget, ?_⟩
  have hkids := relayoutFrom_children (t.widgets.map (·.id)) t [x] [] [] hl.sorted rfl
    List.not_mem_nil ((mem_ids_iff hl.sorted x).2 (by rw [hget]; rfl)) hget hc (hl.kids x).nodup
  -- the children found afterwards are those placing moved or resized, written back
  generalize hkidsx : t.childrenOf x = kids at hkids
  have hfst : (kids.zip (reflow c kids)).map Prod.fst = kids := List.map_fst_zip (by simp)
  have hsnd : (kids.zip (reflow c kids)).map Prod.snd = reflow c kids := List.map_snd_zip (by simp)
  have hch : (t.relayout x).2.childrenOf x = (kids.zip (reflow c kids)).map
      fun p => if p.1.replaced p.2 then p.2 else p.1 := by
    rw [childrenOf_of_unplaced_eq hu hl.sorted, hkidsx]
    calc kids.map (fun k => ((t.relayout x).2.get? k.id).getD k)
        = ((kids.zip (reflow c kids)).map Prod.fst).map (fun k => ((t.relayout x).2.get? k.id).getD k) := by
          rw [hfst]
      _ = _ := by
          rw [List.map_map]
          refine List.map_congr_left fun p hp => ?_
          simp only [Function.comp_apply]
          rw [show (t.relayout x).2.get? p.1.id = _ from hkids p hp]
          rfl
  have hzip : ((kids.zip (reflow c kids)).map fun p => if p.1.replaced p.2 then p.2 else p.1).zip
      (reflow c kids) = (kids.zip (reflow c kids)).map
        fun q => (if q.1.replaced q.2 then q.2 else q.1, q.2) := by
    calc _ = ((kids.zip (reflow c kids)).map fun p => if p.1.replaced p.2 then p.2 else p.1).zip
          ((kids.zip (reflow c kids)).map Prod.snd) := by rw [hsnd]
      _ = _ := List.zip_map'
  intro p hp hrep
  rw [hxid, hch, reflow_written, hzip] at hp
  -- each pair is a child as written back and its placed copy
  obtain ⟨q, -, rfl⟩ := List.mem_map.1 hp
  dsimp only at hrep ⊢
  split
  · rfl
  · next hq => rw [if_neg hq] at hrep; exact absurd hrep hq

/-! ## Laid-out trees -/

/-- In a laid-out tree, each child of a container that placing finds moved or resized is already
its placed copy. -/
theorem LaidOut.settled_at (hlo : t.LaidOut) {cur : String} {c : Widget} (hget : t.get? cur = some c)
    (hc : c.isContainer = true) :
    ∀ p ∈ (t.childrenOf cur).zip (reflow c (t.childrenOf cur)), p.1.replaced p.2 = true → p.2 = p.1 := by
  have hsettled := hlo c (mem_of_get? hget) hc
  unfold Settled at hsettled
  rwa [id_of_get? hget] at hsettled

/-- Writing back the children of a container of a laid-out tree writes only widgets that are there
as they are. -/
theorem LaidOut.foldl_children_eq (hlo : t.LaidOut) (hs : t.Sorted)
    {f : Tree × List String × List String → Widget × Widget → Tree × List String × List String}
    (hw : WritesBack f) {cur : String} {c : Widget} (hget : t.get? cur = some c) (hc : c.isContainer = true)
    (q ch : List String) : (((t.childrenOf cur).zip (reflow c (t.childrenOf cur))).foldl f (t, q, ch)).1 = t :=
  hw.foldl_tree_eq _ (t, q, ch) fun p hp hrep => by
    rw [hlo.settled_at hget hc p hp hrep]
    exact put_of_mem hs (mem_zip_reflow_childrenOf hs hp).1

/-- Re-placing in a laid-out tree leaves it as it is. -/
theorem LaidOut.relayoutFrom_eq (ids : List String) (t : Tree) (queue seen changed : List String)
    (hs : t.Sorted) (hlo : t.LaidOut) : (t.relayoutFrom ids queue seen changed).2 = t := by
  fun_induction t.relayoutFrom ids queue seen changed with
  | case1 t seen changed => rfl
  | case2 t seen changed cur rest hskip ih => exact ih hs hlo
  | case3 t seen changed cur rest hskip parent hget hnot ih => exact ih hs hlo
  | case4 t seen changed cur rest hskip parent hget hcont kids step t' queue' changed' hfold ih =>
    have hw : WritesBack step := .of_eq step fun _ _ _ _ _ => rfl
    have ht' : t' = t := by
      have h := hlo.foldl_children_eq hs hw hget (by simpa using hcont) rest changed
      rwa [hfold] at h
    subst ht'
    exact ih hs hlo
  | case5 t seen changed cur rest hskip hnone ih => exact ih hs hlo

/-- Re-placing in a laid-out tree reports, beyond what it was given, only widgets of the tree that
compare as moved or resized with themselves: those with a coordinate or a side that is not equal
to itself. -/
theorem LaidOut.relayoutFrom_reports (ids : List String) (t : Tree) (queue seen changed : List String)
    (hs : t.Sorted) (hlo : t.LaidOut) :
    ∀ x ∈ (t.relayoutFrom ids queue seen changed).1,
      x ∈ changed ∨ ∃ w ∈ t.widgets, w.id = x ∧ w.replaced w = true := by
  fun_induction t.relayoutFrom ids queue seen changed with
  | case1 t seen changed => exact fun x hx => .inl hx
  | case2 t seen changed cur rest hskip ih => exact ih hs hlo
  | case3 t seen changed cur rest hskip parent hget hnot ih => exact ih hs hlo
  | case4 t seen changed cur rest hskip parent hget hcont kids step t' queue' changed' hfold ih =>
    have hw : WritesBack step := .of_eq step fun _ _ _ _ _ => rfl
    have hc : parent.isContainer = true := by simpa using hcont
    have hreport := mem_foldl_of_grows (·.2.2) _ hw.report (kids.zip (reflow parent kids)) (t, rest, changed)
    have ht' : t' = t := by
      have h := hlo.foldl_children_eq hs hw hget hc rest changed
      rwa [hfold] at h
    rw [hfold] at hreport
    subst ht'
    intro x hx
    rcases ih hs hlo x hx with hx | hx
    · rcases hreport x hx with hx | ⟨p, hp, hrep, rfl⟩
      · exact .inl hx
      · -- a child reported is already its placed copy, so it compares unequal to itself
        obtain ⟨hmem, hid, -⟩ := mem_zip_reflow_childrenOf hs hp
        have hsame : p.2 = p.1 := hlo.settled_at hget hc p hp hrep
        rw [hsame] at hrep
        exact .inr ⟨p.1, hmem, hsame ▸ rfl, hrep⟩
    · exact .inr hx
  | case5 t seen changed cur rest hskip hnone ih => exact ih hs hlo

theorem LaidOut.relayout_eq (hlo : t.LaidOut) (hs : t.Sorted) (id : String) : (t.relayout id).2 = t :=
  LaidOut.relayoutFrom_eq _ t _ _ _ hs hlo

theorem LaidOut.relayoutEach_eq (ids : List String) (t : Tree) (queue seen changed : List String)
    (hs : t.Sorted) (hlo : t.LaidOut) : (t.relayoutEach ids queue seen changed).2 = t := by
  fun_induction t.relayoutEach ids queue seen changed with
  | case1 t seen changed => rfl
  | case2 t seen changed cur rest hskip ih => exact ih hs hlo
  | case3 t seen changed cur rest hskip ch t' hre ih =>
    have ht' : t' = t := by
      have h := hlo.relayout_eq hs cur
      rwa [hre] at h
    subst ht'
    exact ih hs hlo

theorem LaidOut.relayoutAll_eq (hlo : t.LaidOut) (hs : t.Sorted) : t.relayoutAll.2 = t :=
  LaidOut.relayoutEach_eq _ t _ _ _ hs hlo

theorem LaidOut.relayoutEach_reports (ids : List String) (t : Tree) (queue seen changed : List String)
    (hs : t.Sorted) (hlo : t.LaidOut) :
    ∀ x ∈ (t.relayoutEach ids queue seen changed).1,
      x ∈ changed ∨ ∃ w ∈ t.widgets, w.id = x ∧ w.replaced w = true := by
  fun_induction t.relayoutEach ids queue seen changed with
  | case1 t seen changed => exact fun x hx => .inl hx
  | case2 t seen changed cur rest hskip ih => exact ih hs hlo
  | case3 t seen changed cur rest hskip ch t' hre ih =>
    have hrel := hlo.relayoutFrom_reports (t.widgets.map (·.id)) t [cur] [] [] hs
    have ht' : t' = t := by
      have h := hlo.relayout_eq hs cur
      rwa [hre] at h
    have hch : (t.relayout cur).1 = ch := by rw [hre]
    subst ht'
    intro x hx
    rcases ih hs hlo x hx with hx | hx
    · rcases List.mem_append.1 hx with hx | hx
      · exact .inl hx
      · exact .inr ((hrel x (hch ▸ hx)).resolve_left List.not_mem_nil)
    · exact .inr hx

/-- A laid-out tree has re-placing every container report only widgets that compare as moved or
resized with themselves. -/
theorem LaidOut.relayoutAll_reports (hlo : t.LaidOut) (hs : t.Sorted) :
    ∀ x ∈ t.relayoutAll.1, ∃ w ∈ t.widgets, w.id = x ∧ w.replaced w = true := by
  have hans : t.relayoutAll.1 = uniqueIds (t.relayoutEach (t.widgets.map (·.id)) t.roots [] []).1 := rfl
  intro x hx
  rw [hans, mem_uniqueIds] at hx
  exact (hlo.relayoutEach_reports _ t _ _ _ hs x hx).resolve_left List.not_mem_nil

/-! ## Re-placing every container -/

/-- What the walk of `relayoutEach` keeps, with the ids `seen` done and `queue` still to do: the
parents of the ids done, and of those queued, are done; every container done is settled; and
every widget whose parent is done, or that has none, is done or queued. -/
structure Sweep (t : Tree) (queue seen : List String) : Prop where
  up : ∀ x ∈ seen, ∀ p, t.parentOf x = some p → p ∈ seen
  queued : ∀ x ∈ queue, ∀ p, t.parentOf x = some p → p ∈ seen
  settled : ∀ w ∈ t.widgets, w.id ∈ seen → w.isContainer = true → t.Settled w
  met : ∀ x, (t.get? x).isSome → (∀ p, t.parentOf x = some p → p ∈ seen) → x ∈ seen ∨ x ∈ queue

/-- The walk starts from the top level of a linked tree with nothing done. -/
theorem Sweep.start (hl : t.Linked) : Sweep t t.roots [] where
  up _ h := absurd h List.not_mem_nil
  queued x hx p hp := by
    rw [((hl.roots.mem_iff x).1 hx).2] at hp
    cases hp
  settled _ _ h := absurd h List.not_mem_nil
  met x hx hpar := by
    refine .inr ((hl.roots.mem_iff x).2 ⟨hx, ?_⟩)
    cases hp : t.parentOf x with
    | none => rfl
    | some p => exact absurd (hpar p hp) List.not_mem_nil

/-- The ids done hold every ancestor of theirs. -/
theorem Sweep.ancestor_mem {queue seen : List String} (hsw : Sweep t queue seen) {x a : String}
    (hx : x ∈ seen) (k : Nat) (hk : t.ancestor k x = some a) : a ∈ seen := by
  induction k generalizing x with
  | zero => exact Option.some.inj hk ▸ hx
  | succ k ih =>
    rw [ancestor, Option.bind_eq_some_iff] at hk
    obtain ⟨p, hp, hk⟩ := hk
    exact ih (hsw.up x hx p hp) hk

/-- Dropping an id done already, or one without a widget, keeps the walk's invariant. -/
theorem Sweep.skip {cur : String} {rest seen : List String} (hsw : Sweep t (cur :: rest) seen)
    (hskip : cur ∈ seen ∨ ¬(t.get? cur).isSome) : Sweep t rest seen where
  up := hsw.up
  queued x hx := hsw.queued x (List.mem_cons_of_mem _ hx)
  settled := hsw.settled
  met x hx hpar := by
    rcases hsw.met x hx hpar with h | h
    · exact .inl h
    · rcases List.mem_cons.1 h with rfl | h
      · exact hskip.imp_right fun hn => absurd hx hn
      · exact .inr h

/-- Re-placing a container whose parent is done, and queueing its children, keeps the walk's
invariant: the container is settled afterwards, and the containers done before are neither below
it nor the parents of widgets it moves, so they stay settled. -/
theorem Sweep.step (hl : t.Linked) {cur : String} {rest seen : List String}
    (hsw : Sweep t (cur :: rest) seen) (hcur : cur ∉ seen) (hsome : (t.get? cur).isSome) :
    Sweep (t.relayout cur).2 (rest ++ ((t.relayout cur).2.childrenOf cur).map (·.id)) (cur :: seen) := by
  have hu : (t.relayout cur).2.unplaced = t.unplaced := relayout_unplaced hl.sorted cur
  have hs' : (t.relayout cur).2.Sorted := sorted_of_unplaced_eq hu hl.sorted
  have hpar : ∀ x, (t.relayout cur).2.parentOf x = t.parentOf x := parentOf_of_unplaced_eq hu
  -- no id done before is below `cur`, since the ids done hold their ancestors
  have hbelow : ∀ y ∈ seen, ∀ k, t.ancestor k y ≠ some cur := fun y hy k hk =>
    hcur (hsw.ancestor_mem hy k hk)
  -- so the walk from `cur` leaves the widgets done before, and their children
  have hkeep : ∀ y ∈ seen, (t.relayout cur).2.get? y = t.get? y := fun y hy =>
    relayout_get?_of_not_below hl.sorted fun p hp k hk =>
      hbelow y hy (k + 1) (ancestor_succ_of_parentOf hp hk)
  have hkeepKids : ∀ y ∈ seen, ∀ k, t.parentOf k = some y → (t.relayout cur).2.get? k = t.get? k :=
    fun y hy k hk => relayout_get?_of_not_below hl.sorted fun p hp j hj => by
      rw [hk] at hp
      cases hp
      exact hbelow _ hy j hj
  -- what was done or queued is done or queued after the step
  have hroute : ∀ x, x ∈ seen ∨ x ∈ cur :: rest →
      x ∈ cur :: seen ∨ x ∈ rest ++ ((t.relayout cur).2.childrenOf cur).map (·.id) := by
    rintro x (h | h)
    · exact .inl (List.mem_cons_of_mem _ h)
    · rcases List.mem_cons.1 h with rfl | h
      · exact .inl List.mem_cons_self
      · exact .inr (List.mem_append_left _ h)
  refine ⟨fun x hx p hp => ?_, fun x hx p hp => ?_, fun w hw hid hc => ?_, fun x hx hparent => ?_⟩
  · rw [hpar] at hp
    rcases List.mem_cons.1 hx with rfl | hx
    · exact List.mem_cons_of_mem _ (hsw.queued x List.mem_cons_self p hp)
    · exact List.mem_cons_of_mem _ (hsw.up x hx p hp)
  · rcases List.mem_append.1 hx with hx | hx
    · rw [hpar] at hp
      exact List.mem_cons_of_mem _ (hsw.queued x (List.mem_cons_of_mem _ hx) p hp)
    · rw [parentOf_of_mem_childrenOf hs' hx] at hp
      cases hp
      exact List.mem_cons_self
  · have hget' : (t.relayout cur).2.get? w.id = some w := (get?_eq_some_iff hs').2 ⟨hw, rfl⟩
    rcases List.mem_cons.1 hid with hid | hid
    · -- the container re-placed is settled
      obtain ⟨c, hc'⟩ := Option.isSome_iff_exists.1 hsome
      rw [hid] at hget'
      have hwc : w.unplaced = c.unplaced := by
        have h := map_get?_of_unplaced_eq hu cur
        rw [hget', hc'] at h
        exact Option.some.inj h
      have hcc : c.isContainer = true := by
        rw [← Widget.isContainer_unplaced, ← hwc, Widget.isContainer_unplaced, hc]
      obtain ⟨hx, hset⟩ := hl.relayout_settles hc' hcc
      rw [hget'] at hx
      rwa [Option.some.inj hx]
    · -- a container done before is as it was, with its children as they were
      have hw₀ : t.get? w.id = some w := (hkeep _ hid).symm.trans hget'
      have hch : (t.relayout cur).2.childrenOf w.id = t.childrenOf w.id := by
        rw [childrenOf_of_unplaced_eq hu hl.sorted]
        refine (List.map_congr_left fun k hk => ?_).trans (List.map_id _)
        have hk₀ : t.get? k.id = some k := (get?_eq_some_iff hl.sorted).2 ⟨(mem_childrenOf hk).1, rfl⟩
        rw [hkeepKids _ hid k.id (parentOf_of_mem_childrenOf hl.sorted (List.mem_map_of_mem hk)), hk₀]
        rfl
      have hset := hsw.settled w (mem_of_get? hw₀) hid hc
      unfold Settled at hset ⊢
      rwa [hch]
  · have hx₀ : (t.get? x).isSome := (isSome_of_unplaced_eq hu x).symm.trans hx
    cases hp : t.parentOf x with
    | none =>
      exact hroute x (hsw.met x hx₀ fun p h => by rw [hp] at h; cases h)
    | some p =>
      rcases List.mem_cons.1 (hparent p (by rw [hpar, hp])) with rfl | hpseen
      · -- a child of the container re-placed is queued
        exact .inr (List.mem_append_right _
          (mem_childrenOf_of_parentOf hs' ((isSome_of_unplaced_eq hu _).trans hsome) (by rw [hpar, hp])))
      · exact hroute x (hsw.met x hx₀ fun p' h => by rw [hp] at h; cases h; exact hpseen)

/-- At the end of the walk, with nothing queued, every widget of a linked tree is done, since
its chain of parents reaches the top: so every container is settled. -/
theorem Sweep.laidOut (hl : t.Linked) {seen : List String} (hsw : Sweep t [] seen) : t.LaidOut := by
  have hall : ∀ x, (t.get? x).isSome → x ∈ seen := by
    intro x hx
    have hr := hl.rooted x hx
    clear hx
    induction hr with
    | top hsome hnone =>
      exact (hsw.met _ hsome fun p hp => by rw [hnone] at hp; cases hp).resolve_right List.not_mem_nil
    | up hp _ ih =>
      refine (hsw.met _ (isSome_of_parentOf hp) fun p' hp' => ?_).resolve_right List.not_mem_nil
      rw [hp] at hp'
      cases hp'
      exact ih
  intro c hc hcont
  exact hsw.settled c hc (hall c.id (by rw [(get?_eq_some_iff hl.sorted).2 ⟨hc, rfl⟩]; rfl)) hcont

/-- The walk of `relayoutEach` over a linked tree keeps its invariant up to the empty queue. -/
theorem relayoutEach_sweep (ids : List String) (t : Tree) (queue seen changed : List String)
    (hl : t.Linked) (hids : ∀ x, x ∈ ids ↔ (t.get? x).isSome) (hsw : Sweep t queue seen) :
    ∃ seen', Sweep (t.relayoutEach ids queue seen changed).2 [] seen' := by
  fun_induction t.relayoutEach ids queue seen changed with
  | case1 t seen changed => exact ⟨seen, hsw⟩
  | case2 t seen changed cur rest hskip ih =>
    exact ih hl hids (hsw.skip (hskip.imp_right fun h hs => h ((hids cur).2 hs)))
  | case3 t seen changed cur rest hskip ch t' hre ih =>
    obtain ⟨hnotseen, hcur⟩ : cur ∉ seen ∧ cur ∈ ids := by
      push Not at hskip
      exact hskip
    have h := hsw.step hl hnotseen ((hids cur).1 hcur)
    have hl' := hl.relayout cur
    rw [hre] at h hl'
    exact ih hl' (fun x => by rw [hids x, isSome_of_unplaced_eq (unplaced_of_relayout_eq hl.sorted hre) x]) h

/-- Re-placing every container lays out a linked tree. -/
theorem Linked.relayoutAll_laidOut (hl : t.Linked) : t.relayoutAll.2.LaidOut := by
  obtain ⟨seen, hsw⟩ := relayoutEach_sweep (t.widgets.map (·.id)) t t.roots [] [] hl
    (mem_ids_iff hl.sorted) (Sweep.start hl)
  exact hsw.laidOut hl.relayoutAll

end Tree

end Storyboard
