import Storyboard.Proofs.Ancestry
import Storyboard.Lint

/-!
# What the review of widget nesting guarantees

The review checks the links of the widgets one pair at a time: each child a widget lists is
there and names it as parent, and the parent a widget names is there and lists it. On a
project with one widget per id these checks pass exactly when the tree built from its widgets
has links that agree both ways (`Tree.Agree`). Agreeing links give every parent as a
container, the top level as exactly the widgets without a parent, and the children found for
each widget as the ones it lists, in order.

They are not the whole tree invariant: that holds exactly when moreover no widget lists a
child twice and no widget is its own ancestor (`Tree.Agree.links_iff`), and neither is a
pairwise check. Two containers that list and name each other pass the review and form a cycle
that nothing at the top reaches.

* `Tree.relayoutEach_walk`: the walk that re-places every container re-places, in turn, the
  ids it takes, each once, and takes everything below what it takes.
* `Tree.Linked.relayoutAll_walk`: on a linked tree it takes every widget.
* `Review.nesting_eq_nil_iff`: the nesting findings are empty exactly when every widget's links
  pass their checks.
-/

namespace Storyboard

namespace Tree

variable {t : Tree}

/-! ## Children found, up to placement -/

theorem childrenOf_unplaced (t : Tree) (x : String) :
    t.unplaced.childrenOf x = (t.childrenOf x).map Widget.unplaced := by
  have hg : t.unplaced.get? = fun c => (t.get? c).map Widget.unplaced := funext (get?_unplaced t)
  unfold childrenOf
  rw [hg]
  cases hx : t.get? x with
  | none => simp [hx]
  | some parent =>
    simp only [hx, Option.map_some, Widget.childIds_unplaced, ← List.map_filterMap, List.filter_map,
      List.map_append, List.any_map, Function.comp_def, Widget.unplaced_parentId,
      Widget.unplaced_id, unplaced]

/-- Two trees with the same widgets up to position and size find the same children. -/
theorem map_id_childrenOf_of_unplaced_eq {t' : Tree} (h : t'.unplaced = t.unplaced) (x : String) :
    (t'.childrenOf x).map (·.id) = (t.childrenOf x).map (·.id) := by
  have hm := congrArg (List.map (·.id)) (childrenOf_unplaced t' x)
  rw [h, childrenOf_unplaced, List.map_map, List.map_map] at hm
  exact hm.symm

/-! ## Links that agree both ways -/

/-- The links agree both ways: a widget lists exactly the widgets that name it as parent. -/
def Agree (t : Tree) : Prop := ∀ q c, c ∈ t.kidsOf q ↔ t.parentOf c = some q

theorem isSome_of_mem_kidsOf {p c : String} (h : c ∈ t.kidsOf p) : (t.get? p).isSome :=
  isSome_of_containerAt (containerAt_of_mem_kidsOf h)

theorem Agree.isSome_parent (h : t.Agree) {c p : String} (hp : t.parentOf c = some p) :
    (t.get? p).isSome :=
  isSome_of_mem_kidsOf ((h p c).2 hp)

theorem Agree.containerAt_parent (h : t.Agree) {c p : String} (hp : t.parentOf c = some p) :
    t.containerAt p = true :=
  containerAt_of_mem_kidsOf ((h p c).2 hp)

/-- Where the links agree, the children found for a widget are those it lists, in order: each
listed one names it, and every other that names it is listed. -/
theorem Agree.map_id_childrenOf (h : t.Agree) (hs : t.Sorted) (q : String) :
    (t.childrenOf q).map (·.id) = t.kidsOf q := by
  unfold childrenOf
  cases hq : t.get? q with
  | none => simp [kidsOf, hq]
  | some parent =>
    have hkids : t.kidsOf q = parent.childIds := by simp [kidsOf, hq]
    -- every listed child is there and names the widget as parent
    have hlisted : ∀ c ∈ parent.childIds, ∃ w, t.get? c = some w ∧ w.parentId = some q := by
      intro c hc
      exact Option.bind_eq_some_iff.1 ((h q c).1 (hkids ▸ hc))
    have hfilter : (parent.childIds.filterMap t.get?).filter (·.parentId == some q) =
        parent.childIds.filterMap t.get? := by
      refine List.filter_eq_self.2 fun w hw => ?_
      obtain ⟨c, hc, hcw⟩ := List.mem_filterMap.1 hw
      obtain ⟨w', hw', hpar⟩ := hlisted c hc
      rw [hw'] at hcw
      cases hcw
      simp [hpar]
    have hids : (parent.childIds.filterMap t.get?).map (·.id) = parent.childIds := by
      rw [List.map_filterMap]
      conv => rhs; rw [← List.filterMap_some (l := parent.childIds)]
      refine List.filterMap_congr fun c hc => ?_
      obtain ⟨w, hw, -⟩ := hlisted c hc
      simp [hw, id_of_get? hw]
    -- no widget that names it is left over
    have hrest : t.widgets.filter (fun w => w.parentId == some q &&
        !(parent.childIds.filterMap t.get?).any (·.id == w.id)) = [] := by
      refine List.filter_eq_nil_iff.2 fun w hw => ?_
      simp only [Bool.and_eq_true, beq_iff_eq, Bool.not_eq_true', not_and, Bool.not_eq_false]
      intro hpar
      have hget := (get?_eq_some_iff hs).2 ⟨hw, rfl⟩
      have hc : w.id ∈ parent.childIds := hkids ▸ (h q w.id).2 (by simp [parentOf, hget, hpar])
      exact List.any_eq_true.2 ⟨w, List.mem_filterMap.2 ⟨w.id, hc, hget⟩, by simp⟩
    simp only [hfilter, hrest, List.append_nil, hids, hkids]

/-! ## Cycles -/

/-- A widget whose climb ends at the top is on no cycle: on a cycle its parent would be too,
and so on up to the top, which has no parent. -/
theorem Rooted.not_cycle {x : String} (h : t.Rooted x) (k : Nat) :
    t.ancestor (k + 1) x ≠ some x := by
  induction h generalizing k with
  | top _ hn => simp [ancestor, hn]
  | @up x p hp _ ih =>
    intro hx
    have h1 : t.ancestor 1 x = some p := by simp [ancestor, hp]
    exact ih k (ancestor_rotate hx h1)

/-- Of two places on a climb that meet the same id, the later is that id's own ancestor. -/
theorem ancestor_cycle_of_eq {x y : String} {i j : Nat} (hij : i < j)
    (hi : t.ancestor i x = some y) (hj : t.ancestor j x = some y) :
    t.ancestor (j - i - 1 + 1) y = some y := by
  rw [show j = i + (j - i - 1 + 1) by omega, ancestor_add, hi, Option.bind_some] at hj
  exact hj

/-- Without cycles, and with every parent there, every climb ends within as many steps as there
are widgets: the shortest climb to where a longer one stands is shorter, so the two close a
cycle. -/
theorem ancestor_eq_none (hpar : ∀ c p, t.parentOf c = some p → (t.get? p).isSome)
    (hacyc : t.Acyclic) (x : String) : t.ancestor (t.widgets.length + 1) x = none := by
  cases hend : t.ancestor (t.widgets.length + 1) x with
  | none => rfl
  | some a =>
    obtain ⟨j, hj, hja⟩ := exists_ancestor_lt hpar hend
    exact absurd (ancestor_cycle_of_eq (Nat.succ_lt_succ hj) hja hend) (hacyc a _)

/-- A widget whose climb ends, with every parent there, is rooted. -/
theorem rooted_of_ancestor_eq_none (hpar : ∀ c p, t.parentOf c = some p → (t.get? p).isSome)
    (n : Nat) {x : String} (hx : (t.get? x).isSome) (hn : t.ancestor n x = none) : t.Rooted x := by
  induction n generalizing x with
  | zero => cases hn
  | succ n ih =>
    cases hp : t.parentOf x with
    | none => exact .top hx hp
    | some p =>
      rw [ancestor, hp, Option.bind_some] at hn
      exact .up hp (ih (hpar x p hp) hn)

/-- With every parent there, the widgets are all rooted exactly when no widget is its own
ancestor. -/
theorem rooted_iff_acyclic (hpar : ∀ c p, t.parentOf c = some p → (t.get? p).isSome) :
    (∀ x, (t.get? x).isSome → t.Rooted x) ↔ t.Acyclic := by
  constructor
  · intro hr x k hx
    exact (hr x (isSome_of_ancestor_succ hx)).not_cycle k hx
  · intro hacyc x hx
    exact rooted_of_ancestor_eq_none hpar _ hx (ancestor_eq_none hpar hacyc x)

/-- Where the links agree, they are a tree's links exactly when no widget lists a child twice
and no widget is its own ancestor. -/
theorem Agree.links_iff (h : t.Agree) : t.Links ↔ (∀ q, (t.kidsOf q).Nodup) ∧ t.Acyclic := by
  rw [← rooted_iff_acyclic fun _ _ => h.isSome_parent]
  constructor
  · intro hl
    exact ⟨fun q => (hl.kids q).nodup, hl.rooted⟩
  · rintro ⟨hnd, hr⟩
    exact ⟨fun q => ⟨hnd q, fun c => h q c⟩, hr⟩

/-! ## The walk of re-placing every container -/

/-- The walk of `relayoutEach` re-places, in turn, the ids of an order it builds: ids of `ids`,
none seen before, each once. It takes every id of its queue and everything below one it takes:
the children found for an id taken or seen are taken or seen, provided that already holds of
the ids seen. The children found stay the same all along, since re-placing only moves and
resizes. -/
theorem relayoutEach_walk (ids : List String) (t : Tree) (queue seen changed : List String)
    (hs : t.Sorted)
    (hclosed : ∀ y ∈ seen, ∀ c ∈ (t.childrenOf y).map (·.id), c ∈ ids → c ∈ seen ∨ c ∈ queue) :
    ∃ order : List String,
      (t.relayoutEach ids queue seen changed).2 = order.foldl (fun t id => (t.relayout id).2) t ∧
      order.Nodup ∧ (∀ x ∈ order, x ∈ ids ∧ x ∉ seen) ∧
      (∀ x ∈ queue, x ∈ ids → x ∈ order ∨ x ∈ seen) ∧
      ∀ y, y ∈ order ∨ y ∈ seen →
        ∀ c ∈ (t.childrenOf y).map (·.id), c ∈ ids → c ∈ order ∨ c ∈ seen := by
  fun_induction t.relayoutEach ids queue seen changed with
  | case1 t seen changed =>
    refine ⟨[], rfl, List.nodup_nil, by simp, by simp, ?_⟩
    rintro y (hy | hy) c hc hcid
    · cases hy
    · simpa using hclosed y hy c hc hcid
  | case2 t seen changed cur rest hskip ih =>
    -- a skipped id was seen already, or is not one to take
    have hcur : cur ∈ ids → cur ∈ seen := fun h => hskip.resolve_right (not_not.2 h)
    obtain ⟨order, hrun, hnd, hnew, hqueue, hcl⟩ := ih hs fun y hy c hc hcid => by
      rcases hclosed y hy c hc hcid with hc | hc
      · exact Or.inl hc
      · rcases List.mem_cons.1 hc with rfl | hc
        · exact Or.inl (hcur hcid)
        · exact Or.inr hc
    refine ⟨order, hrun, hnd, hnew, fun x hx hxid => ?_, hcl⟩
    rcases List.mem_cons.1 hx with rfl | hx
    · exact Or.inr (hcur hxid)
    · exact hqueue x hx hxid
  | case3 t seen changed cur rest hskip ch t' hre ih =>
    have hu := unplaced_of_relayout_eq hs hre
    have hkids := map_id_childrenOf_of_unplaced_eq hu
    obtain ⟨hcur, hnotseen⟩ : cur ∈ ids ∧ cur ∉ seen := by
      push Not at hskip
      exact ⟨hskip.2, hskip.1⟩
    -- the ids seen from now on include `cur`, whose children join the queue
    obtain ⟨order, hrun, hnd, hnew, hqueue, hcl⟩ := ih (sorted_of_unplaced_eq hu hs)
      fun y hy c hc hcid => by
        rw [hkids] at hc ⊢
        rcases List.mem_cons.1 hy with rfl | hy
        · exact Or.inr (List.mem_append_right _ hc)
        · rcases hclosed y hy c hc hcid with hc | hc
          · exact Or.inl (List.mem_cons_of_mem _ hc)
          · rcases List.mem_cons.1 hc with rfl | hc
            · exact Or.inl List.mem_cons_self
            · exact Or.inr (List.mem_append_left _ hc)
    refine ⟨cur :: order, ?_, ?_, ?_, ?_, ?_⟩
    · rw [hrun, List.foldl_cons, hre]
    · exact List.nodup_cons.2 ⟨fun h => (hnew cur h).2 List.mem_cons_self, hnd⟩
    · intro x hx
      rcases List.mem_cons.1 hx with rfl | hx
      · exact ⟨hcur, hnotseen⟩
      · exact ⟨(hnew x hx).1, fun h => (hnew x hx).2 (List.mem_cons_of_mem _ h)⟩
    · intro x hx hxid
      rcases List.mem_cons.1 hx with rfl | hx
      · exact Or.inl List.mem_cons_self
      · simpa [or_comm, or_left_comm, or_assoc] using hqueue x (List.mem_append_left _ hx) hxid
    · intro y hy c hc hcid
      rw [← hkids] at hc
      have hy' : y ∈ order ∨ y ∈ cur :: seen := by
        rcases hy with hy | hy
        · rcases List.mem_cons.1 hy with rfl | hy
          · exact Or.inr List.mem_cons_self
          · exact Or.inl hy
        · exact Or.inr (List.mem_cons_of_mem _ hy)
      simpa [or_comm, or_left_comm, or_assoc] using hcl y hy' c hc hcid

/-- The ids of a sorted tree's widgets are the ids that have a widget. -/
theorem mem_ids_iff (hs : t.Sorted) (x : String) :
    x ∈ t.widgets.map (·.id) ↔ (t.get? x).isSome := by
  rw [Option.isSome_iff_exists, List.mem_map]
  exact exists_congr fun w => by rw [get?_eq_some_iff hs]

/-- On a linked tree, re-placing every container reaches every widget, each once, from the top
down: it is `relayout` applied to each widget in turn. -/
theorem Linked.relayoutAll_walk (hl : t.Linked) :
    ∃ order : List String, order.Perm (t.widgets.map (·.id)) ∧
      t.relayoutAll.2 = order.foldl (fun t id => (t.relayout id).2) t := by
  obtain ⟨order, hrun, hnd, hnew, hqueue, hcl⟩ :=
    relayoutEach_walk (t.widgets.map (·.id)) t t.roots [] [] hl.sorted (by simp)
  simp only [List.not_mem_nil, or_false, not_false_eq_true, and_true] at hnew hqueue hcl
  -- the climb from a widget to the top, read downwards, is a path of the walk
  have hreach : ∀ x, t.Rooted x → x ∈ order := by
    intro x hx
    induction hx with
    | top hsome hnone =>
      exact hqueue _ ((hl.roots.mem_iff _).2 ⟨hsome, hnone⟩) ((mem_ids_iff hl.sorted _).2 hsome)
    | up hp _ ih =>
      exact hcl _ ih _ (mem_childrenOf_of_parentOf hl.sorted (hl.isSome_parent hp) hp)
        ((mem_ids_iff hl.sorted _).2 (isSome_of_parentOf hp))
  refine ⟨order, (List.perm_ext_iff_of_nodup hnd hl.sorted.nodup_ids).2 fun x => ⟨hnew x, fun hx => ?_⟩, hrun⟩
  exact hreach x (hl.rooted x ((mem_ids_iff hl.sorted x).1 hx))

/-- Re-placing every container of a tree with nothing at the top re-places nothing. -/
theorem relayoutAll_of_roots_eq_nil (h : t.roots = []) : t.relayoutAll = ([], t) := by
  rw [relayoutAll, h, relayoutEach]
  rfl

/-- With one widget per id, the tree built from a list has the list's ids. -/
theorem perm_ids_ofWidgets {ws : List Widget} (h : (ws.map (·.id)).Nodup) :
    ((ofWidgets ws).widgets.map (·.id)).Perm (ws.map (·.id)) := by
  obtain ⟨hs, hget, -⟩ := ofWidgets_spec h
  refine (List.perm_ext_iff_of_nodup hs.nodup_ids h).2 fun x => ?_
  rw [mem_ids_iff hs, hget, Option.isSome_iff_exists, List.mem_map]
  exact exists_congr fun w => get?_eq_some_of_nodup h

end Tree

/-! ## The review of nesting -/

namespace Review

/-- What the review asks of the links of one widget: each child it lists is there and names it
as parent, and the parent it names, if any, is there and lists it. -/
def LinksChecked (p : Project) (w : Widget) : Prop :=
  (∀ c ∈ w.childIds, ∃ child, widgetById p c = some child ∧ child.parentId = some w.id) ∧
    ∀ pid, w.parentId = some pid → ∃ parent, widgetById p pid = some parent ∧ w.id ∈ parent.childIds

/-- The review finds nothing wrong with how the widgets nest exactly when every widget's links
pass its checks. -/
theorem nesting_eq_nil_iff (p : Project) :
    nesting p = [] ↔ ∀ w ∈ p.widgets, LinksChecked p w := by
  unfold nesting LinksChecked
  simp only [List.flatMap_eq_nil_iff, List.append_eq_nil_iff, List.filterMap_eq_nil_iff]
  refine forall₂_congr fun w _ => and_congr (forall₂_congr fun c _ => ?_) ?_
  · cases widgetById p c with
    | none => simp
    | some child => by_cases hc : child.parentId = some w.id <;> simp [hc]
  · cases w.parentId with
    | none => simp
    | some pid =>
      cases hp : widgetById p pid with
      | none => simp [hp]
      | some parent => by_cases hc : w.id ∈ parent.childIds <;> simp [hp, hc]

/-- With one widget per id, the widget the review finds for an id is the tree's. -/
theorem widgetById_eq_get? {p : Project} (h : (p.widgets.map (·.id)).Nodup) (id : String) :
    widgetById p id = ({ widgets := p.widgets } : Tree).get? id := by
  unfold widgetById Tree.get?
  -- at most one widget has the id, and the last of at most one is the first
  have hlen : (p.widgets.filter (·.id == id)).length ≤ 1 := by
    have hnd : ((p.widgets.filter (·.id == id)).map (·.id)).Nodup :=
      h.sublist (List.filter_sublist.map _)
    have hrep : (p.widgets.filter (·.id == id)).map (·.id) =
        List.replicate (p.widgets.filter (·.id == id)).length id := by
      refine List.eq_replicate_iff.2 ⟨by simp, fun b hb => ?_⟩
      obtain ⟨w, hw, rfl⟩ := List.mem_map.1 hb
      simpa using (List.mem_filter.1 hw).2
    rw [hrep, List.nodup_replicate] at hnd
    exact hnd
  rw [← List.head?_filter]
  generalize p.widgets.filter (·.id == id) = l at hlen
  rcases l with _ | ⟨w, _ | ⟨v, l⟩⟩
  · rfl
  · rfl
  · simp at hlen

/-- A project with one widget per id whose nesting the review finds nothing wrong with builds a
tree whose links agree both ways. -/
theorem agree_of_nesting_eq_nil {p : Project} (hids : (p.widgets.map (·.id)).Nodup)
    (hnest : nesting p = []) : (Tree.ofWidgets p.widgets).Agree := by
  have hlinks := (nesting_eq_nil_iff p).1 hnest
  have hget : ∀ x, (Tree.ofWidgets p.widgets).get? x = widgetById p x := fun x => by
    rw [(Tree.ofWidgets_spec hids).2.1, widgetById_eq_get? hids]
  have hmem : ∀ {x w}, widgetById p x = some w → w ∈ p.widgets ∧ w.id = x := fun hw => by
    rw [widgetById_eq_get? hids] at hw
    exact (Tree.get?_eq_some_of_nodup hids).1 hw
  intro q c
  simp only [Tree.kidsOf, Tree.parentOf, hget]
  constructor
  · -- a listed child names the widget that lists it
    intro hc
    cases hq : widgetById p q with
    | none => simp [hq] at hc
    | some wq =>
      obtain ⟨hw, rfl⟩ := hmem hq
      obtain ⟨child, hchild, hpar⟩ := (hlinks wq hw).1 c (by simpa [hq] using hc)
      simp [hchild, hpar]
  · -- a named parent lists the widget that names it
    intro hc
    obtain ⟨wc, hwc, hpar⟩ := Option.bind_eq_some_iff.1 hc
    obtain ⟨hw, rfl⟩ := hmem hwc
    obtain ⟨parent, hparent, hin⟩ := (hlinks wc hw).2 q hpar
    simp [hparent, hin]

end Review

/-- For every project whose widgets have distinct ids and whose review finds nothing wrong with
how they nest, the tree built from its widgets has links that agree both ways, every parent a
container, the widgets without a parent as its top level, each once, and for every widget the
children it lists, in that order, as the children found. That tree is linked exactly when
moreover no widget lists a child twice and none is its own ancestor, which the review does not
check; and then re-placing every container reaches every widget once. -/
theorem reviewed_nesting_builds_agreeing_links (p : Project) (hids : (p.widgets.map (·.id)).Nodup)
    (hnest : Review.nesting p = []) :
    let t := Tree.ofWidgets p.widgets
    (∀ q c, c ∈ t.kidsOf q ↔ t.parentOf c = some q) ∧
    (∀ q c, t.parentOf c = some q → t.containerAt q = true) ∧
    Lists t.roots (fun x => (t.get? x).isSome ∧ t.parentOf x = none) ∧
    (∀ q, (t.childrenOf q).map (·.id) = t.kidsOf q) ∧
    (t.Linked ↔ (∀ q, (t.kidsOf q).Nodup) ∧ t.Acyclic) ∧
    (t.Linked → ∃ order : List String, order.Perm (p.widgets.map (·.id)) ∧
      t.relayoutAll.2 = order.foldl (fun t id => (t.relayout id).2) t) := by
  intro t
  have hagree := Review.agree_of_nesting_eq_nil hids hnest
  obtain ⟨hs, -, -⟩ := Tree.ofWidgets_spec hids
  refine ⟨hagree, fun q c => hagree.containerAt_parent, Tree.ofWidgets_roots hids,
    hagree.map_id_childrenOf hs, ?_, fun hl => ?_⟩
  · rw [← hagree.links_iff]
    exact ⟨fun hl => hl.toLinks, fun hl => ⟨hl, hs, Tree.ofWidgets_roots hids⟩⟩
  · obtain ⟨order, hperm, hrun⟩ := hl.relayoutAll_walk
    exact ⟨order, hperm.trans (Tree.perm_ids_ofWidgets hids), hrun⟩

/-- A row listing two texts that name it passes the review of nesting, so all of the above holds
of the tree it builds. -/
theorem reviewed_row_of_two_texts :
    let p : Project := { widgets := [
      { id := "row", widgetType := "container", props := [("children", .arr [.str "a", .str "b"])] },
      { id := "a", widgetType := "text", parentId := some "row" },
      { id := "b", widgetType := "text", parentId := some "row" }] }
    (p.widgets.map (·.id)).Nodup ∧ Review.nesting p = [] ∧
    let t := Tree.ofWidgets p.widgets
    (∀ q c, c ∈ t.kidsOf q ↔ t.parentOf c = some q) ∧
    (∀ q c, t.parentOf c = some q → t.containerAt q = true) ∧
    Lists t.roots (fun x => (t.get? x).isSome ∧ t.parentOf x = none) ∧
    (∀ q, (t.childrenOf q).map (·.id) = t.kidsOf q) ∧
    (t.Linked ↔ (∀ q, (t.kidsOf q).Nodup) ∧ t.Acyclic) ∧
    (t.Linked → ∃ order : List String, order.Perm (p.widgets.map (·.id)) ∧
      t.relayoutAll.2 = order.foldl (fun t id => (t.relayout id).2) t) := by
  intro p
  have hids : (p.widgets.map (·.id)).Nodup := by decide
  have hnest : Review.nesting p = [] := rfl
  exact ⟨hids, hnest, reviewed_nesting_builds_agreeing_links p hids hnest⟩

/-- Two containers that list and name each other pass the review: their ids are distinct and
no nesting finding comes up, yet each is the other's parent, nothing is at the top, and
re-placing every container re-places none. -/
theorem containers_nesting_in_each_other_pass_review :
    let p : Project := { widgets := [
      { id := "a", widgetType := "container", parentId := some "b", size := ⟨300, 100⟩,
        props := [("children", .arr [.str "b"])] },
      { id := "b", widgetType := "container", parentId := some "a", position := ⟨50, 0⟩,
        size := ⟨300, 100⟩, props := [("children", .arr [.str "a"])] }] }
    (p.widgets.map (·.id)).Nodup ∧ Review.nesting p = [] ∧
      ¬ (Tree.ofWidgets p.widgets).Acyclic ∧ (Tree.ofWidgets p.widgets).roots = [] ∧
      (Tree.ofWidgets p.widgets).relayoutAll = ([], Tree.ofWidgets p.widgets) := by
  intro p
  have hroots : (Tree.ofWidgets p.widgets).roots = [] := rfl
  exact ⟨by decide, rfl, by decide, hroots, Tree.relayoutAll_of_roots_eq_nil hroots⟩

end Storyboard
