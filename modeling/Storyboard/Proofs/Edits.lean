import Mathlib.Data.List.Induction
import Storyboard.Proofs.Links

/-!
# Which edits keep a tree linked

Removing a widget, moving one, resizing one and re-placing the containers keep a linked tree
linked, whatever they answer. Adding a widget keeps it linked exactly when the widget lists
no children of its own, and merging props into a widget exactly when its merged children
are its old ones reordered: both store the `children` they are given as they are.

* `Unlisted`: what unlisting a widget from its parent (`detach`) leaves, shared by removing
  and moving.
* `Removal`: what the breadth-first walk of `removeFrom` takes out, proved by induction on
  the walk.
* `Relinked`: a widget given a parent and listed there, shared by moving and adding;
  `Linked.relinked` keeps the links when the chain of parents above the new parent does not
  pass the widget, which is what the cycle check of a move ensures.
* `linked_through_edits`: the whole statement, for one call and for a sequence of calls.
-/

namespace Storyboard

namespace Tree

variable {t : Tree}

/-! ## Relisting the children of a widget -/

section Relist

variable (hs : t.Sorted) {p : String} {parent : Widget} (hp : t.get? p = some parent)
include hs hp

theorem isSome_relist (ids : List String) (x : String) :
    ((t.put (parent.setChildIds ids)).get? x).isSome = (t.get? x).isSome :=
  isSome_put_of_get? hs hp (Widget.setChildIds_id parent ids) x

theorem parentOf_relist (ids : List String) (x : String) :
    (t.put (parent.setChildIds ids)).parentOf x = t.parentOf x :=
  parentOf_put_of_get? hs hp (Widget.setChildIds_id parent ids) rfl x

theorem kidsOf_relist (ids : List String) (x : String) :
    (t.put (parent.setChildIds ids)).kidsOf x = if p = x then ids else t.kidsOf x := by
  rw [kidsOf_put hs, Widget.setChildIds_id, id_of_get? hp, Widget.childIds_setChildIds]

end Relist

theorem kidsOf_of_get? {p : String} {w : Widget} (hp : t.get? p = some w) :
    t.kidsOf p = w.childIds := by
  simp [kidsOf, hp]

/-! ## Unlisting a widget from its parent -/

/-- What unlisting `id` from its parent leaves of a linked tree `t`: the same widgets and
parents, with `id` listed nowhere. -/
structure Unlisted (t t₁ : Tree) (id : String) : Prop where
  sorted : t₁.Sorted
  isSome : ∀ x, (t₁.get? x).isSome = (t.get? x).isSome
  parentOf : ∀ x, t₁.parentOf x = t.parentOf x
  kids : ∀ q, Lists (t₁.kidsOf q) (fun c => t.parentOf c = some q ∧ c ≠ id)
  roots : Lists t₁.roots (fun x => (t.get? x).isSome ∧ t.parentOf x = none ∧ x ≠ id)

theorem Linked.detach (hl : t.Linked) (id : String) : Unlisted t (t.detach id).2 id := by
  unfold Tree.detach
  split
  · next pid hpid =>
    obtain ⟨parent, hp⟩ := Option.isSome_iff_exists.1 (hl.isSome_parent hpid)
    simp only [hp]
    refine ⟨hl.sorted.put _, isSome_relist hl.sorted hp _, parentOf_relist hl.sorted hp _,
      fun q => ?_, ?_⟩
    · rw [kidsOf_relist hl.sorted hp]
      split
      · next h =>
        subst h
        rw [← kidsOf_of_get? hp]
        exact (hl.kids pid).filter_ne id
      · next h =>
        -- another parent never listed `id`, whose parent is `pid`
        refine (hl.kids q).congr fun c => ⟨fun hc => ⟨hc, ?_⟩, And.left⟩
        rintro rfl
        exact h (Option.some.inj (hpid.symm.trans hc))
    · refine hl.roots.congr fun x =>
        ⟨fun hx => ⟨hx.1, hx.2, ?_⟩, fun hx => ⟨hx.1, hx.2.1⟩⟩
      rintro rfl
      exact absurd (hpid.symm.trans hx.2) (by simp)
  · next hnone =>
    refine ⟨hl.sorted, fun _ => rfl, fun _ => rfl, fun q => ?_, ?_⟩
    · refine (hl.kids q).congr fun c => ⟨fun hc => ⟨hc, ?_⟩, And.left⟩
      rintro rfl
      exact absurd (hnone.symm.trans hc) (by simp)
    · exact (hl.roots.filter_ne id).congr fun x => and_assoc

/-! ## Removing a subtree -/

/-- The children found for a widget are the widgets that name it as parent. -/
theorem parentOf_of_mem_childrenOf (hs : t.Sorted) {p x : String}
    (h : x ∈ (t.childrenOf p).map (·.id)) : t.parentOf x = some p := by
  obtain ⟨w, hw, rfl⟩ := List.mem_map.1 h
  obtain ⟨hmem, hpar⟩ := mem_childrenOf hw
  simp [parentOf, (get?_eq_some_iff hs).2 ⟨hmem, rfl⟩, hpar]

/-- Every widget that names a widget there as parent is among its children found. -/
theorem mem_childrenOf_of_parentOf (hs : t.Sorted) {p c : String} (hp : (t.get? p).isSome)
    (h : t.parentOf c = some p) : c ∈ (t.childrenOf p).map (·.id) := by
  obtain ⟨wc, hwc, hwp⟩ := Option.bind_eq_some_iff.1 h
  obtain ⟨parent, hparent⟩ := Option.isSome_iff_exists.1 hp
  obtain ⟨hmem, rfl⟩ := (get?_eq_some_iff hs).1 hwc
  unfold childrenOf
  rw [hparent]
  simp only [List.map_append, List.mem_append, List.mem_map]
  -- either the parent lists it, or it comes among the others
  by_cases hl : ((parent.childIds.filterMap t.get?).filter (·.parentId == some p)).any
      (·.id == wc.id)
  · obtain ⟨x, hx, hxid⟩ := List.any_eq_true.1 hl
    exact Or.inl ⟨x, hx, by simpa using hxid⟩
  · refine Or.inr ⟨wc, List.mem_filter.2 ⟨hmem, ?_⟩, rfl⟩
    simp only [Bool.and_eq_true, beq_iff_eq, hwp, Bool.not_eq_true', true_and]
    simpa using hl

/-- What the breadth-first walk took out (`gone`), given its queue: only widgets of the
queue or below one it took, every widget of the queue that was there, and every widget below
one it took. -/
structure Removal (t : Tree) (queue gone : List String) : Prop where
  from_queue : ∀ x ∈ gone, x ∈ queue ∨ ∃ y ∈ gone, t.parentOf x = some y
  queue_gone : ∀ x ∈ queue, (t.get? x).isSome → x ∈ gone
  below_gone : ∀ c y, t.parentOf c = some y → y ∈ gone → c ∈ gone

theorem parentOf_erase_of_ne {y x : String} (h : y ≠ x) :
    (t.erase y).parentOf x = t.parentOf x := by
  unfold parentOf
  rw [get?_erase, if_neg h]

theorem Removal.nil : Removal t [] [] :=
  ⟨fun _ h => absurd h List.not_mem_nil, fun _ h => absurd h List.not_mem_nil,
    fun _ _ _ h => absurd h List.not_mem_nil⟩

/-- A step of the walk that takes out the widget at the head of the queue and queues its
children. -/
theorem Removal.take (hs : t.Sorted) {cur : String} {rest gone : List String}
    (hcur : (t.get? cur).isSome)
    (h : Removal (t.erase cur) (rest ++ (t.childrenOf cur).map (·.id)) gone) :
    Removal t (cur :: rest) (cur :: gone) := by
  refine ⟨?_, ?_, ?_⟩
  · intro x hx
    rcases List.mem_cons.1 hx with rfl | hx
    · exact Or.inl List.mem_cons_self
    rcases h.from_queue x hx with hq | ⟨y, hy, hpy⟩
    · rcases List.mem_append.1 hq with hq | hq
      · exact Or.inl (List.mem_cons_of_mem _ hq)
      · exact Or.inr ⟨cur, List.mem_cons_self, parentOf_of_mem_childrenOf hs hq⟩
    · have hxc : cur ≠ x := by
        rintro rfl
        simp [parentOf, get?_erase] at hpy
      exact Or.inr ⟨y, List.mem_cons_of_mem _ hy, (parentOf_erase_of_ne hxc).symm.trans hpy⟩
  · intro x hx hsome
    by_cases hxc : cur = x
    · exact hxc ▸ List.mem_cons_self
    rcases List.mem_cons.1 hx with rfl | hx
    · exact absurd rfl hxc
    have hsome' : ((t.erase cur).get? x).isSome := by rw [isSome_erase, if_neg hxc]; exact hsome
    exact List.mem_cons_of_mem _ (h.queue_gone x (List.mem_append_left _ hx) hsome')
  · intro c y hpc hy
    by_cases hcc : cur = c
    · exact hcc ▸ List.mem_cons_self
    have hpc' : (t.erase cur).parentOf c = some y := (parentOf_erase_of_ne hcc).trans hpc
    rcases List.mem_cons.1 hy with rfl | hy
    · -- a child of the widget taken out was queued behind it
      have hq := mem_childrenOf_of_parentOf hs hcur hpc
      exact List.mem_cons_of_mem _
        (h.queue_gone c (List.mem_append_right _ hq) (isSome_of_parentOf hpc'))
    · exact List.mem_cons_of_mem _ (h.below_gone c y hpc' hy)

/-- A step of the walk that drops from the queue an id no longer there. -/
theorem Removal.skip {cur : String} {rest gone : List String} (hcur : ¬(t.get? cur).isSome)
    (h : Removal t rest gone) : Removal t (cur :: rest) gone := by
  refine ⟨fun x hx => (h.from_queue x hx).imp_left (List.mem_cons_of_mem _), ?_, h.below_gone⟩
  intro x hx hsome
  rcases List.mem_cons.1 hx with rfl | hx
  · exact absurd hsome hcur
  · exact h.queue_gone x hx hsome

/-- The walk takes out its widgets one by one, and what it takes is closed downwards. -/
theorem removeFrom_spec (t : Tree) (queue removed : List String) (hs : t.Sorted) :
    ∃ gone, t.removeFrom queue removed = (removed ++ gone, gone.foldl Tree.erase t) ∧
      Removal t queue gone := by
  fun_induction t.removeFrom queue removed with
  | case1 t removed => exact ⟨[], by simp, Removal.nil⟩
  | case2 t removed cur rest hcur ih =>
    obtain ⟨gone, hrun, hrem⟩ := ih (hs.erase cur)
    exact ⟨cur :: gone, by rw [hrun]; simp, hrem.take hs hcur⟩
  | case3 t removed cur rest hcur ih =>
    obtain ⟨gone, hrun, hrem⟩ := ih hs
    exact ⟨gone, hrun, hrem.skip hcur⟩

section Removal

variable {t₁ : Tree} {id : String} {gone : List String}

/-- Taking out, from a tree where `id` is unlisted, `id` and what lies below it leaves a
linked tree. -/
theorem Linked.of_removal (hl : t.Linked) (hu : Unlisted t t₁ id) (hid : (t.get? id).isSome)
    (hrem : Removal t₁ [id] gone) : (gone.foldl Tree.erase t₁).Linked := by
  -- the walk, read in the tree before unlisting
  have hgone : id ∈ gone :=
    hrem.queue_gone id List.mem_cons_self (by rw [hu.isSome]; exact hid)
  have hfrom : ∀ x ∈ gone, x = id ∨ ∃ y ∈ gone, t.parentOf x = some y := fun x hx =>
    (hrem.from_queue x hx).imp List.mem_singleton.1
      fun ⟨y, hy, h⟩ => ⟨y, hy, (hu.parentOf x).symm.trans h⟩
  have hbelow : ∀ c y, t.parentOf c = some y → y ∈ gone → c ∈ gone := fun c y h =>
    hrem.below_gone c y ((hu.parentOf c).trans h)
  refine ⟨⟨fun q => ?_, fun x hx => ?_⟩, hu.sorted.foldl_erase gone, ?_⟩
  · rw [kidsOf_foldl_erase]
    split
    · next hq =>
      -- nothing is left below a widget taken out
      refine Lists.nil fun c hc => ?_
      rw [parentOf_foldl_erase, hu.parentOf] at hc
      split at hc
      · cases hc
      · next hc' => exact hc' (hbelow c q hc hq)
    · next hq =>
      refine (hu.kids q).congr fun c => ?_
      rw [parentOf_foldl_erase, hu.parentOf]
      split
      · next hc =>
        refine iff_of_false (fun ⟨hpc, hne⟩ => ?_) (by simp)
        rcases hfrom c hc with rfl | ⟨y, hy, hpy⟩
        · exact hne rfl
        · exact hq (Option.some.inj (hpy.symm.trans hpc) ▸ hy)
      · next hc => exact ⟨And.left, fun h => ⟨h, fun hci => hc (hci ▸ hgone)⟩⟩
  · -- a widget left was there before, and every widget on its way up was left too
    rw [isSome_foldl_erase, hu.isSome, Bool.and_eq_true, decide_eq_true_eq] at hx
    refine (hl.rooted x hx.2).transfer (K := fun y => y ∉ gone) ?_ ?_ ?_ hx.1
    · intro y hy
      rw [parentOf_foldl_erase, if_neg hy, hu.parentOf]
    · intro y hy hsome
      rw [isSome_foldl_erase, hu.isSome, hsome]
      simp [hy]
    · exact fun y p hy hp hpg => hy (hbelow y p hp hpg)
  · rw [roots_foldl_erase]
    refine hu.roots.congr fun x => ?_
    rw [isSome_foldl_erase, hu.isSome, parentOf_foldl_erase, hu.parentOf, Bool.and_eq_true,
      decide_eq_true_eq]
    constructor
    · rintro ⟨hsome, hnone, hne⟩
      -- a widget without a parent is taken out only as `id` itself
      have hx : x ∉ gone := fun hx => by
        rcases hfrom x hx with rfl | ⟨y, -, hpy⟩
        · exact hne rfl
        · exact absurd (hnone.symm.trans hpy) (by simp)
      exact ⟨⟨hx, hsome⟩, by rw [if_neg hx, hnone]⟩
    · rintro ⟨⟨hx, hsome⟩, hnone⟩
      rw [if_neg hx] at hnone
      exact ⟨hsome, hnone, fun h => hx (h ▸ hgone)⟩

end Removal

/-- Removing a widget and what lies below it keeps a tree linked. -/
theorem Linked.remove (hl : t.Linked) {id : String} {r : List String × Tree}
    (h : t.remove id = .ok r) : r.2.Linked := by
  unfold Tree.remove at h
  split at h
  · cases h
  · next hid =>
    have hid' : (t.get? id).isSome := by simpa [Option.ne_none_iff_isSome] using hid
    have hu := hl.detach id
    obtain ⟨gone, hrun, hrem⟩ := removeFrom_spec (t.detach id).2 [id] [] hu.sorted
    have hgone := hl.of_removal hu hid' hrem
    rcases hd : t.detach id with ⟨parent, t₁⟩
    rw [hd] at h hrun hgone
    simp only [hrun, List.nil_append] at h
    cases parent with
    | none => cases h; exact hgone
    | some p => cases h; exact hgone.relayout p

/-! ## Moving a widget -/

theorem setParent_eq {id : String} {w : Widget} (hget : t.get? id = some w)
    (parent : Option String) : t.setParent id parent = t.put { w with parentId := parent } := by
  simp [setParent, hget]

section Reparent

variable (hs : t.Sorted) {id : String} {w : Widget} (hget : t.get? id = some w)
include hs hget

theorem parentOf_setParent (parent : Option String) (x : String) :
    (t.setParent id parent).parentOf x = if id = x then parent else t.parentOf x := by
  rw [setParent_eq hget, parentOf_put hs, show ({ w with parentId := parent } : Widget).id = id
    from (id_of_get? hget : w.id = id)]

theorem isSome_setParent (parent : Option String) (x : String) :
    ((t.setParent id parent).get? x).isSome = (t.get? x).isSome := by
  rw [setParent_eq hget]
  exact isSome_put_of_get? hs hget (rfl : ({ w with parentId := parent } : Widget).id = w.id) x

theorem kidsOf_setParent (parent : Option String) (x : String) :
    (t.setParent id parent).kidsOf x = t.kidsOf x := by
  rw [setParent_eq hget]
  exact kidsOf_put_of_get? hs hget (rfl : ({ w with parentId := parent } : Widget).id = w.id) rfl x

end Reparent

theorem attach_eq {p : String} {parent : Widget} (hp : t.get? p = some parent) (id : String)
    (index : Option Nat) :
    t.attach id p index = t.put (parent.setChildIds
      ((parent.childIds.filter (· != id)).insertIdx
        (min (index.getD (parent.childIds.filter (· != id)).length)
          (parent.childIds.filter (· != id)).length) id)) := by
  simp [attach, hp]

@[simp] theorem roots_setParent (t : Tree) (id : String) (parent : Option String) :
    (t.setParent id parent).roots = t.roots := by
  unfold setParent
  split <;> rfl

theorem Sorted.setParent (hs : t.Sorted) (id : String) (parent : Option String) :
    (t.setParent id parent).Sorted := by
  unfold Tree.setParent
  split
  · exact hs.put _
  · exact hs

@[simp] theorem roots_attach (t : Tree) (id p : String) (index : Option Nat) :
    (t.attach id p index).roots = t.roots := by
  unfold attach
  split <;> rfl

theorem Sorted.attach (hs : t.Sorted) (id p : String) (index : Option Nat) :
    (t.attach id p index).Sorted := by
  unfold Tree.attach
  split
  · exact hs.put _
  · exact hs

section Attach

variable (hs : t.Sorted) {p : String} {parent : Widget} (hp : t.get? p = some parent)
  (id : String) (index : Option Nat)
include hs hp

theorem isSome_attach (x : String) :
    ((t.attach id p index).get? x).isSome = (t.get? x).isSome := by
  rw [attach_eq hp]
  exact isSome_relist hs hp _ x

theorem parentOf_attach (x : String) : (t.attach id p index).parentOf x = t.parentOf x := by
  rw [attach_eq hp]
  exact parentOf_relist hs hp _ x

theorem kidsOf_attach (x : String) :
    (t.attach id p index).kidsOf x = if p = x then
      ((t.kidsOf p).filter (· != id)).insertIdx
        (min (index.getD ((t.kidsOf p).filter (· != id)).length)
          ((t.kidsOf p).filter (· != id)).length) id
    else t.kidsOf x := by
  rw [attach_eq hp, kidsOf_relist hs hp, kidsOf_of_get? hp]

end Attach

/-- Giving one widget another parent: if the chain of parents from that widget is rooted in
the new tree, so is every chain that was rooted in the old one. -/
theorem Rooted.reparent {t' : Tree} {id x : String} (h : t.Rooted x)
    (hpar : ∀ x, x ≠ id → t'.parentOf x = t.parentOf x)
    (hsome : ∀ x, (t.get? x).isSome → (t'.get? x).isSome) (hid : t'.Rooted id) :
    t'.Rooted x := by
  induction h with
  | @top y hy hn =>
    by_cases hyid : y = id
    · exact hyid ▸ hid
    · exact .top (hsome y hy) ((hpar y hyid).trans hn)
  | @up y q hq _ ih =>
    by_cases hyid : y = id
    · exact hyid ▸ hid
    · exact .up ((hpar y hyid).trans hq) ih

/-- The walk of the cycle check finding nothing: the new parent has no ancestor `id`, itself
included. -/
theorem ancestor_ne_of_hasAncestor (hl : t.Links) {id p : String}
    (h : (p == id || t.hasAncestor id (t.widgets.length + 1) ((t.get? p).bind (·.parentId)))
      = false) (k : Nat) : t.ancestor k p ≠ some id := by
  rw [Bool.or_eq_false_iff, beq_eq_false_iff_ne] at h
  intro hk
  cases k with
  | zero => exact h.1 (Option.some.inj hk)
  | succ k =>
    obtain ⟨j, hj, hj'⟩ := exists_ancestor_lt (fun _ _ => hl.isSome_parent) hk
    have hwalk := (hasAncestor_iff t id (t.widgets.length + 1) ((t.get? p).bind (·.parentId))).2
      ⟨j, by omega, hj'⟩
    rw [h.2] at hwalk
    cases hwalk

/-! ## Giving a widget a parent -/

/-- `t'` is `t` with the widget `id`, there before or new, given the parent `parent` and
listed there, and nothing else changed. -/
structure Relinked (t t' : Tree) (id : String) (parent : Option String) : Prop where
  sorted : t'.Sorted
  isSome : ∀ x, (t'.get? x).isSome ↔ id = x ∨ (t.get? x).isSome
  parentOf : ∀ x, t'.parentOf x = if id = x then parent else t.parentOf x
  kids : ∀ q, Lists (t'.kidsOf q)
    fun c => (t.parentOf c = some q ∧ c ≠ id) ∨ (parent = some q ∧ c = id)
  roots : Lists t'.roots
    fun x => ((t.get? x).isSome ∧ t.parentOf x = none ∧ x ≠ id) ∨ (parent = none ∧ x = id)

/-- Relinking a widget keeps a tree linked when its new parent is there and has no ancestor
`id`, itself included: the chain of parents from `id` then goes on up the new parent's chain,
which never comes back to `id`. -/
theorem Linked.relinked (hl : t.Linked) {t' : Tree} {id : String} {parent : Option String}
    (hr : Relinked t t' id parent)
    (hp : ∀ p, parent = some p → (t.get? p).isSome ∧ ∀ k, t.ancestor k p ≠ some id) :
    t'.Linked := by
  have hsome : ∀ y, (t.get? y).isSome → (t'.get? y).isSome := fun y hy =>
    (hr.isSome y).2 (Or.inr hy)
  have hkeep : ∀ y, y ≠ id → t'.parentOf y = t.parentOf y := fun y hy => by
    rw [hr.parentOf, if_neg (Ne.symm hy)]
  have hid : t'.Rooted id := by
    cases hpar : parent with
    | none => exact .top ((hr.isSome id).2 (Or.inl rfl)) (by rw [hr.parentOf, if_pos rfl, hpar])
    | some p =>
      obtain ⟨hps, hcyc⟩ := hp p hpar
      refine .up (by rw [hr.parentOf, if_pos rfl, hpar]) ?_
      refine (hl.rooted p hps).transfer (K := fun y => ∀ k, t.ancestor k y ≠ some id)
        (fun y hy => hkeep y fun h => hy 0 (by rw [h]; rfl)) (fun y _ => hsome y) ?_ hcyc
      intro y q hy hq k
      have hk := hy (k + 1)
      rwa [ancestor, hq] at hk
  refine ⟨⟨fun q => (hr.kids q).congr fun c => ?_, fun x hx => ?_⟩, hr.sorted,
    hr.roots.congr fun x => ?_⟩
  · rw [hr.parentOf]
    by_cases hc : id = c
    · simp [hc]
    · simp [hc, Ne.symm hc]
  · rcases (hr.isSome x).1 hx with rfl | hx
    · exact hid
    · exact (hl.rooted x hx).reparent hkeep hsome hid
  · rw [hr.isSome, hr.parentOf]
    by_cases hx : id = x
    · simp [hx]
    · simp [hx, Ne.symm hx]

section Move

variable {id : String}

/-- A move under the container `p` before re-placing: `id` unlisted from its old parent,
given the parent `p` and listed there at the place asked for. -/
theorem relinked_moveUnder (hl : t.Linked) {p : String} (hid : (t.get? id).isSome)
    (hp : (t.get? p).isSome) (index : Option Nat) :
    Relinked t (((t.detach id).2.setParent id (some p)).attach id p index) id (some p) := by
  have hu := hl.detach id
  generalize (t.detach id).2 = t₁ at hu
  obtain ⟨w, hw⟩ := Option.isSome_iff_exists.1 ((hu.isSome id).trans hid)
  have hs₂ := hu.sorted.setParent id (some p)
  obtain ⟨pw, hpw⟩ := Option.isSome_iff_exists.1
    (((isSome_setParent hu.sorted hw _ p).trans (hu.isSome p)).trans hp)
  refine ⟨hs₂.attach id p index, fun x => ?_, fun x => ?_, fun q => ?_, ?_⟩
  · rw [isSome_attach hs₂ hpw, isSome_setParent hu.sorted hw, hu.isSome]
    exact ⟨Or.inr, fun h => h.elim (fun h => h ▸ hid) fun h => h⟩
  · rw [parentOf_attach hs₂ hpw, parentOf_setParent hu.sorted hw, hu.parentOf]
  · simp only [kidsOf_attach hs₂ hpw, kidsOf_setParent hu.sorted hw]
    split
    · next hq =>
      subst hq
      refine ((hu.kids p).attach id index).congr fun c => ?_
      by_cases hc : c = id
      · simp [hc]
      · simp [hc]
    · next hq => exact (hu.kids q).congr fun c => by simp [hq]
  · rw [roots_attach, roots_setParent]
    exact hu.roots.congr fun x => by simp

/-- A move to the top level before re-placing: `id` unlisted from its old parent, without a
parent, and listed at the top level at the place asked for. -/
theorem relinked_moveTop (hl : t.Linked) (hid : (t.get? id).isSome) (index : Option Nat) :
    let t₂ := (t.detach id).2.setParent id none
    let place := min (index.getD t₂.roots.length) t₂.roots.length
    Relinked t { t₂ with roots := t₂.roots.insertIdx place id } id none := by
  have hu := hl.detach id
  generalize (t.detach id).2 = t₁ at hu
  obtain ⟨w, hw⟩ := Option.isSome_iff_exists.1 ((hu.isSome id).trans hid)
  refine ⟨hu.sorted.setParent id none, fun x => ?_, fun x => ?_, fun q => ?_, ?_⟩
  · change ((t₁.setParent id none).get? x).isSome ↔ _
    rw [isSome_setParent hu.sorted hw, hu.isSome]
    exact ⟨Or.inr, fun h => h.elim (fun h => h ▸ hid) fun h => h⟩
  · change (t₁.setParent id none).parentOf x = _
    rw [parentOf_setParent hu.sorted hw, hu.parentOf]
  · change Lists ((t₁.setParent id none).kidsOf q) _
    rw [kidsOf_setParent hu.sorted hw]
    exact (hu.kids q).congr fun c => by simp
  · simp only [roots_setParent]
    refine (hu.roots.insertIdx (by simp) (Nat.min_le_right _ _)).congr fun x => ?_
    simp

/-- The tree a move under the container `p` builds before re-placing is linked when `id` is
no ancestor of `p`, `p` itself included. -/
theorem Linked.moveUnder (hl : t.Linked) {p : String} (hid : (t.get? id).isSome)
    (hp : t.containerAt p = true) (hcyc : ∀ k, t.ancestor k p ≠ some id) (index : Option Nat) :
    (((t.detach id).2.setParent id (some p)).attach id p index).Linked :=
  hl.relinked (relinked_moveUnder hl hid (isSome_of_containerAt hp) index) fun _ h =>
    Option.some.inj h ▸ ⟨isSome_of_containerAt hp, hcyc⟩

/-- The tree a move to the top level builds before re-placing is linked. -/
theorem Linked.moveTop (hl : t.Linked) (hid : (t.get? id).isSome) (index : Option Nat) :
    let t₂ := (t.detach id).2.setParent id none
    let place := min (index.getD t₂.roots.length) t₂.roots.length
    ({ t₂ with roots := t₂.roots.insertIdx place id } : Tree).Linked :=
  hl.relinked (relinked_moveTop hl hid index) fun _ h => by cases h

theorem containerAt_of_container {p : String} {c : Widget} (h : t.container p = .ok c) :
    t.containerAt p = true := by
  unfold container at h
  unfold containerAt
  cases hg : t.get? p with
  | none => rw [hg] at h; cases h
  | some w =>
    rw [hg] at h
    by_cases hw : w.isContainer = true
    · simp [hw]
    · simp [hw] at h

/-- Moving a widget keeps a tree linked. -/
theorem Linked.moveWidget (hl : t.Linked) {parent : Option String} {index : Option Nat}
    {r : List String × Tree} (h : t.moveWidget id parent index = .ok r) : r.2.Linked := by
  unfold Tree.moveWidget at h
  generalize hd : t.detach id = d at h
  obtain ⟨old, t₁⟩ := d
  have ht₁ : (t.detach id).2 = t₁ := by rw [hd]
  by_cases hid : (t.get? id).isNone = true
  · simp only [hid, if_true] at h
    cases h
  have hid' : (t.get? id).isSome := by simpa [Option.ne_none_iff_isSome] using hid
  simp only [hid] at h
  cases parent with
  | none =>
    have hT := hl.moveTop hid' index
    rw [ht₁] at hT
    cases old with
    | none =>
      cases h
      exact hT
    | some o =>
      cases h
      exact hT.relayout o
  | some p =>
    cases hc : t.container p with
    | error e =>
      simp only [hc] at h
      cases h
    | ok c =>
      by_cases hcyc : (p == id || t.hasAncestor id (t.widgets.length + 1)
          ((t.get? p).bind (·.parentId))) = true
      · simp only [hc, hcyc] at h
        cases h
      simp only [hc, hcyc] at h
      have hT := hl.moveUnder hid' (containerAt_of_container hc)
        (ancestor_ne_of_hasAncestor hl.toLinks (by simpa using hcyc)) index
      rw [ht₁] at hT
      cases old with
      | none =>
        cases h
        exact hT.relayout p
      | some o =>
        by_cases ho : o = p
        · simp [ho] at h
          subst h
          exact hT.relayout p
        · simp [ho] at h
          subst h
          exact (hT.relayout p).relayout o

end Move

/-! ## Resizing -/

/-- Resizing a widget keeps a tree linked: only sizes and positions change. -/
theorem Linked.resize (hl : t.Linked) {id : String} {size : Extent} {r : List String × Tree}
    (h : t.resize id size = .ok r) : r.2.Linked := by
  unfold Tree.resize at h
  cases hg : t.get? id with
  | none =>
    rw [hg] at h
    cases h
  | some w =>
    rw [hg] at h
    have hput : (t.put { w with size := size }).Linked :=
      hl.of_unplaced_eq (unplaced_put hl.sorted ⟨w, mem_of_get? hg, rfl⟩)
    cases hp : w.parentId with
    | none =>
      simp only [hp] at h
      rw [hp] at hput
      cases h
      exact hput.relayout id
    | some p =>
      simp only [hp] at h
      rw [hp] at hput
      cases h
      exact (hput.relayout p).relayout id

/-! ## Adding a widget -/

section Fresh

variable (hl : t.Linked) {w : Widget} (hnew : t.get? w.id = none)
include hl hnew

/-- Nothing names an id that is not there as parent. -/
theorem Linked.parentOf_ne_fresh (c : String) : t.parentOf c ≠ some w.id := fun h => by
  have hsome := hl.isSome_parent h
  rw [hnew] at hsome
  cases hsome

/-- An id that is not there is no ancestor of a widget that is. -/
theorem Linked.ancestor_ne_fresh {p : String} (hp : (t.get? p).isSome) (k : Nat) :
    t.ancestor k p ≠ some w.id := by
  intro h
  cases k with
  | zero =>
    rw [show p = w.id from Option.some.inj h, hnew] at hp
    cases hp
  | succ k =>
    have hsome := isSome_of_ancestor (fun _ _ => hl.isSome_parent) h
    rw [hnew] at hsome
    cases hsome

/-- When the new widget lists no children, every widget lists what it did, and none lists
the new one. -/
theorem Linked.kids_put_fresh (hempty : w.childIds = []) (q : String) :
    Lists (if w.id = q then w.childIds else t.kidsOf q)
      fun c => t.parentOf c = some q ∧ c ≠ w.id := by
  split
  · next hq =>
    rw [hempty]
    exact Lists.nil fun c hc => hl.parentOf_ne_fresh hnew c (hq ▸ hc.1)
  · refine (hl.kids q).congr fun c => ⟨fun hc => ⟨hc, ?_⟩, And.left⟩
    rintro rfl
    exact absurd hc (by simp [parentOf, hnew])

/-- A tree where the new widget lists its children and nothing names it as parent is linked
only if it lists none. -/
theorem Linked.childIds_eq_nil {t' : Tree} (hl' : t'.Linked) {parent : Option String}
    (hparent : parent ≠ some w.id)
    (hpar : ∀ x, t'.parentOf x = if w.id = x then parent else t.parentOf x)
    (hown : t'.kidsOf w.id = w.childIds) : w.childIds = [] := by
  rw [← hown]
  refine (hl'.kids w.id).eq_nil fun c hc => ?_
  rw [hpar] at hc
  split at hc
  · exact hparent hc
  · exact hl.parentOf_ne_fresh hnew c hc

/-- A widget put in under the container `p` and listed last there: its parent is `p`, it
lists its own children, and when it lists none the tree is relinked. -/
theorem relinked_insertUnder {p : String} (hp : t.containerAt p = true) :
    let t' := (t.put { w with parentId := some p }).attach w.id p none
    (∀ x, t'.parentOf x = if w.id = x then some p else t.parentOf x) ∧
      t'.kidsOf w.id = w.childIds ∧ (w.childIds = [] → Relinked t t' w.id (some p)) := by
  obtain ⟨pw, hpw⟩ := Option.isSome_iff_exists.1 (isSome_of_containerAt hp)
  have hpw' : p ≠ w.id := fun h => by rw [h, hnew] at hpw; cases hpw
  have hs₁ := hl.sorted.put { w with parentId := some p }
  have hpw₁ : (t.put { w with parentId := some p }).get? p = some pw := by
    rw [get?_put hl.sorted, if_neg (Ne.symm hpw'), hpw]
  have hpar : ∀ x, ((t.put { w with parentId := some p }).attach w.id p none).parentOf x =
      if w.id = x then some p else t.parentOf x := fun x => by
    rw [parentOf_attach hs₁ hpw₁, parentOf_put hl.sorted]
  refine ⟨hpar, ?_, fun hempty => ⟨hs₁.attach _ _ _, fun x => ?_, hpar, fun q => ?_, ?_⟩⟩
  · rw [kidsOf_attach hs₁ hpw₁, if_neg hpw', kidsOf_put hl.sorted, if_pos rfl,
      Widget.childIds_withParent]
  · rw [isSome_attach hs₁ hpw₁, isSome_put hl.sorted]
    by_cases hx : w.id = x
    · simp [hx]
    · simp [hx]
  · simp only [kidsOf_attach hs₁ hpw₁, kidsOf_put hl.sorted, Widget.childIds_withParent]
    split
    · next hq =>
      subst hq
      rw [if_neg (Ne.symm hpw')]
      exact ((hl.kids p).attach w.id none).congr fun c => by simp
    · next hq => exact (hl.kids_put_fresh hnew hempty q).congr fun c => by simp [hq]
  · rw [roots_attach, put_roots]
    refine hl.roots.congr fun x => ?_
    by_cases hx : x = w.id
    · simp [hx, hnew]
    · simp [hx]

/-- A widget put in at the top level and listed last there: it has no parent, it lists its
own children, and when it lists none the tree is relinked. -/
theorem relinked_insertTop :
    let t' : Tree := { t.put { w with parentId := none } with roots := t.roots ++ [w.id] }
    (∀ x, t'.parentOf x = if w.id = x then none else t.parentOf x) ∧
      t'.kidsOf w.id = w.childIds ∧ (w.childIds = [] → Relinked t t' w.id none) := by
  have hpar : ∀ x, (t.put { w with parentId := none }).parentOf x =
      if w.id = x then none else t.parentOf x := fun x => by
    rw [parentOf_put hl.sorted]
  refine ⟨hpar, ?_, fun hempty => ⟨hl.sorted.put _, fun x => ?_, hpar, fun q => ?_, ?_⟩⟩
  · change (t.put _).kidsOf w.id = _
    rw [kidsOf_put hl.sorted, if_pos rfl, Widget.childIds_withParent]
  · change ((t.put _).get? x).isSome ↔ _
    rw [isSome_put hl.sorted]
    by_cases hx : w.id = x
    · simp [hx]
    · simp [hx]
  · change Lists ((t.put _).kidsOf q) _
    simp only [kidsOf_put hl.sorted, Widget.childIds_withParent]
    exact (hl.kids_put_fresh hnew hempty q).congr fun c => by simp
  · change Lists (t.roots ++ [w.id]) _
    rw [← List.insertIdx_length_self]
    refine (hl.roots.insertIdx (by simp [hnew]) (Nat.le_refl _)).congr fun x => ?_
    by_cases hx : x = w.id
    · simp [hx]
    · simp [hx]

/-- A widget put in under the container `p`: the tree is linked exactly when the widget
lists no children of its own. -/
theorem Linked.insertUnder {p : String} (hp : t.containerAt p = true) :
    ((t.put { w with parentId := some p }).attach w.id p none).Linked ↔ w.childIds = [] := by
  obtain ⟨hpar, hown, hrel⟩ := relinked_insertUnder hl hnew hp
  have hps := isSome_of_containerAt hp
  refine ⟨fun hl' => hl.childIds_eq_nil hnew hl' (fun h => ?_) hpar hown, fun hempty => ?_⟩
  · exact hl.ancestor_ne_fresh hnew hps 0 (congrArg some (Option.some.inj h))
  · exact hl.relinked (hrel hempty) fun _ h =>
      Option.some.inj h ▸ ⟨hps, hl.ancestor_ne_fresh hnew hps⟩

/-- A widget put in at the top level: the tree is linked exactly when the widget lists no
children of its own. -/
theorem Linked.insertTop :
    ({ t.put { w with parentId := none } with roots := t.roots ++ [w.id] } : Tree).Linked ↔
      w.childIds = [] := by
  obtain ⟨hpar, hown, hrel⟩ := relinked_insertTop hl hnew
  exact ⟨fun hl' => hl.childIds_eq_nil hnew hl' (by simp) hpar hown,
    fun hempty => hl.relinked (hrel hempty) fun _ h => by cases h⟩

end Fresh

/-- A linked tree stays linked through re-placing, and only then. -/
theorem linked_relayout_iff {t : Tree} (hs : t.Sorted) (p : String) :
    (t.relayout p).2.Linked ↔ t.Linked :=
  ⟨fun h => h.of_unplaced_eq (relayout_unplaced hs p).symm, fun h => h.relayout p⟩

/-- Adding a widget keeps a tree linked exactly when the widget lists no children. -/
theorem Linked.insert (hl : t.Linked) {w : Widget} {parent : Option String}
    {r : List String × Tree} (h : t.insert w parent = .ok r) : r.2.Linked ↔ w.childIds = [] := by
  unfold Tree.insert at h
  split at h
  · cases h
  · next hnew =>
    have hnew' : t.get? w.id = none := by simpa using hnew
    cases parent with
    | none =>
      cases h
      exact hl.insertTop hnew'
    | some p =>
      cases hc : t.container p with
      | error e =>
        simp only [hc] at h
        cases h
      | ok c =>
        simp only [hc] at h
        cases h
        rw [linked_relayout_iff ((hl.sorted.put _).attach _ _ _)]
        exact hl.insertUnder hnew' (containerAt_of_container hc)

/-- Putting back the widget of an id with its parent kept but its children changed: the tree
stays linked exactly when the new children are the old ones reordered. -/
theorem Linked.put_iff (hl : t.Linked) {id : String} {w w' : Widget} (hget : t.get? id = some w)
    (hid : w'.id = w.id) (hpar : w'.parentId = w.parentId) :
    (t.put w').Linked ↔ w'.childIds.Perm (t.kidsOf id) := by
  have hid' : w'.id = id := hid.trans (id_of_get? hget)
  have hkids : ∀ x, (t.put w').kidsOf x = if id = x then w'.childIds else t.kidsOf x :=
    fun x => by
    rw [kidsOf_put hl.sorted, hid']
  have hparent := parentOf_put_of_get? hl.sorted hget hid hpar
  have hsome := isSome_put_of_get? hl.sorted hget hid
  constructor
  · intro hl'
    have hk := hl'.kids id
    rw [hkids, if_pos rfl] at hk
    simp only [hparent] at hk
    exact (hl.kids id).perm_iff.1 hk
  · intro hperm
    refine ⟨⟨fun q => ?_, fun x hx => ?_⟩, hl.sorted.put w', ?_⟩
    · rw [hkids]
      simp only [hparent]
      split
      · next hq => exact hq ▸ (hl.kids id).perm_iff.2 hperm
      · exact hl.kids q
    · rw [hsome] at hx
      exact (hl.rooted x hx).transfer (K := fun _ => True) (fun y _ => hparent y)
        (fun y _ hy => (hsome y).trans hy) (fun _ _ _ _ => trivial) trivial
    · simp only [put_roots, hsome, hparent]
      exact hl.roots

/-- Merging props into a widget keeps a tree linked exactly when its children afterwards are
its children before, reordered. -/
theorem Linked.updateProps (hl : t.Linked) {id : String} {props : List (String × Json)}
    {r : List String × Tree} (h : t.updateProps id props = .ok r) :
    r.2.Linked ↔ (r.2.kidsOf id).Perm (t.kidsOf id) := by
  unfold Tree.updateProps at h
  split at h
  · cases h
  · next w hget =>
    cases h
    rw [linked_relayout_iff (hl.sorted.put _),
      kidsOf_of_unplaced_eq (relayout_unplaced (hl.sorted.put _) id), kidsOf_put hl.sorted,
      if_pos (id_of_get? hget)]
    exact hl.put_iff hget rfl rfl

/-! ## Building a tree from a list -/

theorem ofWidgets_append (ws : List Widget) (w : Widget) :
    ofWidgets (ws ++ [w]) =
      (if w.parentId.isNone && !(ofWidgets ws).roots.contains w.id then
        { ofWidgets ws with roots := (ofWidgets ws).roots ++ [w.id] } else ofWidgets ws).put w := by
  unfold ofWidgets
  rw [List.foldl_append]
  rfl

/-- With one widget per id, the tree built from a list holds the list's widgets, sorted by
id, and lists those without a parent, in the list's order, as its top level. -/
theorem ofWidgets_spec {ws : List Widget} (h : (ws.map (·.id)).Nodup) :
    (ofWidgets ws).Sorted ∧ (∀ x, (ofWidgets ws).get? x = ({ widgets := ws } : Tree).get? x) ∧
      (ofWidgets ws).roots = (ws.filter (·.parentId.isNone)).map (·.id) := by
  induction ws using List.reverseRecOn with
  | nil => exact ⟨List.Pairwise.nil, fun _ => rfl, rfl⟩
  | append_singleton ws w ih =>
    rw [List.map_append, List.nodup_append] at h
    obtain ⟨hs, hget, hroots⟩ := ih h.1
    have hw : ∀ v ∈ ws, v.id ≠ w.id := fun v hv =>
      h.2.2 v.id (List.mem_map_of_mem hv) w.id List.mem_cons_self
    have hnot : w.id ∉ (ofWidgets ws).roots := by
      rw [hroots]
      intro hm
      obtain ⟨v, hv, hvw⟩ := List.mem_map.1 hm
      exact hw v (List.mem_filter.1 hv).1 hvw
    rw [ofWidgets_append]
    -- listing the widget at the top level leaves the widgets alone
    have hsplit : ∀ x, ((if w.parentId.isNone && !(ofWidgets ws).roots.contains w.id then
          { ofWidgets ws with roots := (ofWidgets ws).roots ++ [w.id] }
        else ofWidgets ws).get? x) = (ofWidgets ws).get? x := fun x => by
      split <;> rfl
    have hs' : (if w.parentId.isNone && !(ofWidgets ws).roots.contains w.id then
          { ofWidgets ws with roots := (ofWidgets ws).roots ++ [w.id] }
        else ofWidgets ws).Sorted := by
      split <;> exact hs
    refine ⟨hs'.put w, fun x => ?_, ?_⟩
    · rw [get?_put hs', hsplit, hget]
      simp only [get?, List.find?_append]
      split
      · next hx =>
        subst hx
        rw [List.find?_eq_none.2 fun v hv => by simpa using hw v hv]
        simp
      · next hx => simp [hx]
    · rw [put_roots, List.filter_append, List.map_append, ← hroots]
      cases hp : w.parentId with
      | none => simp [hp, hnot]
      | some p => simp [hp]

theorem get?_eq_some_of_nodup {ws : List Widget} (h : (ws.map (·.id)).Nodup) {x : String}
    {w : Widget} : ({ widgets := ws } : Tree).get? x = some w ↔ w ∈ ws ∧ w.id = x := by
  constructor
  · intro hg
    exact ⟨List.mem_of_find?_eq_some hg, by simpa using List.find?_some hg⟩
  · rintro ⟨hw, rfl⟩
    obtain ⟨v, hv⟩ := Option.isSome_iff_exists.1
      (List.find?_isSome.2 ⟨w, hw, by simp⟩ : (ws.find? (·.id == w.id)).isSome)
    have hvid : v.id = w.id := by simpa using List.find?_some hv
    rw [← show w = v from List.inj_on_of_nodup_map h hw (List.mem_of_find?_eq_some hv) hvid.symm]
      at hv
    exact hv

/-- With one widget per id, the top level of the tree built from a list lists, each once,
exactly the widgets without a parent. -/
theorem ofWidgets_roots {ws : List Widget} (h : (ws.map (·.id)).Nodup) :
    Lists (ofWidgets ws).roots
      (fun x => ((ofWidgets ws).get? x).isSome ∧ (ofWidgets ws).parentOf x = none) := by
  obtain ⟨-, hget, hroots⟩ := ofWidgets_spec h
  rw [hroots]
  refine ⟨h.sublist (List.filter_sublist.map _), fun x => ?_⟩
  simp only [parentOf, hget, List.mem_map, List.mem_filter, Option.isNone_iff_eq_none]
  constructor
  · rintro ⟨w, ⟨hw, hnone⟩, rfl⟩
    have hg := (get?_eq_some_of_nodup h).2 ⟨hw, rfl⟩
    simp [hg, hnone]
  · rintro ⟨hsome, hnone⟩
    obtain ⟨w, hg⟩ := Option.isSome_iff_exists.1 hsome
    obtain ⟨hw, rfl⟩ := (get?_eq_some_of_nodup h).1 hg
    exact ⟨w, ⟨hw, by simpa [hg] using hnone⟩, rfl⟩

/-- A list of widgets, one per id, whose links agree builds a linked tree. -/
theorem linked_ofWidgets {ws : List Widget} (h : (ws.map (·.id)).Nodup)
    (hlinks : ({ widgets := ws } : Tree).Links) : (ofWidgets ws).Linked := by
  obtain ⟨hs, hget, -⟩ := ofWidgets_spec h
  have hpar : ∀ x, (ofWidgets ws).parentOf x = ({ widgets := ws } : Tree).parentOf x :=
    fun x => by simp only [parentOf, hget]
  have hkids : ∀ x, (ofWidgets ws).kidsOf x = ({ widgets := ws } : Tree).kidsOf x :=
    fun x => by simp only [kidsOf, hget]
  refine ⟨⟨fun q => ?_, fun x hx => ?_⟩, hs, ofWidgets_roots h⟩
  · simp only [hkids, hpar]
    exact hlinks.kids q
  · rw [hget] at hx
    exact (hlinks.rooted x hx).transfer (K := fun _ => True) (fun y _ => hpar y)
      (fun y _ hy => (hget y).symm ▸ hy) (fun _ _ _ _ => trivial) trivial

/-- The empty tree is linked. -/
theorem linked_empty : ({} : Tree).Linked where
  kids _ := Lists.nil fun _ h => by simp [parentOf, get?] at h
  rooted _ h := by simp [get?] at h
  sorted := List.Pairwise.nil
  roots := Lists.nil fun _ h => by simp [get?] at h

end Tree

/-! ## Sequences of edits -/

/-- One call that edits a tree. -/
inductive TreeEdit where
  | insert (w : Widget) (parent : Option String)
  | remove (id : String)
  | move (id : String) (parent : Option String) (index : Option Nat)
  | updateProps (id : String) (props : List (String × Json))
  | resize (id : String) (size : Extent)
  | relayout (id : String)
  | relayoutAll

/-- What a call answers: the ids it reports and the tree after it, or why it was refused. -/
def TreeEdit.run : TreeEdit → Tree → Except TreeError (List String × Tree)
  | .insert w parent, t => t.insert w parent
  | .remove id, t => t.remove id
  | .move id parent index, t => t.moveWidget id parent index
  | .updateProps id props, t => t.updateProps id props
  | .resize id size, t => t.resize id size
  | .relayout id, t => .ok (t.relayout id)
  | .relayoutAll, t => .ok t.relayoutAll

/-- The tree after a call: a refused call leaves it as it was. -/
def Tree.after (t : Tree) (e : TreeEdit) : Tree :=
  match e.run t with
  | .ok r => r.2
  | .error _ => t

/-- What a call that goes through must respect to keep the links: a widget added lists no
children, and props merged into a widget leave it listing its children again, in any
order. -/
def TreeEdit.Respects (t : Tree) : TreeEdit → Prop
  | .insert w _ => w.childIds = []
  | .updateProps id props => ((t.after (.updateProps id props)).kidsOf id).Perm (t.kidsOf id)
  | _ => True

/-- Every call of a sequence respects the links, where it goes through. -/
def Tree.RespectsAll (t : Tree) : List TreeEdit → Prop
  | [] => True
  | e :: es => (∀ r, e.run t = .ok r → e.Respects t) ∧ (t.after e).RespectsAll es

namespace Tree

variable {t : Tree}

/-- A refused call leaves a linked tree as it was; one that goes through leaves the tree it
answers. -/
theorem Linked.after_iff_of (hl : t.Linked) {e : TreeEdit} {Q : Prop}
    (hq : ∀ r, e.run t = .ok r → (r.2.Linked ↔ Q)) :
    (t.after e).Linked ↔ ∀ r, e.run t = .ok r → Q := by
  unfold Tree.after
  split
  · next r hr => exact (hq r hr).trans ⟨fun h _ _ => h, fun h => h r hr⟩
  · next err hr => exact iff_of_true hl fun r h => by rw [hr] at h; cases h

/-- One call keeps a linked tree linked exactly when, if it goes through, it respects the
links. -/
theorem Linked.after (hl : t.Linked) (e : TreeEdit) :
    (t.after e).Linked ↔ ∀ r, e.run t = .ok r → e.Respects t := by
  apply hl.after_iff_of
  intro r hr
  cases e with
  | insert w parent => exact hl.insert hr
  | remove id => exact iff_of_true (hl.remove hr) trivial
  | move id parent index => exact iff_of_true (hl.moveWidget hr) trivial
  | updateProps id props =>
    have hafter : t.after (.updateProps id props) = r.2 := by
      unfold Tree.after
      rw [hr]
    rw [hl.updateProps hr]
    simp only [TreeEdit.Respects, hafter]
  | resize id size => exact iff_of_true (hl.resize hr) trivial
  | relayout id =>
    cases hr
    exact iff_of_true (hl.relayout id) trivial
  | relayoutAll =>
    cases hr
    exact iff_of_true hl.relayoutAll trivial

/-- A sequence of calls that respect the links keeps a linked tree linked. -/
theorem Linked.afterAll (hl : t.Linked) (es : List TreeEdit) (h : t.RespectsAll es) :
    (es.foldl Tree.after t).Linked := by
  induction es generalizing t with
  | nil => exact hl
  | cons e es ih => exact ih ((hl.after e).2 h.1) h.2

end Tree

/-- A tree built empty, or from a list of widgets with one widget per id whose links agree,
is linked. Every call then keeps it linked, whether it goes through or is refused, save two
that store the `children` they are given: adding a widget that lists children of its own,
and merging props that change a widget's children other than by reordering them. -/
theorem linked_through_edits (ws : List Widget) (t : Tree) (e : TreeEdit) (es : List TreeEdit) :
    ({} : Tree).Linked ∧
    ((ws.map (·.id)).Nodup → ({ widgets := ws } : Tree).Links → (Tree.ofWidgets ws).Linked) ∧
    (t.Linked → ((t.after e).Linked ↔ ∀ r, e.run t = .ok r → e.Respects t)) ∧
    (t.Linked → t.RespectsAll es → (es.foldl Tree.after t).Linked) :=
  ⟨Tree.linked_empty, Tree.linked_ofWidgets, fun hl => hl.after e, fun hl h => hl.afterAll es h⟩

/-- Adding to the empty tree a container that lists a child of its own leaves a tree whose
links disagree: the child it lists is not there. -/
theorem inserting_listed_children_unlinks :
    ¬ (({} : Tree).after (.insert
      { id := "a", widgetType := "container", props := [("children", .arr [.str "ghost"])] }
      none)).Linked := by
  intro h
  have hresp := (Tree.linked_empty.after _).1 h _ rfl
  simp [TreeEdit.Respects, Widget.childIds, Json.lookup, Json.str?] at hresp

end Storyboard
