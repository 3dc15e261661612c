import Mathlib.Data.List.Nodup
import Mathlib.Data.Nat.Find
import Storyboard.Proofs.Placement

/-!
# The links of a widget tree

A widget names its parent, and a container lists its children in its `children` prop. The
links of a tree agree (`Links`) when every widget lists, each once, exactly the widgets that
name it as parent, and following parents from any widget ends at the top (`Rooted`), so
they never cycle. A `Linked` tree also has one widget per id and lists, each once, exactly
its widgets without a parent as its top level.

The facts are stated through three views of a tree by id: the parent of the widget of an
id (`parentOf`), the children it lists (`kidsOf`), and whether it is a container
(`containerAt`). Each edit of the tree is described once by what it does to these views.

* `Lists l P`: the list `l` names, each once, exactly the ids of `P`; the edits change such
  lists by taking an id out (`Lists.filter_ne`) and putting one in (`Lists.insertIdx`).
* `hasAncestor_iff`: the fuelled walk up the parents finds exactly the ancestors within its
  fuel, and `exists_ancestor_lt`: within as many steps as there are widgets.
* `Rooted.transfer`: a path to the top survives an edit that keeps the parents along it.
-/

namespace Storyboard

/-- A list names, each once, exactly the ids of a property. -/
structure Lists (l : List String) (P : String → Prop) : Prop where
  nodup : l.Nodup
  mem_iff : ∀ x, x ∈ l ↔ P x

namespace Lists

variable {l : List String} {P Q : String → Prop}

theorem congr (h : Lists l P) (hPQ : ∀ x, P x ↔ Q x) : Lists l Q :=
  ⟨h.nodup, fun x => (h.mem_iff x).trans (hPQ x)⟩

theorem nil (h : ∀ x, ¬ P x) : Lists [] P :=
  ⟨List.nodup_nil, fun x => iff_of_false List.not_mem_nil (h x)⟩

theorem eq_nil (h : Lists l P) (hP : ∀ x, ¬ P x) : l = [] :=
  List.eq_nil_iff_forall_not_mem.2 fun x hx => hP x ((h.mem_iff x).1 hx)

/-- Unlisting an id takes it out of the property. -/
theorem filter_ne (h : Lists l P) (y : String) :
    Lists (l.filter (· != y)) (fun x => P x ∧ x ≠ y) :=
  ⟨h.nodup.filter _, fun x => by simp [h.mem_iff]⟩

/-- Listing a new id, at any place, adds it to the property. -/
theorem insertIdx (h : Lists l P) {y : String} (hy : ¬ P y) {i : Nat} (hi : i ≤ l.length) :
    Lists (l.insertIdx i y) (fun x => P x ∨ x = y) := by
  have hnew : y ∉ l := fun hm => hy ((h.mem_iff y).1 hm)
  refine ⟨(List.perm_insertIdx y l hi).nodup_iff.2 (List.nodup_cons.2 ⟨hnew, h.nodup⟩), ?_⟩
  intro x
  rw [List.mem_insertIdx hi, h.mem_iff, or_comm]

/-- Moving an id to a place in a list, as attaching a child does, lists it once there. -/
theorem attach (h : Lists l P) (y : String) (index : Option Nat) :
    Lists ((l.filter (· != y)).insertIdx
        (min (index.getD (l.filter (· != y)).length) (l.filter (· != y)).length) y)
      (fun x => (P x ∧ x ≠ y) ∨ x = y) :=
  (h.filter_ne y).insertIdx (by simp) (Nat.min_le_right _ _)

/-- Two lists of one property are reorderings of each other. -/
theorem perm_iff (h : Lists l P) {l' : List String} : Lists l' P ↔ l'.Perm l := by
  constructor
  · intro h'
    rw [List.perm_ext_iff_of_nodup h'.nodup h.nodup]
    exact fun x => (h'.mem_iff x).trans (h.mem_iff x).symm
  · intro hp
    exact ⟨hp.nodup_iff.2 h.nodup, fun x => hp.mem_iff.trans (h.mem_iff x)⟩

end Lists

namespace Widget

/-- The children written by `setChildIds` are read back by `childIds`. -/
@[simp] theorem childIds_setChildIds (w : Widget) (ids : List String) :
    (w.setChildIds ids).childIds = ids := by
  simp only [setChildIds, childIds, Json.lookup_setField_self]
  induction ids with
  | nil => rfl
  | cons id ids ih => simp [Json.str?, ih]

@[simp] theorem setChildIds_id (w : Widget) (ids : List String) : (w.setChildIds ids).id = w.id :=
  rfl

@[simp] theorem childIds_withParent (w : Widget) (p : Option String) :
    ({ w with parentId := p } : Widget).childIds = w.childIds := rfl

@[simp] theorem setChildIds_parentId (w : Widget) (ids : List String) :
    (w.setChildIds ids).parentId = w.parentId := rfl

/-- A widget that lists a child is a container. -/
theorem isContainer_of_mem_childIds {w : Widget} {c : String} (h : c ∈ w.childIds) :
    w.isContainer = true := by
  unfold childIds at h
  unfold isContainer Json.hasField
  split at h
  · next items hl => simp [hl]
  · simp at h

end Widget

namespace Tree

/-- The parent of the widget of an id, if it is there and has one. -/
def parentOf (t : Tree) (id : String) : Option String := (t.get? id).bind (·.parentId)

/-- The children the widget of an id lists; none when it is not there. -/
def kidsOf (t : Tree) (id : String) : List String := ((t.get? id).map (·.childIds)).getD []

/-- Whether the widget of an id is there and is a container. -/
def containerAt (t : Tree) (id : String) : Bool := ((t.get? id).map (·.isContainer)).getD false

/-- Following parents from an id ends at a widget without a parent. -/
inductive Rooted (t : Tree) : String → Prop
  | top {id : String} : (t.get? id).isSome → t.parentOf id = none → Rooted t id
  | up {id p : String} : t.parentOf id = some p → Rooted t p → Rooted t id

/-- The links of a tree agree both ways and never cycle. -/
structure Links (t : Tree) : Prop where
  /-- A widget lists, each once, exactly the widgets that name it as parent. -/
  kids : ∀ p, Lists (t.kidsOf p) (fun c => t.parentOf c = some p)
  /-- From every widget, following parents ends at the top. -/
  rooted : ∀ x, (t.get? x).isSome → t.Rooted x

/-- A tree whose links agree, with one widget per id and its top level listed. -/
structure Linked (t : Tree) : Prop extends t.Links where
  /-- One widget per id, in order of id. -/
  sorted : t.Sorted
  /-- The top level lists, each once, exactly the widgets without a parent. -/
  roots : Lists t.roots (fun x => (t.get? x).isSome ∧ t.parentOf x = none)

variable {t t' : Tree}

theorem isSome_of_parentOf {id p : String} (h : t.parentOf id = some p) :
    (t.get? id).isSome := by
  unfold parentOf at h
  cases hg : t.get? id with
  | none => rw [hg] at h; cases h
  | some w => rfl

theorem isSome_of_containerAt {id : String} (h : t.containerAt id = true) :
    (t.get? id).isSome := by
  unfold containerAt at h
  cases hg : t.get? id with
  | none => rw [hg] at h; cases h
  | some w => rfl

theorem containerAt_of_mem_kidsOf {p c : String} (h : c ∈ t.kidsOf p) :
    t.containerAt p = true := by
  unfold kidsOf at h
  unfold containerAt
  cases hg : t.get? p with
  | none => rw [hg] at h; cases h
  | some w =>
    rw [hg] at h
    exact Widget.isContainer_of_mem_childIds h

/-- A widget's parent is a container there that lists it. -/
theorem Links.parent_lists (h : t.Links) {c p : String} (hp : t.parentOf c = some p) :
    t.containerAt p = true ∧ c ∈ t.kidsOf p := by
  have hc : c ∈ t.kidsOf p := ((h.kids p).mem_iff c).2 hp
  exact ⟨containerAt_of_mem_kidsOf hc, hc⟩

/-- A child a widget lists is there and names it as parent. -/
theorem Links.child_names (h : t.Links) {c p : String} (hc : c ∈ t.kidsOf p) :
    (t.get? c).isSome ∧ t.parentOf c = some p := by
  have hp : t.parentOf c = some p := ((h.kids p).mem_iff c).1 hc
  exact ⟨isSome_of_parentOf hp, hp⟩

theorem Links.isSome_parent (h : t.Links) {c p : String} (hp : t.parentOf c = some p) :
    (t.get? p).isSome :=
  isSome_of_containerAt (h.parent_lists hp).1

/-! ## Edits in terms of the views -/

theorem get?_put (hs : t.Sorted) (w : Widget) (id : String) :
    (t.put w).get? id = if w.id = id then some w else t.get? id := by
  split
  · next h => exact (get?_eq_some_iff (hs.put w)).2 ⟨(mem_put hs w w).2 (Or.inl rfl), h⟩
  · next h =>
    cases hg : t.get? id with
    | none =>
      rw [get?_eq_none_iff] at hg ⊢
      intro x hx hxid
      rcases (mem_put hs w x).1 hx with rfl | ⟨hx, -⟩
      · exact h hxid
      · exact hg x hx hxid
    | some x =>
      obtain ⟨hx, rfl⟩ := (get?_eq_some_iff hs).1 hg
      exact (get?_eq_some_iff (hs.put w)).2
        ⟨(mem_put hs w x).2 (Or.inr ⟨hx, Ne.symm h⟩), rfl⟩

theorem Sorted.erase (hs : t.Sorted) (x : String) : (t.erase x).Sorted :=
  List.Pairwise.filter _ hs

theorem get?_erase (t : Tree) (x id : String) :
    (t.erase x).get? id = if x = id then none else t.get? id := by
  unfold get? erase
  split
  · next h =>
    subst h
    rw [List.find?_eq_none]
    intro w hw
    rw [List.mem_filter] at hw
    simpa using hw.2
  · next h =>
    rw [List.find?_filter]
    congr 1
    funext w
    by_cases hw : w.id = id
    · simp [hw, Ne.symm h]
    · simp [hw]

section Put

variable (hs : t.Sorted)
include hs

theorem isSome_put (w : Widget) (x : String) :
    ((t.put w).get? x).isSome = if w.id = x then true else (t.get? x).isSome := by
  rw [get?_put hs]
  split <;> rfl

theorem parentOf_put (w : Widget) (x : String) :
    (t.put w).parentOf x = if w.id = x then w.parentId else t.parentOf x := by
  unfold parentOf
  rw [get?_put hs]
  split <;> rfl

theorem kidsOf_put (w : Widget) (x : String) :
    (t.put w).kidsOf x = if w.id = x then w.childIds else t.kidsOf x := by
  unfold kidsOf
  rw [get?_put hs]
  split <;> rfl

/-- Putting back a widget of the tree with its parent kept keeps every parent. -/
theorem parentOf_put_of_get? {p : String} {w w' : Widget} (hp : t.get? p = some w)
    (hid : w'.id = w.id) (hparent : w'.parentId = w.parentId) (x : String) :
    (t.put w').parentOf x = t.parentOf x := by
  rw [parentOf_put hs, hid, id_of_get? hp]
  split
  · next h => subst h; simp [parentOf, hp, hparent]
  · rfl

theorem isSome_put_of_get? {p : String} {w w' : Widget} (hp : t.get? p = some w)
    (hid : w'.id = w.id) (x : String) : ((t.put w').get? x).isSome = (t.get? x).isSome := by
  rw [isSome_put hs, hid, id_of_get? hp]
  split
  · next h => subst h; simp [hp]
  · rfl

theorem kidsOf_put_of_get? {p : String} {w w' : Widget} (hp : t.get? p = some w)
    (hid : w'.id = w.id) (hkids : w'.childIds = w.childIds) (x : String) :
    (t.put w').kidsOf x = t.kidsOf x := by
  rw [kidsOf_put hs, hid, id_of_get? hp]
  split
  · next h => subst h; simp [kidsOf, hp, hkids]
  · rfl

end Put

theorem isSome_erase (t : Tree) (y x : String) :
    ((t.erase y).get? x).isSome = if y = x then false else (t.get? x).isSome := by
  rw [get?_erase]
  split <;> rfl

/-- Taking out widgets one by one. -/
theorem get?_foldl_erase (t : Tree) (ids : List String) (x : String) :
    (ids.foldl erase t).get? x = if x ∈ ids then none else t.get? x := by
  induction ids generalizing t with
  | nil => simp
  | cons y ids ih =>
    rw [List.foldl_cons, ih, get?_erase]
    by_cases hy : y = x
    · simp [hy]
    · simp [hy, Ne.symm hy]

theorem isSome_foldl_erase (t : Tree) (ids : List String) (x : String) :
    ((ids.foldl Tree.erase t).get? x).isSome = (x ∉ ids && (t.get? x).isSome) := by
  rw [get?_foldl_erase]
  by_cases hx : x ∈ ids <;> simp [hx]

theorem parentOf_foldl_erase (t : Tree) (ids : List String) (x : String) :
    (ids.foldl Tree.erase t).parentOf x = if x ∈ ids then none else t.parentOf x := by
  unfold parentOf
  rw [get?_foldl_erase]
  split <;> rfl

theorem kidsOf_foldl_erase (t : Tree) (ids : List String) (x : String) :
    (ids.foldl Tree.erase t).kidsOf x = if x ∈ ids then [] else t.kidsOf x := by
  unfold kidsOf
  rw [get?_foldl_erase]
  split <;> rfl

@[simp] theorem roots_foldl_erase (t : Tree) (ids : List String) :
    (ids.foldl Tree.erase t).roots = t.roots := by
  induction ids generalizing t with
  | nil => rfl
  | cons y ids ih => exact ih (t.erase y)

theorem Sorted.foldl_erase (hs : t.Sorted) (ids : List String) :
    (ids.foldl Tree.erase t).Sorted := by
  induction ids generalizing t with
  | nil => exact hs
  | cons y ids ih => exact ih (hs.erase y)

/-! ## Transport between trees with the same links -/

/-- Rootedness moves to another tree along a chain of parents that it keeps: `K` holds of
the start, is kept by going up, and where it holds the parent is the same. -/
theorem Rooted.transfer {K : String → Prop}
    (hpar : ∀ y, K y → t'.parentOf y = t.parentOf y)
    (hsome : ∀ y, K y → (t.get? y).isSome → (t'.get? y).isSome)
    (hup : ∀ y p, K y → t.parentOf y = some p → K p) {x : String} (h : t.Rooted x)
    (hx : K x) :
    t'.Rooted x := by
  induction h with
  | top hs hn => exact .top (hsome _ hx hs) ((hpar _ hx).trans hn)
  | up hp _ ih => exact .up ((hpar _ hx).trans hp) (ih (hup _ _ hx hp))

/-- Two trees with the same widgets up to position and size have the same views. -/
theorem map_get?_of_unplaced_eq (h : t'.unplaced = t.unplaced) (x : String) :
    (t'.get? x).map Widget.unplaced = (t.get? x).map Widget.unplaced := by
  rw [← get?_unplaced, ← get?_unplaced, h]

theorem isSome_of_unplaced_eq (h : t'.unplaced = t.unplaced) (x : String) :
    (t'.get? x).isSome = (t.get? x).isSome := by
  rw [← Option.isSome_map (f := Widget.unplaced), map_get?_of_unplaced_eq h, Option.isSome_map]

theorem parentOf_of_unplaced_eq (h : t'.unplaced = t.unplaced) (x : String) :
    t'.parentOf x = t.parentOf x := by
  unfold parentOf
  have hm := congrArg (·.bind (·.parentId)) (map_get?_of_unplaced_eq h x)
  simpa [Option.bind_map, Function.comp_def] using hm

theorem kidsOf_of_unplaced_eq (h : t'.unplaced = t.unplaced) (x : String) :
    t'.kidsOf x = t.kidsOf x := by
  unfold kidsOf
  have hm := congrArg (fun o => (o.map (·.childIds)).getD []) (map_get?_of_unplaced_eq h x)
  simpa [Option.map_map, Function.comp_def, Widget.childIds_unplaced] using hm

/-- Only positions and sizes changed: the tree is as linked as before. -/
theorem Linked.of_unplaced_eq (hl : t.Linked) (h : t'.unplaced = t.unplaced) : t'.Linked where
  sorted := sorted_of_unplaced_eq h hl.sorted
  kids p := by
    simp only [kidsOf_of_unplaced_eq h, parentOf_of_unplaced_eq h]
    exact hl.kids p
  roots := by
    rw [show t'.roots = t.roots from by rw [← unplaced_roots, h, unplaced_roots]]
    simp only [isSome_of_unplaced_eq h, parentOf_of_unplaced_eq h]
    exact hl.roots
  rooted x hx :=
    (hl.rooted x ((isSome_of_unplaced_eq h x).symm.trans hx)).transfer (K := fun _ => True)
      (fun y _ => parentOf_of_unplaced_eq h y)
      (fun y _ hy => (isSome_of_unplaced_eq h y).trans hy) (fun _ _ _ _ => trivial) trivial

/-! ## The walk up the parents -/

/-- The ancestor `k` parents up from an id, the id itself at `0`. -/
def ancestor (t : Tree) : Nat → String → Option String
  | 0, x => some x
  | k + 1, x => (t.parentOf x).bind (t.ancestor k)

theorem ancestor_zero (t : Tree) (x : String) : t.ancestor 0 x = some x := rfl

theorem ancestor_succ (t : Tree) (k : Nat) (x : String) :
    t.ancestor (k + 1) x = (t.parentOf x).bind (t.ancestor k) := rfl

theorem ancestor_add (t : Tree) (m n : Nat) (x : String) :
    t.ancestor (m + n) x = (t.ancestor m x).bind (t.ancestor n) := by
  induction m generalizing x with
  | zero => simp [ancestor_zero]
  | succ m ih =>
    rw [Nat.add_right_comm, ancestor_succ, ancestor_succ, Option.bind_assoc]
    congr 1
    funext y
    exact ih y

/-- One more step up is the parent of the last ancestor. -/
theorem ancestor_succ' (t : Tree) (k : Nat) (x : String) :
    t.ancestor (k + 1) x = (t.ancestor k x).bind t.parentOf := by
  rw [ancestor_add]
  congr 1
  funext y
  rw [ancestor_succ]
  cases t.parentOf y <;> rfl

/-- The walk of `hasAncestor` finds exactly the ancestors within its fuel. -/
theorem hasAncestor_iff (t : Tree) (a : String) (fuel : Nat) (o : Option String) :
    t.hasAncestor a fuel o = true ↔ ∃ k < fuel, o.bind (t.ancestor k) = some a := by
  induction fuel generalizing o with
  | zero => cases o <;> simp [hasAncestor]
  | succ fuel ih =>
    cases o with
    | none => simp [hasAncestor]
    | some p =>
      rw [hasAncestor, Bool.or_eq_true, beq_iff_eq, ih]
      constructor
      · rintro (rfl | ⟨k, hk, h⟩)
        · exact ⟨0, Nat.succ_pos _, rfl⟩
        · exact ⟨k + 1, by omega, h⟩
      · rintro ⟨k, hk, h⟩
        cases k with
        | zero => exact Or.inl (Option.some.inj h)
        | succ k => exact Or.inr ⟨k, by omega, h⟩

/-- An ancestor is there when every parent is. -/
theorem isSome_of_ancestor (hpar : ∀ c p, t.parentOf c = some p → (t.get? p).isSome)
    {k : Nat} {x a : String} (h : t.ancestor (k + 1) x = some a) : (t.get? a).isSome := by
  rw [ancestor_succ', Option.bind_eq_some_iff] at h
  obtain ⟨y, -, hy⟩ := h
  exact hpar y a hy

/-- A widget with an ancestor above it has a parent, so it is there. -/
theorem isSome_of_ancestor_succ {k : Nat} {x a : String} (h : t.ancestor (k + 1) x = some a) :
    (t.get? x).isSome := by
  rw [ancestor_succ, Option.bind_eq_some_iff] at h
  obtain ⟨y, hy, -⟩ := h
  exact isSome_of_parentOf hy

theorem isSome_ancestor_of_le {m n : Nat} {x : String} (h : (t.ancestor n x).isSome)
    (hmn : m ≤ n) : (t.ancestor m x).isSome := by
  rw [show n = m + (n - m) by omega, ancestor_add] at h
  cases hm : t.ancestor m x with
  | none => rw [hm] at h; cases h
  | some y => rfl

/-- On the shortest climb from `x` to `a`, no id comes twice: a repeat would give a shorter
climb. -/
theorem ancestor_injective_of_shortest {x a : String} {n : Nat}
    (hn : t.ancestor (n + 1) x = some a) (hmin : ∀ j < n, t.ancestor (j + 1) x ≠ some a)
    {i j : Nat} (hi : i ≤ n) (hj : j ≤ n) (hij : t.ancestor (i + 1) x = t.ancestor (j + 1) x) :
    i = j := by
  by_contra hne
  wlog hlt : i < j generalizing i j
  · exact this hj hi hij.symm (Ne.symm hne) (by omega)
  have hshort : t.ancestor (i + (n - j) + 1) x = some a := by
    calc t.ancestor (i + (n - j) + 1) x
        = (t.ancestor (i + 1) x).bind (t.ancestor (n - j)) := by
          rw [← ancestor_add, Nat.add_right_comm]
      _ = (t.ancestor (j + 1) x).bind (t.ancestor (n - j)) := by rw [hij]
      _ = some a := by rw [← ancestor_add, show j + 1 + (n - j) = n + 1 by omega, hn]
  exact hmin _ (by omega) hshort

/-- In a tree whose parents are all there, an ancestor is reached within as many steps as
there are widgets: on the shortest climb to it no id comes twice. -/
theorem exists_ancestor_lt (hpar : ∀ c p, t.parentOf c = some p → (t.get? p).isSome)
    {x a : String} {k : Nat} (h : t.ancestor (k + 1) x = some a) :
    ∃ j < t.widgets.length, t.ancestor (j + 1) x = some a := by
  classical
  have hex : ∃ n, t.ancestor (n + 1) x = some a := ⟨k, h⟩
  obtain ⟨hn, hmin⟩ : t.ancestor (Nat.find hex + 1) x = some a ∧
      ∀ j < Nat.find hex, t.ancestor (j + 1) x ≠ some a :=
    ⟨Nat.find_spec hex, fun j hj => Nat.find_min hex hj⟩
  generalize Nat.find hex = n at hn hmin
  -- the ids met on the way, one per step
  let step (i : Nat) : String := (t.ancestor (i + 1) x).getD a
  have hstep : ∀ i ≤ n, t.ancestor (i + 1) x = some (step i) := by
    intro i hi
    have hs : (t.ancestor (i + 1) x).isSome := isSome_ancestor_of_le (by rw [hn]; rfl) (by omega)
    obtain ⟨y, hy⟩ := Option.isSome_iff_exists.1 hs
    simp [step, hy]
  have hlen : ((List.range (n + 1)).map step).length ≤ (t.widgets.map (·.id)).length := by
    apply List.Nodup.length_le_of_subset
    · refine List.Nodup.map_on (fun i hi j hj hij => ?_) List.nodup_range
      rw [List.mem_range] at hi hj
      exact ancestor_injective_of_shortest hn hmin (by omega) (by omega)
        (by rw [hstep i (by omega), hstep j (by omega), hij])
    · intro y hy
      obtain ⟨i, hi, rfl⟩ := List.mem_map.1 hy
      have hs := isSome_of_ancestor hpar (hstep i (by simpa [Nat.lt_succ_iff] using hi))
      obtain ⟨w, hw⟩ := Option.isSome_iff_exists.1 hs
      exact List.mem_map.2 ⟨w, mem_of_get? hw, id_of_get? hw⟩
  simp only [List.length_map, List.length_range] at hlen
  exact ⟨n, by omega, hn⟩

/-- Re-placing the containers keeps the links. -/
theorem Linked.relayout (hl : t.Linked) (id : String) : (t.relayout id).2.Linked :=
  hl.of_unplaced_eq (relayout_unplaced hl.sorted id)

theorem Linked.relayoutAll (hl : t.Linked) : t.relayoutAll.2.Linked :=
  hl.of_unplaced_eq (relayoutAll_unplaced hl.sorted)

end Tree

end Storyboard
