import Storyboard.Proofs.Reports

/-!
# Ancestors and descendants, whatever the links

The edits of `Proofs/Edits` keep a linked tree linked. Here nothing is assumed of the links but
one widget per id: a widget may name a parent that is not there, chains of parents may come
back on themselves, and a container may list children that name another parent.

* `Detached`: what unlisting a widget from its parent leaves of any such tree.
* `InSubtree t id x`: the widget `x` is there and its chain of parents reaches `id`.
* `remove_takes_out_the_subtree`: removing a widget takes out exactly its subtree, each widget
  once, unlists it where it was listed, and leaves no widget naming a parent taken out. The walk
  that does it ends on any tree, cycles included, since each widget it expands it takes out.
* `Acyclic`: no chain of parents comes back to where it started; decidable, since a chain
  that returns does so within as many steps as the tree has widgets (`exists_ancestor_le`),
  which is also why the fuel of `hasAncestor` suffices for the cycle check of a move.
* `moving_under_a_container`: moving a widget under a container is refused exactly when the
  container is the widget or lies below it; otherwise the tree stays acyclic, the widget is
  listed at the index asked for (clamped to the end), and only its old parent and the top
  level lose it.
-/

namespace Storyboard

namespace Tree

variable {t : Tree}

/-! ## Unlisting a widget -/

/-- What unlisting `id` leaves of a sorted tree `t`, whatever its links: the same widgets and
parents, `id` taken out of the children its parent lists, or out of the top level when it has
no parent. -/
structure Detached (t t₁ : Tree) (id : String) : Prop where
  sorted : t₁.Sorted
  isSome : ∀ x, (t₁.get? x).isSome = (t.get? x).isSome
  parentOf : ∀ x, t₁.parentOf x = t.parentOf x
  kidsOf : ∀ x, t₁.kidsOf x =
    if t.parentOf id = some x then (t.kidsOf x).filter (· != id) else t.kidsOf x
  roots : t₁.roots = if t.parentOf id = none then t.roots.filter (· != id) else t.roots

/-- Unlisting a widget answers the parent it names. -/
theorem detach_fst (t : Tree) (id : String) : (t.detach id).1 = t.parentOf id := by
  unfold detach
  split
  · next pid hpid => exact hpid.symm
  · next hnone => exact hnone.symm

theorem Sorted.detach (hs : t.Sorted) (id : String) : Detached t (t.detach id).2 id := by
  unfold Tree.detach
  split
  · next pid hpid =>
    have hpar : t.parentOf id = some pid := hpid
    cases hp : t.get? pid with
    | none =>
      -- a parent that is not there lists nothing, and nothing changes
      refine ⟨hs, fun _ => rfl, fun _ => rfl, fun x => ?_, by simp [hpar]⟩
      by_cases hx : pid = x
      · subst hx
        simp [hpar, kidsOf, hp]
      · simp [hpar, hx]
    | some parent =>
      refine ⟨hs.put _, isSome_relist hs hp _, parentOf_relist hs hp _, fun x => ?_,
        by simp [hpar]⟩
      rw [kidsOf_relist hs hp, ← kidsOf_of_get? hp]
      by_cases hx : pid = x
      · subst hx
        simp [hpar]
      · simp [hpar, hx]
  · next hnone =>
    have hpar : t.parentOf id = none := hnone
    refine ⟨hs, fun _ => rfl, fun _ => rfl, fun x => ?_, by simp [hpar]⟩
    rw [hpar, if_neg (by simp)]
    rfl

/-! ## Removing a subtree -/

/-- The widget `x` is in the subtree of `id`: it is there, and following parents from it
reaches `id` (at once, when `x` is `id`). -/
def InSubtree (t : Tree) (id x : String) : Prop :=
  (t.get? x).isSome ∧ ∃ k, t.ancestor k x = some id

/-- A widget whose parent's chain reaches `id` reaches it one step later. -/
theorem ancestor_succ_of_parentOf {c y a : String} (h : t.parentOf c = some y) {k : Nat}
    (hk : t.ancestor k y = some a) : t.ancestor (k + 1) c = some a := by
  rw [ancestor, h, Option.bind_some, hk]

/-- Taking a widget out keeps every parent named by the widgets left. -/
theorem parentOf_of_parentOf_erase {cur c y : String} (h : (t.erase cur).parentOf c = some y) :
    t.parentOf c = some y := by
  by_cases hc : cur = c
  · subst hc
    simp [parentOf, get?_erase] at h
  · rwa [parentOf_erase_of_ne hc] at h

/-- The walk takes out only widgets of a set that holds its queue and, with each widget, the
widgets that name it as parent. -/
theorem removeFrom_closed (t : Tree) (queue removed : List String) (hs : t.Sorted)
    (P : String → Prop) (hP : ∀ c y, t.parentOf c = some y → P y → P c)
    (hq : ∀ x ∈ queue, P x) : ∀ x ∈ (t.removeFrom queue removed).1, x ∈ removed ∨ P x := by
  fun_induction t.removeFrom queue removed with
  | case1 t removed => exact fun x hx => Or.inl hx
  | case2 t removed cur rest hcur ih =>
    -- the widget taken out is of the set, and so are the children queued behind the rest
    have hcurP : P cur := hq cur List.mem_cons_self
    have hP' : ∀ c y, (t.erase cur).parentOf c = some y → P y → P c := fun c y h =>
      hP c y (parentOf_of_parentOf_erase h)
    have hq' : ∀ x ∈ rest ++ (t.childrenOf cur).map (·.id), P x := by
      intro x hx
      rcases List.mem_append.1 hx with hx | hx
      · exact hq x (List.mem_cons_of_mem _ hx)
      · exact hP x cur (parentOf_of_mem_childrenOf hs hx) hcurP
    intro x hx
    rcases ih (hs.erase cur) hP' hq' x hx with h | h
    · rcases List.mem_append.1 h with h | h
      · exact Or.inl h
      · exact Or.inr (List.mem_singleton.1 h ▸ hcurP)
    · exact Or.inr h
  | case3 t removed cur rest hcur ih =>
    exact ih hs hP fun x hx => hq x (List.mem_cons_of_mem _ hx)

/-- Removing a widget that is there answers what the walk from it takes out, and leaves the
tree the walk leaves, re-placed at most. -/
theorem remove_eq_walk (hs : t.Sorted) {id : String} (hid : (t.get? id).isSome) :
    ∃ t', t.remove id = .ok (((t.detach id).2.removeFrom [id] []).1, t') ∧
      t'.unplaced = ((t.detach id).2.removeFrom [id] []).2.unplaced := by
  have hwalk : ((t.detach id).2.removeFrom [id] []).2.Sorted := by
    obtain ⟨gone, hrun, -⟩ := removeFrom_spec (t.detach id).2 [id] [] (hs.detach id).sorted
    rw [hrun]
    exact (hs.detach id).sorted.foldl_erase gone
  have hnone : ¬ (t.get? id).isNone = true := by
    cases h : t.get? id <;> simp_all
  unfold remove
  rw [if_neg hnone]
  rcases hd : t.detach id with ⟨parent, t₁⟩
  rw [hd] at hwalk
  cases parent with
  | none => exact ⟨_, rfl, rfl⟩
  | some p => exact ⟨_, rfl, relayout_unplaced hwalk p⟩

/-- Removing a widget takes out its subtree, whatever cycles and dangling parents the tree
has: it answers each widget of the subtree once and nothing else, keeps exactly the widgets
outside it with their parents, unlists the widget from the children its parent lists (or from
the top level when it has no parent) and changes no other list, and leaves no widget naming a
parent that was taken out. -/
theorem remove_takes_out_the_subtree (hs : t.Sorted) {id : String} (hid : (t.get? id).isSome) :
    ∃ removed t', t.remove id = .ok (removed, t') ∧
      Lists removed (t.InSubtree id) ∧
      (∀ x, (t'.get? x).isSome ↔ (t.get? x).isSome ∧ ¬ t.InSubtree id x) ∧
      (∀ x, (t'.get? x).isSome → t'.parentOf x = t.parentOf x ∧
        t'.kidsOf x = if t.parentOf id = some x then (t.kidsOf x).filter (· != id)
          else t.kidsOf x) ∧
      t'.roots = (if t.parentOf id = none then t.roots.filter (· != id) else t.roots) ∧
      (∀ x q, t'.parentOf x = some q → q ∉ removed) := by
  obtain ⟨t', hrem, hplaced⟩ := remove_eq_walk hs hid
  have hd := hs.detach id
  obtain ⟨gone, hrun, hwalk⟩ := removeFrom_spec (t.detach id).2 [id] [] hd.sorted
  obtain ⟨gone', hans, hnd, hsome, -⟩ := removeFrom_gone (t.detach id).2 [id] []
  -- the walk keeps within the subtree: it starts at `id`, and a widget naming as parent one
  -- whose chain reaches `id` has a chain that reaches it too
  have hwithin := removeFrom_closed (t.detach id).2 [id] [] hd.sorted
    (fun x => ∃ k, t.ancestor k x = some id)
    (fun c y h ⟨k, hk⟩ => ⟨k + 1, ancestor_succ_of_parentOf ((hd.parentOf c).symm.trans h) hk⟩)
    (fun x hx => ⟨0, by rw [List.mem_singleton.1 hx]; rfl⟩)
  generalize (t.detach id).2 = t₁ at hd hrun hwalk hans hsome hwithin hrem hplaced
  rw [hrun] at hrem hplaced hans hwithin
  simp only [List.nil_append] at hrem hans hwithin
  subst hans
  -- and it reaches the whole subtree, one parent link at a time
  have hreach : ∀ k x, t.ancestor k x = some id → x ∈ gone := by
    intro k
    induction k with
    | zero =>
      intro x hk
      obtain rfl : x = id := Option.some.inj hk
      exact hwalk.queue_gone x List.mem_cons_self (by rw [hd.isSome]; exact hid)
    | succ k ih =>
      intro x hk
      rw [ancestor, Option.bind_eq_some_iff] at hk
      obtain ⟨y, hy, hyk⟩ := hk
      exact hwalk.below_gone x y ((hd.parentOf x).trans hy) (ih y hyk)
  have hmem : ∀ x, x ∈ gone ↔ t.InSubtree id x := by
    intro x
    constructor
    · intro hx
      refine ⟨(hd.isSome x) ▸ hsome x hx, ?_⟩
      simpa using hwithin x hx
    · rintro ⟨-, k, hk⟩
      exact hreach k x hk
  have hleft : ∀ x, (t'.get? x).isSome ↔ (t.get? x).isSome ∧ ¬ t.InSubtree id x := by
    intro x
    rw [isSome_of_unplaced_eq hplaced, isSome_foldl_erase, hd.isSome, ← hmem]
    simp [and_comm]
  refine ⟨gone, t', hrem, ⟨hnd, hmem⟩, hleft, fun x hx => ?_, ?_, fun x q hq hqg => ?_⟩
  · have hx' : x ∉ gone := fun h => ((hleft x).1 hx).2 ((hmem x).1 h)
    rw [parentOf_of_unplaced_eq hplaced, kidsOf_of_unplaced_eq hplaced, parentOf_foldl_erase,
      kidsOf_foldl_erase, if_neg hx', if_neg hx', hd.parentOf, hd.kidsOf]
    exact ⟨rfl, rfl⟩
  · rw [← unplaced_roots, hplaced, unplaced_roots, roots_foldl_erase, hd.roots]
  · -- a widget left names no parent taken out: it would have been taken out below it
    rw [parentOf_of_unplaced_eq hplaced, parentOf_foldl_erase] at hq
    split at hq
    · cases hq
    · next hx => exact hx (hwalk.below_gone x q hq hqg)

/-- Removing `a` from a tree where `a` and `b` name each other as parent, `c` names `a` and `d`
names a widget that is not there. -/
theorem removing_from_a_cycle :
    let t : Tree := { widgets := [{ id := "a", widgetType := "container", parentId := some "b" },
      { id := "b", widgetType := "container", parentId := some "a" },
      { id := "c", widgetType := "text", parentId := some "a" },
      { id := "d", widgetType := "text", parentId := some "ghost" }] }
    t.Sorted ∧ (t.get? "a").isSome ∧
      ∃ removed t', t.remove "a" = .ok (removed, t') ∧
        Lists removed (t.InSubtree "a") ∧
        (∀ x, (t'.get? x).isSome ↔ (t.get? x).isSome ∧ ¬ t.InSubtree "a" x) ∧
        (∀ x, (t'.get? x).isSome → t'.parentOf x = t.parentOf x ∧
          t'.kidsOf x = if t.parentOf "a" = some x then (t.kidsOf x).filter (· != "a")
            else t.kidsOf x) ∧
        t'.roots = (if t.parentOf "a" = none then t.roots.filter (· != "a") else t.roots) ∧
        (∀ x q, t'.parentOf x = some q → q ∉ removed) := by
  intro t
  have hs : t.Sorted := by unfold t Tree.Sorted; decide
  have hid : (t.get? "a").isSome := by decide
  exact ⟨hs, hid, remove_takes_out_the_subtree hs hid⟩

/-! ## The cycle check -/

/-- An ancestor is reached within one step more than there are widgets, whatever the links:
on the shortest climb every id but the last has a parent, so it is a widget, and none comes
twice. -/
theorem exists_ancestor_le {x a : String} {k : Nat} (h : t.ancestor (k + 1) x = some a) :
    ∃ j ≤ t.widgets.length, t.ancestor (j + 1) x = some a := by
  classical
  have hex : ∃ n, t.ancestor (n + 1) x = some a := ⟨k, h⟩
  obtain ⟨hn, hmin⟩ : t.ancestor (Nat.find hex + 1) x = some a ∧
      ∀ j < Nat.find hex, t.ancestor (j + 1) x ≠ some a :=
    ⟨Nat.find_spec hex, fun j hj => Nat.find_min hex hj⟩
  generalize Nat.find hex = n at hn hmin
  -- the ids met on the way, one per step
  let step (i : Nat) : String := (t.ancestor (i + 1) x).getD a
  have hstep : ∀ i ≤ n, t.ancestor (i + 1) x = some (step i) := by
    intro i hi
    have hs : (t.ancestor (i + 1) x).isSome := isSome_ancestor_of_le (by rw [hn]; rfl) (by omega)
    obtain ⟨y, hy⟩ := Option.isSome_iff_exists.1 hs
    simp [step, hy]
  have hlen : ((List.range n).map step).length ≤ (t.widgets.map (·.id)).length := by
    apply List.Nodup.length_le_of_subset
    · refine List.Nodup.map_on (fun i hi j hj hij => ?_) List.nodup_range
      rw [List.mem_range] at hi hj
      exact ancestor_injective_of_shortest hn hmin (by omega) (by omega)
        (by rw [hstep i (by omega), hstep j (by omega), hij])
    · intro y hy
      obtain ⟨i, hi, rfl⟩ := List.mem_map.1 hy
      rw [List.mem_range] at hi
      -- the id met after `i + 1` steps names the next one as parent
      have hpar : t.parentOf (step i) = some (step (i + 1)) := by
        have hnext := hstep (i + 1) (by omega)
        rwa [ancestor_succ', hstep i (by omega), Option.bind_some] at hnext
      obtain ⟨w, hw⟩ := Option.isSome_iff_exists.1 (isSome_of_parentOf hpar)
      exact List.mem_map.2 ⟨w, mem_of_get? hw, id_of_get? hw⟩
  simp only [List.length_map, List.length_range] at hlen
  exact ⟨n, hlen, hn⟩

/-- The walk of the cycle check, started at the parent of `p`, finds `id` exactly when `id` is
an ancestor of `p`: its fuel covers the shortest climb. -/
theorem hasAncestor_parentOf_iff (id p : String) :
    t.hasAncestor id (t.widgets.length + 1) (t.parentOf p) = true ↔
      ∃ k, t.ancestor (k + 1) p = some id := by
  rw [hasAncestor_iff]
  constructor
  · rintro ⟨k, -, hk⟩
    exact ⟨k, hk⟩
  · rintro ⟨k, hk⟩
    obtain ⟨j, hj, hj'⟩ := exists_ancestor_le hk
    exact ⟨j, by omega, hj'⟩

/-! ## Acyclic trees -/

/-- No widget is its own ancestor: following parents from a widget never comes back to it. -/
def Acyclic (t : Tree) : Prop := ∀ x k, t.ancestor (k + 1) x ≠ some x

/-- Acyclicity is decided by climbing from each widget one step more than there are widgets. -/
theorem acyclic_iff_bounded :
    t.Acyclic ↔ ∀ w ∈ t.widgets, ∀ j ≤ t.widgets.length, t.ancestor (j + 1) w.id ≠ some w.id := by
  constructor
  · exact fun h w _ j _ => h w.id j
  · intro h x k hk
    obtain ⟨j, hj, hj'⟩ := exists_ancestor_le hk
    obtain ⟨w, hw⟩ := Option.isSome_iff_exists.1 (isSome_of_ancestor_succ hk)
    have hwid := id_of_get? hw
    subst hwid
    exact h w (mem_of_get? hw) j hj hj'

instance : DecidablePred Acyclic := fun _ => decidable_of_iff _ acyclic_iff_bounded.symm

/-- Two trees with the same parents away from `id` climb alike until the climb meets `id`. -/
theorem ancestor_eq_of_avoids {t' : Tree} {id : String}
    (hpar : ∀ y, y ≠ id → t'.parentOf y = t.parentOf y) (x : String) (m : Nat)
    (havoid : ∀ j < m, t'.ancestor j x ≠ some id) : t'.ancestor m x = t.ancestor m x := by
  induction m with
  | zero => rfl
  | succ m ih =>
    have hm := ih fun j hj => havoid j (by omega)
    rw [ancestor_succ', ancestor_succ', hm]
    cases hy : t.ancestor m x with
    | none => rfl
    | some y =>
      have hne : y ≠ id := fun h => havoid m (by omega) (by rw [hm, hy, h])
      exact hpar y hne

/-- A climb that comes back to its start comes back, in as many steps, to every id on it. -/
theorem ancestor_rotate {x y : String} {k j : Nat} (hx : t.ancestor (k + 1) x = some x)
    (hy : t.ancestor j x = some y) : t.ancestor (k + 1) y = some y := by
  have h1 : t.ancestor (j + (k + 1)) x = t.ancestor (k + 1) y := by
    rw [ancestor_add, hy, Option.bind_some]
  have h2 : t.ancestor ((k + 1) + j) x = some y := by
    rw [ancestor_add, hx, Option.bind_some, hy]
  rw [← h1, Nat.add_comm, h2]

/-- Giving the widget `id` the parent `p` keeps a tree acyclic when `id` is no ancestor of `p`,
`p` itself included. A new cycle would pass `id` and come back to it through `p`; but the climb
from `p` agrees with the old one up to its first meeting with `id`, which the old one never
has. -/
theorem Acyclic.reparent {t' : Tree} (hacyc : t.Acyclic) {id p : String}
    (hpar : ∀ x, t'.parentOf x = if id = x then some p else t.parentOf x)
    (hp : ∀ k, t.ancestor k p ≠ some id) : t'.Acyclic := by
  have hkeep : ∀ y, y ≠ id → t'.parentOf y = t.parentOf y := fun y hy => by
    rw [hpar, if_neg (Ne.symm hy)]
  have hfrom : ∀ m, t'.ancestor m p ≠ some id := by
    intro m
    induction m using Nat.strong_induction_on with
    | _ m ih =>
      rw [ancestor_eq_of_avoids hkeep p m ih]
      exact hp m
  intro x k hx
  by_cases hmeet : ∃ j < k + 1, t'.ancestor j x = some id
  · -- the cycle passes `id`, whose parent is now `p`
    obtain ⟨j, -, hj⟩ := hmeet
    have hid := ancestor_rotate hx hj
    rw [ancestor, hpar, if_pos rfl, Option.bind_some] at hid
    exact hfrom k hid
  · -- the cycle avoids `id`, so the old tree has it too
    push Not at hmeet
    rw [ancestor_eq_of_avoids hkeep x (k + 1) hmeet] at hx
    exact hacyc x k hx

/-! ## Moving under a container -/

theorem container_of_containerAt {p : String} (h : t.containerAt p = true) :
    ∃ c, t.container p = .ok c := by
  unfold containerAt at h
  unfold container
  cases hg : t.get? p with
  | none => rw [hg] at h; cases h
  | some w =>
    rw [hg] at h
    exact ⟨w, by simp [show w.isContainer = true from h]⟩

/-- What a move under a container `p` that is there does: it is refused as a cycle when `p` is
the widget or has it as an ancestor, and otherwise it builds the tree of `relinked_moveUnder`,
re-placed. -/
theorem moveWidget_some (hs : t.Sorted) {id p : String} (hid : (t.get? id).isSome)
    (hp : t.containerAt p = true) (index : Option Nat) :
    ((p = id ∨ ∃ k, t.ancestor (k + 1) p = some id) →
      t.moveWidget id (some p) index = .error (.cycle id p)) ∧
    (¬ (p = id ∨ ∃ k, t.ancestor (k + 1) p = some id) →
      ∃ changed t', t.moveWidget id (some p) index = .ok (changed, t') ∧
        t'.unplaced = (((t.detach id).2.setParent id (some p)).attach id p index).unplaced) := by
  obtain ⟨c, hc⟩ := container_of_containerAt hp
  have hnone : ¬ (t.get? id).isNone = true := by
    cases h : t.get? id <;> simp_all
  have hcheck : (p == id || t.hasAncestor id (t.widgets.length + 1)
      ((t.get? p).bind (·.parentId))) = true ↔ p = id ∨ ∃ k, t.ancestor (k + 1) p = some id := by
    rw [Bool.or_eq_true, beq_iff_eq]
    exact or_congr Iff.rfl (hasAncestor_parentOf_iff id p)
  constructor
  · intro hcyc
    unfold moveWidget
    simp only [hnone, hc, hcheck.2 hcyc]
    rfl
  · intro hcyc
    have hfalse : (p == id || t.hasAncestor id (t.widgets.length + 1)
        ((t.get? p).bind (·.parentId))) = false := by
      simpa using mt hcheck.1 hcyc
    have hs₃ := ((hs.detach id).sorted.setParent id (some p)).attach id p index
    unfold moveWidget
    generalize hd : t.detach id = d at hs₃ ⊢
    obtain ⟨old, t₁⟩ := d
    simp only [hnone, hc, hfalse, Bool.false_eq_true, if_false]
    -- the old parent is re-placed after the new one, unless they are the same
    cases old with
    | none => exact ⟨_, _, rfl, relayout_unplaced hs₃ p⟩
    | some o =>
      by_cases ho : o = p
      · subst ho
        simp only [bne_self_eq_false, Bool.false_eq_true, if_false]
        exact ⟨_, _, rfl, relayout_unplaced hs₃ o⟩
      · have hne : (some o != some p) = true := by simpa using ho
        simp only [hne, if_true]
        exact ⟨_, _, rfl, (relayout_unplaced (hs₃.relayout p) o).trans (relayout_unplaced hs₃ p)⟩

/-- The tree a move under `p` builds before re-placing, in any sorted tree: `id` names `p` as
parent and sits in `p`'s children at the place asked for, it is unlisted from its old parent or
the top level, and nothing else changes. -/
theorem moveUnder_views (hs : t.Sorted) {id p : String} (hid : (t.get? id).isSome)
    (hp : (t.get? p).isSome) (index : Option Nat) :
    let T := ((t.detach id).2.setParent id (some p)).attach id p index
    (∀ x, T.parentOf x = if id = x then some p else t.parentOf x) ∧
      T.kidsOf p = ((t.kidsOf p).filter (· != id)).insertIdx
        (min (index.getD ((t.kidsOf p).filter (· != id)).length)
          ((t.kidsOf p).filter (· != id)).length) id ∧
      (∀ x, x ≠ p → T.kidsOf x =
        if t.parentOf id = some x then (t.kidsOf x).filter (· != id) else t.kidsOf x) ∧
      T.roots = if t.parentOf id = none then t.roots.filter (· != id) else t.roots := by
  dsimp only
  have hd := hs.detach id
  generalize (t.detach id).2 = t₁ at hd ⊢
  obtain ⟨w, hw⟩ := Option.isSome_iff_exists.1 ((hd.isSome id).trans hid)
  have hs₂ := hd.sorted.setParent id (some p)
  obtain ⟨pw, hpw⟩ := Option.isSome_iff_exists.1
    (((isSome_setParent hd.sorted hw _ p).trans (hd.isSome p)).trans hp)
  refine ⟨fun x => ?_, ?_, fun x hx => ?_, ?_⟩
  · rw [parentOf_attach hs₂ hpw, parentOf_setParent hd.sorted hw, hd.parentOf]
  · -- unlisting from `p` first, when it was the old parent, changes nothing to the result
    rw [kidsOf_attach hs₂ hpw, if_pos rfl, kidsOf_setParent hd.sorted hw, hd.kidsOf]
    split <;> simp [List.filter_filter]
  · rw [kidsOf_attach hs₂ hpw, if_neg (Ne.symm hx), kidsOf_setParent hd.sorted hw, hd.kidsOf]
  · rw [roots_attach, roots_setParent, hd.roots]

/-- Moving a widget under a container of an acyclic tree is refused as a cycle exactly when the
container is the widget or has it as an ancestor. Otherwise the move succeeds and the tree stays
acyclic: the widget names the container as parent and sits in its children at the place asked
for (the end by default, and never past it), it is unlisted from its old parent's children or
from the top level, and no other widget changes parent. -/
theorem moving_under_a_container (hs : t.Sorted) (hacyc : t.Acyclic) {id p : String}
    (hid : (t.get? id).isSome) (hp : t.containerAt p = true) (index : Option Nat) :
    (t.moveWidget id (some p) index = .error (.cycle id p) ↔
      p = id ∨ ∃ k, t.ancestor (k + 1) p = some id) ∧
    (¬ (p = id ∨ ∃ k, t.ancestor (k + 1) p = some id) →
      ∃ changed t', t.moveWidget id (some p) index = .ok (changed, t') ∧
        t'.Acyclic ∧ t'.parentOf id = some p ∧ (∀ x, x ≠ id → t'.parentOf x = t.parentOf x) ∧
        t'.kidsOf p = ((t.kidsOf p).filter (· != id)).insertIdx
          (min (index.getD ((t.kidsOf p).filter (· != id)).length)
            ((t.kidsOf p).filter (· != id)).length) id ∧
        (∀ o, t.parentOf id = some o → o ≠ p → t'.kidsOf o = (t.kidsOf o).filter (· != id)) ∧
        (t.parentOf id = none → t'.roots = t.roots.filter (· != id))) := by
  obtain ⟨hrefused, hmoved⟩ := moveWidget_some hs hid hp index
  refine ⟨⟨fun herr => ?_, hrefused⟩, fun hcyc => ?_⟩
  · -- a move that is not refused succeeds, so an error is the refusal
    by_contra hcyc
    obtain ⟨changed, t', hok, -⟩ := hmoved hcyc
    rw [hok] at herr
    cases herr
  obtain ⟨changed, t', hok, hplaced⟩ := hmoved hcyc
  obtain ⟨hpar, hkids, hother, hroots⟩ :=
    moveUnder_views hs hid (isSome_of_containerAt hp) index
  have hpar' : ∀ x, t'.parentOf x = if id = x then some p else t.parentOf x := fun x => by
    rw [parentOf_of_unplaced_eq hplaced, hpar]
  -- `id` is no ancestor of `p`, `p` itself included
  have hnot : ∀ k, t.ancestor k p ≠ some id := by
    intro k hk
    cases k with
    | zero => exact hcyc (Or.inl (Option.some.inj hk))
    | succ k => exact hcyc (Or.inr ⟨k, hk⟩)
  refine ⟨changed, t', hok, hacyc.reparent hpar' hnot, by rw [hpar', if_pos rfl],
    fun x hx => by rw [hpar', if_neg (Ne.symm hx)], ?_, fun o ho hop => ?_, fun hnone => ?_⟩
  · rw [kidsOf_of_unplaced_eq hplaced, hkids]
  · rw [kidsOf_of_unplaced_eq hplaced, hother o hop, if_pos ho]
  · rw [← unplaced_roots, hplaced, unplaced_roots, hroots, if_pos hnone]

/-- Moving `a` from the row into the container `inner` beside it. -/
theorem moving_into_a_sibling :
    let t : Tree := { widgets := [{ id := "a", widgetType := "text", parentId := some "row" },
      { id := "inner", widgetType := "container", parentId := some "row" },
      { id := "row", widgetType := "container",
        props := [("children", .arr [.str "a", .str "inner"])] }], roots := ["row"] }
    t.Sorted ∧ t.Acyclic ∧ (t.get? "a").isSome ∧ t.containerAt "inner" = true ∧
      (t.moveWidget "a" (some "inner") none = .error (.cycle "a" "inner") ↔
        "inner" = "a" ∨ ∃ k, t.ancestor (k + 1) "inner" = some "a") ∧
      (¬ ("inner" = "a" ∨ ∃ k, t.ancestor (k + 1) "inner" = some "a") →
        ∃ changed t', t.moveWidget "a" (some "inner") none = .ok (changed, t') ∧
          t'.Acyclic ∧ t'.parentOf "a" = some "inner" ∧
          (∀ x, x ≠ "a" → t'.parentOf x = t.parentOf x) ∧
          t'.kidsOf "inner" = ((t.kidsOf "inner").filter (· != "a")).insertIdx
            (min (none.getD ((t.kidsOf "inner").filter (· != "a")).length)
              ((t.kidsOf "inner").filter (· != "a")).length) "a" ∧
          (∀ o, t.parentOf "a" = some o → o ≠ "inner" →
            t'.kidsOf o = (t.kidsOf o).filter (· != "a")) ∧
          (t.parentOf "a" = none → t'.roots = t.roots.filter (· != "a"))) := by
  intro t
  have hs : t.Sorted := by unfold t Tree.Sorted; decide
  have hacyc : t.Acyclic := by decide
  have hid : (t.get? "a").isSome := by decide
  have hp : t.containerAt "inner" = true := by decide
  exact ⟨hs, hacyc, hid, hp, moving_under_a_container hs hacyc hid hp none⟩

end Tree

end Storyboard
