import Storyboard.Proofs.Ancestry

/-!
# Refused edits

Every edit of a tree makes its checks on the tree as it was before anything changes: the
widget it names must be there (for an insert, must not be), the parent it names must be a
container that is there, and a move must not put a widget under itself or below it. A call is
refused exactly when one of these checks fails, with the error that check names
(`TreeEdit.Refused`), and a refused call leaves the tree as it was
(`refused_calls_leave_the_tree`).

* `Tree.Missing`: the refusal of every call that names a widget that is not there.
* `Tree.RefusesChildren`: why a widget cannot take children, which `Tree.container` reports.
* `moveWidget_ok`: a move whose checks pass goes through; re-placing never fails.
-/

namespace Storyboard

namespace Tree

/-- The widget of an id is not there, and the call naming it is refused as unknown. -/
def Missing (t : Tree) (id : String) (err : TreeError) : Prop :=
  t.get? id = none ∧ err = .unknownWidget id

/-- Why a widget cannot take children: it is not there, or it is no container. -/
def RefusesChildren (t : Tree) (p : String) (err : TreeError) : Prop :=
  t.Missing p err ∨ (t.get? p).isSome ∧ t.containerAt p = false ∧ err = .notAContainer p

theorem container_eq_error_iff (t : Tree) (p : String) (err : TreeError) :
    t.container p = .error err ↔ t.RefusesChildren p err := by
  unfold container RefusesChildren Missing containerAt
  cases hg : t.get? p with
  | none => simp [eq_comm]
  | some w => by_cases hc : w.isContainer <;> simp [hc, eq_comm]

theorem containerAt_eq_true_iff (t : Tree) (p : String) :
    t.containerAt p = true ↔ ∃ c, t.container p = .ok c := by
  unfold containerAt container
  cases t.get? p with
  | none => simp
  | some w => by_cases hc : w.isContainer <;> simp [hc]

end Tree

/-- Why a call is refused, read off the tree before it: each check it makes, in order, with
the error that check names. Re-placing is never refused. -/
def TreeEdit.Refused (t : Tree) : TreeEdit → TreeError → Prop
  | .insert w parent, err =>
    (t.get? w.id).isSome ∧ err = .duplicateId w.id ∨
      t.get? w.id = none ∧ ∃ p, parent = some p ∧ t.RefusesChildren p err
  | .remove id, err => t.Missing id err
  | .move id parent _, err =>
    t.Missing id err ∨ (t.get? id).isSome ∧ ∃ p, parent = some p ∧
      (t.RefusesChildren p err ∨
        t.containerAt p = true ∧ (p = id ∨ ∃ k, t.ancestor (k + 1) p = some id) ∧ err = .cycle id p)
  | .updateProps id _, err => t.Missing id err
  | .resize id _, err => t.Missing id err
  | .relayout _, _ => False
  | .relayoutAll, _ => False

namespace Tree

variable (t : Tree)

theorem insert_eq_error_iff (w : Widget) (parent : Option String) (err : TreeError) :
    t.insert w parent = .error err ↔ (TreeEdit.insert w parent).Refused t err := by
  unfold insert
  simp only [TreeEdit.Refused]
  by_cases hw : (t.get? w.id).isSome
  · have hn : t.get? w.id ≠ none := by simpa [Option.isSome_iff_ne_none] using hw
    simp [hw, hn, eq_comm]
  · have hn : t.get? w.id = none := by simpa using hw
    rw [if_neg hw]
    cases parent with
    | none => simp [hn, pure, Except.pure]
    | some p =>
      cases hc : t.container p with
      | error e => simp [hn, hc, ← container_eq_error_iff, bind, Except.bind]
      | ok c => simp [hn, hc, ← container_eq_error_iff, bind, Except.bind, pure, Except.pure]

theorem remove_eq_error_iff (id : String) (err : TreeError) :
    t.remove id = .error err ↔ t.Missing id err := by
  unfold remove Missing
  cases hg : t.get? id with
  | none => simp [eq_comm]
  | some w =>
    simp only [Option.isNone_some, Bool.false_eq_true, if_false, reduceCtorEq, false_and, iff_false]
    split <;> simp

theorem updateProps_eq_error_iff (id : String) (props : List (String × Json)) (err : TreeError) :
    t.updateProps id props = .error err ↔ t.Missing id err := by
  unfold updateProps Missing
  cases t.get? id <;> simp [eq_comm]

theorem resize_eq_error_iff (id : String) (size : Extent) (err : TreeError) :
    t.resize id size = .error err ↔ t.Missing id err := by
  unfold resize Missing
  cases t.get? id <;> simp [eq_comm]

/-! ## Moves -/

theorem moveWidget_of_missing {id : String} (hg : t.get? id = none) (parent : Option String)
    (index : Option Nat) : t.moveWidget id parent index = .error (.unknownWidget id) := by
  unfold moveWidget
  rw [hg]
  rfl

theorem moveWidget_of_container_error {id p : String} {w : Widget} (hg : t.get? id = some w)
    {e : TreeError} (hc : t.container p = .error e) (index : Option Nat) :
    t.moveWidget id (some p) index = .error e := by
  unfold moveWidget
  simp only [hg, hc, Option.isNone_some, Bool.false_eq_true, if_false]
  rfl

/-- The cycle check of a move, stated on the chain of parents above the new parent. -/
theorem cycle_check_iff (id p : String) :
    (p == id || t.hasAncestor id (t.widgets.length + 1) ((t.get? p).bind (·.parentId))) = true ↔
      p = id ∨ ∃ k, t.ancestor (k + 1) p = some id := by
  rw [Bool.or_eq_true, beq_iff_eq]
  exact or_congr Iff.rfl (hasAncestor_parentOf_iff id p)

theorem moveWidget_of_cycle {id p : String} {w c : Widget} (hg : t.get? id = some w)
    (hc : t.container p = .ok c) (hcyc : p = id ∨ ∃ k, t.ancestor (k + 1) p = some id)
    (index : Option Nat) : t.moveWidget id (some p) index = .error (.cycle id p) := by
  unfold moveWidget
  simp only [hg, hc, (cycle_check_iff t id p).2 hcyc, Option.isNone_some, Bool.false_eq_true,
    if_false]
  rfl

/-- A move whose checks pass goes through: what follows them only unlists, relinks and
re-places. -/
theorem moveWidget_ok {id : String} {w : Widget} (hg : t.get? id = some w) (parent : Option String)
    (hpass : ∀ p, parent = some p →
      (∃ c, t.container p = .ok c) ∧ ¬ (p = id ∨ ∃ k, t.ancestor (k + 1) p = some id))
    (index : Option Nat) : ∃ r, t.moveWidget id parent index = .ok r := by
  unfold moveWidget
  cases parent with
  | none =>
    simp only [hg, Option.isNone_some, Bool.false_eq_true, if_false]
    split <;> (try split) <;> exact ⟨_, rfl⟩
  | some p =>
    obtain ⟨⟨c, hc⟩, hcyc⟩ := hpass p rfl
    have hcheck := mt (cycle_check_iff t id p).1 hcyc
    simp only [Bool.not_eq_true] at hcheck
    simp only [hg, hc, hcheck, Option.isNone_some, Bool.false_eq_true, if_false]
    split <;> (try split) <;> exact ⟨_, rfl⟩

theorem moveWidget_eq_error_iff (id : String) (parent : Option String) (index : Option Nat)
    (err : TreeError) :
    t.moveWidget id parent index = .error err ↔ (TreeEdit.move id parent index).Refused t err := by
  simp only [TreeEdit.Refused, Missing]
  cases hg : t.get? id with
  | none =>
    rw [moveWidget_of_missing t hg, Except.error.injEq]
    simp only [Option.isSome_none, Bool.false_eq_true, false_and, or_false, true_and]
    exact eq_comm
  | some w =>
    simp only [reduceCtorEq, false_and, false_or, Option.isSome_some, true_and]
    cases parent with
    | none =>
      obtain ⟨r, hr⟩ := moveWidget_ok t hg none (fun _ h => by cases h) index
      simp [hr]
    | some p =>
      simp only [Option.some.injEq, exists_eq_left']
      cases hc : t.container p with
      | error e =>
        -- the new parent is refused, so it is no container there
        have hca : t.containerAt p = false := by
          rw [← Bool.not_eq_true, containerAt_eq_true_iff, hc]
          simp
        rw [moveWidget_of_container_error t hg hc, ← container_eq_error_iff, hc]
        simp [hca]
      | ok c =>
        have hca : t.containerAt p = true := (containerAt_eq_true_iff t p).2 ⟨c, hc⟩
        rw [← container_eq_error_iff, hc]
        by_cases hcyc : p = id ∨ ∃ k, t.ancestor (k + 1) p = some id
        · rw [moveWidget_of_cycle t hg hc hcyc, Except.error.injEq]
          simp only [reduceCtorEq, false_or, hca, hcyc, true_and]
          exact eq_comm
        · obtain ⟨r, hr⟩ := moveWidget_ok t hg (some p)
            (fun q hq => by cases hq; exact ⟨⟨c, hc⟩, hcyc⟩) index
          simp [hr, hcyc]

end Tree

theorem TreeEdit.run_eq_error_iff (t : Tree) (e : TreeEdit) (err : TreeError) :
    e.run t = .error err ↔ e.Refused t err := by
  cases e with
  | insert w parent => exact t.insert_eq_error_iff w parent err
  | remove id => exact t.remove_eq_error_iff id err
  | move id parent index => exact t.moveWidget_eq_error_iff id parent index err
  | updateProps id props => exact t.updateProps_eq_error_iff id props err
  | resize id size => exact t.resize_eq_error_iff id size err
  | relayout id => simp [TreeEdit.run, TreeEdit.Refused]
  | relayoutAll => simp [TreeEdit.run, TreeEdit.Refused]

end Storyboard
