import Mathlib.Data.String.Basic
import Storyboard.Proofs.Batches
import Storyboard.Proofs.Reviewed

/-!
# Writes to the state are all or nothing

A state update and a recalculation write one value at one target, `scope.path`. Everything
that can go wrong is found before the store is touched: a target that names no scope and
path, an operation that does not exist, and a local write with no widget instance. Such a run
fails with that reason and leaves the store exactly as it was. A run that gets past them
records exactly one change, the target and the value written, sends no signal, and changes
the store only in the root the target names: the app state, the screen state, or the local
state of the caller's widget instance (`{}` when it had none), which becomes the value written
at the path.

The target is described by `Target.Names` (a scope name without a dot, a dot, a non-empty
path), and the change to the store by `Store.WritesRoot`, through the three roots a store
shows. Main statement: `target_writes_are_atomic`.

The proof follows a run step by step. Splitting the target and choosing the operation only
read; evaluating an operand or a formula only adds notes; so the store reaches `writeTarget`
unchanged, and `Store.write?` either refuses a local write without an instance or rewrites one
root (`Store.write?_writesRoot`).
-/

namespace Storyboard

/-! ## Targets -/

/-- A target names a scope and a path in it: the scope's name, which has no dot, a dot, and a
path that is not empty. -/
def Target.Names (target : String) (scope : Scope) (path : String) : Prop :=
  ∃ name, target = name ++ "." ++ path ∧ '.' ∉ name.toList ∧ path ≠ "" ∧ Scope.ofName? name = some scope

/-- Splitting a target finds a scope and a path exactly when the target names them. -/
theorem splitTarget_eq_ok_iff {target path : String} {scope : Scope} :
    splitTarget target = .ok (scope, path) ↔ Target.Names target scope path := by
  constructor
  · intro h
    dsimp only [splitTarget] at h
    -- the text after the scope's name starts at the first dot
    have hdrop : target.toList.drop (target.toList.takeWhile (· != '.')).length =
        target.toList.dropWhile (· != '.') := by
      have := @List.drop_left Char (target.toList.takeWhile (· != '.')) (target.toList.dropWhile (· != '.'))
      rwa [List.takeWhile_append_dropWhile] at this
    rw [hdrop] at h
    split at h
    · rename_i x p rest hd
      split at h
      · rename_i s hs
        simp only [Except.ok.injEq, Prod.mk.injEq] at h
        obtain ⟨rfl, rfl⟩ := h
        have hx : x = '.' := by
          have := List.head_dropWhile_not (· != '.') (l := target.toList) (by simp [hd])
          simpa [hd] using this
        subst hx
        refine ⟨String.ofList (target.toList.takeWhile (· != '.')), ?_, ?_, by simp, by simpa using hs⟩
        · apply String.ext
          simp only [String.toList_append, String.toList_ofList]
          conv => lhs; rw [← List.takeWhile_append_dropWhile (p := (· != '.')) (l := target.toList)]
          rw [hd]
          simp
        · intro hmem
          rw [String.toList_ofList] at hmem
          have := List.all_eq_true.1 (List.all_takeWhile (p := (· != '.')) (l := target.toList)) _ hmem
          simp at this
      · exact absurd h (by simp)
    · exact absurd h (by simp)
  · rintro ⟨name, rfl, hname, hpath, hs⟩
    obtain ⟨c, rest, hcr⟩ : ∃ c rest, path.toList = c :: rest := by
      cases hp : path.toList with
      | nil => exact absurd (String.toList_eq_nil_iff.1 hp) hpath
      | cons c rest => exact ⟨c, rest, rfl⟩
    have hall : ∀ x ∈ name.toList, (x != '.') = true := by
      intro x hx
      have : x ≠ '.' := fun h => hname (h ▸ hx)
      simpa using this
    have htake : (name ++ "." ++ path).toList.takeWhile (· != '.') = name.toList := by
      rw [String.toList_append, String.toList_append, List.append_assoc,
        List.takeWhile_append_of_pos hall]
      simp
    have hdrop' : (name ++ "." ++ path).toList.drop name.toList.length = '.' :: c :: rest := by
      rw [String.toList_append, String.toList_append, List.append_assoc, List.drop_left, hcr]
      rfl
    dsimp only [splitTarget]
    rw [htake, hdrop']
    simp only [String.ofList_toList, hs]
    rw [← hcr, String.ofList_toList]

/-- A target names at most one scope and path. -/
theorem Target.Names.unique {target path path' : String} {scope scope' : Scope}
    (h : Target.Names target scope path) (h' : Target.Names target scope' path') :
    scope = scope' ∧ path = path' := by
  have e := (splitTarget_eq_ok_iff.2 h).symm.trans (splitTarget_eq_ok_iff.2 h')
  simp only [Except.ok.injEq, Prod.mk.injEq] at e
  exact e

/-- A target refuses a caller's write when it names no scope and path, or names local state
and the caller has no widget instance. -/
def Target.Refuses (target : String) (c : Caller) : Prop :=
  (∀ scope path, ¬ Target.Names target scope path) ∨
    ((∃ path, Target.Names target .widget path) ∧ c.instanceId = none)

/-- A target that names a scope and a path refuses a write only into local state without an
instance. -/
theorem Target.refuses_iff {target path : String} {scope : Scope} (h : Target.Names target scope path)
    (c : Caller) : Target.Refuses target c ↔ scope = .widget ∧ c.instanceId = none := by
  constructor
  · rintro (hno | ⟨⟨path', h'⟩, hi⟩)
    · exact absurd h (hno scope path)
    · exact ⟨(h.unique h').1, hi⟩
  · rintro ⟨rfl, hi⟩
    exact .inr ⟨⟨path, h⟩, hi⟩

/-! ## Writing one root -/

namespace Store

/-- `s'` is `s` with `v` written at `path` under the root that `scope` names for the instance
`inst`: that root becomes the write of `v` into it, and every other root reads as before. -/
structure WritesRoot (s s' : Store) (scope : Scope) (inst : Option String) (path : String) (v : Json) :
    Prop where
  /-- The app state is rewritten for an app target and kept otherwise. -/
  app : s'.app = if scope = .app then s.app.setPath path v else s.app
  /-- The screen state is rewritten for a screen target and kept otherwise. -/
  screen : s'.screen = if scope = .screen then s.screen.setPath path v else s.screen
  /-- The local state of the instance written, `{}` when it had none, is rewritten; every
  other instance keeps its own. -/
  widgets : ∀ id, Json.lookup id s'.widgets =
    if scope = .widget ∧ inst = some id then
      some (((Json.lookup id s.widgets).getD .empty).setPath path v)
    else Json.lookup id s.widgets

/-- A write that is not refused rewrites the one root its scope names. -/
theorem write?_writesRoot {s s' : Store} {scope : Scope} {inst : Option String} {path : String}
    {v : Json} (h : s.write? scope inst path v = some s') : s.WritesRoot s' scope inst path v := by
  cases scope with
  | app =>
    simp only [write?, Option.some.injEq] at h
    subst h
    exact ⟨by simp, by simp, fun id => by simp⟩
  | screen =>
    simp only [write?, Option.some.injEq] at h
    subst h
    exact ⟨by simp, by simp, fun id => by simp⟩
  | widget =>
    cases inst with
    | none => simp [write?] at h
    | some i =>
      simp only [write?, Option.some.injEq] at h
      subst h
      refine ⟨by simp, by simp, fun id => ?_⟩
      by_cases hid : id = i
      · subst hid
        simp [Json.lookup_setField_self]
      · simp [Json.lookup_setField_ne _ _ hid, Ne.symm hid]

end Store

/-! ## The steps of a write -/

/-- Writing at a target: a refusal when the target refuses the caller, leaving the world as it
was, or the write, which rewrites the one root the target names. -/
theorem writeTarget_cases (target : String) (v : Json) (c : Caller) (w : World) :
    (∃ what, writeTarget target v c w = (.fail (.invalidScope what), w) ∧ Target.Refuses target c) ∨
    (∃ scope path, Target.Names target scope path ∧ ¬ Target.Refuses target c ∧
      (writeTarget target v c w).1 = .write target v ∧
      w.store.WritesRoot (writeTarget target v c w).2.store scope c.instanceId path v) := by
  cases hs : splitTarget target with
  | error f =>
    obtain ⟨what, rfl⟩ := splitTarget_error hs
    refine .inl ⟨what, by simp [writeTarget, hs], .inl fun scope path hn => ?_⟩
    rw [← splitTarget_eq_ok_iff, hs] at hn
    exact absurd hn (by simp)
  | ok sp =>
    obtain ⟨scope, path⟩ := sp
    have hn : Target.Names target scope path := splitTarget_eq_ok_iff.1 hs
    cases hw : w.store.write? scope c.instanceId path v with
    | none =>
      exact .inl ⟨"local (no widget instance in context)", by simp [writeTarget, hs, hw],
        (Target.refuses_iff hn c).2 (Store.write?_eq_none hw)⟩
    | some s' =>
      have hrun : writeTarget target v c w = (.write target v, { w with store := s' }) := by
        simp [writeTarget, hs, hw]
      -- a local write by a caller with an instance is never refused
      have hok : ¬ Target.Refuses target c := fun hr => by
        obtain ⟨rfl, hi⟩ := (Target.refuses_iff hn c).1 hr
        simp [Store.write?, hi] at hw
      exact .inr ⟨scope, path, hn, hok, by rw [hrun], by rw [hrun]; exact Store.write?_writesRoot hw⟩

/-- Computing an operand keeps the store. -/
@[simp] theorem StateUpdate.operand_store (p : StateUpdate) (c : Caller) (w : World) :
    (p.operand c w).2.store = w.store := by
  unfold StateUpdate.operand
  split
  · rename_i e _
    have h := (World.agree_eval (w := w) c e).store
    rcases hw : w.eval c e with ⟨v, w₁⟩
    rw [hw] at h
    exact h
  · rfl

/-- A state update with a target that splits: an unknown operation is refused with the world
as it was, and a known one computes its value, touching no state, and writes it. -/
theorem StateUpdate.run_of_split {p : StateUpdate} {scope : Scope} {path : String}
    (hs : splitTarget p.target = .ok (scope, path)) (c : Caller) (w : World) :
    (p.operation ∉ Review.operations →
      p.run c w = (.fail (.unsupportedOperation p.operation), w)) ∧
    (p.operation ∈ Review.operations →
      ∃ v w₁, w₁.store = w.store ∧ p.run c w = writeTarget p.target v c w₁) := by
  constructor
  · intro hop
    simp only [Review.operations, List.mem_cons, List.not_mem_nil, or_false, not_or] at hop
    obtain ⟨h1, h2, h3, h4, h5⟩ := hop
    -- the five facts discharge the conditions of the fallback branch of the operation match
    simp only [StateUpdate.run, hs]
  · intro hop
    simp only [Review.operations, List.mem_cons, List.not_mem_nil, or_false] at hop
    unfold StateUpdate.run
    simp only [hs]
    rcases hop with h | h | h | h | h <;> simp only [h] <;> exact ⟨_, _, by simp, rfl⟩

/-- A state update whose target does not split is refused for it, with the world as it was. -/
theorem StateUpdate.run_of_error {p : StateUpdate} {f : Failure} (hs : splitTarget p.target = .error f)
    (c : Caller) (w : World) : p.run c w = (.fail f, w) := by
  simp [StateUpdate.run, hs]

/-! ## Atomicity -/

/-- An action kind names an operation that does not exist: a state update can. -/
def ActionKind.UnknownOperation : ActionKind → Prop
  | .stateUpdate p => p.operation ∉ Review.operations
  | _ => False

/-- The two ways a write at a target can go, from `w` to the outcome `r` and the world `w'`:
refused before the store is touched, for a reason the target, the caller or the operation
gives; or one change recorded and one root rewritten. -/
def WriteGoes (target : String) (k : ActionKind) (c : Caller) (w : World) (r : Outcome) (w' : World) :
    Prop :=
  (∃ f, r = Outcome.failure f ∧ w'.store = w.store ∧
    ((∃ what, f = .invalidScope what) ∨ ∃ op, f = .unsupportedOperation op) ∧
    (Target.Refuses target c ∨ k.UnknownOperation)) ∨
  (∃ scope path v, r = Outcome.ok.withChange target v ∧ Target.Names target scope path ∧
    ¬ (Target.Refuses target c ∨ k.UnknownOperation) ∧
    w.store.WritesRoot w'.store scope c.instanceId path v)

/-- A run of a state update or a recalculation goes one of the two ways. -/
theorem runAction_writeGoes (hub : Hub) (em : Option Nat) (id : String) {k : ActionKind}
    {target : String} (hk : k.target? = some target) (c : Caller) (w : World) {r : Outcome}
    {w' : World} (hrun : hub.runAction em (.mk id k) c w = (r, w')) : WriteGoes target k c w r w' := by
  -- what follows the computation of the value: the write, from a world whose store is `w`'s
  have hwrite : ∀ (v : Json) (w₁ : World), w₁.store = w.store → ¬ k.UnknownOperation →
      (writeTarget target v c w₁).1.outcome = r → (writeTarget target v c w₁).2 = w' →
      WriteGoes target k c w r w' := by
    intro v w₁ hstore hknown hr hw
    rcases writeTarget_cases target v c w₁ with ⟨what, he, hrefuse⟩ | ⟨scope, path, hn, hok, hs, hroot⟩
    · rw [he] at hr hw
      exact .inl ⟨_, hr.symm, hw ▸ hstore, .inl ⟨what, rfl⟩, .inl hrefuse⟩
    · rw [hs] at hr
      refine .inr ⟨scope, path, v, hr.symm, hn, ?_, hw ▸ hstore ▸ hroot⟩
      rintro (h | h)
      · exact hok h
      · exact hknown h
  cases k with
  | stateUpdate p =>
    simp only [ActionKind.target?, Option.some.injEq] at hk
    subst hk
    rw [Hub.runAction] at hrun
    simp only [Prod.mk.injEq] at hrun
    obtain ⟨hr, hw⟩ := hrun
    cases hs : splitTarget p.target with
    | error f =>
      rw [StateUpdate.run_of_error hs] at hr hw
      refine .inl ⟨f, hr.symm, hw ▸ rfl, .inl (splitTarget_error hs), .inl (.inl fun scope path hn => ?_)⟩
      rw [← splitTarget_eq_ok_iff, hs] at hn
      exact absurd hn (by simp)
    | ok sp =>
      obtain ⟨scope, path⟩ := sp
      by_cases hop : p.operation ∈ Review.operations
      · obtain ⟨v, w₁, hstore, he⟩ := (StateUpdate.run_of_split hs c w).2 hop
        rw [he] at hr hw
        exact hwrite v w₁ hstore (fun h => h hop) hr hw
      · rw [(StateUpdate.run_of_split hs c w).1 hop] at hr hw
        exact .inl ⟨_, hr.symm, hw ▸ rfl, .inr ⟨_, rfl⟩, .inr hop⟩
  | recalculate t formula =>
    simp only [ActionKind.target?, Option.some.injEq] at hk
    subst hk
    rw [Hub.runAction] at hrun
    rcases he : w.eval c formula with ⟨v, w₁⟩
    have hstore : w₁.store = w.store := by rw [← (World.agree_eval (w := w) c formula).store, he]
    simp only [he, Prod.mk.injEq] at hrun
    exact hwrite _ w₁ hstore (fun h => h) hrun.1 hrun.2
  | _ => simp [ActionKind.target?] at hk

/-- A run of a state update or a recalculation fails exactly when its target refuses the
caller (it names no scope and path, or names local state and the caller has no widget
instance) or its operation is unknown. A failed run is refused for one of these reasons and
leaves the store as it was. A run that succeeds records the one change of its target and no
signal, and the store changes only in the root the target names, which becomes the value
written at the target's path. -/
theorem target_writes_are_atomic (hub : Hub) (em : Option Nat) (id : String) {k : ActionKind}
    {target : String} (hk : k.target? = some target) (c : Caller) (w : World) {r : Outcome}
    {w' : World} (hrun : hub.runAction em (.mk id k) c w = (r, w')) :
    (r.success = false ↔ Target.Refuses target c ∨ k.UnknownOperation) ∧
    (r.success = false → w'.store = w.store ∧
      ∃ f, r = Outcome.failure f ∧ ((∃ what, f = .invalidScope what) ∨ ∃ op, f = .unsupportedOperation op)) ∧
    (r.success = true → ∃ scope path v, Target.Names target scope path ∧
      r = Outcome.ok.withChange target v ∧ w.store.WritesRoot w'.store scope c.instanceId path v) := by
  rcases runAction_writeGoes hub em id hk c w hrun with
    ⟨f, rfl, hstore, hf, hwhy⟩ | ⟨scope, path, v, rfl, hn, hok, hroot⟩
  · exact ⟨⟨fun _ => hwhy, fun _ => rfl⟩, fun _ => ⟨hstore, f, rfl, hf⟩, fun h => absurd h (by simp [Outcome.failure])⟩
  · exact ⟨⟨fun h => absurd h (by simp [Outcome.withChange, Outcome.ok]), fun h => absurd h hok⟩,
      fun h => absurd h (by simp [Outcome.withChange, Outcome.ok]), fun _ => ⟨scope, path, v, hn, rfl, hroot⟩⟩

/-- Recalculating `app.x` from an empty store, as a run of the atomic write. -/
theorem recalculating_app_x_is_atomic :
    (ActionKind.recalculate "app.x" "1").target? = some "app.x" ∧
    ((({} : Hub).runAction none (.mk "a" (.recalculate "app.x" "1")) {} {}).1.success = false ↔
        Target.Refuses "app.x" {} ∨ (ActionKind.recalculate "app.x" "1").UnknownOperation) ∧
    ((({} : Hub).runAction none (.mk "a" (.recalculate "app.x" "1")) {} {}).1.success = false →
      (({} : Hub).runAction none (.mk "a" (.recalculate "app.x" "1")) {} {}).2.store = ({} : World).store ∧
      ∃ f, (({} : Hub).runAction none (.mk "a" (.recalculate "app.x" "1")) {} {}).1 = Outcome.failure f ∧
        ((∃ what, f = .invalidScope what) ∨ ∃ op, f = .unsupportedOperation op)) ∧
    ((({} : Hub).runAction none (.mk "a" (.recalculate "app.x" "1")) {} {}).1.success = true →
      ∃ scope path v, Target.Names "app.x" scope path ∧
        (({} : Hub).runAction none (.mk "a" (.recalculate "app.x" "1")) {} {}).1 =
          Outcome.ok.withChange "app.x" v ∧
        ({} : World).store.WritesRoot (({} : Hub).runAction none (.mk "a" (.recalculate "app.x" "1")) {} {}).2.store
          scope ({} : Caller).instanceId path v) :=
  ⟨rfl, target_writes_are_atomic {} none "a" rfl {} {} rfl⟩

end Storyboard
