import Storyboard.Proofs.Absorb
import Storyboard.Preview.Session

/-!
# The steps of a run

A run builds its outcome as it goes, absorbing the outcome of each nested action, event
and callback into the one of its caller. This file reads the same run a second way: it
lists the primitive steps the run takes, in the order it takes them, and keeps nothing
else. The steps are every write or its failure, every signal to the shell, and every
failure of an unknown action type, of a refused or failed request, and of an event fired
too deep. An `emit_event` signal comes before the steps of the events it fires, and the
failure of a request before the steps of its error callbacks. Where the run stops early
the reading stops at the same place, decided by the steps alone: an atomic batch, the
actions of an event and a list of listeners stop after a part whose steps hold a failure,
and a trigger stops after an event whose steps hold the signal to stop propagation.

Main statement (`runs_fold_their_steps`): for every action, event and session entry
point, the outcome of the run agrees with the fold of `Outcome.absorb` over its steps,
starting from `Outcome.ok`, in success, changes, error and signals. Hence it fails
exactly when it has an error, and that error is the message of the first failure.

The proof follows the recursion of the run: one lemma per function of the mutual block,
each by cases on what the function does, with the same termination measure. What makes
each case go through is `Step.absorb_fold`: absorbing the fold of a part is folding on.
-/

namespace Storyboard

/-- Whether a step is the signal to stop propagation. -/
def Step.stops : Step → Bool
  | .signal e => e.stops
  | _ => false

namespace Hub

mutual

/-- The steps of one action; `em` is the depth at which the events it fires run, if any. -/
def actionSteps (hub : Hub) (em : Option Nat) (a : Action) (c : Caller) (w : World) :
    List Step × World :=
  match a with
  | .mk _ kind =>
    match kind with
    | .stateUpdate p =>
      let (s, w) := p.run c w
      ([s], w)
    | .recalculate target formula =>
      let (v, w) := w.eval c formula
      let (s, w) := writeTarget target (v.getD .null) c w
      ([s], w)
    | .navigation how target params => ([.signal (.navigate how target params)], w)
    | .toast m v d =>
      let (e, w) := toastEffect m v d c w
      ([.signal e], w)
    | .emitEvent name payload =>
      match em with
      | some d =>
        let (ss, w) := hub.eventSteps d (hub.listeners name) (c.withParams payload) w
        (.signal (.emitEvent name payload) :: ss, w)
      | none => ([.signal (.emitEvent name payload)], w)
    | .condition cond t f =>
      let (passed, w) := w.holds c cond
      if passed then hub.listSteps em false t c w
      else hub.listSteps em false f c w
    | .batch as atomic => hub.listSteps em atomic as c w
    | .apiCall r onSuccess onError =>
      match checkDomain (r.address c w.store) (r.allowedDomains.getD hub.allowed) with
      | .error f => ([.fail f], w)
      | .ok () =>
        let (reply, wire) := w.wire.send ⟨r.method, r.address c w.store, r.headers, r.body⟩
        let w := { w with wire := wire }
        match reply with
        | .answer resp =>
          if resp.isSuccess then
            let sc := c.withParam "response" resp.body
            let (_, w) := match r.mapResponse with
              | some e => w.eval sc e
              | none => (some resp.body, w)
            hub.listSteps em false onSuccess sc w
          else
            let err := Json.ofFields [("status", .int resp.status),
              ("statusText", .str resp.statusText), ("body", resp.body)]
            let (ss, w) := hub.listSteps em false onError (c.withParam "error" err) w
            (.fail (.http resp.status resp.statusText) :: ss, w)
        | .broken message =>
          let f := Failure.transport message
          let (ss, w) := hub.listSteps em false onError
            (c.withParam "error" (Json.ofFields [("message", .str f.message)])) w
          (.fail f :: ss, w)
    | .openWidget id => ([.signal (.openWidget id)], w)
    | .closeWidget id => ([.signal (.closeWidget id)], w)
    | .stopPropagation => ([.signal .stopPropagation], w)
    | .unsupported t _ => ([.fail (.unsupportedActionType t)], w)
termination_by (hub.budget em, 2, sizeOf a)

/-- The steps of actions run in order; with `stop`, none after the first action whose
steps hold a failure. -/
def listSteps (hub : Hub) (em : Option Nat) (stop : Bool) (as : List Action) (c : Caller)
    (w : World) : List Step × World :=
  match as with
  | [] => ([], w)
  | a :: rest =>
    let (ss, w) := hub.actionSteps em a c w
    if stop && ss.any Step.isFailure then (ss, w)
    else
      let (tt, w) := hub.listSteps em stop rest c w
      (ss ++ tt, w)
termination_by (hub.budget em, 2, sizeOf as)

/-- The steps of events dispatched in order at depth `d`, none after the first event
whose steps hold a failure. -/
def eventSteps (hub : Hub) (d : Nat) (events : List EventDef) (c : Caller) (w : World) :
    List Step × World :=
  match events with
  | [] => ([], w)
  | e :: rest =>
    let (ss, w) := hub.dispatchSteps d e c w
    if ss.any Step.isFailure then (ss, w)
    else
      let (tt, w) := hub.eventSteps d rest c w
      (ss ++ tt, w)
termination_by (hub.maxDepth + 1 - d, 1, events.length)

/-- The steps of dispatching one event at depth `d`; the journal line it leaves is read
off its steps. -/
def dispatchSteps (hub : Hub) (d : Nat) (e : EventDef) (c : Caller) (w : World) :
    List Step × World :=
  if _h : hub.maxDepth ≤ d then
    let f := Failure.depthExceeded d hub.maxDepth
    ([.fail f], w.record (entry e .failed (some f.message) d))
  else if !e.isEnabled then ([], w.record (entry e .disabled none d))
  else
    let (pass, w) := w.guard c e
    if !pass then ([], w.record (entry e .skipped none d))
    else
      let (ss, w) := hub.listSteps (some (d + 1)) true e.actions c w
      let failed := ss.any Step.isFailure
      (ss, w.record (entry e (if failed then .failed else .executed)
        ((ss.findSome? Step.failure?).map Failure.message) d))
termination_by (hub.maxDepth + 1 - d, 0, 0)
decreasing_by exact Prod.Lex.left _ _ (by simp only [budget]; omega)

end

/-- The steps of events dispatched at depth zero in order, none after the first event
whose steps hold the signal to stop propagation. -/
def triggerSteps (hub : Hub) (events : List EventDef) (c : Caller) (w : World) :
    List Step × World :=
  match events with
  | [] => ([], w)
  | e :: rest =>
    let (ss, w) := hub.dispatchSteps 0 e c w
    if ss.any Step.stops then (ss, w)
    else
      let (tt, w) := hub.triggerSteps rest c w
      (ss ++ tt, w)

end Hub

namespace Session

/-- The steps of firing a trigger. -/
def triggerSteps (s : Session) (on : TriggerKind) (elementId : Option String) (c : Caller) :
    List Step :=
  (s.hub.triggerSteps (matchingEvents s.hub.registry on elementId) c s.world).1

/-- The steps of loading the screen. -/
def loadSteps (s : Session) (c : Caller) : List Step := s.reloaded.triggerSteps .load none c

/-- The steps of firing a custom event. -/
def fireCustomSteps (s : Session) (name : String) (payload : Option Json) : List Step :=
  (s.hub.eventSteps 0 (s.hub.listeners name) { params := payload } s.world).1

/-- The steps of dispatching the event of an id, if there is one. -/
def fireEventSteps (s : Session) (id : String) (c : Caller) : Option (List Step) :=
  (s.hub.registry.find? (·.id == id)).map fun e => (s.hub.dispatchSteps 0 e c s.world).1

end Session

/-- An outcome folds a list of steps when, data aside, it is their fold from
`Outcome.ok`: the same success, changes, error and signals. -/
def Outcome.Folds (r : Outcome) (ss : List Step) : Prop := r.sansData = Step.fold Outcome.ok ss

theorem Outcome.sansData_ok : Outcome.ok.sansData = Outcome.ok := rfl

theorem Outcome.sansData_failure (f : Failure) : (Outcome.failure f).sansData = Outcome.failure f :=
  rfl

theorem Step.fold_single (s : Step) : Step.fold Outcome.ok [s] = s.outcome := by
  rw [Step.fold_cons, Step.fold_nil, Outcome.ok_absorb (Step.sorted_outcome s)]

/-- A primitive action is its one step. -/
theorem Step.folds_single (s : Step) : s.outcome.Folds [s] := by
  rw [Outcome.Folds, Step.sansData_outcome, Step.fold_single]

theorem Step.any_stops (ss : List Step) :
    (ss.filterMap Step.signal?).any Effect.stops = ss.any Step.stops := by
  induction ss with
  | nil => rfl
  | cons s ss ih => cases s <;> simp [Step.signal?, Step.stops, List.filterMap_cons, ih]

/-- A folded outcome succeeds exactly when none of its steps failed. -/
theorem Outcome.Folds.success {r : Outcome} {ss : List Step} (h : r.Folds ss) :
    r.success = !ss.any Step.isFailure := by
  have hs : r.success = (Step.fold Outcome.ok ss).success := by
    rw [← Outcome.sansData_success]
    exact congrArg Outcome.success h
  rw [hs, Step.fold_success]
  rfl

/-- The error of a folded outcome is the message of the first failure among its steps. -/
theorem Outcome.Folds.error {r : Outcome} {ss : List Step} (h : r.Folds ss) :
    r.error = (ss.findSome? Step.failure?).map Failure.message := by
  have he : r.error = (Step.fold Outcome.ok ss).error := by
    rw [← Outcome.sansData_error]
    exact congrArg Outcome.error h
  rw [he, Step.fold_error]
  rfl

/-- A folded outcome fails exactly when it carries an error. -/
theorem Outcome.Folds.success_eq_false_iff {r : Outcome} {ss : List Step} (h : r.Folds ss) :
    r.success = false ↔ r.error.isSome := by
  have hs : r.success = (Step.fold Outcome.ok ss).success := by
    rw [← Outcome.sansData_success]
    exact congrArg Outcome.success h
  have he : r.error = (Step.fold Outcome.ok ss).error := by
    rw [← Outcome.sansData_error]
    exact congrArg Outcome.error h
  rw [hs, he]
  exact Step.fold_ok_success_eq_false_iff ss

/-- Absorbing an outcome that folds some steps folds them on from the accumulator. -/
theorem Outcome.Folds.absorb {acc r : Outcome} {ss : List Step} (hacc : acc.Sorted)
    (h : r.Folds ss) : (acc.absorb r).sansData = Step.fold acc.sansData ss := by
  rw [Outcome.sansData_absorb, h, Step.absorb_fold_ok _ (Outcome.sorted_sansData hacc)]

/-- A folded outcome signals to stop exactly when one of its steps is that signal. -/
theorem Outcome.Folds.stopsPropagation {r : Outcome} {ss : List Step} (h : r.Folds ss) :
    r.stopsPropagation = ss.any Step.stops := by
  have he : r.effects = (Step.fold Outcome.ok ss).effects := by
    rw [← Outcome.sansData_effects]
    exact congrArg Outcome.effects h
  rw [Outcome.stopsPropagation, he, Step.fold_effects, ← Step.any_stops]
  rfl

namespace Hub

mutual

/-- Running an action folds its steps and leaves the world its steps leave. -/
theorem runAction_folds (hub : Hub) (em : Option Nat) (a : Action) (c : Caller) (w : World) :
    (hub.runAction em a c w).1.Folds (hub.actionSteps em a c w).1 ∧
      (hub.runAction em a c w).2 = (hub.actionSteps em a c w).2 := by
  obtain ⟨id, kind⟩ := a
  cases kind with
  | stateUpdate p =>
    rw [runAction, actionSteps]
    exact ⟨Step.folds_single _, rfl⟩
  | recalculate target formula =>
    rw [runAction, actionSteps]
    exact ⟨Step.folds_single _, rfl⟩
  | navigation how target params =>
    rw [runAction, actionSteps]
    exact ⟨Step.folds_single (.signal (.navigate how target params)), rfl⟩
  | toast m v d =>
    rw [runAction, actionSteps]
    exact ⟨Step.folds_single (.signal (toastEffect m v d c w).1), rfl⟩
  | emitEvent name payload =>
    cases em with
    | none =>
      rw [runAction, actionSteps]
      exact ⟨Step.folds_single (.signal (.emitEvent name payload)), rfl⟩
    | some d =>
      obtain ⟨hf, hw⟩ :=
        dispatchAll_folds hub d (hub.listeners name) (c.withParams payload) w Outcome.sorted_ok
      rw [runAction, actionSteps]
      refine ⟨?_, hw⟩
      -- the signal is the first step, and the events it fires follow it
      have hsig : (Outcome.ok.withEffect (.emitEvent name payload)).sansData
          = (Step.signal (.emitEvent name payload)).outcome := rfl
      show ((Outcome.ok.withEffect _).absorb _).sansData = Step.fold Outcome.ok (.signal _ :: _)
      rw [Outcome.sansData_absorb, hf, Outcome.sansData_ok, hsig,
        Step.absorb_fold_ok _ (Step.sorted_outcome _), Step.fold_cons,
        Outcome.ok_absorb (Step.sorted_outcome _)]
  | condition cond t f =>
    rw [runAction, actionSteps]
    -- both readings ask the condition once, then run the same branch
    rcases hh : w.holds c cond with ⟨passed, w1⟩
    cases passed with
    | true => exact runList_folds hub em false t c w1 Outcome.sorted_ok
    | false => exact runList_folds hub em false f c w1 Outcome.sorted_ok
  | batch as atomic =>
    rw [runAction, actionSteps]
    exact runList_folds hub em atomic as c w Outcome.sorted_ok
  | apiCall r onSuccess onError =>
    rw [runAction, actionSteps]
    -- both readings check the same address against the same hosts, then send it once
    rcases hd : checkDomain (r.address c w.store) (r.allowedDomains.getD hub.allowed) with f | u
    · exact ⟨Step.folds_single (.fail f), rfl⟩
    · cases u
      rcases hs : w.wire.send ⟨r.method, r.address c w.store, r.headers, r.body⟩ with
        ⟨reply, wire⟩
      cases reply with
      | answer resp =>
        dsimp only
        cases hok : resp.isSuccess with
        | true =>
          -- the data a request produces is not part of the fold
          cases r.mapResponse with
          | none => exact runList_folds hub em false onSuccess _ _ Outcome.sorted_ok
          | some e => exact runList_folds hub em false onSuccess _ _ Outcome.sorted_ok
        | false =>
          -- the failure of the request comes before the steps of its callbacks
          obtain ⟨hf, hw⟩ := runList_folds hub em false onError _ { w with wire := wire }
            (Outcome.sorted_failure (.http resp.status resp.statusText))
          refine ⟨?_, hw⟩
          show _ = Step.fold Outcome.ok (.fail _ :: _)
          rw [Step.fold_cons, Outcome.ok_absorb (Step.sorted_outcome _)]
          exact hf
      | broken message =>
        obtain ⟨hf, hw⟩ := runList_folds hub em false onError _ { w with wire := wire }
          (Outcome.sorted_failure (.transport message))
        refine ⟨?_, hw⟩
        show _ = Step.fold Outcome.ok (.fail _ :: _)
        rw [Step.fold_cons, Outcome.ok_absorb (Step.sorted_outcome _)]
        exact hf
  | openWidget id =>
    rw [runAction, actionSteps]
    exact ⟨Step.folds_single (.signal (.openWidget id)), rfl⟩
  | closeWidget id =>
    rw [runAction, actionSteps]
    exact ⟨Step.folds_single (.signal (.closeWidget id)), rfl⟩
  | stopPropagation =>
    rw [runAction, actionSteps]
    exact ⟨Step.folds_single (.signal .stopPropagation), rfl⟩
  | unsupported t params =>
    rw [runAction, actionSteps]
    exact ⟨Step.folds_single (.fail (.unsupportedActionType t)), rfl⟩
termination_by (hub.budget em, 2, sizeOf a)

/-- Running actions into an accumulator folds their steps onto it. -/
theorem runList_folds (hub : Hub) (em : Option Nat) (stop : Bool) (as : List Action) (c : Caller)
    (w : World) {acc : Outcome} (hacc : acc.Sorted) :
    (hub.runList em stop as c w acc).1.sansData
        = Step.fold acc.sansData (hub.listSteps em stop as c w).1 ∧
      (hub.runList em stop as c w acc).2 = (hub.listSteps em stop as c w).2 := by
  cases as with
  | nil =>
    rw [runList, listSteps]
    exact ⟨rfl, rfl⟩
  | cons a rest =>
    obtain ⟨hf, hw⟩ := runAction_folds hub em a c w
    rw [runList, listSteps]
    rcases hr : hub.runAction em a c w with ⟨r, w1⟩
    rcases hs : hub.actionSteps em a c w with ⟨ss, w2⟩
    rw [hr, hs] at hf hw
    simp only at hf hw ⊢
    subst hw
    -- the run stops on a failed outcome, the reading on a failed step: the same place
    rw [hf.success]
    by_cases hstop : (stop && ss.any Step.isFailure) = true
    · simp only [Bool.not_not, hstop, if_true, and_true]
      exact hf.absorb hacc
    · simp only [Bool.not_not, hstop, Bool.false_eq_true, if_false]
      obtain ⟨hf', hw'⟩ := runList_folds hub em stop rest c w1 (Outcome.sorted_absorb r hacc)
      rw [hf.absorb hacc] at hf'
      exact ⟨by rw [hf', Step.fold_append], hw'⟩
termination_by (hub.budget em, 2, sizeOf as)

/-- Dispatching events into an accumulator folds their steps onto it. -/
theorem dispatchAll_folds (hub : Hub) (d : Nat) (events : List EventDef) (c : Caller) (w : World)
    {acc : Outcome} (hacc : acc.Sorted) :
    (hub.dispatchAll d events c w acc).1.sansData
        = Step.fold acc.sansData (hub.eventSteps d events c w).1 ∧
      (hub.dispatchAll d events c w acc).2 = (hub.eventSteps d events c w).2 := by
  cases events with
  | nil =>
    rw [dispatchAll, eventSteps]
    exact ⟨rfl, rfl⟩
  | cons e rest =>
    obtain ⟨hf, hw⟩ := dispatch_folds hub d e c w
    rw [dispatchAll, eventSteps]
    rcases hr : hub.dispatch d e c w with ⟨r, w1⟩
    rcases hs : hub.dispatchSteps d e c w with ⟨ss, w2⟩
    rw [hr, hs] at hf hw
    simp only at hf hw ⊢
    subst hw
    -- listeners stop after the first failed event, in both readings
    rw [hf.success]
    by_cases hstop : ss.any Step.isFailure = true
    · simp only [Bool.not_not, hstop, if_true, and_true]
      exact hf.absorb hacc
    · simp only [Bool.not_not, hstop, Bool.false_eq_true, if_false]
      obtain ⟨hf', hw'⟩ := dispatchAll_folds hub d rest c w1 (Outcome.sorted_absorb r hacc)
      rw [hf.absorb hacc] at hf'
      exact ⟨by rw [hf', Step.fold_append], hw'⟩
termination_by (hub.maxDepth + 1 - d, 1, events.length)

/-- Dispatching an event folds its steps, and its journal line agrees with them. -/
theorem dispatch_folds (hub : Hub) (d : Nat) (e : EventDef) (c : Caller) (w : World) :
    (hub.dispatch d e c w).1.Folds (hub.dispatchSteps d e c w).1 ∧
      (hub.dispatch d e c w).2 = (hub.dispatchSteps d e c w).2 := by
  rw [dispatch, dispatchSteps]
  by_cases hd : hub.maxDepth ≤ d
  · simp only [hd, dite_true, and_true]
    exact Step.folds_single (.fail (.depthExceeded d hub.maxDepth))
  · simp only [hd, dite_false]
    by_cases hen : e.isEnabled = true
    · simp only [hen, Bool.not_true, Bool.false_eq_true, if_false]
      rcases hp : w.guard c e with ⟨pass, w1⟩
      cases pass with
      | false => exact ⟨rfl, rfl⟩
      | true =>
        obtain ⟨hf, hw⟩ :=
          runList_folds hub (some (d + 1)) true e.actions c w1 Outcome.sorted_ok
        rcases hr : hub.runList (some (d + 1)) true e.actions c w1 Outcome.ok with ⟨r, w2⟩
        rcases hs : hub.listSteps (some (d + 1)) true e.actions c w1 with ⟨ss, w3⟩
        rw [hr, hs] at hf hw
        simp only at hf hw ⊢
        subst hw
        have hfolds : r.Folds ss := hf
        -- the journal line records what the steps say: failed or not, and the first error
        rw [hfolds.success, hfolds.error]
        refine ⟨hfolds, ?_⟩
        cases ss.any Step.isFailure <;> rfl
    · simp only [hen, Bool.not_false, if_true, and_true]
      rfl
termination_by (hub.maxDepth + 1 - d, 0, 0)
decreasing_by exact Prod.Lex.left _ _ (by simp only [budget]; omega)

end

end Hub

namespace Session

/-- Firing events at depth zero into an accumulator folds their steps onto it. -/
theorem triggerAll_folds (hub : Hub) (events : List EventDef) (c : Caller) (w : World)
    {acc : Outcome} (hacc : acc.Sorted) :
    (triggerAll hub events c w acc).1.sansData
        = Step.fold acc.sansData (hub.triggerSteps events c w).1 ∧
      (triggerAll hub events c w acc).2 = (hub.triggerSteps events c w).2 := by
  induction events generalizing w acc with
  | nil => exact ⟨rfl, rfl⟩
  | cons e rest ih =>
    obtain ⟨hf, hw⟩ := Hub.dispatch_folds hub 0 e c w
    rw [triggerAll, Hub.triggerSteps]
    rcases hr : hub.dispatch 0 e c w with ⟨r, w1⟩
    rcases hs : hub.dispatchSteps 0 e c w with ⟨ss, w2⟩
    rw [hr, hs] at hf hw
    simp only at hf hw ⊢
    subst hw
    -- the trigger stops on a signal to stop, which the event's steps show
    rw [hf.stopsPropagation]
    by_cases hstop : ss.any Step.stops = true
    · simp only [hstop, if_true, and_true]
      exact hf.absorb hacc
    · simp only [hstop, Bool.false_eq_true, if_false]
      obtain ⟨hf', hw'⟩ := ih w1 (Outcome.sorted_absorb r hacc)
      rw [hf.absorb hacc] at hf'
      exact ⟨by rw [hf', Step.fold_append], hw'⟩

theorem trigger_folds (s : Session) (on : TriggerKind) (elementId : Option String) (c : Caller) :
    (s.trigger on elementId c).1.Folds (s.triggerSteps on elementId c) :=
  (triggerAll_folds s.hub _ c s.world Outcome.sorted_ok).1

theorem load_folds (s : Session) (c : Caller) : (s.load c).1.Folds (s.loadSteps c) :=
  s.reloaded.trigger_folds .load none c

theorem fireCustom_folds (s : Session) (name : String) (payload : Option Json) :
    (s.fireCustom name payload).1.Folds (s.fireCustomSteps name payload) :=
  (Hub.dispatchAll_folds s.hub 0 _ _ s.world Outcome.sorted_ok).1

/-- Firing an event by id finds an event exactly when its steps do, and then folds them. -/
theorem fireEvent_folds (s : Session) (id : String) (c : Caller) :
    (s.fireEvent id c).map (·.1.sansData) =
      (s.fireEventSteps id c).map (Step.fold Outcome.ok) := by
  rw [fireEvent, fireEventSteps]
  cases s.hub.registry.find? fun x => x.id == id with
  | none => rfl
  | some e => exact congrArg some (Hub.dispatch_folds s.hub 0 e c s.world).1

end Session

/-- Every run, of an action, of an event at any depth, or of a session's trigger, load,
custom event or event by id, comes to the fold of its steps from `Outcome.ok`, data
aside; and such a fold fails exactly when it has an error, which is the message of the
first failed step. -/
theorem runs_fold_their_steps (hub : Hub) (em : Option Nat) (a : Action) (d : Nat)
    (e : EventDef) (c : Caller) (w : World) (s : Session) (on : TriggerKind)
    (elementId : Option String) (name : String) (payload : Option Json) (id : String) :
    (hub.runAction em a c w).1.Folds (hub.actionSteps em a c w).1 ∧
      (hub.dispatch d e c w).1.Folds (hub.dispatchSteps d e c w).1 ∧
      (s.trigger on elementId c).1.Folds (s.triggerSteps on elementId c) ∧
      (s.load c).1.Folds (s.loadSteps c) ∧
      (s.fireCustom name payload).1.Folds (s.fireCustomSteps name payload) ∧
      (s.fireEvent id c).map (·.1.sansData) = (s.fireEventSteps id c).map (Step.fold Outcome.ok) ∧
      ∀ ss : List Step,
        ((Step.fold Outcome.ok ss).success = false ↔ (Step.fold Outcome.ok ss).error.isSome) ∧
          (Step.fold Outcome.ok ss).error = (ss.findSome? Step.failure?).map Failure.message :=
  ⟨(hub.runAction_folds em a c w).1, (hub.dispatch_folds d e c w).1,
    s.trigger_folds on elementId c, s.load_folds c, s.fireCustom_folds name payload,
    s.fireEvent_folds id c,
    fun ss => ⟨Step.fold_ok_success_eq_false_iff ss, by rw [Step.fold_error]; rfl⟩⟩

end Storyboard
