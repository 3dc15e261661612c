import Storyboard.Proofs.Visits

/-!
# Which events a trigger runs

A session fires a trigger by dispatching, at depth zero and in registry order, the events that
answer it (`Session.Matches`: enabled, of the trigger's kind, and bound to no element or to the
element the trigger fired on), and stops after the first event whose outcome signals to stop
propagation. A custom event fired from outside dispatches its listeners in registry order, with
the payload as params, and stops after the first that failed. The two loops have one shape and
differ only in their stop rule.

`Hub.dispatchEach` dispatches events one after another with no stop, and `Hub.RunsUntil`
describes a loop with a stop rule through it: the events dispatched are the shortest prefix of
the list that ends in an event whose outcome stops the loop, or the whole list; each is
dispatched once, from the world the one before left; and the loop's outcome absorbs theirs in
order. A failure stops a trigger only if it also signals to stop, and the signal stops a custom
event only if it also failed.

The signal is read off the whole outcome of an event, which absorbs the outcomes of the events
it fired: an outcome signals to stop exactly when a `stop_propagation` action ran somewhere in
the dispatch, at any depth of nesting and in any event it fired (`Hub.dispatch_stops_iff`).

Main statement: `triggers_run_matching_events_until_stopped`.
-/

namespace Storyboard

/-! ## Matching -/

namespace Session

/-- An event answers a trigger of kind `on` fired on the element `el` (or on none): it is
enabled, has that kind, and every element it is bound to is `el`. An event bound to an element
never answers a trigger fired on none. -/
def Matches (on : TriggerKind) (el : Option String) (e : EventDef) : Prop :=
  e.isEnabled = true ∧ e.trigger.kind = on ∧ ∀ x ∈ e.trigger.elementId, el = some x

instance (on : TriggerKind) (el : Option String) : DecidablePred (Matches on el) :=
  fun _ => inferInstanceAs (Decidable (_ ∧ _ ∧ _))

/-- The events a trigger runs are those of the registry that answer it, in registry order. -/
theorem matchingEvents_eq_filter (events : List EventDef) (on : TriggerKind) (el : Option String) :
    matchingEvents events on el = events.filter fun e => decide (Matches on el e) := by
  unfold matchingEvents
  apply List.filter_congr
  intro e _
  rcases hx : e.trigger.elementId with _ | x
  · -- an event bound to no element answers a trigger on any element, or on none
    rw [Bool.eq_iff_iff]
    simp [Matches, hx]
  · cases el with
    | none => simp [Matches, hx]
    | some y =>
      rw [Bool.eq_iff_iff]
      simp [Matches, hx, and_assoc, @eq_comm _ y]

end Session

/-! ## Loops that stop -/

namespace Hub

/-- Dispatch events at depth `d` one after another, each from the world the one before left,
with no stop: their outcomes in order, and the world after the last. -/
def dispatchEach (hub : Hub) (d : Nat) (c : Caller) : List EventDef → World → List Outcome × World
  | [], w => ([], w)
  | e :: rest, w =>
    let (r, w) := hub.dispatch d e c w
    let (rs, w) := hub.dispatchEach d c rest w
    (r :: rs, w)

theorem dispatchEach_nil (hub : Hub) (d : Nat) (c : Caller) (w : World) :
    hub.dispatchEach d c [] w = ([], w) := rfl

theorem dispatchEach_cons (hub : Hub) (d : Nat) (c : Caller) {e : EventDef} {w w₁ : World}
    {r : Outcome} (h : hub.dispatch d e c w = (r, w₁)) (rest : List EventDef) :
    hub.dispatchEach d c (e :: rest) w =
      (r :: (hub.dispatchEach d c rest w₁).1, (hub.dispatchEach d c rest w₁).2) := by
  have hstep : hub.dispatchEach d c (e :: rest) w =
      ((hub.dispatch d e c w).1 :: (hub.dispatchEach d c rest (hub.dispatch d e c w).2).1,
        (hub.dispatchEach d c rest (hub.dispatch d e c w).2).2) := rfl
  rw [hstep, h]

theorem length_dispatchEach (hub : Hub) (d : Nat) (c : Caller) :
    ∀ (events : List EventDef) (w : World), (hub.dispatchEach d c events w).1.length = events.length
  | [], _ => rfl
  | e :: rest, w => by
    simp only [dispatchEach_cons hub d c (Prod.eta (hub.dispatch d e c w)).symm, List.length_cons,
      length_dispatchEach hub d c rest]

/-- A loop over `events` that dispatches each at depth `d` for `c` and stops after the first
outcome `stop` holds of takes `w` and `acc` to `res`: it dispatched the shortest prefix of the
events that ends in such an outcome, or all of them, and absorbed their outcomes in order. -/
def RunsUntil (hub : Hub) (d : Nat) (c : Caller) (stop : Outcome → Bool) (events : List EventDef)
    (w : World) (acc : Outcome) (res : Outcome × World) : Prop :=
  ∃ ran rest, events = ran ++ rest ∧
    (∀ r ∈ (hub.dispatchEach d c ran w).1.dropLast, stop r = false) ∧
    (rest ≠ [] → ∃ r ∈ (hub.dispatchEach d c ran w).1.getLast?, stop r = true) ∧
    res = ((hub.dispatchEach d c ran w).1.foldl Outcome.absorb acc, (hub.dispatchEach d c ran w).2)

namespace RunsUntil

variable {hub : Hub} {d : Nat} {c : Caller} {stop : Outcome → Bool} {e : EventDef}
  {rest : List EventDef} {w w₁ : World} {acc r : Outcome}

theorem nil : hub.RunsUntil d c stop [] w acc (acc, w) :=
  ⟨[], [], rfl, by simp [dispatchEach_nil], by simp, by simp [dispatchEach_nil]⟩

/-- The loop ends with an event whose outcome stops it. -/
theorem stopped (h : hub.dispatch d e c w = (r, w₁)) (hs : stop r = true) :
    hub.RunsUntil d c stop (e :: rest) w acc (acc.absorb r, w₁) := by
  have he : hub.dispatchEach d c [e] w = ([r], w₁) := by rw [dispatchEach_cons hub d c h, dispatchEach_nil]
  refine ⟨[e], rest, rfl, ?_, fun _ => ⟨r, ?_, hs⟩, ?_⟩ <;> simp [he]

/-- An event whose outcome does not stop the loop is followed by the loop over the rest. -/
theorem cons {res : Outcome × World} (h : hub.dispatch d e c w = (r, w₁)) (hs : stop r = false)
    (hrest : hub.RunsUntil d c stop rest w₁ (acc.absorb r) res) :
    hub.RunsUntil d c stop (e :: rest) w acc res := by
  obtain ⟨ran, tail, rfl, hpre, hlast, rfl⟩ := hrest
  refine ⟨e :: ran, tail, rfl, ?_, ?_, ?_⟩
  · rw [dispatchEach_cons hub d c h]
    cases hran : ran with
    | nil => simp [dispatchEach_nil]
    | cons e' ran' =>
      -- the outcomes after the first are not empty, so the first is not the last
      have hne : (hub.dispatchEach d c ran w₁).1 ≠ [] := by
        rw [← List.length_pos_iff, length_dispatchEach, hran]
        simp
      rw [← hran, List.dropLast_cons_of_ne_nil hne]
      intro r' hr'
      rcases List.mem_cons.1 hr' with rfl | hr'
      · exact hs
      · exact hpre r' hr'
  · intro htail
    obtain ⟨r', hr', hstop⟩ := hlast htail
    have hne : (hub.dispatchEach d c ran w₁).1 ≠ [] := by
      intro hnil
      rw [hnil] at hr'
      cases hr'
    refine ⟨r', ?_, hstop⟩
    rw [dispatchEach_cons hub d c h, List.getLast?_cons, Option.mem_def]
    rw [Option.mem_def] at hr'
    rw [hr']
    rfl
  · rw [dispatchEach_cons hub d c h, List.foldl_cons]

end RunsUntil

/-- Dispatching listeners stops after the first that failed. -/
theorem dispatchAll_runsUntil (hub : Hub) (d : Nat) (events : List EventDef) (c : Caller) (w : World)
    (acc : Outcome) :
    hub.RunsUntil d c (fun r => !r.success) events w acc (hub.dispatchAll d events c w acc) := by
  induction events generalizing w acc with
  | nil =>
    rw [dispatchAll]
    exact .nil
  | cons e rest ih =>
    rw [dispatchAll]
    rcases h : hub.dispatch d e c w with ⟨r, w₁⟩
    dsimp only
    cases hr : r.success with
    | false => exact .stopped h (by simp [hr])
    | true => exact .cons h (by simp [hr]) (ih w₁ _)

end Hub

/-- Firing a trigger stops after the first event whose outcome signals to stop propagation. -/
theorem Session.triggerAll_runsUntil (hub : Hub) (events : List EventDef) (c : Caller) (w : World)
    (acc : Outcome) :
    hub.RunsUntil 0 c Outcome.stopsPropagation events w acc (triggerAll hub events c w acc) := by
  induction events generalizing w acc with
  | nil => exact .nil
  | cons e rest ih =>
    rw [triggerAll]
    rcases h : hub.dispatch 0 e c w with ⟨r, w₁⟩
    dsimp only
    cases hr : r.stopsPropagation with
    | true => exact .stopped h hr
    | false => exact .cons h hr (ih w₁ _)

/-! ## Where the signal to stop comes from -/

/-- A write, or its refusal, is no signal. -/
theorem writeTarget_stops (t : String) (v : Json) (c : Caller) (w : World) :
    (writeTarget t v c w).1.stops = false := by
  unfold writeTarget
  split
  · rfl
  · split <;> rfl

theorem StateUpdate.run_stops (p : StateUpdate) (c : Caller) (w : World) :
    (p.run c w).1.stops = false := by
  unfold StateUpdate.run
  split
  · rfl
  · dsimp only
    split
    · exact writeTarget_stops _ _ _ _
    · rfl

theorem toastEffect_stops (m : String) (v : Option String) (d : Option Nat) (c : Caller)
    (w : World) : (toastEffect m v d c w).1.stops = false := by
  unfold toastEffect
  split
  rfl

/-- The steps taken at a place hold the signal to stop propagation exactly when the place is a
`stop_propagation` action. -/
theorem Hub.stepsAt_stops (hub : Hub) (v : Visit) :
    (hub.stepsAt v).any Step.stops = true ↔ ∃ id, v.action? = some (.mk id .stopPropagation) := by
  rcases v with ⟨⟨id, kind⟩, c, w⟩ | ⟨e, d, c, w⟩
  · cases kind with
    | stateUpdate p => simp [stepsAt, Visit.action?, p.run_stops c w]
    | recalculate target formula => simp [stepsAt, Visit.action?, writeTarget_stops]
    | toast m v d => simp [stepsAt, Step.stops, Visit.action?, toastEffect_stops m v d c w]
    | apiCall r s f =>
      -- a request contributes its refusal or its failure, never a signal
      simp only [stepsAt, Visit.action?, Option.some.injEq, Action.mk.injEq, reduceCtorEq,
        and_false, exists_false, iff_false]
      split
      · simp [Step.stops]
      · split
        · split <;> simp [Step.stops]
        · simp [Step.stops]
    | stopPropagation => simp [stepsAt, Step.stops, Effect.stops, Visit.action?]
    | _ => simp [stepsAt, Step.stops, Effect.stops, Visit.action?]
  · simp only [stepsAt, Visit.action?, reduceCtorEq, exists_false, iff_false]
    split <;> simp [Step.stops]

/-- An event's outcome signals to stop propagation exactly when a `stop_propagation` action ran
in its dispatch, at any depth, in the event itself or in an event it fired. -/
theorem Hub.dispatch_stops_iff (hub : Hub) (d : Nat) (e : EventDef) (c : Caller) (w : World) :
    (hub.dispatch d e c w).1.stopsPropagation = true ↔
      ∃ v ∈ hub.dispatchVisits d e c w, ∃ id, v.action? = some (.mk id .stopPropagation) := by
  rw [(hub.dispatch_folds d e c w).1.stopsPropagation, hub.dispatchSteps_eq_flatMap,
    List.any_flatMap, List.any_eq_true]
  exact exists_congr fun v => and_congr_right fun _ => hub.stepsAt_stops v

/-- A trigger runs, in registry order, the events that answer it, each once, up to and including
the first whose outcome signals to stop propagation; a failure does not stop it. An outcome
signals to stop when a `stop_propagation` action ran anywhere in the event's dispatch, including
in the events it fired. A custom event fired with a payload runs, in registry order and with the
payload as params, the events that listen to its name, up to and including the first that
failed; the signal to stop does not stop it. -/
theorem triggers_run_matching_events_until_stopped (s : Session) (on : TriggerKind)
    (el : Option String) (c : Caller) (name : String) (payload : Option Json) :
    matchingEvents s.hub.registry on el = s.hub.registry.filter (fun e => decide (Session.Matches on el e)) ∧
    s.hub.RunsUntil 0 c Outcome.stopsPropagation (matchingEvents s.hub.registry on el) s.world
      Outcome.ok ((s.trigger on el c).1, (s.trigger on el c).2.world) ∧
    (∀ e w, (s.hub.dispatch 0 e c w).1.stopsPropagation = true ↔
      ∃ v ∈ s.hub.dispatchVisits 0 e c w, ∃ id, v.action? = some (.mk id .stopPropagation)) ∧
    s.hub.RunsUntil 0 { params := payload } (fun r => !r.success)
      (s.hub.registry.filter (·.listensTo name)) s.world Outcome.ok
      ((s.fireCustom name payload).1, (s.fireCustom name payload).2.world) :=
  ⟨Session.matchingEvents_eq_filter _ on el,
    Session.triggerAll_runsUntil s.hub _ c s.world Outcome.ok,
    fun e w => s.hub.dispatch_stops_iff 0 e c w,
    s.hub.dispatchAll_runsUntil 0 _ _ s.world Outcome.ok⟩

end Storyboard
