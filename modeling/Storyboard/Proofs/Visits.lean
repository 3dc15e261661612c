import Storyboard.Proofs.Depth

/-!
# The places a run visits

A run passes through actions and dispatches in a fixed order: an action is met before the
actions inside it, and an event before its actions. This file lists those places, each with
the caller and the world the run finds there (`Hub.actionVisits` and its block), and reads
the run's steps off them: each place contributes the steps it takes itself, before the
places inside it take theirs (`Hub.stepsAt`).

Main statements:
* `Hub.actionSteps_eq_flatMap` and its block: the steps of every run are the steps taken at
  the places it visits, in the order it visits them.
* `Hub.actionVisits_within` and its block: every action a run visits lies inside the action
  it started from or inside an action of an event it dispatched, and runs for the caller's
  widget instance.

The lists are defined through the run itself: the world at a place is the world the run has
reached there, and a list of actions stops where the run stops. The proofs follow the
recursion of the run, one lemma per function of the block, as in `Hub.runAction_folds`.
-/

namespace Storyboard

/-- A place a run passes: an action about to run, or an event about to be dispatched at a
depth; each with the caller and the world the run finds there. -/
inductive Visit where
  | action (a : Action) (c : Caller) (w : World)
  | event (e : EventDef) (d : Nat) (c : Caller) (w : World)

namespace Visit

/-- The caller at a place. -/
def caller : Visit → Caller
  | .action _ c _ => c
  | .event _ _ c _ => c

/-- The action about to run at a place, if it is one. -/
def action? : Visit → Option Action
  | .action a _ _ => some a
  | .event .. => none

/-- What holds at a place of a run started for the widget instance `inst`: the caller runs
for `inst`, and the action there, if any, has the property `P`. -/
def Within (P : Action → Prop) (inst : Option String) (v : Visit) : Prop :=
  v.caller.instanceId = inst ∧ ∀ a ∈ v.action?, P a

end Visit

@[simp] theorem Action.kind_mk (id : String) (kind : ActionKind) : (Action.mk id kind).kind = kind :=
  rfl

/-- `b` lies inside `a`, at any depth, or is `a` itself. -/
inductive Action.Inside : Action → Action → Prop
  | refl (a : Action) : Action.Inside a a
  | child {a b x : Action} : b ∈ a.kind.children → Action.Inside x b → Action.Inside x a

/-- A property of every action inside `a`, `a` included. -/
def Action.Throughout (P : Action → Prop) (a : Action) : Prop := ∀ b, b.Inside a → P b

theorem Action.Throughout.self {P : Action → Prop} {a : Action} (h : a.Throughout P) : P a :=
  h a (.refl a)

theorem Action.Throughout.child {P : Action → Prop} {a b : Action} (h : a.Throughout P)
    (hb : b ∈ a.kind.children) : b.Throughout P :=
  fun x hx => h x (.child hb hx)

/-- A request handed over is added to the requests sent. -/
theorem Wire.sent_send (w : Wire) (s : Sent) : (w.send s).2.sent = w.sent ++ [s] := by
  unfold Wire.send
  split <;> rfl

namespace Hub

/-- A property of every action of every registered event, at any depth. -/
def Throughout (P : Action → Prop) (hub : Hub) : Prop :=
  ∀ e ∈ hub.registry, ∀ a ∈ e.actions, a.Throughout P

/-- The steps a place takes itself, before the places inside it: the one step of a
primitive action, the refusal or the failure of a request, the refusal of an event fired
too deep, and none for a branch, a batch or an event that runs. -/
def stepsAt (hub : Hub) : Visit → List Step
  | .action (.mk _ kind) c w =>
    match kind with
    | .stateUpdate p => [(p.run c w).1]
    | .recalculate target formula =>
      let (v, w) := w.eval c formula
      [(writeTarget target (v.getD .null) c w).1]
    | .navigation how target params => [.signal (.navigate how target params)]
    | .toast m v d => [.signal (toastEffect m v d c w).1]
    | .emitEvent name payload => [.signal (.emitEvent name payload)]
    | .condition .. => []
    | .batch .. => []
    | .apiCall r _ _ =>
      match checkDomain (r.address c w.store) (r.allowedDomains.getD hub.allowed) with
      | .error f => [.fail f]
      | .ok () =>
        match (w.wire.send ⟨r.method, r.address c w.store, r.headers, r.body⟩).1 with
        | .answer resp => if resp.isSuccess then [] else [.fail (.http resp.status resp.statusText)]
        | .broken message => [.fail (.transport message)]
    | .openWidget id => [.signal (.openWidget id)]
    | .closeWidget id => [.signal (.closeWidget id)]
    | .stopPropagation => [.signal .stopPropagation]
    | .unsupported t _ => [.fail (.unsupportedActionType t)]
  | .event _ d _ _ => if hub.maxDepth ≤ d then [.fail (.depthExceeded d hub.maxDepth)] else []

mutual

/-- The places a run of one action visits: the action, then the places inside it that run. -/
def actionVisits (hub : Hub) (em : Option Nat) (a : Action) (c : Caller) (w : World) :
    List Visit :=
  .action a c w ::
    match a with
    | .mk _ kind =>
      match kind with
      | .emitEvent name payload =>
        match em with
        | some d => hub.eventVisits d (hub.listeners name) (c.withParams payload) w
        | none => []
      | .condition cond t f =>
        let (passed, w) := w.holds c cond
        if passed then hub.listVisits em false t c w
        else hub.listVisits em false f c w
      | .batch as atomic => hub.listVisits em atomic as c w
      | .apiCall r onSuccess onError =>
        match checkDomain (r.address c w.store) (r.allowedDomains.getD hub.allowed) with
        | .error _ => []
        | .ok () =>
          let (reply, wire) := w.wire.send ⟨r.method, r.address c w.store, r.headers, r.body⟩
          let w := { w with wire := wire }
          match reply with
          | .answer resp =>
            if resp.isSuccess then
              let sc := c.withParam "response" resp.body
              let (_, w) := match r.mapResponse with
                | some e => w.eval sc e
                | none => (some resp.body, w)
              hub.listVisits em false onSuccess sc w
            else
              let err := Json.ofFields [("status", .int resp.status),
                ("statusText", .str resp.statusText), ("body", resp.body)]
              hub.listVisits em false onError (c.withParam "error" err) w
          | .broken message =>
            let f := Failure.transport message
            hub.listVisits em false onError
              (c.withParam "error" (Json.ofFields [("message", .str f.message)])) w
      | _ => []
termination_by (hub.budget em, 2, sizeOf a)

/-- The places a run of actions in order visits; with `stop`, none after the first action
that failed. -/
def listVisits (hub : Hub) (em : Option Nat) (stop : Bool) (as : List Action) (c : Caller)
    (w : World) : List Visit :=
  match as with
  | [] => []
  | a :: rest =>
    let (r, w') := hub.runAction em a c w
    hub.actionVisits em a c w ++
      if stop && !r.success then [] else hub.listVisits em stop rest c w'
termination_by (hub.budget em, 2, sizeOf as)

/-- The places a dispatch of events in order at depth `d` visits, none after the first event
that failed. -/
def eventVisits (hub : Hub) (d : Nat) (events : List EventDef) (c : Caller) (w : World) :
    List Visit :=
  match events with
  | [] => []
  | e :: rest =>
    let (r, w') := hub.dispatch d e c w
    hub.dispatchVisits d e c w ++ if !r.success then [] else hub.eventVisits d rest c w'
termination_by (hub.maxDepth + 1 - d, 1, events.length)

/-- The places a dispatch of one event at depth `d` visits: the event, then its actions if
they run. -/
def dispatchVisits (hub : Hub) (d : Nat) (e : EventDef) (c : Caller) (w : World) :
    List Visit :=
  .event e d c w ::
    if _h : hub.maxDepth ≤ d then []
    else if !e.isEnabled then []
    else
      let (pass, w) := w.guard c e
      if !pass then [] else hub.listVisits (some (d + 1)) true e.actions c w
termination_by (hub.maxDepth + 1 - d, 0, 0)
decreasing_by exact Prod.Lex.left _ _ (by simp only [budget]; omega)

end

/-- The places a trigger visits: the events dispatched at depth zero, none after the first
that signals to stop propagation. -/
def triggerVisits (hub : Hub) (events : List EventDef) (c : Caller) (w : World) : List Visit :=
  match events with
  | [] => []
  | e :: rest =>
    let (r, w') := hub.dispatch 0 e c w
    hub.dispatchVisits 0 e c w ++ if r.stopsPropagation then [] else hub.triggerVisits rest c w'

/-! ## The steps of a run, place by place -/

mutual

/-- The steps of an action are the steps taken at the places its run visits. -/
theorem actionSteps_eq_flatMap (hub : Hub) (em : Option Nat) (a : Action) (c : Caller)
    (w : World) : (hub.actionSteps em a c w).1 = (hub.actionVisits em a c w).flatMap hub.stepsAt := by
  obtain ⟨id, kind⟩ := a
  cases kind with
  | emitEvent name payload =>
    cases em with
    | none => rw [actionSteps, actionVisits]; rfl
    | some d =>
      rw [actionSteps, actionVisits, List.flatMap_cons,
        ← eventSteps_eq_flatMap hub d (hub.listeners name) (c.withParams payload) w]
      rfl
  | condition cond t f =>
    rw [actionSteps, actionVisits, List.flatMap_cons]
    rcases w.holds c cond with ⟨passed, w1⟩
    cases passed with
    | true => exact listSteps_eq_flatMap hub em false t c w1
    | false => exact listSteps_eq_flatMap hub em false f c w1
  | batch as atomic =>
    rw [actionSteps, actionVisits, List.flatMap_cons]
    exact listSteps_eq_flatMap hub em atomic as c w
  | apiCall r onSuccess onError =>
    rw [actionSteps, actionVisits, List.flatMap_cons]
    -- the request's own steps come first: its refusal, or its failure before the callbacks
    rcases hd : checkDomain (r.address c w.store) (r.allowedDomains.getD hub.allowed) with f | u
    · simp only [stepsAt, hd, List.flatMap_nil, List.append_nil]
    · cases u
      rcases hs : w.wire.send ⟨r.method, r.address c w.store, r.headers, r.body⟩ with
        ⟨reply, wire⟩
      cases reply with
      | answer resp =>
        cases hok : resp.isSuccess with
        | true =>
          simp only [stepsAt, hd, hs, hok, if_true, List.nil_append]
          cases r.mapResponse with
          | none => exact listSteps_eq_flatMap hub em false onSuccess _ _
          | some e => exact listSteps_eq_flatMap hub em false onSuccess _ _
        | false =>
          simp only [stepsAt, hd, hs, hok, Bool.false_eq_true, if_false, List.cons_append,
            List.nil_append]
          rw [listSteps_eq_flatMap hub em false onError _ _]
      | broken message =>
        simp only [stepsAt, hd, hs, List.cons_append, List.nil_append]
        rw [listSteps_eq_flatMap hub em false onError _ _]
  | _ =>
    -- a primitive action is its only place
    rw [actionSteps]
    simp only [actionVisits, List.flatMap_cons, List.flatMap_nil, List.append_nil]
    rfl
termination_by (hub.budget em, 2, sizeOf a)

/-- The steps of actions run in order are the steps taken at the places their runs visit. -/
theorem listSteps_eq_flatMap (hub : Hub) (em : Option Nat) (stop : Bool) (as : List Action)
    (c : Caller) (w : World) :
    (hub.listSteps em stop as c w).1 = (hub.listVisits em stop as c w).flatMap hub.stepsAt := by
  cases as with
  | nil => rw [listSteps, listVisits]; rfl
  | cons a rest =>
    obtain ⟨hf, hw⟩ := runAction_folds hub em a c w
    have ha := actionSteps_eq_flatMap hub em a c w
    rw [listSteps, listVisits]
    rcases hr : hub.runAction em a c w with ⟨r, w1⟩
    rcases hs : hub.actionSteps em a c w with ⟨ss, w2⟩
    rw [hr, hs] at hf hw
    rw [hs] at ha
    simp only at hf hw ha ⊢
    subst hw
    -- the run stops on a failed outcome, the steps on a failed step: the same place
    rw [hf.success, List.flatMap_append, ← ha]
    by_cases hstop : (stop && ss.any Step.isFailure) = true
    · simp only [Bool.not_not, hstop, if_true, List.flatMap_nil, List.append_nil]
    · simp only [Bool.not_not, hstop, Bool.false_eq_true, if_false]
      rw [listSteps_eq_flatMap hub em stop rest c w1]
termination_by (hub.budget em, 2, sizeOf as)

/-- The steps of events dispatched in order are the steps taken at the places their
dispatches visit. -/
theorem eventSteps_eq_flatMap (hub : Hub) (d : Nat) (events : List EventDef) (c : Caller)
    (w : World) :
    (hub.eventSteps d events c w).1 = (hub.eventVisits d events c w).flatMap hub.stepsAt := by
  cases events with
  | nil => rw [eventSteps, eventVisits]; rfl
  | cons e rest =>
    obtain ⟨hf, hw⟩ := dispatch_folds hub d e c w
    have he := dispatchSteps_eq_flatMap hub d e c w
    rw [eventSteps, eventVisits]
    rcases hr : hub.dispatch d e c w with ⟨r, w1⟩
    rcases hs : hub.dispatchSteps d e c w with ⟨ss, w2⟩
    rw [hr, hs] at hf hw
    rw [hs] at he
    simp only at hf hw he ⊢
    subst hw
    rw [hf.success, List.flatMap_append, ← he]
    by_cases hstop : ss.any Step.isFailure = true
    · simp only [Bool.not_not, hstop, if_true, List.flatMap_nil, List.append_nil]
    · simp only [Bool.not_not, hstop, Bool.false_eq_true, if_false]
      rw [eventSteps_eq_flatMap hub d rest c w1]
termination_by (hub.maxDepth + 1 - d, 1, events.length)

/-- The steps of a dispatch are the refusal of the event, if it is refused, then the steps
taken at the places its actions visit. -/
theorem dispatchSteps_eq_flatMap (hub : Hub) (d : Nat) (e : EventDef) (c : Caller) (w : World) :
    (hub.dispatchSteps d e c w).1 = (hub.dispatchVisits d e c w).flatMap hub.stepsAt := by
  rw [dispatchSteps, dispatchVisits, List.flatMap_cons]
  by_cases hd : hub.maxDepth ≤ d
  · simp only [hd, dite_true, stepsAt, if_true, List.flatMap_nil, List.append_nil]
  · simp only [hd, dite_false, stepsAt, if_false, List.nil_append]
    by_cases hen : e.isEnabled = true
    · simp only [hen, Bool.not_true, Bool.false_eq_true, if_false]
      rcases hp : w.guard c e with ⟨pass, w1⟩
      cases pass with
      | false => rfl
      | true =>
        simp only [Bool.not_true, Bool.false_eq_true, if_false]
        exact listSteps_eq_flatMap hub (some (d + 1)) true e.actions c w1
    · simp only [hen, Bool.not_false, if_true]
      rfl
termination_by (hub.maxDepth + 1 - d, 0, 0)
decreasing_by exact Prod.Lex.left _ _ (by simp only [budget]; omega)

end

/-! ## Requests and their callbacks -/

/-- A request is refused before it is sent: the run fails with the refusal, changes nothing
and visits nothing more. -/
theorem runAction_apiCall_of_error (hub : Hub) (em : Option Nat) (id : String) (r : Request)
    (onSuccess onError : List Action) (c : Caller) (w : World) {f : Failure}
    (hd : checkDomain (r.address c w.store) (r.allowedDomains.getD hub.allowed) = .error f) :
    hub.runAction em (.mk id (.apiCall r onSuccess onError)) c w = (Outcome.failure f, w) ∧
      hub.actionVisits em (.mk id (.apiCall r onSuccess onError)) c w
        = [.action (.mk id (.apiCall r onSuccess onError)) c w] := by
  rw [runAction, actionVisits]
  simp only [hd, and_self]

/-- A request whose address passes the check is sent, and the run goes on with one of its
callback lists, for the same widget instance, from a world that has sent the request and
kept its journal. -/
theorem runAction_apiCall_of_ok (hub : Hub) (em : Option Nat) (id : String) (r : Request)
    (onSuccess onError : List Action) (c : Caller) (w : World)
    (hd : checkDomain (r.address c w.store) (r.allowedDomains.getD hub.allowed) = .ok ()) :
    ∃ cbs c' w' acc, (cbs = onSuccess ∨ cbs = onError) ∧ c'.instanceId = c.instanceId ∧
      w'.wire.sent = w.wire.sent ++ [⟨r.method, r.address c w.store, r.headers, r.body⟩] ∧
      w'.journal = w.journal ∧ acc.Sorted ∧
      (hub.runAction em (.mk id (.apiCall r onSuccess onError)) c w).2
        = (hub.runList em false cbs c' w' acc).2 ∧
      hub.actionVisits em (.mk id (.apiCall r onSuccess onError)) c w
        = .action (.mk id (.apiCall r onSuccess onError)) c w :: hub.listVisits em false cbs c' w' := by
  have hsent := Wire.sent_send w.wire ⟨r.method, r.address c w.store, r.headers, r.body⟩
  rcases hs : w.wire.send ⟨r.method, r.address c w.store, r.headers, r.body⟩ with ⟨reply, wire⟩
  rw [hs] at hsent
  rw [runAction, actionVisits]
  simp only [hd, hs]
  cases reply with
  | answer resp =>
    dsimp only
    cases hok : resp.isSuccess with
    | true =>
      -- the success callbacks run after the response is mapped, which only takes notes
      simp only [if_true]
      cases r.mapResponse with
      | none =>
        exact ⟨onSuccess, c.withParam "response" resp.body, { w with wire := wire }, Outcome.ok,
          .inl rfl, rfl, hsent, rfl, Outcome.sorted_ok, rfl, rfl⟩
      | some e =>
        refine ⟨onSuccess, c.withParam "response" resp.body,
          (World.eval { w with wire := wire } (c.withParam "response" resp.body) e).2, Outcome.ok,
          .inl rfl, rfl, ?_, ?_, Outcome.sorted_ok, rfl, rfl⟩
        · rw [(World.eval_frame _ _ _).wire]
          exact hsent
        · rw [(World.eval_frame _ _ _).journal]
    | false =>
      simp only [Bool.false_eq_true, if_false]
      exact ⟨onError, c.withParam "error" (Json.ofFields [("status", .int resp.status),
          ("statusText", .str resp.statusText), ("body", resp.body)]),
        { w with wire := wire }, _, .inr rfl, rfl, hsent, rfl, Outcome.sorted_failure _, rfl, rfl⟩
  | broken message =>
    exact ⟨onError, c.withParam "error" (Json.ofFields [("message", .str (Failure.transport message).message)]),
      { w with wire := wire }, _, .inr rfl, rfl, hsent, rfl, Outcome.sorted_failure _, rfl, rfl⟩

/-! ## Where a run goes -/

theorem Throughout.listeners {P : Action → Prop} {hub : Hub} (hP : hub.Throughout P)
    (name : String) : ∀ e ∈ hub.listeners name, ∀ a ∈ e.actions, a.Throughout P :=
  fun e he => hP e (List.mem_filter.1 he).1

section

variable {P : Action → Prop}

theorem within_head {a : Action} (ha : a.Throughout P) (c : Caller) (w : World) :
    (Visit.action a c w).Within P c.instanceId :=
  ⟨rfl, fun _ hb => Option.some_inj.1 hb ▸ ha.self⟩

mutual

/-- Every action a run of `a` visits lies inside `a` or inside an action of a registered
event, so it has every property these all have; and it runs for the same widget instance. -/
theorem actionVisits_within (hub : Hub) (hP : hub.Throughout P) (em : Option Nat) (a : Action)
    (c : Caller) (w : World) :
    a.Throughout P → ∀ v ∈ hub.actionVisits em a c w, v.Within P c.instanceId := by
  obtain ⟨id, kind⟩ := a
  intro ha
  cases kind with
  | emitEvent name payload =>
    cases em with
    | none =>
      simp only [actionVisits, List.mem_cons, List.not_mem_nil, or_false, forall_eq]
      exact within_head ha c w
    | some d =>
      rw [actionVisits]
      refine List.forall_mem_cons.2 ⟨within_head ha c w, ?_⟩
      -- the listeners run for the same instance, with the payload as params
      exact eventVisits_within hub hP d _ _ w (hP.listeners name)
  | condition cond t f =>
    rw [actionVisits]
    refine List.forall_mem_cons.2 ⟨within_head ha c w, ?_⟩
    rcases w.holds c cond with ⟨passed, w1⟩
    cases passed with
    | true =>
      exact listVisits_within hub hP em false t c w1
        fun b hb => ha.child (List.mem_append_left f hb)
    | false =>
      exact listVisits_within hub hP em false f c w1
        fun b hb => ha.child (List.mem_append_right t hb)
  | batch as atomic =>
    rw [actionVisits]
    exact List.forall_mem_cons.2 ⟨within_head ha c w,
      listVisits_within hub hP em atomic as c w fun b hb => ha.child hb⟩
  | apiCall r onSuccess onError =>
    rcases hd : checkDomain (r.address c w.store) (r.allowedDomains.getD hub.allowed) with f | u
    · rw [(runAction_apiCall_of_error hub em id r onSuccess onError c w hd).2]
      exact List.forall_mem_cons.2 ⟨within_head ha c w, fun _ h => absurd h List.not_mem_nil⟩
    · cases u
      obtain ⟨cbs, c', w', acc, hcbs, hinst, -, -, -, -, hvis⟩ :=
        runAction_apiCall_of_ok hub em id r onSuccess onError c w hd
      rw [hvis, ← hinst]
      refine List.forall_mem_cons.2 ⟨hinst ▸ within_head ha c w, ?_⟩
      -- the callbacks that run are among the children of the request
      rcases hcbs with h | h <;> rw [h]
      · exact listVisits_within hub hP em false onSuccess c' w'
          fun _ hb => ha.child (List.mem_append_left onError hb)
      · exact listVisits_within hub hP em false onError c' w'
          fun _ hb => ha.child (List.mem_append_right onSuccess hb)
  | _ =>
    simp only [actionVisits, List.mem_cons, List.not_mem_nil, or_false, forall_eq]
    exact within_head ha c w
termination_by (hub.budget em, 2, sizeOf a)

/-- Every action a run of actions visits lies inside one of them or inside an action of a
registered event. -/
theorem listVisits_within (hub : Hub) (hP : hub.Throughout P) (em : Option Nat) (stop : Bool)
    (as : List Action) (c : Caller) (w : World) (has : ∀ a ∈ as, a.Throughout P) :
    ∀ v ∈ hub.listVisits em stop as c w, v.Within P c.instanceId := by
  cases as with
  | nil => simp [listVisits]
  | cons a rest =>
    rw [listVisits]
    rcases hub.runAction em a c w with ⟨r, w1⟩
    refine List.forall_mem_append.2 ⟨actionVisits_within hub hP em a c w (has a List.mem_cons_self), ?_⟩
    split
    · exact fun _ h => absurd h List.not_mem_nil
    · exact listVisits_within hub hP em stop rest c w1 fun b hb => has b (List.mem_cons_of_mem a hb)
termination_by (hub.budget em, 2, sizeOf as)

/-- Every action a dispatch of registered events visits lies inside an action of a
registered event. -/
theorem eventVisits_within (hub : Hub) (hP : hub.Throughout P) (d : Nat) (events : List EventDef)
    (c : Caller) (w : World) (hes : ∀ e ∈ events, ∀ a ∈ e.actions, a.Throughout P) :
    ∀ v ∈ hub.eventVisits d events c w, v.Within P c.instanceId := by
  cases events with
  | nil => simp [eventVisits]
  | cons e rest =>
    rw [eventVisits]
    rcases hub.dispatch d e c w with ⟨r, w1⟩
    refine List.forall_mem_append.2
      ⟨dispatchVisits_within hub hP d e c w (hes e List.mem_cons_self), ?_⟩
    split
    · exact fun _ h => absurd h List.not_mem_nil
    · exact eventVisits_within hub hP d rest c w1 fun x hx => hes x (List.mem_cons_of_mem e hx)
termination_by (hub.maxDepth + 1 - d, 1, events.length)

/-- Every action a dispatch visits lies inside one of its event's actions or inside an action
of a registered event. -/
theorem dispatchVisits_within (hub : Hub) (hP : hub.Throughout P) (d : Nat) (e : EventDef)
    (c : Caller) (w : World) (he : ∀ a ∈ e.actions, a.Throughout P) :
    ∀ v ∈ hub.dispatchVisits d e c w, v.Within P c.instanceId := by
  rw [dispatchVisits]
  refine List.forall_mem_cons.2 ⟨⟨rfl, fun b hb => by cases hb⟩, ?_⟩
  by_cases hd : hub.maxDepth ≤ d
  · simp only [hd, dite_true]
    exact fun _ h => absurd h List.not_mem_nil
  · simp only [hd, dite_false]
    split
    · exact fun _ h => absurd h List.not_mem_nil
    · rcases w.guard c e with ⟨pass, w1⟩
      dsimp only
      split
      · exact fun _ h => absurd h List.not_mem_nil
      · exact listVisits_within hub hP (some (d + 1)) true e.actions c w1 he
termination_by (hub.maxDepth + 1 - d, 0, 0)
decreasing_by exact Prod.Lex.left _ _ (by simp only [budget]; omega)

end

theorem triggerVisits_within (hub : Hub) (hP : hub.Throughout P) (events : List EventDef)
    (c : Caller) (w : World) (hes : ∀ e ∈ events, ∀ a ∈ e.actions, a.Throughout P) :
    ∀ v ∈ hub.triggerVisits events c w, v.Within P c.instanceId := by
  induction events generalizing w with
  | nil => simp [triggerVisits]
  | cons e rest ih =>
    rw [triggerVisits]
    rcases hub.dispatch 0 e c w with ⟨r, w1⟩
    refine List.forall_mem_append.2
      ⟨dispatchVisits_within hub hP 0 e c w (hes e List.mem_cons_self), ?_⟩
    split
    · exact fun _ h => absurd h List.not_mem_nil
    · exact ih w1 fun x hx => hes x (List.mem_cons_of_mem e hx)

end

/-- The steps of a trigger are the steps taken at the places it visits. -/
theorem triggerSteps_eq_flatMap (hub : Hub) (events : List EventDef) (c : Caller) (w : World) :
    (hub.triggerSteps events c w).1 = (hub.triggerVisits events c w).flatMap hub.stepsAt := by
  induction events generalizing w with
  | nil => rfl
  | cons e rest ih =>
    obtain ⟨hf, hw⟩ := dispatch_folds hub 0 e c w
    have he := dispatchSteps_eq_flatMap hub 0 e c w
    rw [triggerSteps, triggerVisits]
    rcases hr : hub.dispatch 0 e c w with ⟨r, w1⟩
    rcases hs : hub.dispatchSteps 0 e c w with ⟨ss, w2⟩
    rw [hr, hs] at hf hw
    rw [hs] at he
    simp only at hf hw he ⊢
    subst hw
    -- the trigger stops on a signal to stop, which the event's steps show
    rw [hf.stopsPropagation, List.flatMap_append, ← he]
    by_cases hstop : ss.any Step.stops = true
    · simp only [hstop, if_true, List.flatMap_nil, List.append_nil]
    · simp only [hstop, Bool.false_eq_true, if_false]
      rw [ih w1]

end Hub

/-! ## What the journal reports -/

/-- A journal line reports failures met at the places `vs`: it has no error, or its error is
the text of a failure taken at one of them. -/
def Entry.Reports (hub : Hub) (vs : List Visit) (x : Entry) : Prop :=
  ∀ m ∈ x.error, ∃ v ∈ vs, ∃ f, Step.fail f ∈ hub.stepsAt v ∧ m = f.message

theorem Entry.Reports.mono {hub : Hub} {vs vs' : List Visit} {x : Entry} (h : x.Reports hub vs)
    (hvs : ∀ v ∈ vs, v ∈ vs') : x.Reports hub vs' := by
  intro m hm
  obtain ⟨v, hv, f, hf, rfl⟩ := h m hm
  exact ⟨v, hvs v hv, f, hf, rfl⟩

/-- The journal `j'` holds lines of `j` and lines that report failures met at the places
`vs`: what a part of a run that visits `vs` leaves. -/
def Journal.Extends (hub : Hub) (vs : List Visit) (j j' : List Entry) : Prop :=
  ∀ x ∈ j', x ∈ j ∨ x.Reports hub vs

namespace Journal.Extends

variable {hub : Hub} {vs vs' : List Visit} {j j₁ j₂ j₃ : List Entry}

theorem refl (hub : Hub) (vs : List Visit) (j : List Entry) : Journal.Extends hub vs j j :=
  fun _ hx => .inl hx

theorem of_eq (h : j₂ = j₁) : Journal.Extends hub vs j₁ j₂ := h ▸ refl hub vs j₁

theorem mono (h : Journal.Extends hub vs j₁ j₂) (hvs : ∀ v ∈ vs, v ∈ vs') :
    Journal.Extends hub vs' j₁ j₂ := fun x hx => (h x hx).imp id (·.mono hvs)

theorem trans (h₁ : Journal.Extends hub vs j₁ j₂) (h₂ : Journal.Extends hub vs' j₂ j₃) :
    Journal.Extends hub (vs ++ vs') j₁ j₃ := by
  intro x hx
  rcases h₂ x hx with hx | hr
  · exact (h₁.mono fun v hv => List.mem_append_left vs' hv) x hx
  · exact .inr (hr.mono fun v hv => List.mem_append_right vs hv)

/-- Recording a line that reports failures at `vs` extends the journal. -/
theorem record {w : World} {x : Entry} (hx : x.Reports hub vs) :
    Journal.Extends hub vs w.journal (w.record x).journal := by
  intro y hy
  simp only [World.record] at hy
  rcases List.mem_append.1 (List.mem_of_mem_drop hy) with hy | hy
  · exact .inl hy
  · rw [List.mem_singleton.1 hy]
    exact .inr hx

end Journal.Extends

namespace Hub

mutual

/-- A run of an action keeps the journal's lines and adds lines that report failures met at
the places it visits. -/
theorem runAction_journal (hub : Hub) (em : Option Nat) (a : Action) (c : Caller) (w : World) :
    Journal.Extends hub (hub.actionVisits em a c w) w.journal (hub.runAction em a c w).2.journal := by
  obtain ⟨id, kind⟩ := a
  cases kind with
  | stateUpdate p =>
    rw [runAction]
    exact .of_eq (p.run_frame c w).journal
  | recalculate target formula =>
    rw [runAction]
    exact .of_eq ((w.eval_frame c formula).trans (writeTarget_frame _ _ c _)).journal
  | toast m v d =>
    rw [runAction]
    exact .of_eq (toastEffect_frame m v d c w).journal
  | emitEvent name payload =>
    cases em with
    | none => rw [runAction]; exact .refl _ _ _
    | some d =>
      rw [runAction, actionVisits]
      exact (dispatchAll_journal hub d _ _ w Outcome.ok).mono fun v hv => List.mem_cons_of_mem _ hv
  | condition cond t f =>
    rw [runAction, actionVisits]
    have hj := (w.holds_frame c cond).journal
    rcases hh : w.holds c cond with ⟨passed, w1⟩
    rw [hh] at hj
    rw [← hj]
    cases passed with
    | true => exact (runList_journal hub em false t c w1 _).mono fun v hv => List.mem_cons_of_mem _ hv
    | false => exact (runList_journal hub em false f c w1 _).mono fun v hv => List.mem_cons_of_mem _ hv
  | batch as atomic =>
    rw [runAction, actionVisits]
    exact (runList_journal hub em atomic as c w _).mono fun v hv => List.mem_cons_of_mem _ hv
  | apiCall r onSuccess onError =>
    rcases hd : checkDomain (r.address c w.store) (r.allowedDomains.getD hub.allowed) with f | u
    · rw [(runAction_apiCall_of_error hub em id r onSuccess onError c w hd).1]
      exact .refl _ _ _
    · cases u
      obtain ⟨cbs, c', w', acc, hcbs, -, -, hj, -, hrun, hvis⟩ :=
        runAction_apiCall_of_ok hub em id r onSuccess onError c w hd
      rw [hrun, hvis, ← hj]
      -- the journal is written only by the callbacks' runs
      rcases hcbs with h | h <;> rw [h]
      · exact (runList_journal hub em false onSuccess c' w' acc).mono
          fun v hv => List.mem_cons_of_mem _ hv
      · exact (runList_journal hub em false onError c' w' acc).mono
          fun v hv => List.mem_cons_of_mem _ hv
  | _ => rw [runAction]; exact .refl _ _ _
termination_by (hub.budget em, 2, sizeOf a)

/-- A run of actions keeps the journal's lines and adds lines that report failures met at
the places it visits. -/
theorem runList_journal (hub : Hub) (em : Option Nat) (stop : Bool) (as : List Action)
    (c : Caller) (w : World) (acc : Outcome) :
    Journal.Extends hub (hub.listVisits em stop as c w) w.journal
      (hub.runList em stop as c w acc).2.journal := by
  cases as with
  | nil => rw [runList]; exact .refl _ _ _
  | cons a rest =>
    have ha := runAction_journal hub em a c w
    rw [runList, listVisits]
    rcases hr : hub.runAction em a c w with ⟨r, w1⟩
    rw [hr] at ha
    dsimp only at ha ⊢
    split
    · exact ha.mono fun v hv => List.mem_append_left _ hv
    · exact ha.trans (runList_journal hub em stop rest c w1 _)
termination_by (hub.budget em, 2, sizeOf as)

/-- A dispatch of events keeps the journal's lines and adds lines that report failures met
at the places it visits. -/
theorem dispatchAll_journal (hub : Hub) (d : Nat) (events : List EventDef) (c : Caller)
    (w : World) (acc : Outcome) :
    Journal.Extends hub (hub.eventVisits d events c w) w.journal
      (hub.dispatchAll d events c w acc).2.journal := by
  cases events with
  | nil => rw [dispatchAll]; exact .refl _ _ _
  | cons e rest =>
    have he := dispatch_journal hub d e c w
    rw [dispatchAll, eventVisits]
    rcases hr : hub.dispatch d e c w with ⟨r, w1⟩
    rw [hr] at he
    dsimp only at he ⊢
    split
    · exact he.mono fun v hv => List.mem_append_left _ hv
    · exact he.trans (dispatchAll_journal hub d rest c w1 _)
termination_by (hub.maxDepth + 1 - d, 1, events.length)

/-- A dispatch keeps the journal's lines and adds lines that report failures met at the
places it visits, its own line last: a refusal reports itself, and a line of an event that
ran reports the first failure of its actions. -/
theorem dispatch_journal (hub : Hub) (d : Nat) (e : EventDef) (c : Caller) (w : World) :
    Journal.Extends hub (hub.dispatchVisits d e c w) w.journal (hub.dispatch d e c w).2.journal := by
  rw [dispatch, dispatchVisits]
  by_cases hd : hub.maxDepth ≤ d
  · simp only [hd, dite_true]
    refine Journal.Extends.record fun m hm => ⟨.event e d c w, List.mem_cons_self, _, ?_,
      Option.some_inj.1 hm.symm⟩
    simp only [stepsAt, hd, if_true, List.mem_singleton]
  · simp only [hd, dite_false]
    by_cases hen : e.isEnabled = true
    · simp only [hen, Bool.not_true, Bool.false_eq_true, if_false]
      have hj := (w.guard_frame c e).journal
      rcases hp : w.guard c e with ⟨pass, w1⟩
      rw [hp] at hj
      dsimp only at hj
      cases pass with
      | false =>
        simp only [Bool.not_false, if_true]
        rw [← hj]
        exact Journal.Extends.record fun m hm => by cases hm
      | true =>
        simp only [Bool.not_true, Bool.false_eq_true, if_false]
        have hl := runList_journal hub (some (d + 1)) true e.actions c w1 Outcome.ok
        have herr := (runList_folds hub (some (d + 1)) true e.actions c w1 Outcome.sorted_ok).1
        have hsteps := listSteps_eq_flatMap hub (some (d + 1)) true e.actions c w1
        rcases hr : hub.runList (some (d + 1)) true e.actions c w1 Outcome.ok with ⟨r, w2⟩
        rw [hr] at hl herr
        rw [hj] at hl
        dsimp only at hl herr ⊢
        -- the line's error is the first failure among the steps of the event's actions
        have hrep : (entry e (if r.success then .executed else .failed) r.error d).Reports hub
            (hub.listVisits (some (d + 1)) true e.actions c w1) := by
          intro m hm
          have hfold : r.Folds (hub.listSteps (some (d + 1)) true e.actions c w1).1 := herr
          rw [entry, hfold.error] at hm
          obtain ⟨f, hf, rfl⟩ := Option.map_eq_some_iff.1 hm
          obtain ⟨s, hs, hsf⟩ := List.exists_of_findSome?_eq_some hf
          cases s with
          | fail f' =>
            cases hsf
            rw [hsteps] at hs
            obtain ⟨v, hv, hfv⟩ := List.mem_flatMap.1 hs
            exact ⟨v, hv, f, hfv, rfl⟩
          | write t v => cases hsf
          | signal e => cases hsf
        exact (hl.trans (Journal.Extends.record hrep)).mono fun v hv => by
          rcases List.mem_append.1 hv with hv | hv <;> exact List.mem_cons_of_mem _ hv
    · simp only [hen, Bool.not_false, if_true]
      exact Journal.Extends.record fun m hm => by cases hm
termination_by (hub.maxDepth + 1 - d, 0, 0)
decreasing_by exact Prod.Lex.left _ _ (by simp only [budget]; omega)

end

end Hub

/-- A trigger keeps the journal's lines and adds lines that report failures met at the places
it visits. -/
theorem Session.triggerAll_journal (hub : Hub) (events : List EventDef) (c : Caller) (w : World)
    (acc : Outcome) :
    Journal.Extends hub (hub.triggerVisits events c w) w.journal
      (Session.triggerAll hub events c w acc).2.journal := by
  induction events generalizing w acc with
  | nil => exact .refl _ _ _
  | cons e rest ih =>
    have he := hub.dispatch_journal 0 e c w
    rw [Session.triggerAll, Hub.triggerVisits]
    rcases hr : hub.dispatch 0 e c w with ⟨r, w1⟩
    rw [hr] at he
    dsimp only at he ⊢
    split
    · exact he.mono fun v hv => List.mem_append_left _ hv
    · exact he.trans (ih w1 _)

/-! ## Sessions -/

namespace Session

/-- The widget instance an operation runs its events for: the caller's, and none for a
custom event, whose listeners get only the payload. -/
def Op.inst : Op → Option String
  | .load c | .trigger _ _ c | .fireEvent _ c => c.instanceId
  | _ => none

/-- The places an operation visits. -/
def opVisits (s : Session) : Op → List Visit
  | .load c => s.reloaded.hub.triggerVisits (matchingEvents s.hub.registry .load none) c s.reloaded.world
  | .trigger on elementId c => s.hub.triggerVisits (matchingEvents s.hub.registry on elementId) c s.world
  | .fireCustom name payload => s.hub.eventVisits 0 (s.hub.listeners name) { params := payload } s.world
  | .fireEvent id c =>
    ((s.hub.registry.find? (·.id == id)).map fun e => s.hub.dispatchVisits 0 e c s.world).getD []
  | _ => []

/-- The steps an operation takes. -/
def opSteps (s : Session) : Op → List Step
  | .load c => s.loadSteps c
  | .trigger on elementId c => s.triggerSteps on elementId c
  | .fireCustom name payload => s.fireCustomSteps name payload
  | .fireEvent id c => (s.fireEventSteps id c).getD []
  | _ => []

@[simp] theorem reloaded_hub (s : Session) : s.reloaded.hub = s.hub := rfl

@[simp] theorem apply_hub (s : Session) (op : Op) : (s.apply op).2.hub = s.hub := by
  cases op with
  | fireEvent id c =>
    simp only [apply, fireEvent]
    cases s.hub.registry.find? (·.id == id) <;> rfl
  | _ => rfl

theorem applyAll_hub (s : Session) (ops : List Op) : (s.applyAll ops).hub = s.hub := by
  induction ops generalizing s with
  | nil => rfl
  | cons op ops ih => rw [applyAll, ih, apply_hub]

/-- The steps of an operation are the steps taken at the places it visits. -/
theorem opSteps_eq_flatMap (s : Session) (op : Op) :
    s.opSteps op = (s.opVisits op).flatMap s.hub.stepsAt := by
  cases op with
  | load c => exact s.reloaded.hub.triggerSteps_eq_flatMap _ c _
  | trigger on elementId c => exact s.hub.triggerSteps_eq_flatMap _ c _
  | fireCustom name payload => exact s.hub.eventSteps_eq_flatMap 0 _ _ _
  | fireEvent id c =>
    simp only [opSteps, opVisits, fireEventSteps]
    cases s.hub.registry.find? (·.id == id) with
    | none => rfl
    | some e => exact s.hub.dispatchSteps_eq_flatMap 0 e c s.world
  | unload => rfl
  | setState store => rfl

/-- The outcome of an operation, when it has one, folds the steps it takes. -/
theorem apply_folds (s : Session) (op : Op) : ∀ r ∈ (s.apply op).1, r.Folds (s.opSteps op) := by
  intro r hr
  cases op with
  | load c => exact Option.some_inj.1 hr ▸ s.load_folds c
  | trigger on elementId c => exact Option.some_inj.1 hr ▸ s.trigger_folds on elementId c
  | fireCustom name payload => exact Option.some_inj.1 hr ▸ s.fireCustom_folds name payload
  | fireEvent id c =>
    have hf := s.fireEvent_folds id c
    simp only [apply, opSteps] at hr ⊢
    rcases he : s.fireEvent id c with _ | ⟨r', s'⟩
    · rw [he] at hr
      cases hr
    · rw [he] at hr hf
      obtain rfl := Option.some_inj.1 hr
      rcases hs : s.fireEventSteps id c with _ | ss
      · rw [hs] at hf
        cases hf
      · rw [hs] at hf
        exact Option.some_inj.1 hf
  | unload => cases hr
  | setState store => cases hr

/-- Every action an operation visits lies inside an action of a registered event, and runs
for the operation's widget instance. -/
theorem opVisits_within {P : Action → Prop} (s : Session) (hP : s.hub.Throughout P) (op : Op) :
    ∀ v ∈ s.opVisits op, v.Within P op.inst := by
  have hmatch (on : TriggerKind) (elementId : Option String) :
      ∀ e ∈ matchingEvents s.hub.registry on elementId, ∀ a ∈ e.actions, a.Throughout P :=
    fun e he => hP e (List.mem_filter.1 he).1
  cases op with
  | load c => exact s.reloaded.hub.triggerVisits_within hP _ c _ (hmatch .load none)
  | trigger on elementId c => exact s.hub.triggerVisits_within hP _ c _ (hmatch on elementId)
  | fireCustom name payload =>
    exact s.hub.eventVisits_within hP 0 _ { params := payload } _ (hP.listeners name)
  | fireEvent id c =>
    intro v hv
    simp only [opVisits] at hv
    rcases he : s.hub.registry.find? (·.id == id) with _ | e
    · rw [he] at hv
      exact absurd hv List.not_mem_nil
    · rw [he] at hv
      exact s.hub.dispatchVisits_within hP 0 e c s.world (hP e (List.mem_of_find?_eq_some he)) v hv
  | unload => exact fun _ h => absurd h List.not_mem_nil
  | setState store => exact fun _ h => absurd h List.not_mem_nil

/-- An operation keeps the journal's lines, or empties it when it loads the screen, and adds
lines that report failures met at the places it visits. -/
theorem apply_journal (s : Session) (op : Op) :
    Journal.Extends s.hub (s.opVisits op) s.world.journal (s.apply op).2.world.journal := by
  cases op with
  | load c =>
    -- loading empties the journal before the trigger runs
    intro x hx
    rcases triggerAll_journal s.hub _ c s.reloaded.world Outcome.ok x hx with hx | hr
    · exact absurd hx List.not_mem_nil
    · exact .inr hr
  | trigger on elementId c => exact triggerAll_journal s.hub _ c s.world Outcome.ok
  | fireCustom name payload => exact s.hub.dispatchAll_journal 0 _ _ s.world Outcome.ok
  | fireEvent id c =>
    simp only [apply, opVisits, fireEvent]
    cases s.hub.registry.find? (·.id == id) with
    | none => exact .refl _ _ _
    | some e => exact s.hub.dispatch_journal 0 e c s.world
  | unload => exact .refl _ _ _
  | setState store => exact .refl _ _ _

end Session

end Storyboard
