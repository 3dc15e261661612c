import Storyboard.Proofs.Visits

/-!
# The requests a run sends

A request leaves a run only from an API call whose address passes the domain check. The
address is the call's URL with the caller's bindings filled in from the state the run has
reached at the call, and it is checked against the call's own allowed hosts, or the hub's
when the call names none (`Hub.request?`).

Main statement (`requests_follow_visited_calls`): for every run, of an action, of an event
at any depth with the events it fires, and of every operation of a session, the requests
handed to the wire are exactly those of the visited calls whose address passes, one each,
in the order the run visits them. A call whose address fails the check sends nothing,
changes nothing and fails with the refusal.

The proof follows the recursion of the run, as `Hub.runAction_journal` does: the
primitive actions keep the wire (`World.Frame`), and a call that passes appends its request
before its callbacks run.
-/

namespace Storyboard

namespace Hub

/-- The request sent at a place: at an API call, the call's request, addressed from the
caller and the store found there, when the address passes the check against the call's
allowed hosts or, when it names none, the hub's. -/
def request? (hub : Hub) : Visit → Option Sent
  | .action a c w =>
    match a.kind with
    | .apiCall r _ _ =>
      match checkDomain (r.address c w.store) (r.allowedDomains.getD hub.allowed) with
      | .ok () => some ⟨r.method, r.address c w.store, r.headers, r.body⟩
      | .error _ => none
    | _ => none
  | .event .. => none

/-- An action other than an API call sends nothing. -/
theorem request?_action {hub : Hub} {a : Action} (h : ∀ r s e, a.kind ≠ .apiCall r s e)
    (c : Caller) (w : World) : hub.request? (.action a c w) = none := by
  cases hk : a.kind with
  | apiCall r s e => exact absurd hk (h r s e)
  | _ => simp [request?, hk]

mutual

/-- A run of an action hands the wire the requests of the calls it visits that pass the
check, in order. -/
theorem runAction_sent (hub : Hub) (em : Option Nat) (a : Action) (c : Caller) (w : World) :
    (hub.runAction em a c w).2.wire.sent
      = w.wire.sent ++ (hub.actionVisits em a c w).filterMap hub.request? := by
  obtain ⟨id, kind⟩ := a
  cases kind with
  | emitEvent name payload =>
    cases em with
    | none => simp [runAction, actionVisits, request?]
    | some d =>
      rw [runAction, actionVisits, List.filterMap_cons_none (request?_action (by simp) c w)]
      exact dispatchAll_sent hub d _ _ w Outcome.ok
  | condition cond t f =>
    rw [runAction, actionVisits, List.filterMap_cons_none (request?_action (by simp) c w)]
    have hw := (w.holds_frame c cond).wire
    rcases hh : w.holds c cond with ⟨passed, w1⟩
    rw [hh] at hw
    rw [← hw]
    cases passed with
    | true => exact runList_sent hub em false t c w1 _
    | false => exact runList_sent hub em false f c w1 _
  | batch as atomic =>
    rw [runAction, actionVisits, List.filterMap_cons_none (request?_action (by simp) c w)]
    exact runList_sent hub em atomic as c w _
  | apiCall r onSuccess onError =>
    rcases hd : checkDomain (r.address c w.store) (r.allowedDomains.getD hub.allowed) with f | u
    · -- refused: nothing is sent
      obtain ⟨hrun, hvis⟩ := runAction_apiCall_of_error hub em id r onSuccess onError c w hd
      rw [hrun, hvis]
      simp [request?, hd]
    · cases u
      obtain ⟨cbs, c', w', acc, hcbs, -, hsent, -, -, hrun, hvis⟩ :=
        runAction_apiCall_of_ok hub em id r onSuccess onError c w hd
      -- the call's request goes first, then those of its callbacks
      have hreq : hub.request? (.action (.mk id (.apiCall r onSuccess onError)) c w)
          = some ⟨r.method, r.address c w.store, r.headers, r.body⟩ := by
        simp [request?, hd]
      rw [hrun, hvis, List.filterMap_cons_some hreq, ← List.singleton_append, ← List.append_assoc,
        ← hsent]
      rcases hcbs with h | h <;> rw [h]
      · exact runList_sent hub em false onSuccess c' w' acc
      · exact runList_sent hub em false onError c' w' acc
  | stateUpdate p =>
    simp only [runAction, actionVisits, request?, Action.kind_mk, List.filterMap_cons,
      List.filterMap_nil, List.append_nil]
    exact congrArg Wire.sent (p.run_frame c w).wire
  | recalculate target formula =>
    simp only [runAction, actionVisits, request?, Action.kind_mk, List.filterMap_cons,
      List.filterMap_nil, List.append_nil]
    exact congrArg Wire.sent ((w.eval_frame c formula).trans (writeTarget_frame _ _ c _)).wire
  | toast m v d =>
    simp only [runAction, actionVisits, request?, Action.kind_mk, List.filterMap_cons,
      List.filterMap_nil, List.append_nil]
    exact congrArg Wire.sent (toastEffect_frame m v d c w).wire
  | _ => simp [runAction, actionVisits, request?]
termination_by (hub.budget em, 2, sizeOf a)

/-- A run of actions hands the wire the requests of the calls it visits that pass the check,
in order. -/
theorem runList_sent (hub : Hub) (em : Option Nat) (stop : Bool) (as : List Action) (c : Caller)
    (w : World) (acc : Outcome) :
    (hub.runList em stop as c w acc).2.wire.sent
      = w.wire.sent ++ (hub.listVisits em stop as c w).filterMap hub.request? := by
  cases as with
  | nil => simp [runList, listVisits]
  | cons a rest =>
    have ha := runAction_sent hub em a c w
    rw [runList, listVisits]
    rcases hr : hub.runAction em a c w with ⟨r, w1⟩
    rw [hr] at ha
    dsimp only at ha ⊢
    rw [List.filterMap_append, ← List.append_assoc, ← ha]
    split
    · simp
    · exact runList_sent hub em stop rest c w1 _
termination_by (hub.budget em, 2, sizeOf as)

/-- A dispatch of events hands the wire the requests of the calls it visits that pass the
check, in order. -/
theorem dispatchAll_sent (hub : Hub) (d : Nat) (events : List EventDef) (c : Caller) (w : World)
    (acc : Outcome) :
    (hub.dispatchAll d events c w acc).2.wire.sent
      = w.wire.sent ++ (hub.eventVisits d events c w).filterMap hub.request? := by
  cases events with
  | nil => simp [dispatchAll, eventVisits]
  | cons e rest =>
    have he := dispatch_sent hub d e c w
    rw [dispatchAll, eventVisits]
    rcases hr : hub.dispatch d e c w with ⟨r, w1⟩
    rw [hr] at he
    dsimp only at he ⊢
    rw [List.filterMap_append, ← List.append_assoc, ← he]
    split
    · simp
    · exact dispatchAll_sent hub d rest c w1 _
termination_by (hub.maxDepth + 1 - d, 1, events.length)

/-- A dispatch hands the wire the requests of the calls it visits that pass the check, in
order; a refused, disabled or skipped event sends none. -/
theorem dispatch_sent (hub : Hub) (d : Nat) (e : EventDef) (c : Caller) (w : World) :
    (hub.dispatch d e c w).2.wire.sent
      = w.wire.sent ++ (hub.dispatchVisits d e c w).filterMap hub.request? := by
  rw [dispatch, dispatchVisits, List.filterMap_cons_none (by rfl)]
  by_cases hd : hub.maxDepth ≤ d
  · simp [hd, World.record]
  · simp only [hd, dite_false]
    by_cases hen : e.isEnabled = true
    · simp only [hen, Bool.not_true, Bool.false_eq_true, if_false]
      have hw := (w.guard_frame c e).wire
      rcases hp : w.guard c e with ⟨pass, w1⟩
      rw [hp] at hw
      dsimp only at hw ⊢
      cases pass with
      | false => simp [World.record, hw]
      | true =>
        simp only [Bool.not_true, Bool.false_eq_true, if_false]
        have hl := runList_sent hub (some (d + 1)) true e.actions c w1 Outcome.ok
        rcases hr : hub.runList (some (d + 1)) true e.actions c w1 Outcome.ok with ⟨r, w2⟩
        rw [hr] at hl
        dsimp only at hl ⊢
        rw [← hw]
        exact hl
    · simp [hen, World.record]
termination_by (hub.maxDepth + 1 - d, 0, 0)
decreasing_by exact Prod.Lex.left _ _ (by simp only [budget]; omega)

end

end Hub

/-- A trigger hands the wire the requests of the calls it visits that pass the check, in
order. -/
theorem Session.triggerAll_sent (hub : Hub) (events : List EventDef) (c : Caller) (w : World)
    (acc : Outcome) :
    (Session.triggerAll hub events c w acc).2.wire.sent
      = w.wire.sent ++ (hub.triggerVisits events c w).filterMap hub.request? := by
  induction events generalizing w acc with
  | nil => simp [Session.triggerAll, Hub.triggerVisits]
  | cons e rest ih =>
    have he := hub.dispatch_sent 0 e c w
    rw [Session.triggerAll, Hub.triggerVisits]
    rcases hr : hub.dispatch 0 e c w with ⟨r, w1⟩
    rw [hr] at he
    dsimp only at he ⊢
    rw [List.filterMap_append, ← List.append_assoc, ← he]
    split
    · simp
    · exact ih w1 _

/-- A session operation hands the wire the requests of the calls it visits that pass the
check, in order. -/
theorem Session.apply_sent (s : Session) (op : Session.Op) :
    (s.apply op).2.world.wire.sent = s.world.wire.sent ++ (s.opVisits op).filterMap s.hub.request? := by
  cases op with
  | load c => exact Session.triggerAll_sent s.hub _ c s.reloaded.world Outcome.ok
  | trigger on elementId c => exact Session.triggerAll_sent s.hub _ c s.world Outcome.ok
  | fireCustom name payload => exact s.hub.dispatchAll_sent 0 _ _ s.world Outcome.ok
  | fireEvent id c =>
    simp only [Session.apply, Session.opVisits, Session.fireEvent]
    cases s.hub.registry.find? (·.id == id) with
    | none => simp
    | some e => exact s.hub.dispatch_sent 0 e c s.world
  | unload => simp [Session.apply, Session.unload, Session.opVisits]
  | setState store => simp [Session.apply, Session.setState, Session.opVisits]


/-- The requests of every run follow the calls it visits. A run of an action, of an event at
any depth with the events it fires, and of any session operation hands the wire, after what it
held before, exactly the requests of the visited calls whose address passes the check, one
each and in the order visited. A call whose address fails the check sends nothing, leaves the
world as it was and fails with the domain refusal. -/
theorem requests_follow_visited_calls (hub : Hub) (em : Option Nat) (a : Action) (d : Nat)
    (e : EventDef) (c : Caller) (w : World) (s : Session) (op : Session.Op) :
    (hub.runAction em a c w).2.wire.sent
        = w.wire.sent ++ (hub.actionVisits em a c w).filterMap hub.request? ∧
    (hub.dispatch d e c w).2.wire.sent
        = w.wire.sent ++ (hub.dispatchVisits d e c w).filterMap hub.request? ∧
    (s.apply op).2.world.wire.sent
        = s.world.wire.sent ++ (s.opVisits op).filterMap s.hub.request? ∧
    ∀ id r onSuccess onError f,
      checkDomain (r.address c w.store) (r.allowedDomains.getD hub.allowed) = .error f →
      hub.runAction em (.mk id (.apiCall r onSuccess onError)) c w = (Outcome.failure f, w) ∧
        ∃ what, f = .domainNotAllowed what := by
  refine ⟨hub.runAction_sent em a c w, hub.dispatch_sent d e c w, s.apply_sent op, ?_⟩
  intro id r onSuccess onError f hd
  exact ⟨(hub.runAction_apiCall_of_error em id r onSuccess onError c w hd).1, checkDomain_error hd⟩

end Storyboard
