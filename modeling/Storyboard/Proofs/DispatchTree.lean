import Storyboard.Proofs.Batches
import Storyboard.Proofs.Visits

/-!
# The journal of a run, dispatch by dispatch

Every dispatch of an event writes one line to the event journal, and writes it last, after the
events its actions fired have written theirs. So a run's journal lists its dispatches in the
post-order of its dispatch tree: each event after every event it fired, and the events one
event fired in the order they ran.

`DispatchTree` is that tree. A node is one dispatch (`Dispatch`: the event, how deep it was
fired, the caller, and the world it started from), with the dispatches its actions fired below
it. `Hub.dispatchTree` builds the tree of a run, following the run as `Hub.dispatchVisits` does:
the dispatches an action fires are those of the listeners of an `emit_event` it runs, at any
depth of nesting inside conditions, batches and request callbacks.

The line of a dispatch (`Hub.journalLine`) is read off what the dispatch returned and what it
found when it started: past the depth limit it is the refusal; otherwise `disabled` for a
disabled event, `skipped` when one of the event's conditions is falsy, and else `failed` with
the returned error when the returned outcome failed, `executed` with no error when it
succeeded. The limit is checked first: a disabled event fired too deep is refused, and its line
says `failed` (`disabled_event_past_limit_is_logged_failed`).

Main statement (`journal_lists_dispatches_in_postorder`): the journal after a dispatch from depth
zero is the journal before it followed by the lines of the dispatches of its tree, in
post-order, of which the latest five hundred are kept.

The proof follows the recursion of the run, one lemma per function of the block, as
`Hub.runAction_journal` does; a dispatch is split once into its four cases
(`Hub.dispatch_cases`), and the line of each case is read off `Hub.journalLine` by a lemma of
its own.
-/

namespace Storyboard

/-! ## Dispatch trees -/

/-- One dispatch of an event: the event, how deep it was fired, and the caller and world it
started from. -/
structure Dispatch where
  /-- The event dispatched. -/
  event : EventDef
  /-- How deep it was fired. -/
  depth : Nat
  /-- Who fired it. -/
  caller : Caller
  /-- The world it started from. -/
  world : World

/-- A dispatch and the trees of the dispatches its actions fired, in the order they ran. -/
inductive DispatchTree where
  | node (x : Dispatch) (fired : List DispatchTree)

namespace DispatchTree

mutual

/-- The dispatches of a tree in the order they end: each after those it fired. -/
def postorder : DispatchTree → List Dispatch
  | .node x fired => postorderAll fired ++ [x]

/-- The dispatches of trees in order, each tree in post-order. -/
def postorderAll : List DispatchTree → List Dispatch
  | [] => []
  | t :: ts => t.postorder ++ postorderAll ts

end

@[simp] theorem postorder_node (x : Dispatch) (fired : List DispatchTree) :
    (node x fired).postorder = postorderAll fired ++ [x] := by
  rw [postorder]

@[simp] theorem postorderAll_nil : postorderAll [] = [] := by
  rw [postorderAll]

@[simp] theorem postorderAll_cons (t : DispatchTree) (ts : List DispatchTree) :
    postorderAll (t :: ts) = t.postorder ++ postorderAll ts := by
  rw [postorderAll]

theorem postorderAll_append (ts us : List DispatchTree) :
    postorderAll (ts ++ us) = postorderAll ts ++ postorderAll us := by
  induction ts with
  | nil => simp
  | cons t ts ih => simp [ih]

end DispatchTree

namespace Hub

mutual

/-- The dispatches one action fires itself, at `em`, each with its tree. -/
def actionFired (hub : Hub) (em : Option Nat) (a : Action) (c : Caller) (w : World) :
    List DispatchTree :=
  match a with
  | .mk _ kind =>
    match kind with
    | .emitEvent name payload =>
      match em with
      | some d => hub.eventsFired d (hub.listeners name) (c.withParams payload) w
      | none => []
    | .condition cond t f =>
      let (passed, w) := w.holds c cond
      if passed then hub.listFired em false t c w
      else hub.listFired em false f c w
    | .batch as atomic => hub.listFired em atomic as c w
    | .apiCall r onSuccess onError =>
      match checkDomain (r.address c w.store) (r.allowedDomains.getD hub.allowed) with
      | .error _ => []
      | .ok () =>
        let (reply, wire) := w.wire.send ⟨r.method, r.address c w.store, r.headers, r.body⟩
        let w := { w with wire := wire }
        match reply with
        | .answer resp =>
          if resp.isSuccess then
            let sc := c.withParam "response" resp.body
            let (_, w) := match r.mapResponse with
              | some e => w.eval sc e
              | none => (some resp.body, w)
            hub.listFired em false onSuccess sc w
          else
            let err := Json.ofFields [("status", .int resp.status),
              ("statusText", .str resp.statusText), ("body", resp.body)]
            hub.listFired em false onError (c.withParam "error" err) w
        | .broken message =>
          let f := Failure.transport message
          hub.listFired em false onError
            (c.withParam "error" (Json.ofFields [("message", .str f.message)])) w
    | _ => []
termination_by (hub.budget em, 2, sizeOf a)

/-- The dispatches actions run in order fire; with `stop`, none after the first action that
failed. -/
def listFired (hub : Hub) (em : Option Nat) (stop : Bool) (as : List Action) (c : Caller)
    (w : World) : List DispatchTree :=
  match as with
  | [] => []
  | a :: rest =>
    let (r, w') := hub.runAction em a c w
    hub.actionFired em a c w ++
      if stop && !r.success then [] else hub.listFired em stop rest c w'
termination_by (hub.budget em, 2, sizeOf as)

/-- The trees of events dispatched in order at depth `d`, none after the first that failed. -/
def eventsFired (hub : Hub) (d : Nat) (events : List EventDef) (c : Caller) (w : World) :
    List DispatchTree :=
  match events with
  | [] => []
  | e :: rest =>
    let (r, w') := hub.dispatch d e c w
    hub.dispatchTree d e c w :: if !r.success then [] else hub.eventsFired d rest c w'
termination_by (hub.maxDepth + 1 - d, 1, events.length)

/-- The tree of a dispatch at depth `d`: the dispatch, and the dispatches its actions fired if
they ran. -/
def dispatchTree (hub : Hub) (d : Nat) (e : EventDef) (c : Caller) (w : World) : DispatchTree :=
  .node ⟨e, d, c, w⟩
    (if _h : hub.maxDepth ≤ d then []
    else if !e.isEnabled then []
    else
      let (pass, w) := w.guard c e
      if !pass then [] else hub.listFired (some (d + 1)) true e.actions c w)
termination_by (hub.maxDepth + 1 - d, 0, 0)
decreasing_by exact Prod.Lex.left _ _ (by simp only [budget]; omega)

end

/-- The journal line a dispatch leaves, read off what it returned and what it started from.
Past the depth limit it fails with the returned error. Otherwise a disabled event is
`disabled`; an event one of whose conditions is falsy for the caller, in the store the dispatch
started from, is `skipped`; and any other is `failed` with the returned error when the returned
outcome failed, `executed` with no error when it succeeded. -/
def journalLine (hub : Hub) (x : Dispatch) : Entry :=
  let r := (hub.dispatch x.depth x.event x.caller x.world).1
  let falsy := (x.event.conditions.getD []).any fun cond =>
    !Loose.isTruthy (Expr.eval (x.caller.view x.world.store) cond).1
  if hub.maxDepth ≤ x.depth then entry x.event .failed r.error x.depth
  else if !x.event.isEnabled then entry x.event .disabled none x.depth
  else if falsy then entry x.event .skipped none x.depth
  else if r.success then entry x.event .executed none x.depth
  else entry x.event .failed r.error x.depth

/-- The lines of the dispatches of trees, in post-order. -/
def linesOf (hub : Hub) (ts : List DispatchTree) : List Entry :=
  (DispatchTree.postorderAll ts).map hub.journalLine

@[simp] theorem linesOf_nil (hub : Hub) : hub.linesOf [] = [] := by
  simp [linesOf]

theorem linesOf_append (hub : Hub) (ts us : List DispatchTree) :
    hub.linesOf (ts ++ us) = hub.linesOf ts ++ hub.linesOf us := by
  simp [linesOf, DispatchTree.postorderAll_append]

theorem linesOf_cons (hub : Hub) (t : DispatchTree) (ts : List DispatchTree) :
    hub.linesOf (t :: ts) = t.postorder.map hub.journalLine ++ hub.linesOf ts := by
  simp [linesOf]

end Hub

/-! ## Guards -/

/-- Whether all expressions hold is decided against the store alone. -/
theorem World.holdsAll_fst (w : World) (c : Caller) (es : List String) :
    (w.holdsAll c es).1 = es.all fun e => Loose.isTruthy (Expr.eval (c.view w.store) e).1 := by
  induction es generalizing w with
  | nil => rfl
  | cons e es ih =>
    rw [World.holdsAll]
    rcases hh : w.holds c e with ⟨b, w₁⟩
    -- asking a condition only takes notes, so the next one reads the same store
    have hb : b = Loose.isTruthy (Expr.eval (c.view w.store) e).1 := by
      rw [← World.eval_fst]
      exact (congrArg Prod.fst hh).symm
    have hs : w₁.store = w.store := by
      rw [← (World.agree_eval (w := w) c e).store, ← World.holds_snd, hh]
    dsimp only
    rw [List.all_cons, ← hb]
    cases b with
    | false => rfl
    | true => rw [if_pos rfl, ih w₁, hs, Bool.true_and]

/-- An event's guard passes exactly when none of its conditions is falsy. -/
theorem World.guard_fst (w : World) (c : Caller) (e : EventDef) :
    (w.guard c e).1 = !((e.conditions.getD []).any fun cond =>
      !Loose.isTruthy (Expr.eval (c.view w.store) cond).1) := by
  rw [← List.all_eq_not_any_not]
  unfold World.guard
  cases e.conditions with
  | none => rfl
  | some cs => exact w.holdsAll_fst c cs

/-! ## The four ways a dispatch goes -/

namespace Hub

variable (hub : Hub) {d : Nat} {e : EventDef} {c : Caller} {w : World}

theorem dispatch_of_le (hd : hub.maxDepth ≤ d) :
    hub.dispatch d e c w = (Outcome.failure (.depthExceeded d hub.maxDepth),
      w.record (entry e .failed (some (Failure.depthExceeded d hub.maxDepth).message) d)) := by
  rw [dispatch]
  simp only [hd, dite_true]

theorem dispatch_of_disabled (hd : ¬ hub.maxDepth ≤ d) (hen : e.isEnabled = false) :
    hub.dispatch d e c w = (Outcome.ok, w.record (entry e .disabled none d)) := by
  rw [dispatch]
  simp only [hd, dite_false, hen, Bool.not_false, if_true]

theorem dispatch_of_guard_false (hd : ¬ hub.maxDepth ≤ d) (hen : e.isEnabled = true)
    (hg : (w.guard c e).1 = false) :
    hub.dispatch d e c w = (Outcome.ok, (w.guard c e).2.record (entry e .skipped none d)) := by
  rw [dispatch]
  simp only [hd, dite_false, hen, Bool.not_true, Bool.false_eq_true, if_false]
  rcases hp : w.guard c e with ⟨pass, w₁⟩
  rw [hp] at hg
  cases hg
  rfl

theorem dispatch_of_guard_true (hd : ¬ hub.maxDepth ≤ d) (hen : e.isEnabled = true)
    (hg : (w.guard c e).1 = true) :
    hub.dispatch d e c w =
      ((hub.runList (some (d + 1)) true e.actions c (w.guard c e).2 Outcome.ok).1,
        (hub.runList (some (d + 1)) true e.actions c (w.guard c e).2 Outcome.ok).2.record
          (entry e (if (hub.runList (some (d + 1)) true e.actions c (w.guard c e).2 Outcome.ok).1.success
              then .executed else .failed)
            (hub.runList (some (d + 1)) true e.actions c (w.guard c e).2 Outcome.ok).1.error d)) := by
  rw [dispatch]
  simp only [hd, dite_false, hen, Bool.not_true, Bool.false_eq_true, if_false]
  rcases hp : w.guard c e with ⟨pass, w₁⟩
  rw [hp] at hg
  cases hg
  rfl

theorem dispatchTree_of_le (hd : hub.maxDepth ≤ d) : hub.dispatchTree d e c w = .node ⟨e, d, c, w⟩ [] := by
  rw [dispatchTree]
  simp only [hd, dite_true]

theorem dispatchTree_of_disabled (hd : ¬ hub.maxDepth ≤ d) (hen : e.isEnabled = false) :
    hub.dispatchTree d e c w = .node ⟨e, d, c, w⟩ [] := by
  rw [dispatchTree]
  simp only [hd, dite_false, hen, Bool.not_false, if_true]

theorem dispatchTree_of_guard (hd : ¬ hub.maxDepth ≤ d) (hen : e.isEnabled = true) :
    hub.dispatchTree d e c w = .node ⟨e, d, c, w⟩
      (if (w.guard c e).1 then hub.listFired (some (d + 1)) true e.actions c (w.guard c e).2
        else []) := by
  rw [dispatchTree]
  simp only [hd, dite_false, hen, Bool.not_true, Bool.false_eq_true, if_false]
  rcases w.guard c e with ⟨pass, w₁⟩
  cases pass <;> rfl

/-! ## The line of each way -/

/-- A dispatch fails exactly when it reports an error, whatever way it went. -/
theorem dispatch_success_eq_false_iff (x : Dispatch) :
    (hub.dispatch x.depth x.event x.caller x.world).1.success = false ↔
      (hub.dispatch x.depth x.event x.caller x.world).1.error.isSome :=
  (hub.dispatch_folds x.depth x.event x.caller x.world).1.success_eq_false_iff

theorem journalLine_of_le (hd : hub.maxDepth ≤ d) :
    hub.journalLine ⟨e, d, c, w⟩ =
      entry e .failed (some (Failure.depthExceeded d hub.maxDepth).message) d := by
  simp only [journalLine, hd, if_true, dispatch_of_le hub hd]
  rfl

theorem journalLine_of_disabled (hd : ¬ hub.maxDepth ≤ d) (hen : e.isEnabled = false) :
    hub.journalLine ⟨e, d, c, w⟩ = entry e .disabled none d := by
  simp only [journalLine, hd, if_false, hen, Bool.not_false, if_true]

theorem journalLine_of_guard_false (hd : ¬ hub.maxDepth ≤ d) (hen : e.isEnabled = true)
    (hg : (w.guard c e).1 = false) : hub.journalLine ⟨e, d, c, w⟩ = entry e .skipped none d := by
  rw [World.guard_fst, Bool.not_eq_false'] at hg
  simp only [journalLine, hd, if_false, hen, Bool.not_true, Bool.false_eq_true, hg, if_true]

/-- The line of an event whose actions ran says how they ended, and carries their first error
only when they failed. -/
theorem journalLine_of_guard_true (hd : ¬ hub.maxDepth ≤ d) (hen : e.isEnabled = true)
    (hg : (w.guard c e).1 = true) :
    hub.journalLine ⟨e, d, c, w⟩ =
      entry e (if (hub.dispatch d e c w).1.success then .executed else .failed)
        (hub.dispatch d e c w).1.error d := by
  have hsome := hub.dispatch_success_eq_false_iff ⟨e, d, c, w⟩
  rw [World.guard_fst, Bool.not_eq_true'] at hg
  simp only [journalLine, hd, if_false, hen, Bool.not_true, Bool.false_eq_true, hg]
  cases hs : (hub.dispatch d e c w).1.success with
  | false => rfl
  | true =>
    -- an outcome that succeeded carries no error
    rw [hs] at hsome
    have hnone : (hub.dispatch d e c w).1.error = none := by
      simpa using hsome
    simp only [if_true, hnone]

/-! ## The journal of a run -/

/-- A request refused by its host fires nothing; one sent runs one of its callback lists, from a
world that kept the journal. -/
theorem apiCall_fired (em : Option Nat) (id : String) (r : Request) (onSuccess onError : List Action)
    (c : Caller) (w : World) :
    (hub.runAction em (.mk id (.apiCall r onSuccess onError)) c w).2.journal = w.journal ∧
      hub.actionFired em (.mk id (.apiCall r onSuccess onError)) c w = [] ∨
    ∃ cbs c' w' acc, (cbs = onSuccess ∨ cbs = onError) ∧ w'.journal = w.journal ∧
      (hub.runAction em (.mk id (.apiCall r onSuccess onError)) c w).2
        = (hub.runList em false cbs c' w' acc).2 ∧
      hub.actionFired em (.mk id (.apiCall r onSuccess onError)) c w = hub.listFired em false cbs c' w' := by
  rw [runAction, actionFired]
  rcases hd : checkDomain (r.address c w.store) (r.allowedDomains.getD hub.allowed) with f | u
  · exact .inl ⟨rfl, rfl⟩
  · cases u
    refine .inr ?_
    rcases hs : w.wire.send ⟨r.method, r.address c w.store, r.headers, r.body⟩ with ⟨reply, wire⟩
    cases reply with
    | answer resp =>
      dsimp only
      cases hok : resp.isSuccess with
      | true =>
        simp only [if_true]
        -- the success callbacks run after the response is mapped, which only takes notes
        cases r.mapResponse with
        | none => exact ⟨onSuccess, _, { w with wire := wire }, Outcome.ok, .inl rfl, rfl, rfl, rfl⟩
        | some e =>
          exact ⟨onSuccess, _, (World.eval { w with wire := wire } _ e).2, Outcome.ok, .inl rfl,
            (World.eval_frame _ _ _).journal, rfl, rfl⟩
      | false => exact ⟨onError, _, { w with wire := wire }, _, .inr rfl, rfl, rfl, rfl⟩
    | broken message => exact ⟨onError, _, { w with wire := wire }, _, .inr rfl, rfl, rfl, rfl⟩

mutual

/-- A run of an action adds the lines of the dispatches it fires, each tree in post-order. -/
theorem runAction_journal_eq (em : Option Nat) (a : Action) (c : Caller) (w : World) :
    (hub.runAction em a c w).2.journal = Journal.add w.journal (hub.linesOf (hub.actionFired em a c w)) := by
  obtain ⟨id, kind⟩ := a
  cases kind with
  | stateUpdate p =>
    rw [runAction]
    simp only [actionFired]
    exact (p.run_frame c w).journal
  | recalculate target formula =>
    rw [runAction]
    simp only [actionFired]
    exact ((w.eval_frame c formula).trans (writeTarget_frame _ _ c _)).journal
  | toast m v d =>
    rw [runAction]
    simp only [actionFired]
    exact (toastEffect_frame m v d c w).journal
  | emitEvent name payload =>
    cases em with
    | none =>
      rw [runAction, actionFired]
      rfl
    | some d =>
      rw [runAction, actionFired]
      exact dispatchAll_journal_eq d _ _ w Outcome.ok
  | condition cond t f =>
    rw [runAction, actionFired]
    have hj := (w.holds_frame c cond).journal
    rcases hh : w.holds c cond with ⟨passed, w₁⟩
    rw [hh] at hj
    rw [← hj]
    cases passed with
    | true => exact runList_journal_eq em false t c w₁ _
    | false => exact runList_journal_eq em false f c w₁ _
  | batch as atomic =>
    rw [runAction, actionFired]
    exact runList_journal_eq em atomic as c w _
  | apiCall r onSuccess onError =>
    rcases hub.apiCall_fired em id r onSuccess onError c w with ⟨hj, hf⟩ | ⟨cbs, c', w', acc, hcbs, hj, hrun, hf⟩
    · rw [hj, hf]
      rfl
    · rw [hrun, hf, ← hj]
      -- the callbacks that run are among the request's own actions
      rcases hcbs with h | h
      · rw [h]
        exact runList_journal_eq em false onSuccess c' w' acc
      · rw [h]
        exact runList_journal_eq em false onError c' w' acc
  | _ =>
    rw [runAction]
    simp only [actionFired]
    rfl
termination_by (hub.budget em, 2, sizeOf a)

/-- A run of actions adds the lines of the dispatches they fire, in the order they ran. -/
theorem runList_journal_eq (em : Option Nat) (stop : Bool) (as : List Action) (c : Caller)
    (w : World) (acc : Outcome) :
    (hub.runList em stop as c w acc).2.journal = Journal.add w.journal (hub.linesOf (hub.listFired em stop as c w)) := by
  cases as with
  | nil =>
    rw [runList, listFired]
    rfl
  | cons a rest =>
    have ha := runAction_journal_eq em a c w
    rw [runList, listFired]
    rcases hr : hub.runAction em a c w with ⟨r, w₁⟩
    rw [hr] at ha
    dsimp only at ha ⊢
    rw [linesOf_append, Journal.add_append, ← ha]
    split
    · rfl
    · exact runList_journal_eq em stop rest c w₁ _
termination_by (hub.budget em, 2, sizeOf as)

/-- Dispatching events in order adds the lines of their trees, one tree after another. -/
theorem dispatchAll_journal_eq (d : Nat) (events : List EventDef) (c : Caller) (w : World)
    (acc : Outcome) :
    (hub.dispatchAll d events c w acc).2.journal = Journal.add w.journal (hub.linesOf (hub.eventsFired d events c w)) := by
  cases events with
  | nil =>
    rw [dispatchAll, eventsFired]
    rfl
  | cons e rest =>
    have he := dispatch_journal_eq d e c w
    rw [dispatchAll, eventsFired]
    rcases hr : hub.dispatch d e c w with ⟨r, w₁⟩
    rw [hr] at he
    dsimp only at he ⊢
    rw [linesOf_cons, Journal.add_append, ← he]
    split
    · rfl
    · exact dispatchAll_journal_eq d rest c w₁ _
termination_by (hub.maxDepth + 1 - d, 1, events.length)

/-- A dispatch adds the lines of the dispatches its actions fired, then its own. -/
theorem dispatch_journal_eq (d : Nat) (e : EventDef) (c : Caller) (w : World) :
    (hub.dispatch d e c w).2.journal = Journal.add w.journal ((hub.dispatchTree d e c w).postorder.map hub.journalLine) := by
  by_cases hd : hub.maxDepth ≤ d
  · rw [hub.dispatch_of_le hd, hub.dispatchTree_of_le hd, World.record_journal,
      DispatchTree.postorder_node, DispatchTree.postorderAll_nil, List.nil_append, List.map_singleton,
      hub.journalLine_of_le hd]
  · cases hen : e.isEnabled with
    | false =>
      rw [hub.dispatch_of_disabled hd hen, hub.dispatchTree_of_disabled hd hen, World.record_journal]
      simp [hub.journalLine_of_disabled hd hen]
    | true =>
      have hj := (w.guard_frame c e).journal
      rw [hub.dispatchTree_of_guard hd hen]
      cases hg : (w.guard c e).1 with
      | false =>
        rw [hub.dispatch_of_guard_false hd hen hg, World.record_journal, hj]
        simp [hub.journalLine_of_guard_false hd hen hg]
      | true =>
        -- the actions' dispatches write first, from the world the guard left
        have hl := runList_journal_eq (some (d + 1)) true e.actions c (w.guard c e).2 Outcome.ok
        rw [hj] at hl
        have hline := hub.journalLine_of_guard_true hd hen hg
        rw [hub.dispatch_of_guard_true hd hen hg] at hline ⊢
        rw [World.record_journal, hl, if_pos rfl, DispatchTree.postorder_node, List.map_append,
          List.map_singleton, hline, Journal.add_append]
        rfl
termination_by (hub.maxDepth + 1 - d, 0, 0)
decreasing_by exact Prod.Lex.left _ _ (by simp only [budget]; omega)

end

end Hub

/-- A dispatch from depth zero leaves one journal line per dispatch of its run, in post-order
of the dispatch tree: each event's line after the lines of every event it fired, and the events
one event fired in the order they ran. Each line names the event, its trigger kind and its
depth; past the depth limit it is the refusal; otherwise it is `disabled` for a disabled event,
`skipped` when some condition was falsy, and else `failed` with the error of the outcome the
dispatch returned, when that failed, or `executed` with no error. Of the journal before and
these lines, the latest five hundred are kept. -/
theorem journal_lists_dispatches_in_postorder (hub : Hub) (e : EventDef) (c : Caller) (w : World) :
    (hub.dispatch 0 e c w).2.journal =
      (w.journal ++ (hub.dispatchTree 0 e c w).postorder.map hub.journalLine).drop
        ((w.journal ++ (hub.dispatchTree 0 e c w).postorder.map hub.journalLine).length - 500) := by
  rw [hub.dispatch_journal_eq 0 e c w, Journal.add_eq_drop]
  -- the dispatch's own line is always there
  rw [DispatchTree.postorder.eq_def]
  split
  simp

/-- An event that answers `b` but is turned off. -/
def quietListener : EventDef :=
  { id := "b", trigger := { kind := .custom, name := some "b" }, enabled := some false }

/-- An event that fires `b`, and the event that is turned off, under a limit of one. -/
def quietLimitOne : Hub := { registry := [firing, quietListener], maxDepth := 1 }

/-- Under a limit of one, a disabled event fired from depth zero is refused at depth one before
its flag is read: its journal line says `failed`, not `disabled`, and so does the line of the
event that fired it. -/
theorem disabled_event_past_limit_is_logged_failed :
    quietListener.isEnabled = false ∧
      ((quietLimitOne.dispatch 0 firing {} {}).2.journal.map fun x => (x.eventId, x.verdict, x.depth)) =
        [("b", .failed, 1), ("a", .failed, 0)] :=
  ⟨rfl, by
    simp [Hub.dispatch, Hub.runList, Hub.runAction, Hub.dispatchAll, Hub.listeners, quietLimitOne,
      firing, quietListener, EventDef.listensTo, EventDef.isEnabled, World.guard, World.record,
      Hub.entry, Outcome.absorb, Outcome.ok, Outcome.withEffect, Outcome.failure]⟩

end Storyboard
