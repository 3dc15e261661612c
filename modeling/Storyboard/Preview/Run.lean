import Storyboard.Preview.Store
import Storyboard.Preview.Wire

/-!
# Running actions and events

`Hub.runAction` runs one action against a `World` (the store, the wire, the evaluator's
notes and the event journal) and returns its `Outcome`. Nested actions run in order: the
chosen branch of a condition runs whole, an atomic batch stops at its first failure, and
the callbacks of a request run whole. `Hub.dispatch` runs an event: too deep an event
fails, a disabled one does nothing, one whose conditions do not all hold is skipped, and
otherwise its actions run until the first failure. Every dispatch leaves one journal
entry, written after the events it fired.

An action run inside an event may fire a custom event; the listeners then run one level
deeper. Running outside any event (`none` for the depth), firing only signals. The
recursion is well founded on the depth budget left, then the level of the call
(dispatch, listener list, action), then the size of the actions.
-/

namespace Storyboard

/-- How a dispatch ended. -/
inductive Verdict where
  | executed | skipped | disabled | failed
deriving DecidableEq, Repr

/-- The name of a verdict. -/
def Verdict.name : Verdict → String
  | .executed => "executed" | .skipped => "skipped" | .disabled => "disabled" | .failed => "failed"

/-- A line of the event journal. -/
structure Entry where
  /-- The event dispatched. -/
  eventId : String
  /-- Its trigger kind. -/
  trigger : TriggerKind
  /-- How it ended. -/
  verdict : Verdict
  /-- The error, if it failed. -/
  error : Option String
  /-- How deep it was fired. -/
  depth : Nat

/-- The JSON form of a journal line. -/
def Entry.toJson (e : Entry) : Json :=
  Json.ofFields ([("eventId", .str e.eventId), ("trigger", .str e.trigger.name),
    ("result", .str e.verdict.name), ("depth", .int e.depth)]
    ++ match e.error with | some m => [("error", .str m)] | none => [])

/-- Everything a run changes. -/
structure World where
  /-- The state. -/
  store : Store := {}
  /-- The requests and their answers. -/
  wire : Wire := {}
  /-- The evaluator's notes, the latest two hundred. -/
  notes : List EvalNote := []
  /-- The event journal, the latest five hundred lines. -/
  journal : List Entry := []

namespace World

/-- Evaluate an expression as a caller sees the store, keeping the notes. -/
def eval (w : World) (c : Caller) (e : String) : Option Json × World :=
  let (v, ns) := Expr.eval (c.view w.store) e
  (v, { w with notes := EvalNote.keep w.notes ns })

/-- The truth of an expression as a caller sees the store. -/
def holds (w : World) (c : Caller) (e : String) : Bool × World :=
  let (v, w) := w.eval c e
  (Loose.isTruthy v, w)

/-- Whether all expressions hold; evaluation stops at the first that does not. -/
def holdsAll (w : World) (c : Caller) : List String → Bool × World
  | [] => (true, w)
  | e :: es =>
    let (b, w) := w.holds c e
    if b then w.holdsAll c es else (false, w)

/-- Whether an event may run: all its conditions hold, or it has none. -/
def guard (w : World) (c : Caller) (e : EventDef) : Bool × World :=
  match e.conditions with
  | some cs => w.holdsAll c cs
  | none => (true, w)

/-- Add a journal line, keeping the latest five hundred. -/
def record (w : World) (e : Entry) : World :=
  let all := w.journal ++ [e]
  { w with journal := all.drop (all.length - 500) }

/-- Hand back the evaluator's notes, leaving none. -/
def takeNotes (w : World) : List EvalNote × World := (w.notes, { w with notes := [] })

/-- Drop the evaluator's notes. -/
def clearNotes (w : World) : World := { w with notes := [] }

/-- Drop the event journal. -/
def clearJournal (w : World) : World := { w with journal := [] }

end World

/-- Split a target `scope.path` at its first dot; the scope must be `app`, `screen` or
`local` and the path not empty. -/
def splitTarget (target : String) : Except Failure (Scope × String) :=
  let cs := target.toList
  let scopeText := cs.takeWhile (· != '.')
  match cs.drop scopeText.length with
  | _ :: path@(_ :: _) =>
    match Scope.ofName? (String.ofList scopeText) with
    | some s => .ok (s, String.ofList path)
    | none => .error (.invalidScope (String.ofList scopeText))
  | _ => .error (.invalidScope target)

/-- Write a value at a target, as a caller: the write, or why it failed. -/
def writeTarget (target : String) (value : Json) (c : Caller) (w : World) : Step × World :=
  match splitTarget target with
  | .error f => (.fail f, w)
  | .ok (scope, path) =>
    match w.store.write? scope c.instanceId path value with
    | some s => (.write target value, { w with store := s })
    | none => (.fail (.invalidScope "local (no widget instance in context)"), w)

/-- The operand of a state update: its expression's value when it has one, else its
fixed value; `null` when neither gives one. -/
def StateUpdate.operand (p : StateUpdate) (c : Caller) (w : World) : Json × World :=
  match p.expression with
  | some e =>
    let (v, w) := w.eval c e
    (v.getD .null, w)
  | none => (p.value.getD .null, w)

/-- Run a state update: `set` writes the operand, `increment` and `decrement` move the
current number by the step (one by default), `push` appends the operand to the current
list, and `remove_by_index` drops the item at the operand's index. It comes to one
write or one failure. -/
def StateUpdate.run (p : StateUpdate) (c : Caller) (w : World) : Step × World :=
  match splitTarget p.target with
  | .error f => (.fail f, w)
  | .ok (scope, path) =>
    let current := (w.store.scopeRoot scope c.instanceId).bind (·.getPath path)
    let items := match current with
      | some (.arr xs) => xs
      | _ => []
    let moved (delta : Float) : Json :=
      (Loose.numberValue (Loose.toNumberOrZero current + delta)).getD .null
    let next : Option (Json × World) := match p.operation with
      | "set" => some (p.operand c w)
      | "increment" => some (moved (p.step.getD 1), w)
      | "decrement" => some (moved (-(p.step.getD 1)), w)
      | "push" =>
        let (v, w) := p.operand c w
        some (.arr (items ++ [v]), w)
      | "remove_by_index" =>
        let (v, w) := p.operand c w
        let index := Loose.coerceIndex (some v)
        some (.arr ((items.zipIdx.filter fun (_, i) => some (i : Int) != index).map Prod.fst), w)
      | _ => none
    match next with
    | some (v, w) => writeTarget p.target v c w
    | none => (.fail (.unsupportedOperation p.operation), w)

/-- Show a message: a template when it holds a brace, else the text of an expression. -/
def toastEffect (message : String) (variant : Option String) (duration : Option Nat) (c : Caller)
    (w : World) : Effect × World :=
  let (text, w) :=
    if message.contains '\x7b' then (Expr.interpolate (c.view w.store) message, w)
    else
      let (v, w) := w.eval c message
      (Loose.display v, w)
  (.toast text variant duration, w)

/-- Where a request goes: its address, with the caller's bindings filled in when it holds
a brace. -/
def Request.address (r : Request) (c : Caller) (s : Store) : String :=
  if r.url.contains '\x7b' then Expr.interpolate (c.view s) r.url else r.url

/-- What stays fixed during a run: the events, the depth limit and the hosts that
requests may reach unless an action names its own. -/
structure Hub where
  /-- The registered events, in order. -/
  registry : List EventDef := []
  /-- How deep events may fire one another. -/
  maxDepth : Nat := 10
  /-- The hosts requests may reach. -/
  allowed : List String := ["localhost", "127.0.0.1"]

namespace Hub

/-- The events that answer a custom event of this name, in order. -/
def listeners (hub : Hub) (name : String) : List EventDef :=
  hub.registry.filter (·.listensTo name)

/-- The registry with `e` in it: in place of the first event of its id, or last. -/
def enroll (e : EventDef) : List EventDef → List EventDef
  | [] => [e]
  | x :: rest => if x.id = e.id then e :: rest else x :: enroll e rest

/-- Register an event: it replaces the first event of its id in place, or comes last. -/
def register (hub : Hub) (e : EventDef) : Hub :=
  { hub with registry := enroll e hub.registry }

/-- The depth budget left to a run: none outside events. -/
def budget (hub : Hub) : Option Nat → Nat
  | some d => hub.maxDepth + 1 - d
  | none => 0

/-- A journal line for an event. -/
def entry (e : EventDef) (v : Verdict) (error : Option String) (d : Nat) : Entry :=
  ⟨e.id, e.trigger.kind, v, error, d⟩

mutual

/-- Run one action; `em` is the depth at which the events it fires run, if any. -/
def runAction (hub : Hub) (em : Option Nat) (a : Action) (c : Caller) (w : World) :
    Outcome × World :=
  match a with
  | .mk _ kind =>
    match kind with
    | .stateUpdate p =>
      let (s, w) := p.run c w
      (s.outcome, w)
    | .recalculate target formula =>
      let (v, w) := w.eval c formula
      let (s, w) := writeTarget target (v.getD .null) c w
      (s.outcome, w)
    | .navigation how target params => (Outcome.ok.withEffect (.navigate how target params), w)
    | .toast m v d =>
      let (e, w) := toastEffect m v d c w
      (Outcome.ok.withEffect e, w)
    | .emitEvent name payload =>
      let r := Outcome.ok.withEffect (.emitEvent name payload)
      match em with
      | some d =>
        let (fired, w) := hub.dispatchAll d (hub.listeners name) (c.withParams payload) w Outcome.ok
        (r.absorb fired, w)
      | none => (r, w)
    | .condition cond t f =>
      let (passed, w) := w.holds c cond
      if passed then hub.runList em false t c w Outcome.ok
      else hub.runList em false f c w Outcome.ok
    | .batch as atomic => hub.runList em atomic as c w Outcome.ok
    | .apiCall r onSuccess onError =>
      match checkDomain (r.address c w.store) (r.allowedDomains.getD hub.allowed) with
      | .error f => (Outcome.failure f, w)
      | .ok () =>
        let (reply, wire) := w.wire.send ⟨r.method, r.address c w.store, r.headers, r.body⟩
        let w := { w with wire := wire }
        match reply with
        | .answer resp =>
          if resp.isSuccess then
            let sc := c.withParam "response" resp.body
            let (data, w) := match r.mapResponse with
              | some e => w.eval sc e
              | none => (some resp.body, w)
            let (res, w) := hub.runList em false onSuccess sc w Outcome.ok
            ({ res with data := data }, w)
          else
            let err := Json.ofFields [("status", .int resp.status),
              ("statusText", .str resp.statusText), ("body", resp.body)]
            hub.runList em false onError (c.withParam "error" err) w
              (Outcome.failure (.http resp.status resp.statusText))
        | .broken message =>
          let f := Failure.transport message
          hub.runList em false onError (c.withParam "error" (Json.ofFields [("message", .str f.message)])) w
            (Outcome.failure f)
    | .openWidget id => (Outcome.ok.withEffect (.openWidget id), w)
    | .closeWidget id => (Outcome.ok.withEffect (.closeWidget id), w)
    | .stopPropagation => (Outcome.ok.withEffect .stopPropagation, w)
    | .unsupported t _ => (Outcome.failure (.unsupportedActionType t), w)
termination_by (hub.budget em, 2, sizeOf a)

/-- Run actions in order, merging their outcomes into `acc`; with `stop`, stop after
the first failure. -/
def runList (hub : Hub) (em : Option Nat) (stop : Bool) (as : List Action) (c : Caller) (w : World)
    (acc : Outcome) : Outcome × World :=
  match as with
  | [] => (acc, w)
  | a :: rest =>
    let (r, w) := hub.runAction em a c w
    let acc := acc.absorb r
    if stop && !r.success then (acc, w) else hub.runList em stop rest c w acc
termination_by (hub.budget em, 2, sizeOf as)

/-- Dispatch events in order at depth `d`, merging their outcomes into `acc` and
stopping after the first failure. -/
def dispatchAll (hub : Hub) (d : Nat) (events : List EventDef) (c : Caller) (w : World)
    (acc : Outcome) : Outcome × World :=
  match events with
  | [] => (acc, w)
  | e :: rest =>
    let (r, w) := hub.dispatch d e c w
    let acc := acc.absorb r
    if !r.success then (acc, w) else hub.dispatchAll d rest c w acc
termination_by (hub.maxDepth + 1 - d, 1, events.length)

/-- Dispatch one event at depth `d`. -/
def dispatch (hub : Hub) (d : Nat) (e : EventDef) (c : Caller) (w : World) : Outcome × World :=
  if _h : hub.maxDepth ≤ d then
    let f := Failure.depthExceeded d hub.maxDepth
    (Outcome.failure f, w.record (entry e .failed (some f.message) d))
  else if !e.isEnabled then (Outcome.ok, w.record (entry e .disabled none d))
  else
    let (pass, w) := w.guard c e
    if !pass then (Outcome.ok, w.record (entry e .skipped none d))
    else
      let (r, w) := hub.runList (some (d + 1)) true e.actions c w Outcome.ok
      (r, w.record (entry e (if r.success then .executed else .failed) r.error d))
termination_by (hub.maxDepth + 1 - d, 0, 0)
decreasing_by exact Prod.Lex.left _ _ (by simp only [budget]; omega)

end

end Hub

end Storyboard
