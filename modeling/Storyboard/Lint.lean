import Storyboard.Preview.Run
import Storyboard.Format.Shape

/-!
# Reviewing a project

`Project.review` lists what looks wrong in a project before it runs, in a fixed order:
duplicate ids (events, widgets, state variables, each sorted by id), state keys declared
twice, defaults that do not match their declared type, broken widget nesting, then for
each event its trigger and its actions, then the actions of each widget. Actions are
visited depth first, each before the actions inside it, and are located by the path of
ids that leads to them. A project with widgets and no events gets a closing note.
-/

namespace Storyboard

/-- How serious a finding is. -/
inductive Level where
  | error | warning | info
deriving DecidableEq, Repr

/-- The name of a level. -/
def Level.name : Level → String
  | .error => "error" | .warning => "warning" | .info => "info"

/-- A finding about a project. -/
structure Diagnostic where
  /-- How serious it is. -/
  level : Level
  /-- What is wrong. -/
  message : String
  /-- Where, as a path of ids. -/
  location : Option String := none

namespace Review

/-- The state-update operations that exist. -/
def operations : List String := ["set", "increment", "decrement", "push", "remove_by_index"]

/-- Whether a target names a scope and a path. -/
def validTarget (target : String) : Bool :=
  match splitTarget target with
  | .ok _ => true
  | .error _ => false

/-- The finding for a target that names no scope and path. -/
def checkTarget (target location : String) : List Diagnostic :=
  if validTarget target then []
  else [⟨.error, "Target '" ++ target ++ "' must be app.*, screen.* or local.*", some location⟩]

/-- The ids that occur more than once, sorted, with their counts. -/
def duplicates (ids : List String) : List (String × Nat) :=
  (ids.mergeSort (· ≤ ·)).eraseDups.filterMap fun id =>
    let n := ids.count id
    if n > 1 then some (id, n) else none

/-- Errors for duplicate ids and for state keys declared twice. -/
def duplicateIds (p : Project) : List Diagnostic :=
  let groups := [("event", p.events.map (·.id)), ("widget", p.widgets.map (·.id)),
    ("state variable", p.stateVariables.map (·.id))]
  let ids := groups.flatMap fun (kind, ids) => (duplicates ids).map fun (id, n) =>
    (⟨.error, s!"Duplicate {kind} id '{id}' ({n} times)", none⟩ : Diagnostic)
  let keys := (p.stateVariables.zipIdx.filter fun (v, i) =>
      (p.stateVariables.take i).any fun u => u.scope == v.scope && u.key == v.key).map fun (v, _) =>
    (⟨.error, "State key '" ++ v.scope.name ++ "." ++ v.key ++ "' is declared more than once", none⟩ :
      Diagnostic)
  ids ++ keys

/-- Warnings for defaults that do not match their declared type. -/
def defaults (p : Project) : List Diagnostic :=
  p.stateVariables.filterMap fun v =>
    if v.varType.admits v.value then none
    else some ⟨.warning, "Default value " ++ v.value.render ++ " does not match declared type "
      ++ v.varType.title, some ("state '" ++ v.scope.name ++ "." ++ v.key ++ "'")⟩

/-- The widget of an id; of several, the last. -/
def widgetById (p : Project) (id : String) : Option Widget :=
  (p.widgets.filter (·.id == id)).getLast?

/-- The text of an optional parent id: `None`, or `Some` and the id quoted. -/
def parentText : Option String → String
  | some id => "Some(" ++ Json.quoteInFault id ++ ")"
  | none => "None"

/-- Findings on how widgets nest: children that do not exist or name another parent,
parents that do not exist or do not list the widget. -/
def nesting (p : Project) : List Diagnostic :=
  p.widgets.flatMap fun w =>
    let location := some ("widget '" ++ w.id ++ "'")
    let children := w.childIds.filterMap fun c =>
      match widgetById p c with
      | none => some ⟨.error, "Child '" ++ c ++ "' does not exist", location⟩
      | some child =>
        if child.parentId == some w.id then none
        else some ⟨.error, "Child '" ++ c ++ "' has parentId " ++ parentText child.parentId, location⟩
    let parent := match w.parentId with
      | none => []
      | some pid => match widgetById p pid with
        | none => [⟨.error, "Parent '" ++ pid ++ "' does not exist", location⟩]
        | some parent =>
          if parent.childIds.contains w.id then []
          else [⟨.warning, "Parent '" ++ pid ++ "' does not list this widget in its children", location⟩]
    children ++ parent

/-- The findings about one action itself, not the actions inside it. -/
def actionFindings (p : Project) (owner : Option EventDef) (location : String) :
    ActionKind → List Diagnostic
  | .unsupported t _ => [⟨.error, "Unknown action type '" ++ t ++ "'", some location⟩]
  | .stateUpdate u =>
    checkTarget u.target location ++
      (if operations.contains u.operation then []
       else [⟨.error, "Unknown state_update operation '" ++ u.operation ++ "'", some location⟩])
  | .recalculate target _ => checkTarget target location
  | .emitEvent name _ =>
    (if p.events.any (·.listensTo name) then []
     else [⟨.warning, "No custom event listens to '" ++ name ++ "'", some location⟩]) ++
    (if owner.any (·.listensTo name) then
       [⟨.warning, "Event emits '" ++ name ++ "' which fires itself; it will stop at maxEventDepth ("
         ++ toString p.runtime.maxEventDepth ++ ")", some location⟩]
     else [])
  | .apiCall r _ _ =>
    if r.url.contains '\x7b' then []
    else match checkDomain r.url (r.allowedDomains.getD p.runtime.allowedDomains) with
      | .ok () => []
      | .error f => [⟨.warning, "api_call will be rejected: " ++ f.message, some location⟩]
  | .batch _ true => [⟨.info, "Atomic batch stops at the first failure but does not roll back", some location⟩]
  | _ => []

mutual
/-- The findings about an action and, after them, the actions inside it. -/
def visit (p : Project) (owner : Option EventDef) (parent : String) : Action → List Diagnostic
  | .mk id kind =>
    let location := parent ++ " > action '" ++ id ++ "'"
    actionFindings p owner location kind ++ match kind with
      | .condition _ t f => visitAll p owner location t ++ visitAll p owner location f
      | .batch as _ => visitAll p owner location as
      | .apiCall _ s e => visitAll p owner location s ++ visitAll p owner location e
      | _ => []
/-- The findings about actions, in order. -/
def visitAll (p : Project) (owner : Option EventDef) (parent : String) : List Action → List Diagnostic
  | [] => []
  | a :: as => visit p owner parent a ++ visitAll p owner parent as
end

/-- The findings about an event: its trigger, then its actions. -/
def event (p : Project) (e : EventDef) : List Diagnostic :=
  let location := "event '" ++ e.id ++ "'"
  (if e.trigger.kind == .custom && e.trigger.name.isNone then
    [⟨.warning, "Custom trigger has no name; it can only be fired by its id", some location⟩]
   else []) ++
  (match e.trigger.elementId with
   | some el =>
     if !p.widgets.isEmpty && !p.widgets.any (·.id == el) then
       [⟨.warning, "Trigger element '" ++ el ++ "' does not exist", some location⟩]
     else []
   | none => []) ++
  visitAll p (some e) location e.actions

end Review

/-- Review a project. -/
def Project.review (p : Project) : List Diagnostic :=
  Review.duplicateIds p ++ Review.defaults p ++ Review.nesting p
    ++ p.events.flatMap (Review.event p)
    ++ p.widgets.flatMap (fun w => Review.visitAll p none ("widget '" ++ w.id ++ "'") w.actions)
    ++ (if p.events.isEmpty && !p.widgets.isEmpty then
          [⟨.info, "Project has widgets but no events", none⟩] else [])

/-- Whether a review found an error. -/
def Diagnostic.anyError (ds : List Diagnostic) : Bool := ds.any (·.level == .error)

end Storyboard
