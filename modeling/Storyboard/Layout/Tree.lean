import Storyboard.Layout.Flex

/-!
# The widget tree

A `Tree` holds widgets by id and the ids of the top-level widgets in order. Each widget
names its parent, and each container lists its children in its `children` prop; the
edits here keep both sides in step, and after every edit re-place the children of the
containers it touched. Re-placing goes down the tree: a child container whose size
changed is re-placed in turn. Every edit answers with the ids of the widgets that moved
or changed size (for `remove`, the ids removed).

The walks through the tree (removing a subtree, re-placing downwards, re-placing from the
top) end because each step either takes a widget out or sees a new one, or else shortens
the queue.
-/

namespace Storyboard

/-- Why an edit of the tree was refused. -/
inductive TreeError where
  /-- No widget has this id. -/
  | unknownWidget (id : String)
  /-- The widget cannot hold children. -/
  | notAContainer (id : String)
  /-- A widget of this id exists already. -/
  | duplicateId (id : String)
  /-- The widget would end up inside itself. -/
  | cycle (widget parent : String)

/-- The text of a refusal. -/
def TreeError.message : TreeError → String
  | .unknownWidget id => "unknown widget '" ++ id ++ "'"
  | .notAContainer id => "widget '" ++ id ++ "' is not a container"
  | .duplicateId id => "duplicate widget id '" ++ id ++ "'"
  | .cycle w p => "moving '" ++ w ++ "' under '" ++ p ++ "' would create a cycle"

/-- Widgets by id, and the top-level ids in order. -/
structure Tree where
  /-- The widgets, sorted by id, one per id. -/
  widgets : List Widget := []
  /-- The top-level ids, in order. -/
  roots : List String := []

/-- The ids of a list, each once, in the order they first occur. -/
def uniqueIds (ids : List String) : List String :=
  ids.foldl (fun acc id => if acc.contains id then acc else acc ++ [id]) []

namespace Tree

/-- The widget of an id. -/
def get? (t : Tree) (id : String) : Option Widget := t.widgets.find? (·.id == id)

/-- Put a widget in, replacing the one of its id and keeping the ids sorted. -/
def put (t : Tree) (w : Widget) : Tree :=
  let rec go : List Widget → List Widget
    | [] => [w]
    | x :: xs =>
      if x.id == w.id then w :: xs
      else if w.id < x.id then w :: x :: xs
      else x :: go xs
  { t with widgets := go t.widgets }

/-- Take the widget of an id out. -/
def erase (t : Tree) (id : String) : Tree := { t with widgets := t.widgets.filter (·.id != id) }

/-- A tree of widgets; of two widgets with one id the later wins, and widgets without a
parent are top-level in the order they first appear. -/
def ofWidgets (ws : List Widget) : Tree :=
  ws.foldl (fun t w =>
    let t := if w.parentId.isNone && !t.roots.contains w.id then { t with roots := t.roots ++ [w.id] } else t
    t.put w) {}

/-- The children of a widget: those its `children` prop lists that name it as parent,
in that order, then the others that name it, by id. -/
def childrenOf (t : Tree) (id : String) : List Widget :=
  match t.get? id with
  | none => []
  | some parent =>
    let listed := (parent.childIds.filterMap t.get?).filter (·.parentId == some id)
    listed ++ t.widgets.filter fun w => w.parentId == some id && !listed.any (·.id == w.id)

/-- The ids of a list not yet seen. -/
def unseen (ids seen : List String) : List String := ids.filter fun x => !seen.contains x

/-- Seeing one more id of the list leaves fewer unseen. -/
theorem unseen_cons_lt {ids seen : List String} {cur : String} (h1 : cur ∈ ids) (h2 : cur ∉ seen) :
    (unseen ids (cur :: seen)).length < (unseen ids seen).length := by
  have h : unseen ids (cur :: seen) = (unseen ids seen).filter fun x => x != cur := by
    unfold unseen
    rw [List.filter_filter]
    congr 1
    funext x
    by_cases hx : x = cur <;> simp [hx]
  rw [h, List.length_filter_lt_length_iff_exists]
  exact ⟨cur, List.mem_filter.2 ⟨h1, by simpa using h2⟩, by simp⟩

/-- Taking out a widget that is there leaves fewer widgets. -/
theorem erase_length_lt {t : Tree} {id : String} (h : (t.get? id).isSome) :
    (t.erase id).widgets.length < t.widgets.length := by
  obtain ⟨w, hw⟩ := Option.isSome_iff_exists.1 h
  rw [erase, List.length_filter_lt_length_iff_exists]
  exact ⟨w, List.mem_of_find?_eq_some hw, by simpa using List.find?_some hw⟩

/-- The container of an id, or why it is none. -/
def container (t : Tree) (id : String) : Except TreeError Widget :=
  match t.get? id with
  | none => .error (.unknownWidget id)
  | some w => if w.isContainer then .ok w else .error (.notAContainer id)

/-- List a child in its parent's `children` at a place (the end by default). -/
def attach (t : Tree) (id parentId : String) (index : Option Nat) : Tree :=
  match t.get? parentId with
  | some parent =>
    let ids := parent.childIds.filter (· != id)
    t.put (parent.setChildIds (ids.insertIdx (min (index.getD ids.length) ids.length) id))
  | none => t

/-- Unlist a widget from its parent's `children`, or from the top level when it has no
parent; answers the parent's id. -/
def detach (t : Tree) (id : String) : Option String × Tree :=
  match (t.get? id).bind (·.parentId) with
  | some pid =>
    (some pid, match t.get? pid with
      | some parent => t.put (parent.setChildIds (parent.childIds.filter (· != id)))
      | none => t)
  | none => (none, { t with roots := t.roots.filter (· != id) })

/-- Whether `ancestor` is on the chain of parents above a widget; the walk stops after
as many steps as there are widgets. -/
def hasAncestor (t : Tree) (ancestor : String) : Nat → Option String → Bool
  | _, none => false
  | 0, some _ => false
  | fuel + 1, some p => p == ancestor || t.hasAncestor ancestor fuel ((t.get? p).bind (·.parentId))

/-- Re-place the children of the containers in a queue, going down into child
containers that changed size; `seen` are the containers done, and `ids` the ids of the
tree, which re-placing does not change. -/
def relayoutFrom (ids : List String) (t : Tree) (queue seen changed : List String) : List String × Tree :=
  match queue with
  | [] => (changed, t)
  | cur :: rest =>
    if _h : cur ∈ seen ∨ cur ∉ ids then t.relayoutFrom ids rest seen changed else
    match t.get? cur with
    | some c =>
      if !c.isContainer then t.relayoutFrom ids rest (cur :: seen) changed else
      let kids := t.childrenOf cur
      let step (acc : Tree × List String × List String) (pair : Widget × Widget) :=
        let (t, queue, changed) := acc
        let (before, child) := pair
        let moved := child.position.x != before.position.x || child.position.y != before.position.y
        let resized := child.size.width != before.size.width || child.size.height != before.size.height
        let queue := if resized && child.isContainer then queue ++ [child.id] else queue
        if moved || resized then (t.put child, queue, changed ++ [child.id]) else (t, queue, changed)
      let (t, queue, changed) := (kids.zip (reflow c kids)).foldl step (t, rest, changed)
      t.relayoutFrom ids queue (cur :: seen) changed
    | none => t.relayoutFrom ids rest (cur :: seen) changed
termination_by ((unseen ids seen).length, queue.length)
decreasing_by
  · exact Prod.Lex.right _ (by simp)
  all_goals exact Prod.Lex.left _ _ (unseen_cons_lt (by simp_all) (by simp_all))

/-- Re-place the children of a container, and further down where sizes changed. -/
def relayout (t : Tree) (id : String) : List String × Tree :=
  t.relayoutFrom (t.widgets.map (·.id)) [id] [] []

/-- Re-place every container, from the top-level widgets down, each once; `ids` are the
ids of the tree. -/
def relayoutEach (ids : List String) (t : Tree) (queue seen changed : List String) : List String × Tree :=
  match queue with
  | [] => (changed, t)
  | cur :: rest =>
    if _h : cur ∈ seen ∨ cur ∉ ids then t.relayoutEach ids rest seen changed else
    let (ch, t) := t.relayout cur
    t.relayoutEach ids (rest ++ (t.childrenOf cur).map (·.id)) (cur :: seen) (changed ++ ch)
termination_by ((unseen ids seen).length, queue.length)
decreasing_by
  · exact Prod.Lex.right _ (by simp)
  all_goals exact Prod.Lex.left _ _ (unseen_cons_lt (by simp_all) (by simp_all))

/-- Re-place every container of the tree. -/
def relayoutAll (t : Tree) : List String × Tree :=
  let (changed, t) := t.relayoutEach (t.widgets.map (·.id)) t.roots [] []
  (uniqueIds changed, t)

/-- Add a widget under a container, or at the top level. -/
def insert (t : Tree) (w : Widget) (parent : Option String) : Except TreeError (List String × Tree) :=
  if (t.get? w.id).isSome then .error (.duplicateId w.id) else
  match parent with
  | some p => do
    let _ ← t.container p
    pure (((t.put { w with parentId := some p }).attach w.id p none).relayout p)
  | none => pure ([], { (t.put { w with parentId := none }) with roots := t.roots ++ [w.id] })

/-- Remove the widgets of a queue and their descendants, breadth first. -/
def removeFrom (t : Tree) (queue removed : List String) : List String × Tree :=
  match queue with
  | [] => (removed, t)
  | cur :: rest =>
    if _h : (t.get? cur).isSome then
      (t.erase cur).removeFrom (rest ++ (t.childrenOf cur).map (·.id)) (removed ++ [cur])
    else t.removeFrom rest removed
termination_by (t.widgets.length, queue.length)
decreasing_by
  · exact Prod.Lex.left _ _ (erase_length_lt _h)
  · exact Prod.Lex.right _ (by simp)

/-- Remove a widget and its descendants; its parent is re-placed. Answers the ids
removed. -/
def remove (t : Tree) (id : String) : Except TreeError (List String × Tree) :=
  if (t.get? id).isNone then .error (.unknownWidget id) else
  let (parent, t) := t.detach id
  let (removed, t) := t.removeFrom [id] []
  match parent with
  | some p => .ok (removed, (t.relayout p).2)
  | none => .ok (removed, t)

/-- Set the parent of a widget. -/
def setParent (t : Tree) (id : String) (parent : Option String) : Tree :=
  match t.get? id with
  | some w => t.put { w with parentId := parent }
  | none => t

/-- Move a widget under another container (at a place in its children, the end by
default) or to the top level; both the old and the new parent are re-placed. -/
def moveWidget (t : Tree) (id : String) (parent : Option String) (index : Option Nat) :
    Except TreeError (List String × Tree) := do
  if (t.get? id).isNone then throw (.unknownWidget id)
  if let some p := parent then
    let _ ← t.container p
    if p == id || t.hasAncestor id (t.widgets.length + 1) ((t.get? p).bind (·.parentId)) then
      throw (.cycle id p)
  let (old, t) := t.detach id
  let t := t.setParent id parent
  let (changed, t) := match parent with
    | some p => (t.attach id p index).relayout p
    | none =>
      let place := min (index.getD t.roots.length) t.roots.length
      ([], { t with roots := t.roots.insertIdx place id })
  match old with
  | some o =>
    if some o != parent then
      let (more, t) := t.relayout o
      pure (changed ++ more, t)
    else pure (changed, t)
  | none => pure (changed, t)

/-- Merge props into a widget, then re-place its children. -/
def updateProps (t : Tree) (id : String) (props : List (String × Json)) :
    Except TreeError (List String × Tree) :=
  match t.get? id with
  | none => .error (.unknownWidget id)
  | some w =>
    .ok ((t.put { w with props := props.foldl (fun ps (k, v) => Json.setField k v ps) w.props }).relayout id)

/-- Resize a widget, then re-place its parent's children and its own. -/
def resize (t : Tree) (id : String) (size : Extent) : Except TreeError (List String × Tree) :=
  match t.get? id with
  | none => .error (.unknownWidget id)
  | some w =>
    let t := t.put { w with size := size }
    let (fromParent, t) := match w.parentId with
      | some p => t.relayout p
      | none => ([], t)
    let (own, t) := t.relayout id
    .ok (uniqueIds ([id] ++ fromParent ++ own), t)

end Tree

end Storyboard
