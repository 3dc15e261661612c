import Storyboard.Project.Basic
import Storyboard.Script.Coerce
import Storyboard.Decimal.Binary

/-!
# Flex layout of a container

A container's props choose how its children are placed: `layout` (`flex` or `absolute`),
`direction` (`row` or `column`), `justifyContent`, `alignItems`, `gap` and `padding`.
Unknown or missing choices take the first option, and a gap or padding that is not a
finite number is zero.

`reflow` places the children of a flex container in the order its `children` prop
lists them (the others after, in their own order): along the main axis one after the
other, spread as `justifyContent` says over the free space; across it as `alignItems`
says, `stretch` also setting their cross size. Every position is kept inside the
padding and rounded to a whole number. Coordinates are relative to the container.

Placing is arithmetic on the sizes of the container and of its children, and it is
written once for any `Scalar` (`Frame.spots`): previews place with doubles, and the same
placing over exact rationals is what statements about spacing are made of. `reflow` then
moves each child to its spot.
-/

namespace Storyboard

/-- How a container places its children. -/
inductive LayoutMode where
  | flex | absolute
deriving DecidableEq, Repr

/-- The main axis of a flex container. -/
inductive Direction where
  | row | column
deriving DecidableEq, Repr

/-- How children are spread along the main axis. -/
inductive Justify where
  | flexStart | center | flexEnd | spaceBetween | spaceAround
deriving DecidableEq, Repr

/-- How children are placed across the main axis. -/
inductive Align where
  | flexStart | center | flexEnd | stretch
deriving DecidableEq, Repr

/-- A layout choice read from a prop: a known name, or the same name as the single key
of an object whose value is null; anything else gives the default. -/
def choiceOf {α : Type} (names : List (String × α)) (default : α) : Option Json → α
  | some (.str s) => (names.lookup s).getD default
  | some (.obj [(s, .null)]) => (names.lookup s).getD default
  | _ => default

/-- The layout settings of a container. -/
structure FlexLayout where
  /-- Flex or absolute. -/
  mode : LayoutMode := .flex
  /-- The main axis. -/
  direction : Direction := .row
  /-- Spreading along the main axis. -/
  justify : Justify := .flexStart
  /-- Placement across it. -/
  align : Align := .flexStart
  /-- Space between children. -/
  gap : Float := 0
  /-- Space inside the container's edges. -/
  padding : Float := 0

namespace FlexLayout

/-- A number prop: its loose numeric value when finite, else zero. -/
def number (v : Option Json) : Float :=
  let n := Loose.toNumber v
  if n.isFinite then n else 0

/-- The layout settings in a container's props. -/
def ofWidget (w : Widget) : FlexLayout where
  mode := choiceOf [("flex", .flex), ("absolute", .absolute)] .flex (Json.lookup "layout" w.props)
  direction := choiceOf [("row", .row), ("column", .column)] .row (Json.lookup "direction" w.props)
  justify := choiceOf [("flex-start", .flexStart), ("center", .center), ("flex-end", .flexEnd),
    ("space-between", .spaceBetween), ("space-around", .spaceAround)] .flexStart
    (Json.lookup "justifyContent" w.props)
  align := choiceOf [("flex-start", .flexStart), ("center", .center), ("flex-end", .flexEnd),
    ("stretch", .stretch)] .flexStart (Json.lookup "alignItems" w.props)
  gap := number (Json.lookup "gap" w.props)
  padding := number (Json.lookup "padding" w.props)

/-- The names of the settings, as reports write them. -/
def modeName : LayoutMode → String
  | .flex => "Flex" | .absolute => "Absolute"

/-- The name of an axis. -/
def directionName : Direction → String
  | .row => "Row" | .column => "Column"

/-- The name of a spreading. -/
def justifyName : Justify → String
  | .flexStart => "FlexStart" | .center => "Center" | .flexEnd => "FlexEnd"
  | .spaceBetween => "SpaceBetween" | .spaceAround => "SpaceAround"

/-- The name of a placement. -/
def alignName : Align → String
  | .flexStart => "FlexStart" | .center => "Center" | .flexEnd => "FlexEnd" | .stretch => "Stretch"

end FlexLayout

/-- The numbers placing computes with: sums, differences, products and quotients, the
larger and the smaller of two (a NaN gives way to the other), rounding half away from
zero, and counts. -/
class Scalar (α : Type) extends Add α, Sub α, Mul α, Div α, Neg α, OfScientific α where
  /-- A count. -/
  ofCount : Nat → α
  /-- The larger of two. -/
  larger : α → α → α
  /-- The smaller of two. -/
  smaller : α → α → α
  /-- The nearest whole number, a tie going away from zero. -/
  round : α → α

/-- Previews place with doubles. -/
instance : Scalar Float where
  ofCount := Nat.toFloat
  larger := Float.maxNum
  smaller := Float.minNum
  round := Float.round

/-- Keep a value between two bounds (the lower one wins) and round it. -/
def clampRound {α : Type} [Scalar α] (v lo hi : α) : α :=
  Scalar.round (Scalar.larger (Scalar.smaller v hi) lo)

/-- What placing reads of a flex container: how it spreads and places its children, its
size along the main axis and across it, its padding and its gap. -/
structure Frame (α : Type) where
  /-- Spreading along the main axis. -/
  justify : Justify
  /-- Placement across it. -/
  align : Align
  /-- The container's size along the main axis. -/
  main : α
  /-- Its size across. -/
  cross : α
  /-- Space inside its edges. -/
  padding : α
  /-- Space between children. -/
  gap : α

/-- Where a child goes: its place along the main axis and across it, and its size across. -/
structure Spot (α : Type) where
  /-- The place along the main axis. -/
  main : α
  /-- The place across it. -/
  cross : α
  /-- The size across it. -/
  crossSize : α

namespace Frame

variable {α : Type} [Scalar α] (f : Frame α)

/-- The place of the first child along the main axis and the step after each child, from
the children's sizes along it: the space the children and the gaps leave free goes before,
between or around them as the spreading says, and `space-between` centres a lone child. -/
def start (mains : List α) : α × α :=
  let n := Scalar.ofCount mains.length
  let used := mains.foldl (· + ·) (-0.0) + (n - 1.0) * f.gap
  let free := Scalar.larger (f.main - 2.0 * f.padding - used) 0.0
  match f.justify with
  | .flexStart => (f.padding, f.gap)
  | .center => (f.padding + free / 2.0, f.gap)
  | .flexEnd => (f.padding + free, f.gap)
  | .spaceBetween =>
    if mains.length > 1 then (f.padding, f.gap + free / (n - 1.0)) else (f.padding + free / 2.0, f.gap)
  | .spaceAround =>
    let around := free / n
    (f.padding + around / 2.0, f.gap + around)

/-- A child's place across the main axis and its size across it, from its size across:
`stretch` sets the size to the room inside the padding. -/
def across (size : α) : α × α :=
  let available := f.cross - 2.0 * f.padding
  let (pos, size) := match f.align with
    | .flexStart => (f.padding, size)
    | .center => (f.padding + (available - size) / 2.0, size)
    | .flexEnd => (f.padding + available - size, size)
    | .stretch => (f.padding, Scalar.round (Scalar.larger available 0.0))
  (clampRound pos f.padding (f.cross - f.padding - size), size)

/-- The spots of children of the given sizes (along, across), one after the other from a
cursor that moves on by each child's size and the step. -/
def spotsFrom (step : α) : α → List (α × α) → List (Spot α)
  | _, [] => []
  | cursor, (m, x) :: rest =>
    ⟨clampRound cursor f.padding (f.main - f.padding - m), (f.across x).1, (f.across x).2⟩ ::
      spotsFrom step (cursor + (m + step)) rest

/-- The spots of children of the given sizes, in placing order. -/
def spots (sizes : List (α × α)) : List (Spot α) :=
  f.spotsFrom (f.start (sizes.map Prod.fst)).2 (f.start (sizes.map Prod.fst)).1 sizes

end Frame

/-- The size of a widget along an axis. -/
def Widget.along (w : Widget) : Direction → Float
  | .row => w.size.width
  | .column => w.size.height

/-- The size of a widget across an axis. -/
def Widget.across (w : Widget) : Direction → Float
  | .row => w.size.height
  | .column => w.size.width

/-- The sizes of a widget along an axis and across it. -/
def Widget.sizesAlong (w : Widget) (dir : Direction) : Float × Float := (w.along dir, w.across dir)

/-- The frame a flex container places its children in. -/
def FlexLayout.frame (l : FlexLayout) (c : Widget) : Frame Float :=
  ⟨l.justify, l.align, c.along l.direction, c.across l.direction, l.padding, l.gap⟩

/-- A widget moved to a spot: its position, and its size across the main axis. -/
def Widget.placedAt (w : Widget) (dir : Direction) (s : Spot Float) : Widget :=
  match dir with
  | .row => { w with position := ⟨s.main, s.cross⟩, size := { w.size with height := s.crossSize } }
  | .column => { w with position := ⟨s.cross, s.main⟩, size := { w.size with width := s.crossSize } }

/-- The order in which children are placed: as the container lists them, then the
others in their own order. -/
def placementOrder (container : Widget) (children : List Widget) : List (Nat × Widget) :=
  let listed := container.childIds
  let rank (w : Widget) : Nat := (listed.findIdx? (· == w.id)).getD listed.length
  (children.zipIdx.map fun (w, i) => (i, w)).mergeSort fun a b => rank a.2 ≤ rank b.2

/-- Place the children of a flex container; other containers leave them as they are.
The children come back in the order given. -/
def reflow (container : Widget) (children : List Widget) : List Widget :=
  let l := FlexLayout.ofWidget container
  if l.mode != .flex || children.isEmpty then children else
  let order := placementOrder container children
  let spots := (l.frame container).spots (order.map fun e => e.2.sizesAlong l.direction)
  (order.zip spots).foldl (fun placed e => placed.set e.1.1 (e.1.2.placedAt l.direction e.2)) children

end Storyboard
