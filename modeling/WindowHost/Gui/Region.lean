import WindowHost.Gui.Layer

/-!
# Regions of widgets

A `Region` places widgets one below the other, or in a row one beside the other. `Region.frame` is
the room that the next widget may take, and `Region.advance` goes on after it. A region grows with
what is placed in it.
-/

namespace WindowHost.Gui

/-- A part of a layer in which widgets are placed. -/
structure Region where
  /-- The identity that those of its labelled widgets begin with. -/
  id : WidgetId
  /-- The identity that those of its nameless widgets begin with. -/
  seed : WidgetId
  layer : Layer
  /-- What can be seen of it. -/
  clip : Rect
  isEnabled : Bool := true
  /-- Whether widgets stand beside one another. -/
  isRow : Bool := false
  /-- Whether widgets are as wide as the region. -/
  isJustified : Bool := false
  /-- The gaps between widgets. -/
  gap : Point := ⟨8, 3⟩
  /-- The room that it has. -/
  room : Rect
  /-- Where the next widget may stand. -/
  cursor : Rect
  /-- The room that its widgets take. -/
  taken : Rect
  /-- How many widgets there were. -/
  count : Nat := 0

namespace Region

/-- A length without end. -/
def endless : Float32 := 1 / 0

def rowHeight : Float32 := 18

def indentation : Float32 := 18

def available (r : Region) : Rect :=
  let room : Rect :=
    if r.isRow then
      { left := r.cursor.left
        top := r.room.top
        right := max r.room.right r.cursor.left
        bottom := max r.room.bottom r.room.top }
    else
      { left := r.room.left
        top := r.cursor.top
        right := max r.room.right r.room.left
        bottom := max r.room.bottom r.cursor.top }
  let a := room.intersect r.cursor
  let x := (a.left + a.right) / 2
  let y := (a.top + a.bottom) / 2
  let a := if a.right < a.left then { a with left := x, right := x } else a
  if a.bottom < a.top then { a with top := y, bottom := y } else a

/-- The room for a widget of that size. In a row it is at least as high as the row. -/
def frame (r : Region) (size : Point) : Rect :=
  let a := r.available
  if r.isRow then
    let height := max size.y a.height
    .sized ⟨a.left, max (a.middle - height / 2) r.cursor.top⟩ ⟨size.x, height⟩
  else .sized a.corner ⟨if r.isJustified then max size.x a.width else size.x, size.y⟩

/-- A widget in its room. In a row it stands in the middle. -/
def placed (r : Region) (frame : Rect) (size : Point) : Rect :=
  if r.isRow then .sized ⟨frame.left, frame.middle - size.y / 2⟩ size
  else .sized frame.corner ⟨if r.isJustified then max size.x frame.width else size.x, size.y⟩

/-- Grows with a rectangle. -/
def grow (r : Region) (rect : Rect) : Region :=
  { r with taken := r.taken.union rect, room := r.room.union rect }

/-- Goes on after a widget and its room. -/
def advance (r : Region) (frame widget : Rect) : Region :=
  let c := r.cursor
  let cursor :=
    if r.isRow then
      { c with
        left := widget.right + r.gap.x
        top := min c.top frame.top
        bottom := max c.bottom frame.bottom }
    else
      { c with
        top := widget.bottom + r.gap.y
        left := min c.left frame.left
        right := max c.right frame.right }
  { r with cursor }.grow frame

def skip (r : Region) (width : Float32) : Region :=
  { r with cursor := { r.cursor with left := r.cursor.left + width } }

/-- The identity of the next nameless widget. -/
def nextId (r : Region) : WidgetId := .number r.count :: r.seed

/-- A region in that room in which nothing stands yet. -/
def openIn (room : Rect) (isRow : Bool) (r : Region) : Region :=
  let cursor :=
    if isRow then { room with right := endless } else { room with bottom := endless }
  let r := { r with room, cursor, isRow, count := 0 }
  let start := r.placed (r.frame ⟨0, 0⟩) ⟨0, 0⟩
  { r with taken := start }

/-- A region in another one. -/
def child (r : Region) (room : Rect) (isRow : Bool) (step : Step) : Region :=
  { r with id := step :: r.id, seed := .part .content :: r.nextId }.openIn room isRow

def ofLayer (layer : Layer) (room clip : Rect) (isEnabled : Bool) : Region :=
  Region.openIn room false
    { id := layer.id, seed := .part .whole :: layer.id, layer, clip, isEnabled, room,
      cursor := room, taken := room }

end Region

end WindowHost.Gui
