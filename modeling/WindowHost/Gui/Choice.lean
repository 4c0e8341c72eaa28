import WindowHost.Gui.Field

/-!
# Choosing items

`Ui.choose` declares the items of a list, of which a click chooses one. A list may be scrolled, and
the list of a `Ui.menu` hangs open under its button until the user clicks somewhere else.
-/

namespace WindowHost.Gui.Ui

open Label (ItemList)

/-- Declares a text that can be clicked, and notes a point in it. -/
def item (s : String) : Ui Response := do
  let size ← paragraph 8 s
  touch ⟨size.x + 8, max (size.y + 2) Region.rowHeight⟩ { click := true }

/-- Declares items, the first of them with number `i`. The answer is the item that is chosen. -/
def chooseFrom (selected i : Nat) : List String → Ui Nat
  | [] => pure selected
  | s :: rest => do
    let response ← item s
    chooseFrom (if response.isClicked then i else selected) (i + 1) rest

/-- Declares items one of which is chosen. -/
def choose (selected : Nat) (items : List String) : Ui Nat := chooseFrom selected 0 items

/-- The prepared items of a list. -/
def prepare (label : String) (list : ItemList) : Ui (List String) :=
  modifyGet fun b =>
    let (items, cache) := b.cache.access id label list
    (items, { b with cache })

/-- Whether the pointer is in a rectangle of the region at hand. -/
def isOver (rect : Rect) : Ui Bool := do
  let r ← region
  let c ← context
  let seen := r.clip.intersect rect
  pure <| seen.isPositive && c.pointer.place.any fun p =>
    seen.contains p && c.layers.at? p == some r.layer

def leastHeight : Float32 := 64

/-- How far beyond its edge a list shows. -/
def seam : Float32 := 3

/-- How far a list is scrolled when the user drags it. -/
def dragOffset (id : WidgetId) (s : Scroll) (rect : Rect) : Ui Float32 := do
  if s.overflows && (← region).isEnabled then
    let response ← respond (.part .whole :: id) rect { drag := true }
    if response.isDragged then
      pure (s.offset - (← context).pointer.delta.y)
    else pure s.offset
  else pure s.offset

/-- How far a list is scrolled when the user turns the wheel over it. -/
def wheelOffset (offset furthest : Float32) (rect : Rect) : Ui Float32 := do
  let turn := (← context).pointer.scroll.y
  let isMoving := 0 < offset && 0 < turn || offset < furthest && turn < 0
  if isMoving && (← region).isEnabled && (← isOver rect) then
    modifyContext fun c =>
      { c with pointer := { c.pointer with scroll := { c.pointer.scroll with y := 0 } } }
    pure (offset - turn)
  else pure offset

/-- Declares widgets of which only a part shows if they are higher than that. -/
def scrolled {α : Type} (id : WidgetId) (height : Float32) (act : Ui α) : Ui α := do
  let r ← region
  let s := ((← notes).scrolls.lookup id).getD {}
  let a := r.available
  let rect := Rect.sized a.corner ⟨a.width, max (min a.height height) leastHeight⟩
  let offset ← dragOffset id s rect
  let room := Rect.sized ⟨rect.left, rect.top - s.offset⟩ rect.size
  let seen := { r.clip with top := rect.top - seam, bottom := rect.bottom + seam }
  let clip := if s.overflows then r.clip.intersect seen else r.clip
  let inner := { r.child room r.isRow (.part .content) with clip }
  let (a, inner) ← within inner act
  let content := inner.taken.size
  let rect := Rect.sized rect.corner ⟨content.x, min rect.height content.y⟩
  let furthest := content.y - rect.height
  let offset ← wheelOffset offset furthest rect
  let s : Scroll := { offset := max (min offset furthest) 0, overflows := rect.height < content.y }
  note fun n => { n with scrolls := (id, s) :: n.scrolls.filter (·.1 != id) }
  let _ ← finish rect
  pure a

/-- Declares a list that shows so many rows. -/
def listBox (s : String) (selected : Nat) (list : ItemList) (rows : Nat) : Ui Nat := do
  let items ← prepare s list
  let height := (← typeface).lineHeight + (← region).gap.y
  label s
  scrolled (.group s :: (← region).id) (height * Float32.ofNat rows) (choose selected items)

/-- Opens or closes a popup. Only one is open at a time. -/
def togglePopup (id : WidgetId) : Ui Unit :=
  note fun n => { n with popup := if n.popup == some id then none else some id }

def closePopup : Ui Unit := note fun n => { n with popup := none }

/-- Declares widgets in a popup. -/
def popup {α : Type} (id : WidgetId) (anchor : Point) (isAbove : Bool) (act : Ui α) :
    Ui (Response × α) := do
  let layer := Layer.popup id
  let size := (((← context).layers.area? layer).map (·.size)).getD ⟨0, 0⟩
  let (response, area) ← beginLayer layer { anchor, isAbove, size }
  let a ← inLayer layer area (framed 6 act)
  pure (response, a)

/-- Makes the region so wide. -/
def setWidth (width : Float32) : Ui Unit :=
  modifyRegion fun r =>
    let a := r.available
    let line : Rect := { a with right := a.left + width, bottom := a.top }
    let r := { r with taken := r.taken.union line }
    let room := { r.room with left := line.left, right := line.right }.union r.taken
    { r with room, cursor := { r.cursor with left := room.left, right := room.right } }

def menuWidth : Float32 := 100

def menuHeight : Float32 := 200

/-- The items of an open menu, which hangs below its button, or above it if there is no room. -/
def menuItems (id : WidgetId) (button : Rect) (isAbove : Bool) (selected : Nat)
    (items : List String) : Ui Nat := do
  let anchor : Point := ⟨button.left, if isAbove then button.top else button.bottom⟩
  let (_, chosen) ← popup id anchor isAbove do
    let r ← region
    let inner := { r.child r.available false (.part .content) with isJustified := true }
    let (chosen, inner) ← within inner do
      setWidth (button.width - 12)
      scrolled (.part .list :: (← region).id) menuHeight (choose selected items)
    modifyRegion (·.advance inner.taken inner.taken)
    pure chosen
  pure chosen

/-- Declares a menu with its label. A click on its button opens or closes it; a click anywhere else
closes it. -/
def menu (s : String) (selected : Nat) (list : ItemList) : Ui Nat := do
  let items ← prepare s list
  let button : WidgetId := .label s :: (← region).id
  let id : WidgetId := .part .menu :: button
  row do
    let c ← context
    let a := (← region).available
    let height := (((c.layers.area? (.popup id)).map (·.size.y)).getD 100)
    let isAbove := !(a.middle + Region.rowHeight + height < c.screen.bottom)
    let size ← line (items.getD selected "")
    let width := max (size.x + 4 + 14) (menuWidth - 8) + 8
    let rect := Rect.sized a.corner ⟨width, max (max size.y 14 + 2) (max a.height Region.rowHeight)⟩
    let response ← respond button rect { click := true }
    let _ ← finish rect
    if response.isClicked then togglePopup id
    let chosen ← if (← notes).popup == some id then
        menuItems id rect isAbove selected items
      else pure selected
    if response.isLeftOut && (← notes).popup == some id then closePopup
    label s
    pure chosen

end WindowHost.Gui.Ui
