import WindowHost.Gui.Ui
import WindowHost.Number.Decimal
import WindowHost.Number.Simplest

/-!
# Texts and numbers

`Ui.label` shows a text, which the user may select. `Ui.number` shows a number, which changes when
it is dragged to the side or up and down, and can be edited as a text after a click on it.
-/

namespace WindowHost.Gui

/-- A number that the user can change. -/
structure NumberField where
  value : Double
  /-- Bounds for the value, in either order. -/
  bound : Double
  bound' : Double
  /-- How much it changes for a point. -/
  speed : Float
  isWhole : Bool
  /-- What stands before it. -/
  mark : String := ""

namespace NumberField

def ofInt (value : Int32) (speed : Float) (bound bound' : Int32) : NumberField :=
  let double (n : Int32) : Double := .ofFloat (Float.ofInt n.toInt)
  { value := double value, bound := double bound, bound' := double bound', speed, isWhole := true }

/-- A number with decimal places. -/
def ofSingle (value : Single) (speed : Float) (bound bound' : Single) : NumberField :=
  { value := value.widen, bound := bound.widen, bound' := bound'.widen, speed, isWhole := false }

def clamp (f : NumberField) (x : Double) : Double := x.clamp f.bound f.bound'

/-- How many decimal places change at that speed, where the user can aim at `aim` points. -/
def places (f : NumberField) (aim : Float) : Nat :=
  if f.isWhole then 0
  else
    let digits := (aim / f.speed.abs).log10.ceil
    if digits.isNaN then 0 else (max 0 (min 15 digits)).toUInt64.toNat

/-- The text of a value and the number that the text stands for. -/
def draft (f : NumberField) (aim value : Float) : Draft :=
  if value == 0 then ⟨"0", 0⟩
  else
    let few := f.places aim
    let places := placesFor value few (if f.isWhole then 0 else few + 2)
    ⟨fixedText places value, roundedTo places value⟩

/-- The number that a drag from `start` leads to: a simple one that can be aimed at. -/
def drag (f : NumberField) (aim start : Float) : Double :=
  let reach := aim * f.speed
  f.clamp (.ofFloat (roundedTo (f.places aim) (simplest (start - reach) (start + reach))))

end NumberField

namespace Ui

def text (size : Point) : Ui Unit := do
  let response ← touch size { click := true, drag := true }
  if response.rect.meets (← region).clip then
    if response.isHovered then icon .text
    if response.isHeld then modifyContext fun c => { c with isSelecting := true }

def label (s : String) : Ui Unit := do text (← paragraph 0 s)

/-- Gives a widget the keyboard. -/
def setFocus (id : WidgetId) : Ui Unit :=
  modifyContext fun c => { c with focus := { c.focus with current := some id } }

def dropDraft (id : WidgetId) : Ui Unit :=
  note fun n => { n with drafts := n.drafts.filter (·.1 != id) }

/-- The number as a text that is being edited. -/
def editNumber (id : WidgetId) (d : Draft) : Ui Unit := do
  let d := ((← notes).drafts.lookup id).getD d
  let size ← line d.text
  let (_, rect) ← place ⟨max size.x 40 + 8, max (size.y + 2) Region.rowHeight⟩
  let response ← respond id (rect.expand (-4) (-1)) { click := true, drag := true }
  if response.isHovered then icon .text
  let _ ← respond id rect { click := true }
  note fun n => { n with drafts := (id, d) :: n.drafts.filter (·.1 != id) }

/-- The number as a button that can be dragged, and what the drag changes it to. -/
def dragNumber (id : WidgetId) (f : NumberField) (aim value : Float) (d : Draft) :
    Ui (Option Double) := do
  let size ← line (f.mark ++ d.text)
  let response ← touch ⟨max (size.x + 8) 40, max (size.y + 2) Region.rowHeight⟩
    { click := true, drag := true }
  if response.isHovered then icon .resizeHorizontal
  let p := (← context).pointer
  let forget (n : Notes) : Notes := { n with dragged := n.dragged.filter (·.1 != id) }
  unless p.changes.isEmpty do note forget
  if response.isClicked then
    dropDraft id
    setFocus id
    pure none
  else if response.isDragged then
    icon .resizeHorizontal
    let change := (p.delta.x - p.delta.y).toFloat * f.speed
    if change == 0 then pure none
    else
      let exact := ((← notes).dragged.lookup id).getD value + change
      note fun n => { forget n with dragged := (id, exact) :: (forget n).dragged }
      pure (some (f.drag aim exact))
  else pure none

/-- Shows a number. The answer is what it is changed to. -/
def number (f : NumberField) : Ui (Option Double) := do
  let id := (← region).nextId
  let c ← context
  let aim := (1 / c.scale).toFloat
  let kept := f.clamp f.value
  let value := kept.toFloat
  let isKept := f.value.toFloat == value
  unless isKept do dropDraft id
  let d := f.draft aim value
  let edited ← if c.hasLostFocus id then do
      let last := (← notes).drafts.lookup id
      dropDraft id
      pure (last.map fun d => f.clamp (.ofFloat d.value))
    else pure none
  let dragged ← if c.focus.current == some id then do
      editNumber id d
      pure none
    else dragNumber id f aim value d
  pure (dragged.or (edited.or (if isKept then none else some kept)))

end Ui

end WindowHost.Gui
