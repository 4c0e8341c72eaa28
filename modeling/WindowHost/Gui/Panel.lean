import WindowHost.Gui.Picker
import WindowHost.Gui.Slider

/-!
# Panels of widgets

`Widget.run` declares a widget and gives back its value after the user's action; `Widget.runAll`
does so for a list. A `Panel` shows a list of widgets on a screen of its own: `Panel.run` runs the
list in a frame, and `Panel.click` clicks a widget of it.
-/

namespace WindowHost.Gui

namespace Widget

/-- Where a click on a widget falls, from its left upper corner. -/
def clickOffset : Point := ⟨5, 9⟩

/-- Notes the point of a widget that a click falls on. -/
def spotHere (place : Place) (below : Float32) : Ui Unit := do
  let c := (← Ui.region).cursor
  Ui.spot place ((c.corner.plus clickOffset).plus ⟨0, below⟩)

/-- Notes the points of the items of a widget, the first of them `below` its top. -/
def spotItems (path : List Nat) (count : Nat) (below pitch : Float32) : Ui Unit :=
  (List.range count).forM fun i => spotHere ⟨path, some i⟩ (below + Float32.ofNat i * pitch)

/-- Declares tabs, the first of them with number `i`. The answer is the tab that is chosen. -/
def tabs (path : List Nat) (selected i : Nat) : List String → Ui Nat
  | [] => pure selected
  | s :: rest => do
    spotHere ⟨path, some i⟩ 0
    let response ← Ui.item s
    tabs path (if response.isClicked then i else selected) (i + 1) rest

/-- Declares a line between widgets. -/
def rule : Ui Unit := do
  let r ← Ui.region
  let a := r.available
  let _ ← Ui.place (if r.isRow then ⟨6, a.height⟩ else ⟨a.width, 6⟩)

/-- Declares a box or a dot with a label that can be clicked. -/
def mark (s : String) : Ui Response := do
  if s.isEmpty then Ui.touch ⟨Region.rowHeight, Region.rowHeight⟩ { click := true }
  else
    let size ← Ui.paragraph 18 s
    Ui.touch ⟨max (size.x + 18) 40, max size.y Region.rowHeight⟩ { click := true }

/-- Declares a number with its label. -/
def numbered (s : String) (f : NumberField) : Ui (Option Double) := Ui.row do
  let changed ← Ui.number f
  Ui.label s
  pure changed

/-- The whole number that a field is changed to. -/
def intOf (value : Int32) (changed : Option Double) : Value :=
  .int (changed.elim value fun x => x.toFloat.toInt32)

/-- The number that a field is changed to. -/
def floatOf (value : Single) (changed : Option Double) : Value :=
  .float (changed.elim value.toFloat32 fun x => x.toFloat.toFloat32)

/-- The least and the greatest whole number. -/
def intBounds : Int32 × Int32 := (-2147483648, 2147483647)

/-- A number as a place on a scale of whole numbers. -/
def wholeSlider (value low high : Int32) : Slider :=
  let double (n : Int32) : Double := .ofFloat (Float.ofInt n.toInt)
  { value := double value, first := double low, last := double high, isWhole := true }

/-- Declares the heading of a node, which opens and closes it. -/
def heading (s : String) : Ui Response := do
  let size ← Ui.line s
  let (_, rect) ← Ui.place ⟨max (size.x + 22) 40, max (size.y + 2) Region.rowHeight⟩
  let id : WidgetId := .label s :: (← Ui.region).id
  let response ← Ui.respond id rect { click := true }
  if response.isClicked then Ui.turn id false
  pure response

mutual

/-- Declares a widget, which stands at `path`. -/
def run (path : List Nat) (w : Widget) : Ui Value := do
  spotHere ⟨path, none⟩ 0
  match w with
  | .text label => do
    Ui.label label
    pure .nothing
  | .separator => do
    rule
    pure .nothing
  | .progressBar => do
    let _ ← Ui.place ⟨max (← Ui.region).available.width 96, Region.rowHeight⟩
    pure .nothing
  | .checkbox label value => do pure (.flag (value != (← mark label).isClicked))
  | .radio label _ => do pure (.flag (← mark label).isClicked)
  | .selectable label value => do pure (.flag (value != (← Ui.item label).isClicked))
  | .button label => do pure (.flag (← Ui.item label).isClicked)
  | .sliderInt label value low high => do
    pure (intOf value (← Ui.slider label (wholeSlider value low high)))
  | .sliderFloat label value low high => do
    let s : Slider :=
      { value := value.widen, first := low.widen, last := high.widen, isWhole := false }
    pure (floatOf value (← Ui.slider label s))
  | .inputInt label value => do
    let field := NumberField.ofInt value 0 intBounds.1 intBounds.2
    pure (intOf value (← numbered label field))
  | .inputFloat label value => do
    let field := NumberField.ofSingle value 0 (.ofFloat32 (-1 / 0)) (.ofFloat32 (1 / 0))
    pure (floatOf value (← numbered label field))
  | .dragInt label value speed bound bound' => do
    pure (intOf value (← numbered label (.ofInt value speed bound bound')))
  | .dragFloat label value speed bound bound' => do
    pure (floatOf value (← numbered label (.ofSingle value speed bound bound')))
  | .colour label channels => do pure (.floats (← Ui.colour label channels))
  | .combo label selected list => do
    spotItems path list.items.length 24 21
    pure (.index (← Ui.menu label selected list))
  | .listBox label selected list rows => do
    let height := (← Ui.typeface).lineHeight + 3
    spotItems path list.items.length (8 + height / 2) height
    pure (.index (← Ui.listBox label selected list rows))
  | .tabBar labels selected => do
    let chosen ← Ui.row (tabs path selected 0 labels)
    rule
    pure (.index chosen)
  | .node label body => Ui.column do
    let response ← heading label
    let id := response.id
    let values ← Ui.folded id false <| Ui.indented (.part .body) do
      Ui.modifyRegion fun r => r.grow (r.taken.topEdge r.taken.left response.rect.right)
      runAll path 0 body
    pure (values.elim .nothing .several)
  | .detail label value body => do
    let ticked := value != (← mark label).isClicked
    if ticked then
      let _ ← runAll path 0 body
    pure (.flag ticked)
  | .row body => do pure (.several (← Ui.row (runAll path 0 body)))
  | .indent label body => do pure (.several (← Ui.indented (.group label) (runAll path 0 body)))

/-- Declares the widgets of a list at `path`, the first of them with number `i`. -/
def runAll (path : List Nat) (i : Nat) : List Widget → Ui (List Value)
  | [] => pure []
  | w :: rest => do
    let v ← run (path ++ [i]) w
    let vs ← runAll path (i + 1) rest
    pure (v :: vs)

end

end Widget

/-- A screen with a list of widgets. -/
structure Panel where
  context : Context := { isSmooth := false }
  cache : Label.Cache (List String) := {}

namespace Panel

/-- Runs a list of widgets in a frame. The answer also has the points to click on. -/
def frame (events : List PointerEvent) (widgets : List Widget) (p : Panel) :
    (List Value × List (Place × Point)) × Panel :=
  let c := p.context.beginFrame p.context.screen events
  let region := Region.ofLayer .background c.screen c.screen true
  let start : Build := { context := c, region, cache := p.cache }
  let act := Ui.framed 8 do
    Ui.modifyRegion fun r => r.grow r.room
    Widget.runAll [] 0 widgets
  let (values, b) := act.run start
  ((values, b.spots), { context := b.context.endFrame, cache := b.cache })

/-- Runs a list of widgets. -/
def run (widgets : List Widget) (p : Panel) : List Value × Panel :=
  let ((values, _), p) := p.frame [] widgets
  (values, p)

/-- Clicks a widget: runs the list four times, as the pointer moves there and the button goes down
and up. The values are those of the last run. -/
def click (place : Place) (widgets : List Widget) (p : Panel) : List Value × Panel :=
  let ((_, spots), p) := p.frame [] widgets
  let events : List (List PointerEvent) := match spots.lookup place with
    | some q => [[.moved q], [.button .left true q], [.button .left false q]]
    | none => [[], [], []]
  events.foldl (fun (_, p) events =>
    let ((values, _), p) := p.frame events widgets
    (values, p)) ([], p)

end Panel

end WindowHost.Gui
