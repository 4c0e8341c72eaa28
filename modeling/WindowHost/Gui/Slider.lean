import WindowHost.Gui.Field

/-!
# Sliders

A slider shows a number by a handle on a scale, and beside it as a number field. The handle goes to
the simplest number at the pointer. A value outside of the scale is left alone until it is changed.
-/

namespace WindowHost.Gui

/-- A number on a scale, whose ends may be given in either order. -/
structure Slider where
  value : Double
  first : Double
  last : Double
  isWhole : Bool

namespace Slider

/-- The value that is at a share of a scale. -/
def valueAt (first last share : Float) : Float :=
  if first.isNaN || last.isNaN then first + last
  else if first == last then first
  else
    let (first, last, share) :=
      if last < first then (last, first, 1 - share) else (first, last, share)
    if share ≤ 0 then first else if 1 ≤ share then last else (1 - share) * first + share * last

/-- The share of a scale that a value is at. -/
def shareAt (first last value : Float) : Float :=
  if first.isNaN || last.isNaN then first + last
  else if first == last then 0.5
  else
    let low := min first last
    let high := max first last
    let share := if value ≤ low then 0 else if high ≤ value then 1
      else (value - low) / (high - low)
    if last < first then 1 - share else share

/-- A value kept on the scale. -/
def onScale (s : Slider) (x : Double) : Double :=
  let first := s.first.toFloat
  let last := s.last.toFloat
  let low := if first.isNaN then last else if last.isNaN then first else min first last
  let high := if first.isNaN then last else if last.isNaN then first else max first last
  if x.toFloat < low then .ofFloat low else if high < x.toFloat then .ofFloat high else x

/-- The value that the number becomes when it is set. -/
def settled (s : Slider) (x : Double) : Double :=
  let x := (s.onScale x).toFloat
  let first := s.first.toFloat
  if s.isWhole then .ofFloat (Float.ofInt (first + (roundedTo 0 x - first).round).toInt32.toInt)
  else .ofFloat x.toFloat32.toFloat

/-- The value at a place on the scale, which lies between two places on the screen. -/
def valueOn (s : Slider) (left right x : Float32) : Float :=
  valueAt s.first.toFloat s.last.toFloat (shareOf left right x).toFloat

/-- How much the value changes for a point. -/
def slope (s : Slider) (left right : Float32) (value : Float) : Float :=
  let share := (shareAt s.first.toFloat s.last.toFloat value).toFloat32
  let x := mix left right share
  s.valueOn left right (x + 0.5) - s.valueOn left right (x - 0.5)

end Slider

namespace Ui

def sliderWidth : Float32 := 100

/-- Declares a slider with its label. The answer is what it is changed to. -/
def slider (text : String) (s : Slider) : Ui (Option Double) := row do
  let response ← touch ⟨sliderWidth, Region.rowHeight⟩ { drag := true }
  let radius := response.rect.height / 2.5
  let left := response.rect.left + radius
  let right := response.rect.right - radius
  let reach := 1 / (← context).scale
  let moved := response.pointer.map fun p => s.settled <| .ofFloat <|
    simplest (s.valueOn left right (p.x - reach)) (s.valueOn left right (p.x + reach))
  let shown := s.onScale (moved.getD s.value)
  let entered ← number
    { value := shown, bound := s.first, bound' := s.last
      speed := s.slope left right shown.toFloat, isWhole := s.isWhole }
  unless text.isEmpty do Ui.text (← line text)
  let result := entered.getD shown
  pure (if result.toFloat == shown.toFloat then moved else some (s.settled result))

end Ui

end WindowHost.Gui
