import WindowHost.Gui.Choice

/-!
# Picking colours

A colour is shown on a button, under which a picker opens. Colours are kept by hue, so that a colour
comes back from the picker with the hue that it had, also where its light does not tell.
-/

namespace WindowHost.Gui.Ui

/-- How large the fields of a picker are. -/
def pickerWidth : Float32 := 210

/-- The bytes of a colour, each as a number field. -/
def toneBytes : List (String × UInt8) → Ui (List (UInt8 × Bool))
  | [] => pure []
  | (mark, b) :: rest => do
    let value := Float.ofNat b.toNat
    let field : NumberField :=
      { value := .ofFloat value, bound := .ofFloat 0, bound' := .ofFloat 255, speed := 0.5,
        isWhole := true, mark }
    let entered := ((← number field).getD field.value).toFloat
    let others ← toneBytes rest
    pure ((entered.toUInt8, entered != value) :: others)

/-- A colour after its bytes were edited. -/
def editBytes (hasCover : Bool) (t : Tone) : Ui Tone := row do
  let _ ← touch ⟨(← line "📋").x + 8, Region.rowHeight⟩ { click := true }
  let bytes := { t with value := ofGamma t.value }.bytes
  let marks := ["R ", "G ", "B "] ++ if hasCover && !(t.cover < 0) then ["A "] else []
  let entered ← toneBytes (marks.zip bytes)
  if entered.any (·.2) then
    let edited := Tone.ofBytes (entered.map (·.1) ++ bytes.drop entered.length)
    pure
      { edited with
        value := toGamma edited.value
        cover := if t.cover < 0 then t.cover else edited.cover }
  else pure t

/-- A field of which the pointer picks a place, as shares of its width and its height. -/
def pickIn (size : Point) : Ui (Option (Float32 × Float32)) := do
  let response ← touch size { click := true, drag := true }
  let r := response.rect
  pure (response.pointer.map fun p => (shareOf r.left r.right p.x, shareOf r.bottom r.top p.y))

/-- The fields of a picker, for a colour whose brightness is as the eye has it. -/
def pickFields (hasCover : Bool) (t : Tone) : Ui Tone := do
  let t ← editBytes hasCover t
  let bar : Point := ⟨pickerWidth, Region.rowHeight⟩
  let _ ← place bar
  let t := match ← pickIn ⟨pickerWidth, pickerWidth⟩ with
    | some (saturation, value) => { t with saturation, value }
    | none => t
  let t := match ← pickIn bar with
    | some (hue, _) => { t with hue }
    | none => t
  if hasCover then
    let t := if t.cover < 0 then { t with cover := 0.5 } else t
    pure <| match ← pickIn bar with
      | some (cover, _) => { t with cover }
      | none => t
  else pure { t with cover := 1 }

/-- A button that shows a colour, with the picker that hangs open under it. -/
def toneButton (hasCover : Bool) (t : Tone) : Ui Tone := do
  let id : WidgetId := .part .menu :: (← region).nextId
  let response ← touch ⟨40, Region.rowHeight⟩ { click := true }
  if response.isClicked then togglePopup id
  if (← notes).popup == some id then
    let anchor : Point := ⟨response.rect.right, response.rect.bottom⟩
    let (whole, picked) ← popup id anchor false <| column <|
      pickFields hasCover { t with value := toGamma t.value }
    if !response.isClicked && whole.isLeftOut then closePopup
    let picked := { picked with value := ofGamma picked.value }
    pure (if picked == t then t else picked)
  else pure t

/-- A colour that may be edited: three amounts of light, or these and how much it covers. -/
def lightButton (channels : List Float32) : Ui (List Float32) := do
  match channels with
  | [red, green, blue] => do
    let edited ← edit ⟨red, green, blue, 1⟩ false
    pure [edited.red, edited.green, edited.blue]
  | [red, green, blue, cover] => do
    let e ← edit ⟨red * cover, green * cover, blue * cover, cover⟩ true
    pure <| if e.cover == 0 then [e.red, e.green, e.blue, e.cover]
      else [e.red / e.cover, e.green / e.cover, e.blue / e.cover, e.cover]
  | _ => pure channels
where
  /-- Edits the colour by its hue, which is kept for the light that it comes to. -/
  edit (c : Light) (hasCover : Bool) : Ui Light := do
    let t ← toneButton hasCover (((← notes).tones.lookup c).getD c.tone)
    note fun n => { n with tones := (t.light, t) :: n.tones.filter (·.1 != t.light) }
    pure t.light

/-- A colour with its label. -/
def colour (s : String) (channels : List Float32) : Ui (List Float32) := row do
  let edited ← lightButton channels
  label s
  pure edited

end WindowHost.Gui.Ui
