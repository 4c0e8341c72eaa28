import WindowHost.Window.Basic

/-!
# Pumping events

`Window.pump` takes the events that the platform has and hands each to the widgets and to the state
of the window. A new size of the framebuffer is settled with the renderer on the spot: the window
waits while a side is zero, and the reports that come meanwhile follow directly after the one that
brought the new size.
-/

namespace WindowHost.Window

variable {W α β Raw Frame : Type} [Scalar α] [Narrowing α β] (d : Devices W α Raw Frame)

/-- Waits for a framebuffer with an area, at most `patience` times. Gives its size and all reports
that came while waiting. -/
def awaitSize : (patience : Nat) → WindowM W α β (Extent × List (Report α Raw))
  | 0 => do
    let size ← ask d.platform.framebufferSize
    if size.isEmpty then throw .stalled else pure (size, [])
  | patience + 1 => do
    let size ← ask d.platform.framebufferSize
    if size.isEmpty then
      let batch ← ask d.platform.wait
      let (size, later) ← awaitSize patience
      pure (size, batch ++ later)
    else pure (size, [])

/-- Brings the renderer and the settings to the size of the framebuffer, and then sees to the
reports that came while waiting for it. -/
def settleSize (patience : Nat) (follow : List (Report α Raw) → WindowM W α β Unit) :
    WindowM W α β Unit := do
  let (size, deferred) ← awaitSize d patience
  attempt (d.renderer.resize size)
  modify fun s => { s with config := { s.config with size } }
  follow deferred

/-- Hands a report to the widgets and to the window, where `follow` sees to the reports that a
change of size has deferred. -/
def handle (patience : Nat) (follow : List (Report α Raw) → WindowM W α β Unit)
    (report : Report α Raw) : WindowM W α β Unit := do
  if let some raw := report.raw then
    act (d.gui.onRawEvent raw)
  match report.occurrence with
  | some (.resized _) => settleSize d patience follow
  | some occurrence => modify (·.receive occurrence)
  | none => pure ()

/-- Hands over the reports in their order. Whatever a change of size defers has cost a wait, and so
is handed over with less patience. -/
def dispatch : (patience : Nat) → List (Report α Raw) → WindowM W α β Unit
  | 0, reports => reports.forM (handle d 0 fun _ => pure ())
  | patience + 1, reports => reports.forM (handle d (patience + 1) (dispatch patience))

/-- Settles the size of the framebuffer, with as much patience as the platform suggests. -/
def resize : WindowM W α β Unit := do
  let patience := d.platform.patience (← get).world
  settleSize d patience (dispatch d (patience - 1))

/-- Takes the events that are there and hands them over. -/
def pump : WindowM W α β Unit := do
  let reports ← ask d.platform.poll
  dispatch d (d.platform.patience (← get).world) reports

end WindowHost.Window
