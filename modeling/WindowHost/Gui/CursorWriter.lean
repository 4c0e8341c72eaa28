import WindowHost.Cursor.Icon
import WindowHost.Native.Event

/-!
# Writing the cursor of the widgets

The layer between widgets and windowing system writes the native cursor only when it is handed
another icon than the one it wrote last, and only while the pointer is in the window. Otherwise it
forgets what it wrote, so as to write it again once the pointer is back.
-/

namespace WindowHost.Gui

open Cursor (NativeIcon WidgetIcon)

/-- A change of the native cursor. -/
inductive CursorCommand where
  | setVisible (value : Bool)
  | setIcon (icon : NativeIcon)
  deriving DecidableEq, Repr

/-- What it takes to show a widget's cursor. -/
def CursorCommand.showing (icon : WidgetIcon) : List CursorCommand :=
  match icon.native? with
  | some native => [.setVisible true, .setIcon native]
  | none => [.setVisible false]

/-- The icon written last, and whether the pointer is in the window. -/
structure CursorWriter where
  written : Option WidgetIcon := none
  pointerInside : Bool := false
  deriving DecidableEq, Repr, Inhabited

namespace CursorWriter

/-- Follows the pointer into the window and out of it. -/
def observe (c : CursorWriter) : Native.DisplayEvent → CursorWriter
  | .cursorMoved _ _ => { c with pointerInside := true }
  | .cursorLeft => { c with pointerInside := false }
  | _ => c

/-- Writes an icon where that is called for. -/
def write (c : CursorWriter) (icon : WidgetIcon) : List CursorCommand × CursorWriter :=
  if c.written = some icon then ([], c)
  else if c.pointerInside then (CursorCommand.showing icon, { c with written := some icon })
  else ([], { c with written := none })

end CursorWriter

end WindowHost.Gui
