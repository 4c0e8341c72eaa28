import WindowHost.Cursor.Icon

/-!
# Forwarding of widget cursors

The windowing layer under the widgets writes the native cursor when it is handed another icon than
before. While the host program drives the cursor, `Forwarding.forward` repeats the last icon, so
that nothing is written. Once the cursor is given back, the first frame in which the widgets are
free writes it anew: `Forwarding.takeReclaim` is true in that frame.
-/

namespace WindowHost.Gui

open Cursor (WidgetIcon)

/-- The icon handed over last, and whether the cursor was given back since. -/
structure Forwarding where
  last : WidgetIcon := .default
  reclaimPending : Bool := false
  deriving DecidableEq, Repr, Inhabited

namespace Forwarding

/-- The icon to hand over in a frame: the one asked for, or the last one while suppressed. -/
def forward (f : Forwarding) (requested : WidgetIcon) (suppressed : Bool) :
    WidgetIcon × Forwarding :=
  if suppressed then (f.last, f) else (requested, { f with last := requested })

/-- The cursor was given back to the widgets. -/
def reclaim (f : Forwarding) : Forwarding := { f with reclaimPending := true }

/-- Whether the cursor must be written in this frame, which settles what is pending. -/
def takeReclaim (f : Forwarding) (suppressed : Bool) : Bool × Forwarding :=
  if suppressed || !f.reclaimPending then (false, f) else (true, { f with reclaimPending := false })

end Forwarding

end WindowHost.Gui
