import WindowHost.Cursor.Request

/-!
# Arbitration of the cursor

The host program and the widgets share one native cursor. Once in a frame `Arbiter.arbitrate`
settles who drives it, from the request of the host and the signal of the widgets, and lists the
changes that a `Sink` has to make. Whether the widgets must hold still in their next update,
`Arbiter.suppressesGui`, is read before that update and so follows the frame before.
-/

namespace WindowHost.Cursor

/-- The cursor that the widgets ask for. -/
inductive GuiCursor where
  /-- No cursor at all. -/
  | none
  /-- The widgets paint a cursor themselves. -/
  | drawsOwn
  /-- A shape of its own, such as a text beam. -/
  | special
  | default
  deriving DecidableEq, Repr, Inhabited

def GuiCursor.all : List GuiCursor := [.none, .drawsOwn, .special, .default]

def GuiCursor.name : GuiCursor → String
  | .none => "None"
  | .drawsOwn => "DrawsOwn"
  | .special => "Special"
  | .default => "Default"

/-- What the widgets want of the mouse in a frame. -/
structure Signal where
  desired : GuiCursor := .default
  wantsMouse : Bool := false
  deriving DecidableEq, Repr, Inhabited

/-- Who drives the native cursor. -/
inductive Applied where
  | guiControlled
  | userShape (s : Shape)
  | userHidden
  deriving DecidableEq, Repr, Inhabited

def Applied.name : Applied → String
  | .guiControlled => "GuiControlled"
  | .userShape s => "UserShape:" ++ s.name
  | .userHidden => "UserHidden"

/-- The native cursor as the arbiter writes it, in a world `W`. -/
structure Sink (W : Type) where
  setVisible : Bool → W → W
  /-- Sets the shape and tells whether the display has it. -/
  setShape : Shape → W → Bool × W

/-- The request in force and the outcome of the last arbitration. -/
structure Arbiter where
  request : Request := {}
  applied : Applied := .guiControlled
  deriving DecidableEq, Repr, Inhabited

/-- Who should drive the cursor, given the request of the host and the signal of the widgets. -/
def verdict (request : Request) (signal : Signal) : Applied :=
  match request.choice with
  | .default => .guiControlled
  | .hidden => .userHidden
  | .shape s =>
    if signal.desired = .none || signal.desired = .drawsOwn then .userHidden
    else if !request.force && (signal.desired = .special || signal.wantsMouse) then .guiControlled
    else .userShape s

/-- Writes the native cursor for a change of its driver. A shape the display lacks becomes an
arrow; the widgets get back a visible cursor. -/
def Sink.apply {W : Type} (sink : Sink W) (previous next : Applied) (w : W) : W :=
  if previous = next then w
  else
    match next with
    | .userHidden => sink.setVisible false w
    | .userShape s =>
      match sink.setShape s (sink.setVisible true w) with
      | (true, w) => w
      | (false, w) => (sink.setShape .arrow w).2
    | .guiControlled => if previous = .userHidden then sink.setVisible true w else w

namespace Arbiter

def setRequest (a : Arbiter) (request : Request) : Arbiter := { a with request }

/-- Whether the widgets must leave the native cursor alone in their next update. -/
def suppressesGui (a : Arbiter) : Bool :=
  (match a.applied with
    | .userShape _ => true
    | _ => false) || a.request.choice == .hidden

/-- Settles who drives the cursor and writes the change to the sink. -/
def arbitrate {W : Type} (a : Arbiter) (signal : Signal) (sink : Sink W) (w : W) : Arbiter × W :=
  let next := verdict a.request signal
  ({ a with applied := next }, sink.apply a.applied next w)

end Arbiter

end WindowHost.Cursor
