import WindowHost.Cursor.Shape
import WindowHost.Error

/-!
# Cursor requests

What a host program asks of the cursor: a `Choice`, and whether it insists. `Request.ofIndex` reads
the numbers by which host programs name a choice.
-/

namespace WindowHost.Cursor

/-- Leave the cursor to the widgets, hide it, or give it a shape. -/
inductive Choice where
  | default
  | hidden
  | shape (s : Shape)
  deriving DecidableEq, Repr, Inhabited

def Choice.all : List Choice := .default :: .hidden :: Shape.all.map .shape

def Choice.name : Choice → String
  | .default => "Default"
  | .hidden => "Hidden"
  | .shape s => s.name

/-- The choice of the host program. -/
structure Request where
  choice : Choice := .default
  /-- Whether the shape holds even while the widgets use the mouse. -/
  force : Bool := false
  deriving DecidableEq, Repr, Inhabited

/-- The number that leaves the cursor to the widgets. -/
def defaultIndex : Int32 := -2

/-- The number that hides the cursor. -/
def hiddenIndex : Int32 := -1

/-- The request with that number: one of the two above, or the number of a shape. -/
def Request.ofIndex (index : Int32) (force : Bool) : Except WindowError Request :=
  if index = defaultIndex then .ok ⟨.default, force⟩
  else if index = hiddenIndex then .ok ⟨.hidden, force⟩
  else
    match Shape.ofIndex? index with
    | some s => .ok ⟨.shape s, force⟩
    | none => .error (.invalidCursorShape index)

end WindowHost.Cursor
