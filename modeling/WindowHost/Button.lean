import WindowHost.Button.Key

/-!
# Buttons and their transitions

A `Button` is a key, a mouse button, or a key that only the display knows by number. An `Action` is
what happens to it. `Button.code` writes the identity of a button without any vocabulary.
-/

namespace WindowHost

/-- A button of a mouse. -/
inductive MouseButton where
  | left | right | middle | back | forward
  /-- Any further button, by its number. -/
  | other (id : UInt16)
  deriving DecidableEq, Repr

/-- A key that has no place of its own on the keyboard, by the number its system gives it. -/
inductive NativeKey where
  | unidentified
  | android (code : UInt32)
  | macOS (code : UInt16)
  | windows (code : UInt16)
  | xkb (code : UInt32)
  deriving DecidableEq, Repr

/-- The identity of a keyboard key or a mouse button. -/
inductive Button where
  | key (k : Key)
  | mouse (b : MouseButton)
  | native (n : NativeKey)
  deriving DecidableEq, Repr

/-- What happens to a button. -/
inductive Action where
  | press | release
  /-- A held key reports again. -/
  | autoRepeat
  deriving DecidableEq, Repr

def Action.all : List Action := [.press, .release, .autoRepeat]

def Action.name : Action → String
  | .press => "Press"
  | .release => "Release"
  | .autoRepeat => "Repeat"

/-- Whether a button is down after the action. -/
def Action.leavesDown : Action → Bool
  | .press | .autoRepeat => true
  | .release => false

/-- The action of a button that is reported as down or up, perhaps as a repetition. -/
def Action.ofState (down isRepeat : Bool) : Action :=
  if down then if isRepeat then .autoRepeat else .press else .release

/-- The identity of a mouse button: its name, or the number of a further one. -/
def MouseButton.code : MouseButton → String
  | .left => "Left"
  | .right => "Right"
  | .middle => "Middle"
  | .back => "Back"
  | .forward => "Forward"
  | .other id => toString id.toNat

def NativeKey.code : NativeKey → String
  | .unidentified => "Unidentified"
  | .android n | .xkb n => toString n.toNat
  | .macOS n | .windows n => toString n.toNat

/-- The identity of a button in words. -/
def Button.code : Button → String
  | .key k => k.name
  | .mouse b => b.code
  | .native n => n.code

end WindowHost
