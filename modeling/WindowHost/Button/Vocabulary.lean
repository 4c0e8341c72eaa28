import WindowHost.Button
import WindowHost.Text.Quoted

/-!
# The vocabulary of button names

A host program speaks of buttons by name: `"A"`, `"7"`, `"Escape"`, `"LMB"`. `Button.vocabulary`
lists the names in use, where the left and right key of a modifier share one. `Button.known?` reads
the table from a button to its name, `Button.ofName` from a name to its buttons, and `Button.label`
gives every button some name.
-/

namespace WindowHost

/-- A button or a name that the vocabulary does not have. -/
inductive UnrecognizedButton where
  /-- A button without a name, by its code. -/
  | code (text : String)
  /-- A name without a button. -/
  | name (text : String)
  deriving DecidableEq, Repr

def UnrecognizedButton.message : UnrecognizedButton → String
  | .code text => "unrecognized button code: " ++ text
  | .name text => "unrecognized button name: " ++ Text.quoted text

namespace Button

/-- The letters by their capital. -/
def letterKeys : List (String × Key) := [
  ("A", .keyA), ("B", .keyB), ("C", .keyC), ("D", .keyD), ("E", .keyE), ("F", .keyF), ("G", .keyG),
  ("H", .keyH), ("I", .keyI), ("J", .keyJ), ("K", .keyK), ("L", .keyL), ("M", .keyM), ("N", .keyN),
  ("O", .keyO), ("P", .keyP), ("Q", .keyQ), ("R", .keyR), ("S", .keyS), ("T", .keyT), ("U", .keyU),
  ("V", .keyV), ("W", .keyW), ("X", .keyX), ("Y", .keyY), ("Z", .keyZ)]

/-- The digits of the main keyboard. -/
def digitKeys : List (String × Key) := [
  ("0", .digit0), ("1", .digit1), ("2", .digit2), ("3", .digit3), ("4", .digit4), ("5", .digit5),
  ("6", .digit6), ("7", .digit7), ("8", .digit8), ("9", .digit9)]

/-- Keys with a name of their own; the first of a shared name is its primary key. -/
def namedKeys : List (String × Key) := [
  ("Shift", .shiftLeft), ("Shift", .shiftRight), ("Alt", .altLeft), ("Alt", .altRight),
  ("Control", .controlLeft), ("Control", .controlRight), ("Escape", .escape), ("Return", .enter),
  ("Tab", .tab), ("BackSpace", .backspace), (" ", .space), ("Up", .arrowUp), ("Down", .arrowDown),
  ("Left", .arrowLeft), ("Right", .arrowRight), ("CapsLock", .capsLock), ("F1", .f1), ("F2", .f2),
  ("F3", .f3), ("F4", .f4), ("F5", .f5), ("F6", .f6), ("F7", .f7), ("F8", .f8), ("F9", .f9),
  ("F10", .f10), ("F11", .f11), ("F12", .f12), ("Insert", .insert), ("Delete", .delete),
  ("Home", .home), ("End", .endKey), ("PageUp", .pageUp), ("PageDown", .pageDown),
  ("Numpad0", .numpad0), ("Numpad1", .numpad1), ("Numpad2", .numpad2), ("Numpad3", .numpad3),
  ("Numpad4", .numpad4), ("Numpad5", .numpad5), ("Numpad6", .numpad6), ("Numpad7", .numpad7),
  ("Numpad8", .numpad8), ("Numpad9", .numpad9), ("NumpadDecimal", .numpadDecimal),
  ("NumpadDivide", .numpadDivide), ("NumpadMultiply", .numpadMultiply),
  ("NumpadSubtract", .numpadSubtract), ("NumpadAdd", .numpadAdd), ("NumpadEnter", .numpadEnter)]

def namedMouseButtons : List (String × MouseButton) :=
  [("LMB", .left), ("MMB", .middle), ("RMB", .right)]

/-- Every name with the buttons it stands for. -/
def vocabulary : List (String × Button) :=
  (letterKeys ++ digitKeys ++ namedKeys).map (fun (s, k) => (s, .key k)) ++
    namedMouseButtons.map fun (s, b) => (s, .mouse b)

/-- The name of a button in the vocabulary. -/
def known? (b : Button) : Option String :=
  (vocabulary.find? fun entry => entry.2 == b).map (·.1)

/-- The name of a button, or the report that it has none. -/
def name (b : Button) : Except UnrecognizedButton String :=
  match b.known? with
  | some s => .ok s
  | none => .error (.code b.code)

/-- The name of a button; one outside the vocabulary is named by its code. -/
def label (b : Button) : String := b.known?.getD ("Key_" ++ b.code)

/-- A single letter in upper case; any other name as it is. -/
def canonical (s : String) : String :=
  match s.toList with
  | [c] => String.singleton c.toUpper
  | _ => s

/-- The key that a single character names, a letter in either case. -/
def plainKey? (s : String) : Option Key :=
  match s.toList with
  | [c] =>
    ((letterKeys ++ digitKeys).find? fun entry => entry.1 == String.singleton c.toUpper).map (·.2)
  | _ => none

/-- The buttons that have the name among the longer ones, in the order of the tables. -/
def named (s : String) : List Button :=
  (namedKeys.filter fun entry => entry.1 == s).map (fun (_, k) => .key k) ++
    (namedMouseButtons.filter fun entry => entry.1 == s).map fun (_, b) => .mouse b

/-- The buttons of a name, the primary one first. A single letter may be in either case. -/
def ofName (s : String) : Except UnrecognizedButton (List Button) :=
  match plainKey? s with
  | some k => .ok [.key k]
  | none =>
    match named s with
    | [] => .error (.name s)
    | buttons => .ok buttons

end Button

end WindowHost
