import WindowHost.Gui.Geometry

/-!
# The size of texts

Letters have widths in units of a design grid and stand at whole pixels. `Typeface.width` is the
width of a line; `Typeface.wrap` breaks a text that is too wide into lines.
-/

namespace WindowHost.Gui

/-- A size of letters. -/
structure Typeface where
  /-- The height of the letters in points. -/
  points : Float32
  /-- Physical pixels for a point. -/
  scale : Float32

namespace Typeface

def body (scale : Float32) : Typeface := ⟨12.5, scale⟩

def heading (scale : Float32) : Typeface := ⟨18, scale⟩

/-- The units from the foot to the head of a letter. -/
def unitsHigh : Float32 := 1121

/-- The units from a line to the next. -/
def unitsApart : Float32 := 1149

/-- The height of a letter in pixels, a whole number. -/
def pixels (t : Typeface) : Float32 := (t.points * t.scale * unitsHigh / 1000).round

def lineHeight (t : Typeface) : Float32 := t.pixels * unitsApart / unitsHigh / t.scale

/-- The height of a line as it is laid out, in whole pixels. -/
def rowHeight (t : Typeface) : Float32 := toPixel t.scale t.lineHeight

/-- The widths of the characters from the blank on. -/
def units : Array Nat :=
  #[236, 244, 381, 663, 564, 858, 661, 217, 311, 311, 470, 564, 217, 290, 217, 366,
    564, 564, 564, 564, 564, 564, 564, 564, 564, 564, 217, 217, 564, 564, 564, 390,
    923, 630, 619, 611, 707, 545, 520, 676, 704, 255, 478, 597, 512, 851, 729, 770,
    588, 770, 604, 530, 551, 675, 615, 905, 591, 566, 558, 316, 366, 316, 564, 491,
    365, 528, 589, 479, 589, 564, 362, 585, 577, 244, 244, 517, 259, 864, 577, 600,
    589, 589, 379, 447, 408, 577, 495, 757, 514, 494, 464, 316, 258, 316, 564]

/-- The units of a character; one that is not in the table is as wide as a letter or a picture. -/
def unitsOf (c : Char) : Nat :=
  if c.toNat < 32 then 0 else units.getD (c.toNat - 32) (if c.toNat < 0x2600 then 600 else 1100)

/-- How far a character goes. -/
def advance (t : Typeface) (c : Char) : Float32 :=
  Float32.ofNat (unitsOf c) * t.pixels / unitsHigh / t.scale

/-- The right edge of a line and the place of the next character. -/
def edges (t : Typeface) (line : List Char) : Float32 × Float32 :=
  line.foldl (fun (_, x) c =>
    let edge := x + t.advance c
    (edge, toPixel t.scale edge)) (0, 0)

def width (t : Typeface) (line : List Char) : Float32 := (t.edges line).1

/-- How many characters stay on a line that has to be broken: up to the last blank, or else up to
the last dash, or else up to the last other mark. -/
def breakAt (line : List Char) : Nat :=
  let upTo (p : Char → Bool) : Option Nat :=
    (line.reverse.findIdx? p).map (line.length - ·)
  let isMark (c : Char) : Bool := 32 < c.toNat && c.toNat < 127 && !c.isAlphanum
  ((upTo Char.isWhitespace).or ((upTo (· == '-')).or (upTo isMark))).getD line.length

/-- Breaks a line into lines that are at most so wide, where that is possible. `line` holds the
characters so far. -/
def wrapLine (t : Typeface) (room : Float32) (line : List Char) : List Char → List (List Char)
  | [] => [line]
  | c :: rest =>
    if room < t.width (line ++ [c]) && !line.isEmpty then
      let kept := breakAt line
      line.take kept :: wrapLine t room (line.drop kept ++ [c]) rest
    else wrapLine t room (line ++ [c]) rest

def lines (text : String) : List (List Char) := (text.splitOn "\n").map String.toList

/-- The size of a text with its lines broken where they are too wide for the room. -/
def wrap (t : Typeface) (room : Option Float32) (text : String) : Point :=
  let broken := match room with
    | some room => (lines text).flatMap fun line =>
        if t.width line ≤ room then [line] else t.wrapLine room [] line
    | none => lines text
  ⟨broken.foldl (fun w line => max w (t.width line)) 0,
    broken.foldl (fun h _ => h + t.rowHeight) 0⟩

end Typeface

end WindowHost.Gui
