import WindowHost.Text.Unprintable
import WindowHost.Text.GraphemeExtend

/-!
# Quoted text

`quoted` writes a text between double quotes so that nothing in it is invisible: a quote, a
backslash and the common controls have short escapes, and any other character that does not print
on its own is written by its number in hexadecimal.
-/

namespace WindowHost.Text

/-- A number in lower-case hexadecimal. -/
def hexadecimal (n : Nat) : String := String.ofList (Nat.toDigits 16 n)

/-- Whether a character is one of the four Hangul fillers, letters that print as nothing. -/
def isHangulFiller (c : Char) : Bool :=
  c == '\u115f' || c == '\u1160' || c == '\u3164' || c == '\uffa0'

/-- Whether a character is a halfwidth katakana sound mark, which is seen also on its own. -/
def isHalfwidthSoundMark (c : Char) : Bool := c == '\uff9e' || c == '\uff9f'

/-- Whether a character is written by its number: it prints as nothing, or shows only as part of
the character before it. -/
def isHidden (c : Char) : Bool :=
  isUnprintable c || isHangulFiller c || (isGraphemeExtend c && !isHalfwidthSoundMark c)

/-- One character as it stands between quotes. -/
def escaped (c : Char) : String :=
  match c with
  | '\x00' => "\\0"
  | '\t' => "\\t"
  | '\r' => "\\r"
  | '\n' => "\\n"
  | '"' => "\\\""
  | '\\' => "\\\\"
  | c =>
    if ' ' ≤ c && c < '\x7f' then String.singleton c
    else if isHidden c then "\\u\x7b" ++ hexadecimal c.toNat ++ "\x7d"
    else String.singleton c

/-- The text between double quotes, with escapes. -/
def quoted (s : String) : String :=
  "\"" ++ String.join (s.toList.map escaped) ++ "\""

end WindowHost.Text
