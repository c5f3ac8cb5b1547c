/-
**Texts in quotes.**

A quoted text shows every character that has a visible form of its own as it is, and writes the
others by an escape: five by a letter or digit, the rest by their number between braces. A character
that extends the one before it has no form of its own, the halfwidth sound marks apart, and a filler
leaves its place empty.
-/

import FacetQuery.Text.Ranges

namespace FacetQuery.Quoted

/-- The fillers: letters of Hangul that stand for a missing one and are written as nothing. -/
def fillers : CharRanges := [(0x115F, 0x1160), (0x3164, 0x3164), (0xFFA0, 0xFFA0)]

/-- The halfwidth sound marks of katakana: they extend the letter before them, in a place of their
own. -/
def soundMarks : CharRanges := [(0xFF9E, 0xFF9F)]

/-- Whether a character is shown as it is. -/
def isShown (c : Char) : Bool :=
  c == ' ' || soundMarks.holds c || !(extending.holds c || unprintable.holds c || fillers.holds c)

/-- A character between quotes. -/
def escaped (c : Char) : List Char :=
  if c = '"' then ['\\', '"']
  else if c = '\\' then ['\\', '\\']
  else if c = '\t' then ['\\', 't']
  else if c = '\n' then ['\\', 'n']
  else if c = '\r' then ['\\', 'r']
  else if c = '\x00' then ['\\', '0']
  else if isShown c then [c]
  else ['\\', 'u', '\x7b'] ++ Nat.toDigits 16 c.toNat ++ ['\x7d']

/-- A text in quotes. -/
def ofText (text : String) : String :=
  String.ofList ('"' :: text.toList.flatMap escaped ++ ['"'])

end FacetQuery.Quoted
