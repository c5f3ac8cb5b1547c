/-
**The tokens of a settings document.**

A document is read one character at a time by a machine with a few modes (`Mode`); `step` says which
tokens a character completes and which mode follows it. Comments and blanks leave no token. A word
is any run of the characters of plain names and numbers; a name may also stand in quotes, in double
ones with escapes.
-/

import FacetQuery.Json.Reader

namespace FacetQuery.Settings

/-- The tokens of a document. -/
inductive Token where
  | word (text : List Char)
  | quoted (text : List Char)
  | equals
  | comma
  | openBracket
  | closeBracket
  | newline
deriving DecidableEq, Repr

/-- Where the machine is; texts that are being read have their last character first. -/
inductive Mode where
  | between
  | word (read : List Char)
  | comment
  | carriage
  | literal (read : List Char)
  | basic (read : List Char)
  | escape (read : List Char)
  | code (read : List Char) (missing value : Nat)

namespace Token

/-- Whether a word can have a character. -/
def isWordChar (c : Char) : Bool := c.isAlphanum || c == '_' || c == '-' || c == '+' || c == '.'

/-- Whether a character is a control other than the tab. -/
def isControl (c : Char) : Bool := (c.toNat < 32 && c != '\t') || c == '\x7f'

/-- What a character does that follows no unfinished token. -/
def start (c : Char) : Option (List Token × Mode) :=
  if isWordChar c then some ([], .word [c])
  else match c with
    | ' ' => some ([], .between)
    | '\t' => some ([], .between)
    | '\n' => some ([.newline], .between)
    | '\r' => some ([], .carriage)
    | '#' => some ([], .comment)
    | '=' => some ([.equals], .between)
    | ',' => some ([.comma], .between)
    | '[' => some ([.openBracket], .between)
    | ']' => some ([.closeBracket], .between)
    | '"' => some ([], .basic [])
    | '\'' => some ([], .literal [])
    | _ => none

/-- The character of an escape by a single letter. -/
def letterEscape? : Char → Option Char
  | '"' => some '"'
  | '\\' => some '\\'
  | 'b' => some '\x08'
  | 't' => some '\t'
  | 'n' => some '\n'
  | 'f' => some '\x0c'
  | 'r' => some '\r'
  | 'e' => some '\x1b'
  | _ => none

/-- The number of digits of an escape by number. -/
def codeLength? : Char → Option Nat
  | 'x' => some 2
  | 'u' => some 4
  | 'U' => some 8
  | _ => none

/-- What the character behind a backslash does. -/
def escaped (read : List Char) (c : Char) : Option (List Token × Mode) :=
  match letterEscape? c, codeLength? c with
  | some char, _ => some ([], .basic (char :: read))
  | none, some digits => some ([], .code read digits 0)
  | none, none => none

/-- What a digit of an escape by number does. -/
def coded (read : List Char) (missing value : Nat) (c : Char) : Option (List Token × Mode) := do
  let digit ← Json.hexValue? c
  let value := 16 * value + digit
  if 1 < missing then some ([], .code read (missing - 1) value)
  else if value.isValidChar then some ([], .basic (Char.ofNat value :: read))
  else none

/-- What a character does in a mode: the tokens that it completes, and the mode behind it. -/
def step : Mode → Char → Option (List Token × Mode)
  | .between, c => start c
  | .word read, c =>
    if isWordChar c then some ([], .word (c :: read))
    else (start c).map fun (tokens, mode) => (.word read.reverse :: tokens, mode)
  | .comment, c =>
    if c = '\n' then some ([.newline], .between)
    else if c = '\r' then some ([], .carriage)
    else if isControl c then none
    else some ([], .comment)
  | .carriage, c => if c = '\n' then some ([.newline], .between) else none
  | .literal read, c =>
    if c = '\'' then some ([.quoted read.reverse], .between)
    else if isControl c then none
    else some ([], .literal (c :: read))
  | .basic read, c =>
    if c = '"' then some ([.quoted read.reverse], .between)
    else if c = '\\' then some ([], .escape read)
    else if isControl c then none
    else some ([], .basic (c :: read))
  | .escape read, c => escaped read c
  | .code read missing value, c => coded read missing value c

/-- The tokens that the end of a document completes. -/
def finish : Mode → Option (List Token)
  | .between => some []
  | .word read => some [.word read.reverse]
  | .comment => some []
  | _ => none

/-- The tokens of a text from a mode on. -/
def scan? : Mode → List Char → Option (List Token)
  | mode, [] => finish mode
  | mode, c :: rest => do
    let (tokens, next) ← step mode c
    let later ← scan? next rest
    return tokens ++ later

/-- The tokens of a document, behind an optional byte order mark. -/
def ofText? (source : String) : Option (List Token) :=
  match source.toList with
  | '\ufeff' :: rest => scan? .between rest
  | text => scan? .between text

end Token

end FacetQuery.Settings
