/-!
# Scanning TOML text

A scanner takes characters from the front of a text and gives back what they mean, or nothing, in
which case the text is as it was before.  This module has the scanners for what TOML has between its
values: blanks, line ends and comments.
-/

namespace PropertyReflection

namespace Toml

/-- A function from a text to a result and the rest of the text, if the text begins suitably. -/
abbrev Scan := StateT (List Char) Option

/-- The next character, left where it is. -/
def next? : Scan (Option Char) := fun text => some (text.head?, text)

/-- Take a character that satisfies a condition. -/
def satisfying (p : Char → Bool) : Scan Char
  | c :: rest => if p c then some (c, rest) else none
  | [] => none

/-- Take the given character. -/
def char (c : Char) : Scan Unit := do
  let _ ← satisfying (· == c)

/-- Take the given characters. -/
def word (cs : List Char) : Scan Unit := fun text =>
  if cs.isPrefixOf text then some ((), text.drop cs.length) else none

/-- Take characters while they satisfy a condition. -/
def span (p : Char → Bool) : Scan (List Char) := fun text =>
  some (text.takeWhile p, text.dropWhile p)

/-- Succeed only at the end of the text. -/
def atEnd : Scan Unit := fun text => if text.isEmpty then some ((), text) else none

/-- Take something or nothing. -/
def optional {α : Type} (scan : Scan α) : Scan (Option α) :=
  (some <$> scan) <|> pure none

/-- Scan the same thing as often as it is there, at most `fuel` times. -/
def repeated {α : Type} (scan : Scan α) : Nat → Scan (List α)
  | 0 => pure []
  | fuel + 1 => do
    match ← optional scan with
    | none => pure []
    | some a => return a :: (← repeated scan fuel)

/-- Scan the same thing as often as it is there.  Each time takes at least one character, so the
length of the text bounds the number of times. -/
def many {α : Type} (scan : Scan α) : Scan (List α) := do
  repeated scan (← get).length

/-- Scan the same thing as often as it is there, with separators between.  A separator that nothing
follows is not taken. -/
def separated {α : Type} (scan : Scan α) (separator : Scan Unit) : Scan (List α) := do
  match ← optional scan with
  | none => pure []
  | some a => return a :: (← many (separator *> scan))

/-- Skip blanks inside a line. -/
def blanks : Scan Unit := do
  let _ ← span fun c => c == ' ' || c == '\t'

/-- Take a line end, in either of its two forms. -/
def newline : Scan Unit
  | '\n' :: rest => some ((), rest)
  | '\r' :: '\n' :: rest => some ((), rest)
  | _ => none

/-- Characters of comments and of all strings: no control character but the tab. -/
def isPlain (c : Char) : Bool := c == '\t' || (decide (0x20 ≤ c.toNat) && c.toNat != 0x7f)

/-- Take a comment up to the end of its line. -/
def comment : Scan Unit := do
  char '#'
  let _ ← span isPlain

/-- Take the rest of a line that may only hold a comment, with its end. -/
def lineEnd : Scan Unit := do
  blanks
  let _ ← optional comment
  newline <|> atEnd

/-- Skip blanks, line ends and comments, which may stand between the values of an array. -/
def interspace : Scan Unit := do
  blanks
  let _ ← many do
    newline <|> (comment *> newline)
    blanks

end Toml

end PropertyReflection
