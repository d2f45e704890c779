import ModuleLoader.Document

/-!
# Reading characters

A parser takes what it can from the front of a list of characters and returns the rest. The lexical
classes and the smallest pieces of TOML are here: blanks, line ends, comments and repetition.

Repetition is bounded by the number of characters left when it starts. Every piece that is repeated
takes at least one character, so the bound is never what ends it.
-/

namespace ModuleLoader

namespace Toml

/-- A parser: a value from the front of a list of characters together with the rest. -/
abbrev Parser (α : Type) := StateT (List Char) Option α

/-- Gives up. -/
def fail {α : Type} : Parser α := fun _ => none

/-- The next character. -/
def next : Parser Char
  | [] => none
  | c :: rest => some (c, rest)

/-- The characters that are left. -/
def peek : Parser (List Char) := get

/-- A given character. -/
def char (c : Char) : Parser Unit := do
  if (← next) ≠ c then fail

/-- Given characters in order. -/
def literal (text : String) : Parser Unit := text.toList.forM char

/-- Whether the input goes on with given characters. -/
def startsWith (text : String) : Parser Bool := return text.toList.isPrefixOf (← peek)

/-- The longest run of characters of a class. -/
def takeWhile (keep : Char → Bool) : Parser (List Char) := fun cs =>
  some (cs.takeWhile keep, cs.dropWhile keep)

/-- A number of characters of a class, no fewer. -/
def takeExactly (keep : Char → Bool) : (count : Nat) → Parser (List Char)
  | 0 => return []
  | count + 1 => do
    let c ← next
    if keep c then return c :: (← takeExactly keep count) else fail

/-- Repeats a step until it says that it is done, at most `fuel` times. -/
def repeatUpTo {σ : Type} (step : σ → Parser (σ × Bool)) : (fuel : Nat) → σ → Parser σ
  | 0, _ => fail
  | fuel + 1, state => do
    let (state, done) ← step state
    if done then return state else repeatUpTo step fuel state

/-- Repeats a step until it says that it is done. Each repetition takes at least one character,
except that the last one need not. -/
def repeatUntil {σ : Type} (start : σ) (step : σ → Parser (σ × Bool)) : Parser σ := do
  repeatUpTo step ((← peek).length + 1) start

/-! ## Classes of characters -/

/-- A space or a tab. -/
def isBlank (c : Char) : Bool := c == ' ' || c == '\t'

/-- A character that may stand in a comment or in a text as it is: no control character but the
tab. -/
def isPlain (c : Char) : Bool := c == '\t' || (' ' ≤ c && c ≠ '\x7f')

/-- A decimal digit. -/
def isDigit (c : Char) : Bool := '0' ≤ c && c ≤ '9'

/-- A character of a key that is not quoted. -/
def isBareKey (c : Char) : Bool := c.isAlphanum || c == '_' || c == '-'

/-! ## Blanks and line ends -/

/-- Any number of blanks. -/
def blanks : Parser Unit := discard (takeWhile isBlank)

/-- A line end, if the input goes on with one. -/
def newline? : Parser Bool
  | '\n' :: rest => some (true, rest)
  | '\r' :: '\n' :: rest => some (true, rest)
  | cs => some (false, cs)

/-- A comment, if the input goes on with one. -/
def comment : Parser Unit := do
  if ← startsWith "#" then discard (takeWhile isPlain)

/-- The end of a line or of the input. -/
def lineEnd : Parser Unit := do
  unless (← newline?) || (← peek).isEmpty do fail

/-- What may follow a statement on its line. -/
def restOfLine : Parser Unit := do
  blanks
  comment
  lineEnd

/-- Blanks, line ends and comments; a comment must end with its line. -/
def filler : Parser Unit :=
  repeatUntil () fun _ => do
    blanks
    if ← startsWith "#" then
      comment
      if ← newline? then return ((), false) else fail
    else
      return ((), !(← newline?))

end Toml

end ModuleLoader
