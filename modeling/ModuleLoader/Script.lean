import ModuleLoader.Fields
import ModuleLoader.ModuleName
import ModuleLoader.Options

/-!
# Scripts

A small language of modules, one directive a line. It has just what a loader has to do with:
imports, options, definitions of every kind that an interface exports, warnings and errors, and a
few directives that meddle with files while the module is being checked.

A line is a word and what follows it. Blanks at both ends of a line do not matter, and neither do
empty lines and lines that begin with two dashes. A word that means nothing is a directive too: it
is the checker who stumbles over it.
-/

namespace ModuleLoader

-- Powers are the ones that come with the numbers, whatever algebra is imported elsewhere.
attribute [local instance (high)] instPowNat

namespace Script

/-- One line of a script. -/
inductive Directive where
  /-- The module has this name. -/
  | declare (name : ModuleName)
  /-- Flags are switched on or off. -/
  | options (switches : List (Flag × Bool))
  /-- A module is imported. -/
  | bring (module : ModuleName)
  /-- A module is imported if that works. -/
  | tryBring (module : ModuleName)
  /-- A definition with its type. -/
  | define (name type : String)
  /-- A name that only a private check keeps. -/
  | hidden (name : String)
  /-- A definition that is partial. -/
  | incomplete (name : String)
  /-- A builtin is bound. -/
  | builtin (name definition : String)
  /-- The type of a definition. -/
  | signature (name type : String)
  /-- A pattern synonym. -/
  | pattern (name body : String)
  /-- A warning attached to a name. -/
  | userWarning (name message : String)
  /-- One more display form of a name. -/
  | display (name form : String)
  /-- A warning about the module. -/
  | warn (message : String)
  /-- A message for importers. -/
  | importWarning (message : String)
  /-- The module is wrong. -/
  | reject (message : String)
  /-- The script itself is touched. -/
  | touchSelf
  /-- The script itself is touched unless it has been so many times. -/
  | touchUntil (count : Nat)
  /-- A file is touched. -/
  | touch (path : Path)
  /-- A file is removed. -/
  | delete (path : Path)
  /-- The state of the check is noted in the journal. -/
  | report
  /-- A word that means nothing. -/
  | unknown (word : String)
  deriving DecidableEq, Repr

/-! ## Reading -/

/-- The characters that are dropped at the ends of a text. -/
def isBlank (c : Char) : Bool := c == ' ' || c == '\t' || c == '\r'

/-- A text without blanks at its ends. -/
def trim (text : String) : String :=
  let front := text.toList.dropWhile isBlank
  String.ofList (front.reverse.dropWhile isBlank).reverse

/-- A name and what is said about it: the text before the first space and the trimmed text after it.
A text without a space is both. -/
def nameAndRest (text : String) : String × String :=
  match cutOnce ' ' text with
  | (name, some rest) => (name, trim rest)
  | (name, none) => (name, name)

/-- A definition and its type, divided by a colon; without one the type is `Set`. -/
def nameAndType (text : String) : String × String :=
  match cutOnce ':' text with
  | (name, some type) => (trim name, trim type)
  | (name, none) => (trim name, "Set")

/-- The number that a text spells in decimal digits, perhaps after a plus sign. A number that does
not fit 64 bits counts as zero, and so does any other text. -/
def count (text : String) : Nat :=
  let digits : List Char := match text.toList with
    | '+' :: digits => digits
    | digits => digits
  let n := digits.foldl (fun n c => 10 * n + (c.toNat - 48)) 0
  if digits.all Char.isDigit ∧ n < 2 ^ (64 : Nat) then n else 0

/-- How a piece of an options line switches a flag: off after an exclamation mark, otherwise on. -/
def switch? (piece : String) : Option (Flag × Bool) :=
  match piece.toList with
  | '!' :: rest => (Flag.ofName? (String.ofList rest)).map fun f => (f, false)
  | _ => (Flag.ofName? piece).map fun f => (f, true)

/-- The directive that a word and the text after it stand for. -/
def Directive.ofWord (word rest : String) : Directive :=
  let (first, second) := nameAndRest rest
  match word with
  | "module" => .declare ⟨rest⟩
  | "option" => .options ((fields ' ' rest).filterMap switch?)
  | "import" => .bring ⟨rest⟩
  | "try-import" => .tryBring ⟨rest⟩
  | "def" =>
    let (name, type) := nameAndType rest
    .define name type
  | "private" => .hidden rest
  | "partial" => .incomplete rest
  | "builtin" => .builtin first second
  | "sig" => .signature first second
  | "pattern" => .pattern first second
  | "user-warning" => .userWarning first second
  | "display" => .display first second
  | "warning" => .warn rest
  | "import-warning" => .importWarning rest
  | "error" => .reject rest
  | "touch-self" => .touchSelf
  | "touch-until" => .touchUntil (count rest)
  | "touch" => .touch ⟨rest⟩
  | "delete" => .delete ⟨rest⟩
  | "show" => .report
  | word => .unknown word

/-- The directive on a line, if there is one. -/
def Directive.ofLine? (line : String) : Option Directive :=
  let line := trim line
  if line.isEmpty || ['-', '-'].isPrefixOf line.toList then none
  else
    let (word, rest) := cutOnce ' ' line
    some (Directive.ofWord word (trim (rest.getD "")))

/-- **The directives of a script**, in order. -/
def directives (text : String) : List Directive := (fields '\n' text).filterMap Directive.ofLine?

/-! ## Touching -/

/-- The line that touching a file adds to it. -/
def touchMark : String := "-- touched\n"

/-- How many times a list of characters holds another one, without overlaps. -/
def occurrences (part : List Char) : List Char → Nat
  | [] => 0
  | c :: rest =>
    if part.isPrefixOf (c :: rest) then 1 + occurrences part (rest.drop (part.length - 1))
    else occurrences part rest
termination_by text => text.length
decreasing_by
  · rw [List.length_drop, List.length_cons]
    omega
  · exact Nat.lt_succ_self _

/-- How many times a script has been touched. -/
def touches (text : String) : Nat := occurrences touchMark.toList text.toList

end Script

end ModuleLoader
