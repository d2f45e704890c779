import ModuleLoader.Toml.Basic

/-!
# Texts and keys

A text is written in one of four ways: between double quotes, with escapes, or between single
quotes, without; each on one line, or between triple quotes on several. In a text of several lines
a line end directly after the opening quotes does not count, each line end counts as one line feed,
and up to two quotes may stand directly before the closing ones.

A key is a text on one line or a run of letters, digits, dashes and underscores; a dotted key is
several keys with dots between them.
-/

namespace ModuleLoader

namespace Toml

/-- The value of a hexadecimal digit of either case. -/
def digitValue (c : Char) : Nat :=
  if isDigit c then c.toNat - 48 else if 'a' ≤ c then c.toNat - 87 else c.toNat - 55

/-- The value of a run of digits in a base up to sixteen. -/
def digitsValue (base : Nat) (digits : List Char) : Nat :=
  digits.foldl (fun n c => base * n + digitValue c) 0

/-- A hexadecimal digit. -/
def isHexDigit (c : Char) : Bool := isDigit c || ('a' ≤ c && c ≤ 'f') || ('A' ≤ c && c ≤ 'F')

/-- A character given by the digits of its code point. -/
def codePoint (digits : Nat) : Parser Char := do
  let n := digitsValue 16 (← takeExactly isHexDigit digits)
  if n.isValidChar then return Char.ofNat n else fail

/-- The character that an escape stands for; the backslash has been read. -/
def escape : Parser Char := do
  match ← next with
  | 'b' => return '\x08'
  | 't' => return '\t'
  | 'n' => return '\n'
  | 'f' => return '\x0c'
  | 'r' => return '\r'
  | '"' => return '"'
  | '\\' => return '\\'
  | 'u' => codePoint 4
  | 'U' => codePoint 8
  | _ => fail

/-- The text whose characters are given last first. -/
def ofReversed (chars : List Char) : String := String.ofList chars.reverse

/-- A text between double quotes on one line. -/
def quoted : Parser String := do
  char '"'
  let chars ← repeatUntil [] fun acc => do
    let c ← next
    if c = '"' then return (acc, true)
    else if c = '\\' then return ((← escape) :: acc, false)
    else if isPlain c then return (c :: acc, false)
    else fail
  return ofReversed chars

/-- A text between single quotes on one line. -/
def verbatim : Parser String := do
  char '\''
  let chars ← takeWhile fun c => isPlain c && c ≠ '\''
  char '\''
  return String.ofList chars

/-- A run of quotes inside or at the end of a text of several lines. Fewer than three belong to the
text. Three close it, and up to two before them still belong to it. -/
def quoteRun (quote : Char) (acc : List Char) : Parser (List Char × Bool) := do
  let run := ((← peek).takeWhile (· == quote)).length
  if run < 3 then
    discard (takeExactly (· == quote) run)
    return (List.replicate run quote ++ acc, false)
  else
    let kept := min (run - 3) 2
    discard (takeExactly (· == quote) (kept + 3))
    return (List.replicate kept quote ++ acc, true)

/-- Characters without the blanks and line ends in front of them. -/
def dropFiller : List Char → List Char
  | '\n' :: rest => dropFiller rest
  | '\r' :: '\n' :: rest => dropFiller rest
  | c :: rest => if isBlank c then dropFiller rest else c :: rest
  | [] => []

/-- The rest of a line continuation; the backslash has been read. All blanks and line ends up to
the next other character are skipped, if there is a line end before it. -/
def continuation? : Parser Bool := fun cs =>
  match newline? (cs.dropWhile isBlank) with
  | some (true, rest) => some (true, dropFiller rest)
  | _ => some (false, cs)

/-- A text between triple double quotes. -/
def quotedLines : Parser String := do
  literal "\"\"\""
  discard newline?
  let chars ← repeatUntil [] fun acc => do
    if ← newline? then return ('\n' :: acc, false)
    if ← startsWith "\"" then quoteRun '"' acc
    else
      let c ← next
      if c = '\\' then
        if ← continuation? then return (acc, false) else return ((← escape) :: acc, false)
      else if isPlain c then return (c :: acc, false)
      else fail
  return ofReversed chars

/-- A text between triple single quotes. -/
def verbatimLines : Parser String := do
  literal "'''"
  discard newline?
  let chars ← repeatUntil [] fun acc => do
    if ← newline? then return ('\n' :: acc, false)
    if ← startsWith "'" then quoteRun '\'' acc
    else
      let c ← next
      if isPlain c then return (c :: acc, false) else fail
  return ofReversed chars

/-- A text in any of the four ways. -/
def text : Parser String := do
  if ← startsWith "\"\"\"" then quotedLines
  else if ← startsWith "\"" then quoted
  else if ← startsWith "'''" then verbatimLines
  else verbatim

/-! ## Keys -/

/-- One key. -/
def simpleKey : Parser String := do
  if ← startsWith "\"" then quoted
  else if ← startsWith "'" then verbatim
  else
    let chars ← takeWhile isBareKey
    if chars.isEmpty then fail else return String.ofList chars

/-- How deep values and dotted keys may go: no dotted key has this many parts, and no value is
nested this many times. -/
def depthLimit : Nat := 80

/-- A dotted key: its parts before the last one, and the last one. -/
def key : Parser (List String × String) := do
  let parts ← repeatUntil [] fun acc => do
    blanks
    let part ← simpleKey
    blanks
    if ← startsWith "." then
      char '.'
      return (part :: acc, false)
    else return (part :: acc, true)
  match parts with
  | last :: before => if parts.length < depthLimit then return (before.reverse, last) else fail
  | [] => fail

end Toml

end ModuleLoader
