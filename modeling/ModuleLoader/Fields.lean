/-!
# Text cut at a separator

Module names are fields between dots and paths are fields between slashes. A text always has at
least one field: without a separator the text is its only field, and a separator at either end, or
two in a row, bound an empty one.
-/

namespace ModuleLoader

/-- The field that a list of characters begins with, and the fields after it. -/
def splitFields (separator : Char) : List Char → List Char × List (List Char)
  | [] => ([], [])
  | c :: rest =>
    let (field, others) := splitFields separator rest
    if c = separator then ([], field :: others) else (c :: field, others)

/-- The fields of a text between occurrences of a separator. -/
def fields (separator : Char) (text : String) : List String :=
  let (field, others) := splitFields separator text.toList
  (field :: others).map String.ofList

/-- A text has at least one field. -/
theorem fields_ne_nil (separator : Char) (text : String) : fields separator text ≠ [] := by
  simp [fields]

/-- The text before the first occurrence of a separator, and the text after it if there is one. -/
def cutOnce (separator : Char) (text : String) : String × Option String :=
  let chars := text.toList
  match chars.dropWhile (· ≠ separator) with
  | [] => (text, none)
  | _ :: after => (String.ofList (chars.takeWhile (· ≠ separator)), some (String.ofList after))

end ModuleLoader
