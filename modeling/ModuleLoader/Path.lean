import ModuleLoader.Fields

/-!
# File paths

A path is a text and is shown as it was written. Two spellings can name one place, so besides
equality of texts there is equality of *components*: repeated slashes, trailing slashes and `.`
components do not count, except that a leading `.` does. Nothing is resolved: `..` stays a
component of its own.

Joining a path onto another puts a slash between the two texts where one is needed, and an
absolute path replaces whatever it is joined onto.
-/

namespace ModuleLoader

/-- **A path**, as written. -/
structure Path where
  /-- The text of the path. -/
  text : String
  deriving DecidableEq, Hashable, Repr

namespace Path

instance : ToString Path := ⟨text⟩

instance : Inhabited Path := ⟨⟨""⟩⟩

/-- What a path is made of. -/
inductive Component where
  /-- The slash that an absolute path begins with. -/
  | root
  /-- A `.` at the very beginning. -/
  | here
  /-- A `..`. -/
  | up
  /-- Any other name. -/
  | name (text : String)
  deriving DecidableEq, Repr

/-- Whether a path begins with a slash. -/
def isAbsolute (p : Path) : Bool := p.text.toList.head? == some '/'

/-- A second path taken relative to the first. -/
def join (p q : Path) : Path :=
  if q.isAbsolute then q
  else if p.text.isEmpty || p.text.toList.getLast? == some '/' then ⟨p.text ++ q.text⟩
  else ⟨p.text ++ "/" ++ q.text⟩

/-- The texts between slashes, empty ones and dots included. -/
def segments (p : Path) : List String := fields '/' p.text

/-- The component that a segment after the first stands for, if it counts at all. -/
def component? : String → Option Component
  | "" => none
  | "." => none
  | ".." => some .up
  | name => some (.name name)

/-- The components of a path. -/
def components (p : Path) : List Component :=
  match p.segments with
  | "" :: rest =>
    if p.isAbsolute then .root :: rest.filterMap component? else rest.filterMap component?
  | "." :: rest => .here :: rest.filterMap component?
  | segments => segments.filterMap component?

/-- **Two spellings of one path**: the components are the same. -/
def Same (p q : Path) : Prop := p.components = q.components

instance : DecidableRel Same := fun p q => inferInstanceAs (Decidable (p.components = q.components))

/-- Segments without the empty ones and the dots at their end. -/
def dropTrailing (segments : List String) : List String :=
  (segments.reverse.dropWhile fun s => s == "" || s == ".").reverse

/-- The part of a path that is never cut off – the slash of an absolute path or a leading dot –
and the segments after it. -/
def anchor (p : Path) : String × List String :=
  match p.segments with
  | "" :: rest => if p.isAbsolute then ("/", rest) else ("", "" :: rest)
  | "." :: rest => (".", rest)
  | segments => ("", segments)

/-- The path made of an anchor and the segments after it. -/
def ofAnchor (anchor : String) (segments : List String) : Path :=
  let body := String.intercalate "/" segments
  if anchor == "." && !segments.isEmpty then ⟨"./" ++ body⟩ else ⟨anchor ++ body⟩

/-- The path without its last component; a path without components, and the root, have none. -/
def parent? (p : Path) : Option Path :=
  let (start, rest) := p.anchor
  match dropTrailing rest with
  | [] => if start == "." then some ⟨""⟩ else none
  | kept => some (ofAnchor start (dropTrailing kept.dropLast))

/-- A path and those above it, going up at most a number of steps. -/
def lineage : (steps : Nat) → Path → List Path
  | 0, p => [p]
  | steps + 1, p =>
    match p.parent? with
    | some above => p :: lineage steps above
    | none => [p]

/-- A path and all paths above it, innermost first. -/
def ancestors (p : Path) : List Path := lineage p.segments.length p

/-- Whether a path ends in a slash, and so asks for a directory. -/
def endsInSlash (p : Path) : Bool := p.text.toList.getLast? == some '/'

/-- The path without the slashes at its end. -/
def dropSlashes (p : Path) : Path :=
  ⟨String.ofList (p.text.toList.reverse.dropWhile (· == '/')).reverse⟩

/-- The path with an extension put on the name it ends with. What follows that name is dropped;
a path that does not end with a name is left alone. The name is not searched for dots. -/
def withExtension (p : Path) (extension : String) : Path :=
  match p.components.getLast? with
  | some (.name _) =>
    let (start, rest) := p.anchor
    let bare := ofAnchor start (dropTrailing rest)
    if extension.isEmpty then bare else ⟨bare.text ++ "." ++ extension⟩
  | _ => p

end Path

end ModuleLoader
