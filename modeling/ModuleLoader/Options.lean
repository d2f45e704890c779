import ModuleLoader.Digest

/-!
# Checking options

A module is checked under a set of flags: the base flags of the session, changed by the module's
own pragmas. Two families of flags constrain imports. A *coinfective* flag that an importer
enables must be enabled in everything it imports; an *infective* flag that an import enables must
be enabled in everything importing it. One flag belongs to neither family.

The set is a function on flags. It is written down, hashed and shown by going through the flags
in one fixed order, `Flag.all`.
-/

namespace ModuleLoader

/-- A flag that changes how a module is checked. -/
inductive Flag where
  | safe
  | withoutK
  | cubicalCompatible
  | noUniversePolymorphism
  | noSizedTypes
  | noGuardedness
  | prop
  | twoLevel
  | cumulativity
  | rewriting
  | cubical
  | guarded
  | flatSplit
  | allowUnsolvedMetas
  deriving DecidableEq, Repr

namespace Flag

/-- Every flag, in the order in which sets of flags are written down. -/
def all : List Flag :=
  [safe, withoutK, cubicalCompatible, noUniversePolymorphism, noSizedTypes, noGuardedness, prop,
    twoLevel, cumulativity, rewriting, cubical, guarded, flatSplit, allowUnsolvedMetas]

/-- No flag is missing from the order. -/
theorem mem_all (f : Flag) : f ∈ all := by cases f <;> decide

/-- The flags that an importer imposes on what it imports. -/
def coinfective : List Flag :=
  [safe, withoutK, cubicalCompatible, noUniversePolymorphism, noSizedTypes, noGuardedness]

/-- The flags that an imported module imposes on its importers. -/
def infective : List Flag :=
  [prop, twoLevel, cumulativity, rewriting, cubical, guarded, flatSplit]

/-- The spelling of a flag, without dashes in front. -/
def name : Flag → String
  | safe => "safe"
  | withoutK => "without-K"
  | cubicalCompatible => "cubical-compatible"
  | noUniversePolymorphism => "no-universe-polymorphism"
  | noSizedTypes => "no-sized-types"
  | noGuardedness => "no-guardedness"
  | prop => "prop"
  | twoLevel => "two-level"
  | cumulativity => "cumulativity"
  | rewriting => "rewriting"
  | cubical => "cubical"
  | guarded => "guarded"
  | flatSplit => "flat-split"
  | allowUnsolvedMetas => "allow-unsolved-metas"

/-- A text without the pairs of dashes in front of it. -/
def dropDashes : List Char → List Char
  | '-' :: '-' :: rest => dropDashes rest
  | text => text

/-- The flag with a given spelling; any number of pairs of dashes may stand in front. -/
def ofName? (text : String) : Option Flag :=
  let bare := String.ofList (dropDashes text.toList)
  all.find? fun f => f.name == bare

/-- Whether an importer imposes the flag on what it imports. -/
def isCoinfective (f : Flag) : Bool := coinfective.contains f

/-- Whether an imported module imposes the flag on its importers. -/
def isInfective (f : Flag) : Bool := infective.contains f

/-- A flag is shown as it is written on a command line. -/
instance : ToString Flag := ⟨fun f => "--" ++ f.name⟩

end Flag

/-- **The flags a module is checked with.** -/
structure Options where
  /-- Whether a flag is enabled. -/
  get : Flag → Bool

namespace Options

/-- No flag enabled. -/
def none : Options := ⟨fun _ => false⟩

instance : Inhabited Options := ⟨none⟩

@[ext] theorem ext {o p : Options} (h : ∀ f, o.get f = p.get f) : o = p := by
  cases o; cases p; simp only [mk.injEq]; exact funext h

/-- Two sets of flags are equal when they agree on the list of all flags. -/
theorem eq_iff_forall_mem_all {o p : Options} : o = p ↔ ∀ f ∈ Flag.all, o.get f = p.get f :=
  ⟨fun h _ _ => h ▸ rfl, fun h => ext fun f => h f (Flag.mem_all f)⟩

instance : DecidableEq Options := fun _ _ => decidable_of_iff _ eq_iff_forall_mem_all.symm

/-- The options with one flag switched. -/
def set (o : Options) (flag : Flag) (value : Bool) : Options :=
  ⟨fun f => if f = flag then value else o.get f⟩

@[simp] theorem get_set (o : Options) (flag f : Flag) (value : Bool) :
    (o.set flag value).get f = if f = flag then value else o.get f := rfl

/-- The options that enable the flags of a list. -/
def ofFlags (flags : List Flag) : Options := ⟨fun f => flags.contains f⟩

/-- The enabled flags in order. -/
def enabled (o : Options) : List Flag := Flag.all.filter o.get

/-- One truth value per flag, in order. -/
def toBools (o : Options) : List Bool := Flag.all.map o.get

/-- The options with the given truth values; flags beyond the end of the list are off. -/
def ofBools (bools : List Bool) : Options :=
  ⟨fun f => ((Flag.all.zip bools).lookup f).getD false⟩

@[simp] theorem ofBools_toBools (o : Options) : ofBools o.toBools = o := by
  ext f
  cases f <;> rfl

/-- The digest under which options are compared between sessions. -/
def fingerprint (o : Options) : Digest :=
  Digest.ofBytes (o.toBools.map fun b => if b then 1 else 0)

end Options

end ModuleLoader
