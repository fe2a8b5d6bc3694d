import RuleDigest.CommandLine.Parser
import RuleDigest.Proofs.Text.Utf8

/-!
# The parts of a command line

A command line is a list of parts: positional arguments, rules directories and flags.
Cutting it into parts needs to know no more than whether the option before awaits its
value.  The options of a command line that is accepted describe exactly its parts.
-/

namespace RuleDigest.CommandLine

/-- A part of a command line. -/
inductive Part where
  | positional (value : Bytes)
  | rulesDir (value : Bytes)
  | flag (flag : Flag)
  /-- Nothing known, or an option without its value. -/
  | stray
  deriving DecidableEq, Repr

namespace Part

@[simp]
def positional? : Part → Option Bytes
  | positional value => some value
  | _ => none

@[simp]
def rulesDir? : Part → Option Bytes
  | rulesDir value => some value
  | _ => none

@[simp]
def flag? : Part → Option Flag
  | flag known => some known
  | _ => none

/-- The part that a short name stands for. -/
def ofShort (name? : Option Char) : Part :=
  match name?.bind Flag.ofShort? with
  | some known => flag known
  | none => stray

/-- The part that a long name other than that of the rules directory stands for. -/
def ofLong (name : Bytes) (value? : Option Bytes) : Part :=
  match Flag.ofLong? name, value? with
  | some known, none => flag known
  | _, _ => stray

end Part

def positionals (parts : List Part) : List Bytes :=
  parts.filterMap Part.positional?

def rulesDirs (parts : List Part) : List Bytes :=
  parts.filterMap Part.rulesDir?

def flags (parts : List Part) : List Flag :=
  parts.filterMap Part.flag?

/-- What is left of an option that awaited a value, when none comes. -/
def unserved (awaits : Bool) : List Part :=
  if awaits then [.stray] else []

/-- The parts of arguments, of which the first may be an awaited value. -/
def partsFrom (awaits : Bool) : List Bytes → List Part
  | [] => unserved awaits
  | argument :: rest =>
      match Word.ofBytes argument with
      | .escape => unserved awaits ++ rest.map .positional
      | .plain value =>
          (if awaits then .rulesDir value else .positional value) :: partsFrom false rest
      | .short names => unserved awaits ++ names.map Part.ofShort ++ partsFrom false rest
      | .long name value? =>
          unserved awaits ++
            if name = Utf8.ofString "rules-dir" then
              match value? with
              | some value => .rulesDir value :: partsFrom false rest
              | none => partsFrom true rest
            else Part.ofLong name value? :: partsFrom false rest

/-- The parts of a command line. -/
def parts (arguments : List Bytes) : List Part :=
  partsFrom false arguments

/-- The flags that are on. -/
def switches (header verbose json : Bool) : List Flag :=
  (if header then [.header] else []) ++ (if verbose then [.verbose] else []) ++
    if json then [.json] else []

def Options.flags (options : Options) : List Flag :=
  switches options.header options.verbose options.json

/-- Options say what the parts of a command line do, and these are all in order. -/
structure Describes (options : Options) (parts : List Part) : Prop where
  known : .stray ∉ parts
  statistic : options.statistic?.map Utf8.encode = (positionals parts)[0]?
  resultsDir : options.resultsDir? = (positionals parts)[1]?
  extra : options.extra.map Utf8.encode = (positionals parts).drop 2
  rulesDir : options.rulesDir?.toList = rulesDirs parts
  given : ∀ value ∈ options.resultsDir?.toList ++ options.rulesDir?.toList, value ≠ []
  flags : options.flags.Perm (flags parts)

section Lists

variable (first second : List Part)

@[simp]
theorem positionals_append :
    positionals (first ++ second) = positionals first ++ positionals second :=
  List.filterMap_append

@[simp]
theorem rulesDirs_append : rulesDirs (first ++ second) = rulesDirs first ++ rulesDirs second :=
  List.filterMap_append

@[simp]
theorem flags_append : flags (first ++ second) = flags first ++ flags second :=
  List.filterMap_append

@[simp]
theorem positionals_singleton (part : Part) : positionals [part] = part.positional?.toList := by
  cases part <;> rfl

@[simp]
theorem rulesDirs_singleton (part : Part) : rulesDirs [part] = part.rulesDir?.toList := by
  cases part <;> rfl

@[simp]
theorem flags_singleton (part : Part) : flags [part] = part.flag?.toList := by
  cases part <;> rfl

@[simp]
theorem positionals_map_positional (values : List Bytes) :
    positionals (values.map .positional) = values := by
  simp [positionals, List.filterMap_map, Function.comp_def, Part.positional?]

@[simp]
theorem rulesDirs_map_positional (values : List Bytes) :
    rulesDirs (values.map .positional) = [] := by
  simp [rulesDirs, List.filterMap_map, Function.comp_def, Part.rulesDir?]

@[simp]
theorem flags_map_positional (values : List Bytes) : flags (values.map .positional) = [] := by
  simp [flags, List.filterMap_map, Function.comp_def, Part.flag?]

end Lists

end RuleDigest.CommandLine
