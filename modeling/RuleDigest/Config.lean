import RuleDigest.Config.Misfit
import RuleDigest.Layout
import RuleDigest.Toml.Document
import RuleDigest.Workspace.Resolve

/-!
The configuration of a project: its rules directory and the value recorded for
rules that lack a statistic.

A configuration file is a TOML document with at most these two keys, both
strings.  A document that is not well-formed is refused as such; of one that is,
the smallest key that does not fit is reported.
-/

namespace RuleDigest

/-- The configuration of a project. -/
structure Config where
  rulesDir : Bytes
  missingValue : Text
  deriving DecidableEq, Repr

/-- Why a document is no configuration. -/
inductive ConfigFault where
  | malformed
  | misfit (misfit : Misfit)
  deriving Repr

/-- Why no configuration could be loaded. -/
inductive ConfigError where
  | unreadable (path : Bytes) (fault : ReadFault)
  | invalid (path : Bytes) (fault : ConfigFault)
  deriving Repr

namespace Config

/-- The configuration of a project without a configuration file. -/
def default : Config :=
  ⟨Layout.rulesDir, Layout.missingValue⟩

/-- The same configuration, where a path may be spelled in several ways. -/
def Equivalent (first second : Config) : Prop :=
  Path.Equivalent first.rulesDir second.rulesDir ∧ first.missingValue = second.missingValue

instance (first second : Config) : Decidable (Equivalent first second) :=
  inferInstanceAs (Decidable (_ ∧ _))

/-- Replace the rules directory, if another is given. -/
def withRulesDir (config : Config) (override? : Option Bytes) : Config :=
  match override? with
  | some rulesDir => { config with rulesDir }
  | none => config

/-- The misfit of the entry whose key comes first by its bytes, among those that
do not fit. -/
def leastMisfit? : Toml.Entries → Option (Text × Misfit)
  | [] => none
  | entry :: rest =>
      match Misfit.ofEntry? entry, leastMisfit? rest with
      | none, least? => least?
      | some misfit, none => some (entry.1, misfit)
      | some misfit, some least =>
          if Utf8.encode least.1 < Utf8.encode entry.1 then some least
          else some (entry.1, misfit)

def string? (entries : Toml.Entries) (field : ConfigField) : Option Text :=
  match entries.lookup field.key with
  | some (.string text) => some text
  | _ => none

/-- The configuration in a table, with defaults for what it leaves out. -/
def ofEntries (entries : Toml.Entries) : Except Misfit Config :=
  match leastMisfit? entries with
  | some (_, misfit) => .error misfit
  | none =>
      .ok
        { rulesDir := ((string? entries .rulesDir).map Utf8.encode).getD default.rulesDir
          missingValue := (string? entries .missingValue).getD default.missingValue }

def parse (document : Text) : Except ConfigFault Config :=
  match Toml.read? document with
  | none => .error .malformed
  | some entries => (ofEntries entries).mapError .misfit

/-- The configuration of a directory, read from its configuration file or, where
that does not exist, the default. -/
def load (workspace : Workspace) (directory : Bytes) : Except ConfigError Config :=
  let path := Layout.configFile directory
  if workspace.resolves path then
    match workspace.readText path with
    | .error fault => .error (.unreadable path fault)
    | .ok document => (parse document).mapError (.invalid path)
  else .ok default

/-- The configuration as a JSON object.  A path that is not UTF-8 has no place in
one. -/
def toJson? (config : Config) : Option Json :=
  (Utf8.decode? config.rulesDir).map fun rulesDir =>
    .object
      [(ConfigField.rulesDir.key, .string rulesDir),
        (ConfigField.missingValue.key, .string config.missingValue)]

/-- Why a configuration has no JSON form. -/
def notUtf8Message : Text :=
  "path contains invalid UTF-8 characters".toList

end Config

end RuleDigest
