import RuleDigest.Proofs.Toml.Assignments
import RuleDigest.Proofs.Toml.Quoting

/-!
# Configurations that are written and read back

A document with a line for each field that is set is read as the configuration that
these settings describe, in whichever order they stand and whichever fields are left out.
-/

namespace RuleDigest

namespace Toml

theorem value?_string {text body : Text} (writes : Quoted.Writes text body) (depth : Nat)
    (rest : Text) :
    value? depth ('"' :: (body ++ '"' :: '\n' :: rest)) = some (.string text, '\n' :: rest) := by
  -- Three quotes would begin a block, and only a text without characters has two.
  have noBlock : ∀ more, body ++ '"' :: '\n' :: rest ≠ '"' :: '"' :: more := by
    intro more same
    cases writes with
    | nil => cases same
    | escaped _ escapes _ => cases escapes <;> cases same
    | plain needsNone _ =>
        rw [List.cons_append, List.cons.injEq] at same
        exact needsNone (.inl same.1)
  rw [value?_line (.inl rfl) noBlock, writes.readLine? ('\n' :: rest)]
  rfl

end Toml

theorem ConfigField.key_injective {first second : ConfigField} (same : first.key = second.key) :
    first = second := by
  cases first with
  | rulesDir =>
      cases second with
      | rulesDir => rfl
      | missingValue => exact absurd same (by decide)
  | missingValue =>
      cases second with
      | rulesDir => exact absurd same (by decide)
      | missingValue => rfl

namespace Config

open Toml (Statement)

/-- A document with a line for each of the settings, in their order. -/
inductive IsDocument : List (ConfigField × Text) → Text → Prop where
  | nil : IsDocument [] []
  | cons {field : ConfigField} {text body document : Text}
      {settings : List (ConfigField × Text)} :
      Toml.Quoted.Writes text body → IsDocument settings document →
      IsDocument ((field, text) :: settings)
        (field.key ++ " = \"".toList ++ body ++ "\"\n".toList ++ document)

def assignment (setting : ConfigField × Text) : Statement :=
  .assign [setting.1.key] (.string setting.2)

def entry (setting : ConfigField × Text) : Text × Toml.Value :=
  (setting.1.key, .string setting.2)

section Lines

variable {text body : Text}

theorem line_eq (field : ConfigField) (body rest : Text) :
    field.key ++ " = \"".toList ++ body ++ "\"\n".toList ++ rest =
      field.key ++ " = ".toList ++ '"' :: (body ++ '"' :: '\n' :: rest) := by
  simp only [List.append_assoc]
  rfl

theorem statement?_line (writes : Toml.Quoted.Writes text body) (field : ConfigField)
    (rest : Text) :
    Toml.statement? (field.key ++ " = \"".toList ++ body ++ "\"\n".toList ++ rest) =
      some (some (assignment (field, text)), rest) := by
  have value := Toml.value?_string writes Toml.depthLimit rest
  have opened (value : Text) : Toml.statement? (field.key ++ " = ".toList ++ '"' :: value) =
      Toml.statement?.finish (Toml.value? Toml.depthLimit ('"' :: value))
        (.assign [field.key]) := by
    cases field with
    | rulesDir => rfl
    | missingValue => rfl
  rw [line_eq, opened, value]
  rfl

theorem statements?_line (writes : Toml.Quoted.Writes text body) (field : ConfigField)
    (rest : Text) :
    Toml.statements? (field.key ++ " = \"".toList ++ body ++ "\"\n".toList ++ rest) =
      (Toml.statements? rest).map (assignment (field, text) :: ·) := by
  apply Toml.statements?_of_statement (statement?_line writes field rest)
  simp
  omega

end Lines

section Settings

variable {settings : List (ConfigField × Text)}

theorem IsDocument.statements? {document : Text} (written : IsDocument settings document) :
    Toml.statements? document = some (settings.map assignment) := by
  induction written with
  | nil =>
      rw [Toml.statements?.eq_def]
      rfl
  | cons writes _ inductionHypothesis =>
      rw [statements?_line writes, inductionHypothesis]
      rfl

theorem lookup_map_entry (settings : List (ConfigField × Text)) (field : ConfigField) :
    (settings.map entry).lookup field.key = (settings.lookup field).map Toml.Value.string := by
  induction settings with
  | nil => rfl
  | cons setting rest inductionHypothesis =>
      rw [List.map_cons, entry, lookup_cons_ite, lookup_cons_ite, inductionHypothesis]
      by_cases same : field = setting.1
      · rw [if_pos same, if_pos (congrArg _ same)]
        rfl
      · rw [if_neg same, if_neg (mt ConfigField.key_injective same)]

theorem distinct_map_entry (distinct : (settings.map Prod.fst).Nodup) :
    Toml.Entries.Distinct (settings.map entry) := by
  have names : (settings.map entry).map Prod.fst =
      (settings.map Prod.fst).map ConfigField.key := by
    rw [List.map_map, List.map_map]
    rfl
  unfold Toml.Entries.Distinct
  rw [names]
  exact distinct.map fun _ _ => ConfigField.key_injective

theorem read?_of_isDocument {document : Text} (written : IsDocument settings document)
    (distinct : (settings.map Prod.fst).Nodup) :
    Toml.read? document = some (settings.map entry) := by
  apply Toml.read?_of_assignments
  · rw [written.statements?, List.map_map]
    rfl
  · exact distinct_map_entry distinct

theorem leastMisfit?_map_entry (settings : List (ConfigField × Text)) :
    leastMisfit? (settings.map entry) = none := by
  induction settings with
  | nil => rfl
  | cons setting rest inductionHypothesis =>
      have fits : Misfit.ofEntry? (entry setting) = none := by
        obtain ⟨field, text⟩ := setting
        cases field with
        | rulesDir => rfl
        | missingValue => rfl
      rw [List.map_cons, leastMisfit?, fits, inductionHypothesis]

theorem string?_map_entry (settings : List (ConfigField × Text)) (field : ConfigField) :
    string? (settings.map entry) field = settings.lookup field := by
  rw [string?, lookup_map_entry]
  cases settings.lookup field with
  | none => rfl
  | some text => rfl

theorem parse_of_isDocument {document : Text} (written : IsDocument settings document)
    (distinct : (settings.map Prod.fst).Nodup) :
    parse document = .ok (ofSettings settings) := by
  rw [parse, read?_of_isDocument written distinct]
  simp only [ofEntries, leastMisfit?_map_entry, string?_map_entry]
  rfl

theorem isDocument_document (settings : List (ConfigField × Text)) :
    IsDocument settings (document settings) := by
  induction settings with
  | nil => exact .nil
  | cons setting rest inductionHypothesis =>
      have same : document (setting :: rest) =
          setting.1.key ++ " = \"".toList ++ setting.2.flatMap Toml.Quoted.escape ++
            "\"\n".toList ++ document rest := by
        rw [line_eq]
        simp [document, ConfigField.line, Toml.Quoted.write]
      rw [same]
      exact .cons (Toml.Quoted.writes_flatMap_escape setting.2) inductionHypothesis

/-- What is written of settings is read as the configuration that they describe. -/
theorem parse_document (distinct : (settings.map Prod.fst).Nodup) :
    parse (document settings) = .ok (ofSettings settings) :=
  parse_of_isDocument (isDocument_document settings) distinct

end Settings

/-- Whichever texts the two fields have, they can be written, and however that is done, the
lines are read as these fields, in either order and with the default for a line left out. -/
theorem parse_written (rulesDir missingValue : Text) :
    (∃ first second, Toml.Quoted.Writes rulesDir first ∧
        Toml.Quoted.Writes missingValue second) ∧
      ∀ first second, Toml.Quoted.Writes rulesDir first →
        Toml.Quoted.Writes missingValue second →
        let rulesDirLine := "rules_dir = \"".toList ++ first ++ "\"\n".toList
        let missingValueLine := "missing_value = \"".toList ++ second ++ "\"\n".toList
        parse (rulesDirLine ++ missingValueLine) = .ok ⟨Utf8.encode rulesDir, missingValue⟩ ∧
          parse (missingValueLine ++ rulesDirLine) =
            .ok ⟨Utf8.encode rulesDir, missingValue⟩ ∧
          parse rulesDirLine = .ok ⟨Utf8.encode rulesDir, "none".toList⟩ ∧
          parse missingValueLine = .ok ⟨Utf8.ofString "RuleSets", missingValue⟩ ∧
          parse [] = .ok ⟨Utf8.ofString "RuleSets", "none".toList⟩ := by
  refine ⟨⟨_, _, Toml.Quoted.writes_flatMap_escape _, Toml.Quoted.writes_flatMap_escape _⟩, ?_⟩
  intro first second firstWrites secondWrites rulesDirLine missingValueLine
  have withRulesDir {settings : List (ConfigField × Text)} {document : Text}
      (written : IsDocument settings document) :
      IsDocument ((.rulesDir, rulesDir) :: settings) (rulesDirLine ++ document) :=
    .cons firstWrites written
  have withMissingValue {settings : List (ConfigField × Text)} {document : Text}
      (written : IsDocument settings document) :
      IsDocument ((.missingValue, missingValue) :: settings) (missingValueLine ++ document) :=
    .cons secondWrites written
  have onlyRulesDir := withRulesDir .nil
  have onlyMissingValue := withMissingValue .nil
  rw [List.append_nil] at onlyRulesDir onlyMissingValue
  refine ⟨?_, ?_, ?_, ?_, ?_⟩
  · exact parse_of_isDocument (withRulesDir onlyMissingValue) (by simp)
  · exact parse_of_isDocument (withMissingValue onlyRulesDir) (by simp)
  · exact parse_of_isDocument onlyRulesDir (by simp)
  · exact parse_of_isDocument onlyMissingValue (by simp)
  · exact parse_of_isDocument .nil (by simp)

/-- A quote, a line end, what looks like a comment and a character without a name. -/
theorem parse_written_awkward :
    let body := "\\\"\\u000a#\\x7f".toList
    Toml.Quoted.Writes ['"', '\n', '#', '\x7F'] body ∧ Toml.Quoted.Writes [] [] ∧
      parse ("missing_value = \"\"\n".toList ++ ("rules_dir = \"".toList ++ body ++ "\"\n".toList)) =
        .ok ⟨Utf8.encode ['"', '\n', '#', '\x7F'], []⟩ := by
  intro body
  have quote : Toml.Quoted.Escapes '"' ['\\', '"'] := .letter rfl
  have lineFeed : Toml.Quoted.Escapes '\n' ['\\', 'u', '0', '0', '0', 'a'] :=
    @Toml.Quoted.Escapes.code '\n' 'u' ['0', '0', '0', 'a'] [0, 0, 0, 10] rfl rfl rfl
  have delete : Toml.Quoted.Escapes '\x7F' ['\\', 'x', '7', 'f'] :=
    @Toml.Quoted.Escapes.code '\x7F' 'x' ['7', 'f'] [7, 15] rfl rfl rfl
  have hash : ¬ Toml.Quoted.NeedsEscape '#' := by
    unfold Toml.Quoted.NeedsEscape
    decide
  have writes : Toml.Quoted.Writes ['"', '\n', '#', '\x7F'] body :=
    .escaped (.inl rfl) quote <| .escaped (.inr (.inr (.inl (by decide)))) lineFeed <|
      .plain hash <| .escaped (.inr (.inr (.inr rfl))) delete .nil
  exact ⟨writes, .nil, ((parse_written _ []).2 body [] writes .nil).2.1⟩

end Config

end RuleDigest
