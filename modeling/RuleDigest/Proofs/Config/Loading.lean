import RuleDigest.Proofs.Config.Writing
import RuleDigest.Proofs.Toml.Table
import RuleDigest.Proofs.Workspace.Text

/-!
# Loading a configuration

A configuration file either sets some fields or is spoiled, and never both, unless it is a
pipe and is waited for.  What it sets is a matter of its entries, in whichever order they
stand, and a file that is not there sets nothing.
-/

namespace RuleDigest

section Entries

variable {name : Text} {value : Toml.Value}

theorem ConfigField.ofKey?_eq_some_iff {field : ConfigField} :
    ofKey? name = some field ↔ name = field.key := by
  have distinct : missingValue.key ≠ rulesDir.key := by decide
  unfold ofKey?
  constructor
  · intro found
    split at found
    next isRulesDir =>
      cases found
      exact isRulesDir
    · split at found
      next isMissingValue =>
        cases found
        exact isMissingValue
      · cases found
  · rintro rfl
    cases field with
    | rulesDir => exact if_pos rfl
    | missingValue => rw [if_neg distinct, if_pos rfl]

theorem Misfit.ofEntry?_eq_none_iff :
    ofEntry? (name, value) = none ↔
      ∃ (field : ConfigField) (text : Text), name = field.key ∧ value = .string text := by
  unfold ofEntry?
  constructor
  · intro fits
    cases known : ConfigField.ofKey? name with
    | none =>
        rw [known] at fits
        cases fits
    | some field =>
        rw [known] at fits
        cases value with
        | string text => exact ⟨field, text, ConfigField.ofKey?_eq_some_iff.1 known, rfl⟩
        | _ =>
            dsimp only at fits
            split at fits
            · cases fits
            · cases fits
            · cases fits
  · rintro ⟨field, text, named, rfl⟩
    rw [ConfigField.ofKey?_eq_some_iff.2 named]

end Entries

namespace Config

theorem leastMisfit?_eq_none_iff {entries : Toml.Entries} :
    leastMisfit? entries = none ↔ ∀ entry ∈ entries, Misfit.ofEntry? entry = none := by
  induction entries with
  | nil => simp [leastMisfit?]
  | cons entry rest inductionHypothesis =>
      rw [List.forall_mem_cons, ← inductionHypothesis, leastMisfit?]
      cases Misfit.ofEntry? entry with
      | none => simp
      | some misfit =>
          cases leastMisfit? rest with
          | none => simp
          | some least =>
              dsimp only
              split
              · simp
              · simp

/-! ## What a file sets -/

/-- The entries set some fields to texts, and nothing else. -/
def Sets (entries : Toml.Entries) (settings : ConfigField → Option Text) : Prop :=
  ∀ name value, (name, value) ∈ entries ↔
    ∃ field text, settings field = some text ∧ name = field.key ∧ value = .string text

/-- The configuration file at a path, if there is one, sets these fields. -/
inductive Configures (workspace : Workspace) (path : Bytes) : (ConfigField → Option Text) → Prop where
  | absent : workspace.resolves path = false → Configures workspace path fun _ => none
  | entries {document : Text} {entries : Toml.Entries} {settings : ConfigField → Option Text} :
      workspace.HoldsText path document → Toml.read? document = some entries →
      Sets entries settings → Configures workspace path settings

/-- Something stands at the path of a configuration file, but no configuration. -/
inductive Spoiled (workspace : Workspace) (path : Bytes) : Prop where
  | unreadable {cause : IoError} :
      workspace.resolves path = true → workspace.read path = .error (.refused cause) →
      Spoiled workspace path
  | illFormed {content : Bytes} :
      workspace.read path = .ok content → (∀ text, content ≠ Utf8.encode text) →
      Spoiled workspace path
  | malformed {document : Text} :
      workspace.HoldsText path document → Toml.read? document = none → Spoiled workspace path
  | unknownKey {document name : Text} {entries : Toml.Entries} {value : Toml.Value} :
      workspace.HoldsText path document → Toml.read? document = some entries →
      (name, value) ∈ entries → (∀ field : ConfigField, name ≠ field.key) →
      Spoiled workspace path
  | noText {document : Text} {entries : Toml.Entries} {field : ConfigField}
      {value : Toml.Value} :
      workspace.HoldsText path document → Toml.read? document = some entries →
      (field.key, value) ∈ entries → (∀ text, value ≠ .string text) → Spoiled workspace path

/-- The configuration with some fields set and defaults for the others. -/
def ofTexts (settings : ConfigField → Option Text) : Config :=
  { rulesDir := ((settings .rulesDir).map Utf8.encode).getD default.rulesDir
    missingValue := (settings .missingValue).getD default.missingValue }

section Entries

variable {entries : Toml.Entries} {settings : ConfigField → Option Text}

theorem Sets.eq_some_iff (sets : Sets entries settings) {field : ConfigField} {text : Text} :
    settings field = some text ↔ (field.key, .string text) ∈ entries := by
  rw [sets]
  constructor
  · intro set
    exact ⟨field, text, set, rfl, rfl⟩
  · rintro ⟨other, otherText, set, sameKey, sameText⟩
    obtain rfl := ConfigField.key_injective sameKey
    cases sameText
    exact set

theorem Sets.leastMisfit? (sets : Sets entries settings) : leastMisfit? entries = none := by
  rw [leastMisfit?_eq_none_iff]
  rintro ⟨name, value⟩ membership
  obtain ⟨field, text, _, named, isText⟩ := (sets name value).1 membership
  exact Misfit.ofEntry?_eq_none_iff.2 ⟨field, text, named, isText⟩

theorem string?_eq_some_iff (distinct : entries.Distinct) {field : ConfigField} {text : Text} :
    string? entries field = some text ↔ (field.key, .string text) ∈ entries := by
  rw [← lookup_eq_some_iff_mem distinct, string?]
  constructor
  · intro found
    split at found
    next other isText =>
      cases found
      exact isText
    · cases found
  · intro found
    rw [found]

theorem sets_string? (distinct : entries.Distinct) (fits : Config.leastMisfit? entries = none) :
    Sets entries (string? entries) := by
  intro name value
  constructor
  · intro membership
    have entryFits := leastMisfit?_eq_none_iff.1 fits _ membership
    obtain ⟨field, text, rfl, rfl⟩ := Misfit.ofEntry?_eq_none_iff.1 entryFits
    exact ⟨field, text, (string?_eq_some_iff distinct).2 membership, rfl, rfl⟩
  · rintro ⟨field, text, set, rfl, rfl⟩
    exact (string?_eq_some_iff distinct).1 set

theorem Sets.parse {document : Text} (sets : Sets entries settings)
    (read : Toml.read? document = some entries) :
    Config.parse document = .ok (ofTexts settings) := by
  have same : string? entries = settings := by
    funext field
    apply Option.ext
    intro text
    rw [string?_eq_some_iff (Toml.distinct_of_read? read), sets.eq_some_iff]
  rw [Config.parse, read]
  simp only [ofEntries, sets.leastMisfit?, same]
  rfl

end Entries

section Files

variable {workspace : Workspace} {path directory : Bytes}
  {settings : ConfigField → Option Text}

theorem load_of_holdsText {document : Text}
    (holds : workspace.HoldsText (Layout.configFile directory) document) :
    load workspace directory =
      (parse document).mapError (.invalid (Layout.configFile directory)) := by
  rw [load, if_pos (Workspace.resolves_of_read holds), holds.readText_eq]

theorem load_of_lacksText {fault : ReadFault}
    (resolves : workspace.resolves (Layout.configFile directory) = true)
    (lacks : workspace.LacksText (Layout.configFile directory) fault) :
    load workspace directory = .error (.unreadable (Layout.configFile directory) fault) := by
  rw [load, if_pos resolves, lacks.readText_eq]

/-- A configuration file is unreadable if it is there and holds no text. -/
theorem load_eq_unreadable_iff {fault : ReadFault} :
    load workspace directory = .error (.unreadable path fault) ↔
      path = Layout.configFile directory ∧ workspace.resolves path = true ∧
        workspace.LacksText path fault := by
  constructor
  · intro failed
    by_cases resolves : workspace.resolves (Layout.configFile directory) = true
    · rcases workspace.holdsText_or_lacksText (Layout.configFile directory) with
        ⟨document, holds⟩ | ⟨other, lacks⟩
      · rw [load_of_holdsText holds] at failed
        cases parsed : parse document with
        | error fault =>
            rw [parsed] at failed
            cases failed
        | ok config =>
            rw [parsed] at failed
            cases failed
      · rw [load_of_lacksText resolves lacks] at failed
        cases failed
        exact ⟨rfl, resolves, lacks⟩
    · rw [load, if_neg resolves] at failed
      cases failed
  · rintro ⟨rfl, resolves, lacks⟩
    exact load_of_lacksText resolves lacks

theorem load_of_configures (configures : Configures workspace (Layout.configFile directory) settings) :
    load workspace directory = .ok (ofTexts settings) := by
  cases configures with
  | absent unresolved =>
      rw [load, if_neg (by simp [unresolved])]
      rfl
  | entries holds read sets =>
      rw [load_of_holdsText holds, sets.parse read]
      rfl

theorem leastMisfit?_isSome {entries : Toml.Entries} {name : Text} {value : Toml.Value}
    (membership : (name, value) ∈ entries)
    (misfit : ∀ (field : ConfigField) (text : Text), ¬ (name = field.key ∧ value = .string text)) :
    (leastMisfit? entries).isSome = true := by
  rw [Option.isSome_iff_ne_none]
  intro fits
  have entryFits := leastMisfit?_eq_none_iff.1 fits _ membership
  obtain ⟨field, text, both⟩ := Misfit.ofEntry?_eq_none_iff.1 entryFits
  exact misfit field text both

theorem load_of_misfit {document : Text} {entries : Toml.Entries}
    (holds : workspace.HoldsText (Layout.configFile directory) document)
    (read : Toml.read? document = some entries)
    (misfit : (leastMisfit? entries).isSome = true) :
    ∃ fault, load workspace directory = .error (.invalid (Layout.configFile directory) fault) := by
  obtain ⟨least, found⟩ := Option.isSome_iff_exists.1 misfit
  rw [load_of_holdsText holds, parse, read]
  simp only [ofEntries, found]
  exact ⟨_, rfl⟩

/-- A spoiled configuration file cannot be read or is invalid. -/
theorem load_of_spoiled (spoiled : Spoiled workspace (Layout.configFile directory)) :
    (∃ cause, load workspace directory =
        .error (.unreadable (Layout.configFile directory) (.refused cause))) ∨
      ∃ fault, load workspace directory =
        .error (.invalid (Layout.configFile directory) fault) := by
  cases spoiled with
  | unreadable resolves failed => exact .inl ⟨_, load_of_lacksText resolves (.unread failed)⟩
  | illFormed read nothing =>
      exact .inl
        ⟨_, load_of_lacksText (Workspace.resolves_of_read read) (.illFormed read nothing)⟩
  | malformed holds malformed =>
      rw [load_of_holdsText holds, parse, malformed]
      exact .inr ⟨_, rfl⟩
  | unknownKey holds read membership unknown =>
      refine .inr (load_of_misfit holds read ?_)
      apply leastMisfit?_isSome membership
      intro field text both
      exact unknown field both.1
  | noText holds read membership noText =>
      refine .inr (load_of_misfit holds read ?_)
      apply leastMisfit?_isSome membership
      intro field text both
      exact noText text both.2

theorem load_of_pipe (isPipe : workspace.stat (Layout.configFile directory) = .ok .pipe) :
    load workspace directory = .error (.unreadable (Layout.configFile directory) .waits) := by
  have resolves : workspace.resolves (Layout.configFile directory) = true := by
    rw [Workspace.resolves, isPipe]
    rfl
  exact load_of_lacksText resolves (Workspace.lacksText_waits_iff.2 isPipe)

theorem configures_or_spoiled (workspace : Workspace) (path : Bytes) :
    (∃ settings, Configures workspace path settings) ∨ Spoiled workspace path ∨
      workspace.stat path = .ok .pipe := by
  cases resolves : workspace.resolves path with
  | false => exact .inl ⟨_, .absent resolves⟩
  | true =>
      rcases workspace.holdsText_or_lacksText path with ⟨document, holds⟩ | ⟨fault, lacks⟩
      · cases read : Toml.read? document with
        | none => exact .inr (.inl (.malformed holds read))
        | some entries =>
            by_cases fits : leastMisfit? entries = none
            · have sets := sets_string? (Toml.distinct_of_read? read) fits
              exact .inl ⟨_, .entries holds read sets⟩
            · rw [leastMisfit?_eq_none_iff] at fits
              push Not at fits
              obtain ⟨⟨name, value⟩, membership, misfit⟩ := fits
              rw [Ne, Misfit.ofEntry?_eq_none_iff] at misfit
              by_cases known : ∃ field : ConfigField, name = field.key
              · obtain ⟨field, rfl⟩ := known
                refine .inr (.inl (.noText holds read membership ?_))
                rintro text rfl
                exact misfit ⟨field, text, rfl, rfl⟩
              · exact .inr (.inl (.unknownKey holds read membership (not_exists.1 known)))
      · cases fault with
        | waits => exact .inr (.inr (Workspace.lacksText_waits_iff.1 lacks))
        | refused cause =>
            cases lacks with
            | unread failed => exact .inr (.inl (.unreadable resolves failed))
            | illFormed read nothing => exact .inr (.inl (.illFormed read nothing))

/-- A configuration file sets something, is spoiled or is a pipe, and never two of these. -/
theorem exists_configures_iff (workspace : Workspace) (directory : Bytes) :
    (∃ settings, Configures workspace (Layout.configFile directory) settings) ↔
      ¬ Spoiled workspace (Layout.configFile directory) ∧
        workspace.stat (Layout.configFile directory) ≠ .ok .pipe := by
  constructor
  · rintro ⟨settings, configures⟩
    have loaded := load_of_configures configures
    constructor
    · intro spoiled
      rcases load_of_spoiled spoiled with ⟨_, failed⟩ | ⟨_, failed⟩
      · rw [loaded] at failed
        cases failed
      · rw [loaded] at failed
        cases failed
    · intro isPipe
      rw [load_of_pipe isPipe] at loaded
      cases loaded
  · rintro ⟨sound, noPipe⟩
    rcases configures_or_spoiled workspace (Layout.configFile directory) with
      configures | spoiled | isPipe
    · exact configures
    · exact absurd spoiled sound
    · exact absurd isPipe noPipe

theorem spoiled_of_isDirectory (isDirectory : workspace.isDirectory path = true) :
    Spoiled workspace path := by
  unfold Workspace.isDirectory at isDirectory
  split at isDirectory
  next named =>
    apply @Spoiled.unreadable workspace path .isADirectory
    · rw [Workspace.resolves, named]
      rfl
    · simp only [Workspace.read, named]
  · cases isDirectory

theorem configures_of_isDocument {document : Text} {settings : List (ConfigField × Text)}
    (holds : workspace.HoldsText path document) (written : IsDocument settings document)
    (distinct : (settings.map Prod.fst).Nodup) :
    Configures workspace path fun field => settings.lookup field := by
  have read := read?_of_isDocument written distinct
  have sets := sets_string? (Toml.distinct_of_read? read) (leastMisfit?_map_entry settings)
  have same : string? (settings.map entry) = fun field => settings.lookup field := by
    funext field
    exact string?_map_entry settings field
  rw [same] at sets
  exact .entries holds read sets

end Files

end Config

end RuleDigest
