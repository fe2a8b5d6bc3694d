import RuleDigest.Proofs.Config.Loading
import RuleDigest.Proofs.Toml.Assignments

/-!
# Decoding a table

Of the entries that do not fit a configuration, the one whose key comes first by its bytes is
reported, and nothing but this entry says how.  Neither the fields that are read nor the entry
that is reported depend on the order in which the entries stand.
-/

namespace RuleDigest

/-! ## Entries that do not fit -/

/-- What is reported of a key and its value, where the two do not fit a configuration.  Of a key
that no field has, the value does not matter. -/
inductive Misfit.IsAbout : Text → Toml.Value → Misfit → Prop where
  | unknownField {name : Text} {value : Toml.Value} :
      (∀ field : ConfigField, name ≠ field.key) → IsAbout name value (.unknownField name)
  | wrongType {field : ConfigField} {value : Toml.Value} :
      (∀ text, value ≠ .string text) → value.describe?.isSome = true →
      IsAbout field.key value (.wrongType field value)
  | floatOverflow {field : ConfigField} {literal : Toml.FloatLiteral} :
      literal.show? = none → IsAbout field.key (.float literal) .floatOverflow
  | integerOverflow {field : ConfigField} {number : Int} :
      Toml.describeInteger? number = none → IsAbout field.key (.integer number) .integerOverflow
  | unreadable {field : ConfigField} : IsAbout field.key .unreadable .integerOverflow

namespace Config

/-- The key is that of a field, and the value is a text. -/
def Fits (entry : Text × Toml.Value) : Prop :=
  ∃ (field : ConfigField) (text : Text), entry = (field.key, .string text)

end Config

namespace Misfit

open Config (Fits)

variable {name : Text} {value : Toml.Value} {misfit : Misfit}

theorem ofEntry?_eq_none_iff_fits {entry : Text × Toml.Value} :
    ofEntry? entry = none ↔ Fits entry := by
  obtain ⟨name, value⟩ := entry
  simp only [ofEntry?_eq_none_iff, Fits, Prod.mk.injEq]

theorem ofEntry?_unknown (unknown : ∀ field : ConfigField, name ≠ field.key) :
    ofEntry? (name, value) = some (.unknownField name) := by
  have noField : ConfigField.ofKey? name = none := by
    rw [Option.eq_none_iff_forall_ne_some]
    intro field known
    exact unknown field (ConfigField.ofKey?_eq_some_iff.1 known)
  unfold ofEntry?
  rw [noField]

theorem IsAbout.reported (about : IsAbout name value misfit) :
    ofEntry? (name, value) = some misfit := by
  have known (field : ConfigField) : ConfigField.ofKey? field.key = some field :=
    ConfigField.ofKey?_eq_some_iff.2 rfl
  unfold ofEntry?
  cases about with
  | unknownField unknown => exact ofEntry?_unknown unknown
  | wrongType noString shown =>
      obtain ⟨words, described⟩ := Option.isSome_iff_exists.1 shown
      rw [known]
      cases value with
      | string text => exact absurd rfl (noString text)
      | _ =>
          dsimp only
          rw [described]
  | floatOverflow overflows =>
      simp only [known, Toml.Value.describe?, overflows, Option.map_none]
  | integerOverflow overflows =>
      simp only [known, Toml.Value.describe?, overflows]
  | unreadable => simp only [known, Toml.Value.describe?]

/-- There is something to report of each entry that does not fit. -/
theorem exists_isAbout (unfit : ¬ Fits (name, value)) : ∃ misfit, IsAbout name value misfit := by
  by_cases known : ∃ field : ConfigField, name = field.key
  · obtain ⟨field, rfl⟩ := known
    have noString : ∀ text, value ≠ .string text := by
      rintro text rfl
      exact unfit ⟨field, text, rfl⟩
    cases value with
    | string text => exact absurd rfl (noString text)
    | integer number =>
        cases described : Toml.describeInteger? number with
        | none => exact ⟨_, .integerOverflow described⟩
        | some words => exact ⟨_, .wrongType noString (Option.isSome_of_eq_some described)⟩
    | float literal =>
        cases shown : literal.show? with
        | none => exact ⟨_, .floatOverflow shown⟩
        | some words =>
            refine ⟨_, .wrongType noString ?_⟩
            rw [Toml.Value.describe?, shown]
            rfl
    | unreadable => exact ⟨_, .unreadable⟩
    | boolean | dateTime | array | inlineTable | table | tables =>
        exact ⟨_, .wrongType noString rfl⟩
  · exact ⟨_, .unknownField (not_exists.1 known)⟩

theorem ofEntry?_eq_some_iff :
    ofEntry? (name, value) = some misfit ↔ IsAbout name value misfit := by
  constructor
  · intro reported
    have unfit : ¬ Fits (name, value) := by
      rw [← ofEntry?_eq_none_iff_fits, reported]
      exact Option.some_ne_none misfit
    obtain ⟨other, about⟩ := exists_isAbout unfit
    rw [about.reported] at reported
    cases reported
    exact about
  · exact IsAbout.reported

end Misfit

namespace Config

/-! ## The least misfit -/

/-- Of the entries that do not fit, this is the one whose key comes first by its bytes. -/
structure IsLeastMisfit (entries : Toml.Entries) (entry : Text × Toml.Value) : Prop where
  mem : entry ∈ entries
  unfit : ¬ Fits entry
  least : ∀ other ∈ entries, ¬ Fits other → Utf8.encode entry.1 ≤ Utf8.encode other.1

section Least

variable {entries others : Toml.Entries} {entry first second : Text × Toml.Value}

theorem IsLeastMisfit.of_perm (isLeast : IsLeastMisfit entries entry)
    (perm : entries.Perm others) : IsLeastMisfit others entry where
  mem := perm.mem_iff.1 isLeast.mem
  unfit := isLeast.unfit
  least other membership := isLeast.least other (perm.mem_iff.2 membership)

theorem IsLeastMisfit.unique (distinct : entries.Distinct) (isFirst : IsLeastMisfit entries first)
    (isSecond : IsLeastMisfit entries second) : first = second := by
  have sameBytes := List.le_antisymm (isFirst.least second isSecond.mem isSecond.unfit)
    (isSecond.least first isFirst.mem isFirst.unfit)
  exact List.inj_on_of_nodup_map distinct isFirst.mem isSecond.mem (Utf8.encode_injective sameBytes)

theorem IsLeastMisfit.cons_of_le (isLeast : IsLeastMisfit entries entry)
    (before : ¬ Fits first → Utf8.encode entry.1 ≤ Utf8.encode first.1) :
    IsLeastMisfit (first :: entries) entry where
  mem := List.mem_cons_of_mem first isLeast.mem
  unfit := isLeast.unfit
  least := List.forall_mem_cons.2 ⟨before, isLeast.least⟩

theorem IsLeastMisfit.head (unfit : ¬ Fits entry)
    (first : ∀ other ∈ entries, ¬ Fits other → Utf8.encode entry.1 ≤ Utf8.encode other.1) :
    IsLeastMisfit (entry :: entries) entry where
  mem := List.mem_cons_self
  unfit := unfit
  least := List.forall_mem_cons.2 ⟨fun _ => List.le_refl _, first⟩

theorem leastMisfit?_eq_none_iff_fits :
    leastMisfit? entries = none ↔ ∀ entry ∈ entries, Fits entry := by
  simp only [leastMisfit?_eq_none_iff, Misfit.ofEntry?_eq_none_iff_fits]

/-- What is found is the misfit of the least entry. -/
theorem exists_isLeastMisfit {name : Text} {misfit : Misfit}
    (found : leastMisfit? entries = some (name, misfit)) :
    ∃ value, IsLeastMisfit entries (name, value) ∧ misfit.IsAbout name value := by
  induction entries generalizing name misfit with
  | nil => cases found
  | cons entry rest inductionHypothesis =>
      rw [leastMisfit?] at found
      cases headMisfit : Misfit.ofEntry? entry with
      | none =>
          have fits := Misfit.ofEntry?_eq_none_iff_fits.1 headMisfit
          rw [headMisfit] at found
          obtain ⟨value, isLeast, about⟩ := inductionHypothesis found
          exact ⟨value, isLeast.cons_of_le (absurd fits), about⟩
      | some reported =>
          have unfit : ¬ Fits entry := by
            rw [← Misfit.ofEntry?_eq_none_iff_fits, headMisfit]
            exact Option.some_ne_none reported
          have headAbout := Misfit.ofEntry?_eq_some_iff.1 headMisfit
          rw [headMisfit] at found
          cases restLeast : leastMisfit? rest with
          | none =>
              rw [restLeast] at found
              cases found
              refine ⟨entry.2, .head unfit ?_, headAbout⟩
              intro other membership
              exact absurd (leastMisfit?_eq_none_iff_fits.1 restLeast other membership)
          | some least =>
              obtain ⟨value, isLeast, about⟩ := inductionHypothesis restLeast
              rw [restLeast] at found
              dsimp only at found
              split at found
              next smaller =>
                cases found
                exact ⟨value, isLeast.cons_of_le fun _ => List.le_of_lt smaller, about⟩
              next notSmaller =>
                cases found
                refine ⟨entry.2, .head unfit ?_, headAbout⟩
                intro other membership otherUnfit
                exact List.le_trans (List.not_lt.1 notSmaller)
                  (isLeast.least other membership otherUnfit)

theorem leastMisfit?_eq_some_iff (distinct : entries.Distinct) {name : Text} {misfit : Misfit} :
    leastMisfit? entries = some (name, misfit) ↔
      ∃ value, IsLeastMisfit entries (name, value) ∧ misfit.IsAbout name value := by
  constructor
  · exact exists_isLeastMisfit
  · rintro ⟨value, isLeast, about⟩
    cases found : leastMisfit? entries with
    | none => exact absurd (leastMisfit?_eq_none_iff_fits.1 found _ isLeast.mem) isLeast.unfit
    | some least =>
        obtain ⟨otherValue, otherLeast, otherAbout⟩ := exists_isLeastMisfit found
        have same := isLeast.unique distinct otherLeast
        cases same
        have reported := about.reported
        rw [otherAbout.reported] at reported
        cases reported
        rfl

/-! ## The order of the entries -/

theorem leastMisfit?_perm (distinct : entries.Distinct) (perm : entries.Perm others) :
    leastMisfit? entries = leastMisfit? others := by
  have othersDistinct : others.Distinct := (perm.map Prod.fst).nodup_iff.1 distinct
  apply Option.ext
  rintro ⟨name, misfit⟩
  rw [leastMisfit?_eq_some_iff distinct, leastMisfit?_eq_some_iff othersDistinct]
  constructor
  · rintro ⟨value, isLeast, about⟩
    exact ⟨value, isLeast.of_perm perm, about⟩
  · rintro ⟨value, isLeast, about⟩
    exact ⟨value, isLeast.of_perm perm.symm, about⟩

theorem string?_perm (distinct : entries.Distinct) (perm : entries.Perm others) :
    string? entries = string? others := by
  have othersDistinct : others.Distinct := (perm.map Prod.fst).nodup_iff.1 distinct
  funext field
  apply Option.ext
  intro text
  rw [string?_eq_some_iff distinct, string?_eq_some_iff othersDistinct, perm.mem_iff]

theorem ofEntries_perm (distinct : entries.Distinct) (perm : entries.Perm others) :
    ofEntries entries = ofEntries others := by
  rw [ofEntries, ofEntries, leastMisfit?_perm distinct perm, string?_perm distinct perm]

end Least

/-! ## Documents -/

section Documents

variable {document : Text} {entries : Toml.Entries}

theorem parse_of_read? (read : Toml.read? document = some entries) :
    parse document = (ofEntries entries).mapError .misfit := by
  rw [parse, read]

theorem ofEntries_of_misfit {name : Text} {misfit : Misfit}
    (found : leastMisfit? entries = some (name, misfit)) : ofEntries entries = .error misfit := by
  rw [ofEntries, found]

theorem parse_eq_malformed_iff :
    parse document = .error .malformed ↔ Toml.read? document = none := by
  cases read : Toml.read? document with
  | none =>
      rw [parse, read]
      exact iff_of_true rfl rfl
  | some entries =>
      rw [parse_of_read? read]
      constructor
      · intro parsed
        cases decoded : ofEntries entries with
        | error misfit =>
            rw [decoded] at parsed
            cases parsed
        | ok config =>
            rw [decoded] at parsed
            cases parsed
      · intro absent
        cases absent

theorem parse_eq_ok_iff (read : Toml.read? document = some entries) {config : Config} :
    parse document = .ok config ↔
      ∃ settings, Sets entries settings ∧ config = ofTexts settings := by
  constructor
  · intro parsed
    cases found : leastMisfit? entries with
    | none =>
        have sets := sets_string? (Toml.distinct_of_read? read) found
        rw [sets.parse read] at parsed
        cases parsed
        exact ⟨_, sets, rfl⟩
    | some least =>
        rw [parse_of_read? read, ofEntries_of_misfit found] at parsed
        cases parsed
  · rintro ⟨settings, sets, rfl⟩
    exact sets.parse read

theorem parse_eq_error_iff (read : Toml.read? document = some entries) {fault : ConfigFault} :
    parse document = .error fault ↔
      ∃ name value misfit, IsLeastMisfit entries (name, value) ∧ misfit.IsAbout name value ∧
        fault = .misfit misfit := by
  have distinct := Toml.distinct_of_read? read
  constructor
  · intro parsed
    cases found : leastMisfit? entries with
    | none =>
        rw [(sets_string? distinct found).parse read] at parsed
        cases parsed
    | some least =>
        obtain ⟨value, isLeast, about⟩ := exists_isLeastMisfit found
        rw [parse_of_read? read, ofEntries_of_misfit found] at parsed
        cases parsed
        exact ⟨_, value, _, isLeast, about, rfl⟩
  · rintro ⟨name, value, misfit, isLeast, about, rfl⟩
    have found := (leastMisfit?_eq_some_iff distinct).2 ⟨value, isLeast, about⟩
    rw [parse_of_read? read, ofEntries_of_misfit found]
    rfl

theorem exists_parse_eq_ok_iff (read : Toml.read? document = some entries) :
    (∃ config, parse document = .ok config) ↔ ∀ entry ∈ entries, Fits entry := by
  rw [← leastMisfit?_eq_none_iff_fits]
  constructor
  · rintro ⟨config, parsed⟩
    obtain ⟨settings, sets, _⟩ := (parse_eq_ok_iff read).1 parsed
    exact sets.leastMisfit?
  · intro fits
    exact ⟨_, (sets_string? (Toml.distinct_of_read? read) fits).parse read⟩

/-- Two documents report the same, if the least keys that do not fit are the same and so are
their values, unless no field has the key. -/
theorem parse_eq_of_isLeastMisfit {other name : Text} {others : Toml.Entries}
    {value otherValue : Toml.Value} (read : Toml.read? document = some entries)
    (otherRead : Toml.read? other = some others)
    (isLeast : IsLeastMisfit entries (name, value))
    (otherLeast : IsLeastMisfit others (name, otherValue))
    (sameValue : ∀ field : ConfigField, name = field.key → value = otherValue) :
    parse document = parse other := by
  obtain ⟨misfit, about⟩ := Misfit.exists_isAbout isLeast.unfit
  have otherAbout : misfit.IsAbout name otherValue := by
    by_cases known : ∃ field : ConfigField, name = field.key
    · obtain ⟨field, isKey⟩ := known
      rw [← sameValue field isKey]
      exact about
    · have unknown := not_exists.1 known
      have reported := about.reported
      rw [Misfit.ofEntry?_unknown unknown] at reported
      cases reported
      exact .unknownField unknown
  rw [(parse_eq_error_iff read).2 ⟨name, value, misfit, isLeast, about, rfl⟩,
    (parse_eq_error_iff otherRead).2 ⟨name, otherValue, misfit, otherLeast, otherAbout, rfl⟩]

theorem parse_perm {lines others : List Toml.Line} {other : Text}
    (distinct : (lines.map Toml.Line.name).Nodup) (perm : lines.Perm others)
    (makes : Toml.Makes lines document) (otherMakes : Toml.Makes others other) :
    parse document = parse other := by
  have othersDistinct := (perm.map Toml.Line.name).nodup_iff.1 distinct
  have read := makes.read? distinct
  rw [parse_of_read? read, parse_of_read? (otherMakes.read? othersDistinct),
    ofEntries_perm (Toml.distinct_of_read? read) (perm.map Toml.Line.entry)]

/-- A document that is well-formed is a configuration unless one of its entries does not fit;
then the least of those is reported, and nothing but this entry decides what.  The order of lines
has no part in that, and a document that is not well-formed is refused as such, whatever stands
in it. -/
theorem parse_reports_least_misfit (document : Text) :
    (parse document = .error .malformed ↔ Toml.read? document = none) ∧
      (∀ statements behind rest, Toml.statements? document = some statements →
        Toml.LineEnd behind rest → Toml.statements? rest = none →
        parse (document ++ behind) = .error .malformed) ∧
      (∀ entries, Toml.read? document = some entries →
        ((∃ config, parse document = .ok config) ↔ ∀ entry ∈ entries, Fits entry) ∧
          (∀ config, parse document = .ok config ↔
            ∃ settings, Sets entries settings ∧ config = ofTexts settings) ∧
          (∀ fault, parse document = .error fault ↔
            ∃ name value misfit, IsLeastMisfit entries (name, value) ∧
              misfit.IsAbout name value ∧ fault = .misfit misfit) ∧
          ∀ other others name value otherValue, Toml.read? other = some others →
            IsLeastMisfit entries (name, value) → IsLeastMisfit others (name, otherValue) →
            (∀ field : ConfigField, name = field.key → value = otherValue) →
            parse document = parse other) ∧
      ∀ lines permuted other, (lines.map Toml.Line.name).Nodup → lines.Perm permuted →
        Toml.Makes lines document → Toml.Makes permuted other →
        parse document = parse other ∧ parse document ≠ .error .malformed := by
  refine ⟨parse_eq_malformed_iff, ?_, ?_, ?_⟩
  · intro statements behind rest isRead ends malformed
    exact parse_eq_malformed_iff.2 (ends.read?_append_eq_none isRead malformed)
  · intro entries read
    refine ⟨exists_parse_eq_ok_iff read, fun config => parse_eq_ok_iff read,
      fun fault => parse_eq_error_iff read, ?_⟩
    intro other others name value otherValue otherRead isLeast otherLeast sameValue
    exact parse_eq_of_isLeastMisfit read otherRead isLeast otherLeast sameValue
  · intro lines permuted other distinct perm makes otherMakes
    refine ⟨parse_perm distinct perm makes otherMakes, ?_⟩
    rw [Ne, parse_eq_malformed_iff, makes.read? distinct]
    exact Option.some_ne_none _

end Documents

section Lines

open Toml (Line Makes)

/-- A key that no field has. -/
def strangeLine : Line :=
  @Line.bare "zz".toList [' '] " 1".toList [] (.integer 1) (by decide) (by decide) (by decide)
    rfl rfl

/-- A field that is no text. -/
def numberLine : Line :=
  @Line.bare "missing_value".toList [' '] " 7 # seven".toList " # seven".toList (.integer 7)
    (by decide) (by decide) (by decide) rfl rfl

/-- A field as it should be. -/
def folderLine : Line :=
  @Line.bare "rules_dir".toList [] "\"q\"".toList [] (.string "q".toList) (by decide) (by decide)
    (by decide) rfl rfl

theorem isLeastMisfit_numberLine {lines : List Line} (mem : numberLine ∈ lines)
    (least : ∀ line ∈ lines, Utf8.encode numberLine.name ≤ Utf8.encode line.name) :
    IsLeastMisfit (lines.map Line.entry) (ConfigField.missingValue.key, .integer 7) where
  mem := List.mem_map_of_mem mem
  unfit := by
    rintro ⟨field, text, same⟩
    cases (Prod.mk.inj same).2
  least := by
    intro entry membership _
    obtain ⟨line, isLine, rfl⟩ := List.mem_map.1 membership
    exact least line isLine

/-- Of two lines that do not fit the later one is reported, as if it stood alone, unless the
document breaks off behind them. -/
theorem parse_reports_least_misfit_shuffled :
    let lines := [strangeLine, numberLine, folderLine]
    let permuted := [folderLine, strangeLine, numberLine]
    let document := "zz = 1\nmissing_value = 7 # seven\r\nrules_dir=\"q\"".toList
    let other := "rules_dir=\"q\"\nzz = 1\nmissing_value = 7 # seven\n".toList
    (lines.map Line.name).Nodup ∧ lines.Perm permuted ∧ Makes lines document ∧
      Makes permuted other ∧ parse document = parse other ∧
      parse document = parse "missing_value = 7 # seven".toList ∧
      parse document = .error (.misfit (.wrongType .missingValue (.integer 7))) ∧
      parse (document ++ "\n=".toList) = .error .malformed := by
  intro lines permuted document other
  have distinct : (lines.map Line.name).Nodup := by decide
  have perm : lines.Perm permuted :=
    (List.Perm.cons strangeLine (.swap folderLine numberLine [])).trans (.swap _ _ _)
  have makes : Makes lines document := .cons .lineFeed (.cons .both (.last folderLine))
  have otherMakes : Makes permuted other :=
    .cons .lineFeed (.cons .lineFeed (.cons .lineFeed .nil))
  have aloneRead := (Makes.last numberLine).read? (by decide)
  have isLeast := @isLeastMisfit_numberLine lines (by simp [lines]) (by decide)
  have aloneLeast := @isLeastMisfit_numberLine [numberLine] (by simp) (by decide)
  have about : Misfit.IsAbout ConfigField.missingValue.key (.integer 7)
      (.wrongType .missingValue (.integer 7)) := .wrongType nofun rfl
  have stray : Toml.statements? "=".toList = none := by
    rw [Toml.statements?]
    rfl
  obtain ⟨_, breaksOff, reports, reorders⟩ := parse_reports_least_misfit document
  obtain ⟨_, _, errs, alone⟩ := reports _ (makes.read? distinct)
  refine ⟨distinct, perm, makes, otherMakes, ?_, ?_, ?_, ?_⟩
  · exact (reorders lines permuted other distinct perm makes otherMakes).1
  · exact alone _ _ _ _ _ aloneRead isLeast aloneLeast fun _ _ => rfl
  · exact (errs _).2 ⟨_, _, _, isLeast, about, rfl⟩
  · exact breaksOff _ _ _ makes.statements? .lineFeed stray

end Lines

end Config

end RuleDigest
