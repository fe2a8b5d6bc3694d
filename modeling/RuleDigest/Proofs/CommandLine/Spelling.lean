import RuleDigest.Proofs.CommandLine.Acceptance

/-!
# Flags in front of a command line

A flag of the presentation is one part, however it is spelled.  A command line
that is accepted still is with flags in front of it that it does not use itself.
-/

namespace RuleDigest.CommandLine

/-- The arguments that spell a flag by which the presentation is chosen. -/
def Flag.spellings : Flag → List Bytes
  | header => [Utf8.ofString "--header"]
  | verbose => [Utf8.ofString "--verbose", Utf8.ofString "-v"]
  | json => [Utf8.ofString "--json"]
  | _ => []

/-- Arguments spell flags of the presentation, of which none comes twice. -/
inductive Spells : List Bytes → List Flag → Prop where
  | nil : Spells [] []
  | cons {argument : Bytes} {front : List Bytes} {flag : Flag} {chosen : List Flag} :
      argument ∈ flag.spellings → flag ∉ chosen → Spells front chosen →
      Spells (argument :: front) (flag :: chosen)

section Lists

variable (chosen : List Flag)

@[simp]
theorem positionals_map_flag : positionals (chosen.map .flag) = [] := by
  simp [positionals, List.filterMap_map, Function.comp_def, Part.positional?]

@[simp]
theorem rulesDirs_map_flag : rulesDirs (chosen.map .flag) = [] := by
  simp [rulesDirs, List.filterMap_map, Function.comp_def, Part.rulesDir?]

@[simp]
theorem flags_map_flag : flags (chosen.map .flag) = chosen := by
  simp [flags, List.filterMap_map, Function.comp_def, Part.flag?]

end Lists

theorem partsFrom_spelling {argument : Bytes} {flag : Flag} (spelled : argument ∈ flag.spellings)
    (rest : List Bytes) :
    partsFrom false (argument :: rest) = .flag flag :: partsFrom false rest := by
  have ofLong (name : Bytes) (word : Word.ofBytes argument = .long name none)
      (other : name ≠ Utf8.ofString "rules-dir") (named : Flag.ofLong? name = some flag) :
      partsFrom false (argument :: rest) = .flag flag :: partsFrom false rest := by
    simp [partsFrom, word, other, unserved, Part.ofLong, named]
  cases flag with
  | header =>
      obtain rfl := List.mem_singleton.1 spelled
      exact ofLong (Utf8.ofString "header") rfl (by decide) rfl
  | json =>
      obtain rfl := List.mem_singleton.1 spelled
      exact ofLong (Utf8.ofString "json") rfl (by decide) rfl
  | verbose =>
      rcases List.mem_cons.1 spelled with rfl | short
      · exact ofLong (Utf8.ofString "verbose") rfl (by decide) rfl
      · obtain rfl := List.mem_singleton.1 short
        rfl
  | help full => cases spelled
  | version => cases spelled

section Fronts

variable {front : List Bytes} {chosen : List Flag}

theorem Spells.parts_append (spells : Spells front chosen) (arguments : List Bytes) :
    parts (front ++ arguments) = chosen.map .flag ++ parts arguments := by
  induction spells with
  | nil => rfl
  | cons spelled _ _ inductionHypothesis =>
      unfold parts at inductionHypothesis ⊢
      rw [List.cons_append, partsFrom_spelling spelled, inductionHypothesis]
      rfl

theorem Spells.nodup (spells : Spells front chosen) : chosen.Nodup := by
  induction spells with
  | nil => exact List.nodup_nil
  | cons _ fresh _ inductionHypothesis => exact List.nodup_cons.2 ⟨fresh, inductionHypothesis⟩

theorem Spells.mem_presentation (spells : Spells front chosen) {flag : Flag}
    (membership : flag ∈ chosen) : flag ∈ [Flag.header, .verbose, .json] := by
  induction spells with
  | nil => cases membership
  | @cons _ _ first _ spelled _ _ inductionHypothesis =>
      rcases List.mem_cons.1 membership with rfl | later
      · cases flag with
        | help full => cases spelled
        | version => cases spelled
        | _ => simp
      · exact inductionHypothesis later

/-- Flags that a command line does not use may stand in front of it. -/
theorem Spells.fits_append (spells : Spells front chosen) {arguments : List Bytes}
    (fits : Fits (parts arguments)) (unused : ∀ flag ∈ chosen, flag ∉ flags (parts arguments)) :
    Fits (parts (front ++ arguments)) := by
  obtain ⟨known, texts, resultsDir, single, named, switches, once⟩ := fits
  rw [spells.parts_append]
  refine ⟨?_, ?_, ?_, ?_, ?_, ?_, ?_⟩
  · simp [known]
  · simpa using texts
  · simpa using resultsDir
  · simpa using single
  · simpa using named
  · rw [flags_append, flags_map_flag]
    intro flag membership
    rcases List.mem_append.1 membership with ahead | later
    · have quiet : ∀ flag ∈ [Flag.header, .verbose, .json], flag.request? = none := by decide
      exact quiet flag (spells.mem_presentation ahead)
    · exact switches flag later
  · rw [flags_append, flags_map_flag]
    refine List.nodup_append.2 ⟨spells.nodup, once, ?_⟩
    intro flag ahead other later same
    subst same
    exact unused flag ahead later

end Fronts

end RuleDigest.CommandLine
