import RuleDigest.Proofs.CommandLine.Spelling

/-!
# Where options stand

An option may stand before, between and after the positional arguments, and the options of a
command line may stand in any order.  The parts of a command line are then the same up to their
order, and the positional arguments among them are in theirs.
-/

namespace RuleDigest.CommandLine

/-- An option in one argument, or one whose value is an argument of its own. -/
inductive Group where
  | flag (known : Flag) (spelling : Bytes)
  | joined (rulesDir : Bytes)
  | apart (rulesDir : Bytes)
  deriving DecidableEq, Repr

namespace Group

def arguments : Group → List Bytes
  | flag _ spelling => [spelling]
  | joined rulesDir => [Utf8.ofString "--rules-dir=" ++ rulesDir]
  | apart rulesDir => [Utf8.ofString "--rules-dir", rulesDir]

def part : Group → Part
  | flag known _ => .flag known
  | joined rulesDir => .rulesDir rulesDir
  | apart rulesDir => .rulesDir rulesDir

end Group

/-- Not to be taken for an option: no dash in front, or nothing but a dash. -/
def Undashed (argument : Bytes) : Prop :=
  argument.head? = some Word.dash → argument = [Word.dash]

instance (argument : Bytes) : Decidable (Undashed argument) :=
  inferInstanceAs (Decidable (_ → _))

/-- The values of an option and its spelling are such that the option is read as one. -/
inductive Group.Valid : Group → Prop where
  | flag {known : Flag} {spelling : Bytes} :
      spelling ∈ known.spellings → Valid (.flag known spelling)
  | joined {rulesDir : Bytes} : rulesDir ≠ [] → Valid (.joined rulesDir)
  | apart {rulesDir : Bytes} : rulesDir ≠ [] → Undashed rulesDir → Valid (.apart rulesDir)

/-- Arguments are options and positional arguments, both in their order. -/
inductive Interleaves : List Group → List Bytes → List Bytes → Prop where
  | nil : Interleaves [] [] []
  | option {group : Group} {groups : List Group} {values arguments : List Bytes} :
      Interleaves groups values arguments →
      Interleaves (group :: groups) values (group.arguments ++ arguments)
  | value {groups : List Group} {value : Bytes} {values arguments : List Bytes} :
      Undashed value → Interleaves groups values arguments →
      Interleaves groups (value :: values) (value :: arguments)

/-- Arguments are options in any order, with positional arguments among them in theirs or after
two dashes. -/
inductive Places (groups : List Group) (values : List Bytes) : List Bytes → Prop where
  | among {ordered : List Group} {arguments : List Bytes} :
      ordered.Perm groups → Interleaves ordered values arguments → Places groups values arguments
  | before {ordered : List Group} :
      ordered.Perm groups →
      Places groups values (ordered.flatMap Group.arguments ++ Utf8.ofString "--" :: values)

/-- Options and positional arguments that make up a command line, wherever they stand. -/
structure Ready (groups : List Group) (values : List Bytes) : Prop where
  enough : 2 ≤ values.length
  texts : ∀ index value, values[index]? = some value → index ≠ 1 → ∃ text, value = Utf8.encode text
  resultsDir : values[1]? ≠ some []
  valid : ∀ group ∈ groups, group.Valid
  flagsOnce : (flags (groups.map Group.part)).Nodup
  rulesDirOnce : (rulesDirs (groups.map Group.part)).length ≤ 1

/-- Parts are those of options and of positional arguments, the latter in their order. -/
structure Consists (parts : List Part) (groups : List Group) (values : List Bytes) : Prop where
  perm : parts.Perm (groups.map Group.part ++ values.map .positional)
  order : positionals parts = values

/-! ## The parts of an argument -/

section Arguments

variable {value : Bytes} {group : Group}

theorem ofBytes_undashed (undashed : Undashed value) : Word.ofBytes value = .plain value := by
  unfold Word.ofBytes
  split
  next first second rest =>
    have other : first ≠ Word.dash := by
      rintro rfl
      cases undashed rfl
    simp [other]
  · rfl

theorem partsFrom_undashed (undashed : Undashed value) (awaits : Bool) (rest : List Bytes) :
    partsFrom awaits (value :: rest) =
      (if awaits then .rulesDir value else .positional value) :: partsFrom false rest := by
  rw [partsFrom, ofBytes_undashed undashed]

theorem Group.Valid.partsFrom (valid : group.Valid) (rest : List Bytes) :
    CommandLine.partsFrom false (group.arguments ++ rest) =
      group.part :: CommandLine.partsFrom false rest := by
  cases valid with
  | flag spelled => exact partsFrom_spelling spelled rest
  | joined => rfl
  | @apart rulesDir _ undashed =>
      have awaited := partsFrom_undashed undashed true rest
      rw [if_pos rfl] at awaited
      exact awaited

theorem Group.positional?_part (group : Group) : group.part.positional? = none := by
  cases group with
  | flag => rfl
  | joined => rfl
  | apart => rfl

theorem Group.part_ne_stray (group : Group) : group.part ≠ .stray := by
  cases group with
  | flag => exact Part.noConfusion
  | joined => exact Part.noConfusion
  | apart => exact Part.noConfusion

theorem Group.Valid.rulesDir_ne_nil (valid : group.Valid) : group.part ≠ .rulesDir [] := by
  cases valid with
  | flag => exact Part.noConfusion
  | joined filled => simpa [Group.part] using filled
  | apart filled => simpa [Group.part] using filled

theorem Group.Valid.request? {flag : Flag} (valid : group.Valid) (same : group.part = .flag flag) :
    flag.request? = none := by
  cases valid with
  | @flag known _ spelled =>
      cases same
      cases flag with
      | help full => cases spelled
      | version => cases spelled
      | _ => rfl
  | joined => cases same
  | apart => cases same

end Arguments

/-! ## The parts of a command line -/

section Parts

variable {groups : List Group} {values arguments : List Bytes} {parts : List Part}

theorem Consists.nil : Consists [] [] [] :=
  ⟨.refl [], rfl⟩

theorem Consists.option (consists : Consists parts groups values) (group : Group) :
    Consists (group.part :: parts) (group :: groups) values := by
  obtain ⟨perm, order⟩ := consists
  constructor
  · exact perm.cons group.part
  · rw [positionals, List.filterMap_cons_none group.positional?_part]
    exact order

theorem Consists.value (consists : Consists parts groups values) (value : Bytes) :
    Consists (.positional value :: parts) groups (value :: values) := by
  obtain ⟨perm, order⟩ := consists
  constructor
  · rw [List.map_cons]
    exact (perm.cons _).trans List.perm_middle.symm
  · change value :: positionals parts = value :: values
    rw [order]

theorem Consists.of_perm {ordered : List Group} (consists : Consists parts ordered values)
    (same : ordered.Perm groups) : Consists parts groups values :=
  ⟨consists.perm.trans ((same.map Group.part).append_right _), consists.order⟩

theorem Interleaves.consists (interleaves : Interleaves groups values arguments)
    (valid : ∀ group ∈ groups, group.Valid) :
    Consists (CommandLine.parts arguments) groups values := by
  unfold CommandLine.parts
  induction interleaves with
  | nil => exact .nil
  | option _ inductionHypothesis =>
      obtain ⟨groupValid, othersValid⟩ := List.forall_mem_cons.1 valid
      rw [groupValid.partsFrom]
      exact (inductionHypothesis othersValid).option _
  | value undashed _ inductionHypothesis =>
      rw [partsFrom_undashed undashed]
      exact (inductionHypothesis valid).value _

theorem consists_map_positional (values : List Bytes) :
    Consists (values.map .positional) [] values := by
  induction values with
  | nil => exact .nil
  | cons value rest inductionHypothesis => exact inductionHypothesis.value value

theorem consists_escaped (values : List Bytes) (valid : ∀ group ∈ groups, group.Valid) :
    Consists (CommandLine.parts (groups.flatMap Group.arguments ++ Utf8.ofString "--" :: values))
      groups values := by
  unfold CommandLine.parts
  induction groups with
  | nil => exact consists_map_positional values
  | cons group rest inductionHypothesis =>
      obtain ⟨groupValid, othersValid⟩ := List.forall_mem_cons.1 valid
      rw [List.flatMap_cons, List.append_assoc, groupValid.partsFrom]
      exact (inductionHypothesis othersValid).option group

theorem Places.consists (places : Places groups values arguments)
    (valid : ∀ group ∈ groups, group.Valid) :
    Consists (CommandLine.parts arguments) groups values := by
  have sameValid {ordered : List Group} (same : ordered.Perm groups) :
      ∀ group ∈ ordered, group.Valid := by
    intro group membership
    exact valid group (same.mem_iff.1 membership)
  cases places with
  | among same interleaves => exact (interleaves.consists (sameValid same)).of_perm same
  | before same => exact (consists_escaped values (sameValid same)).of_perm same

theorem Consists.flags_perm (consists : Consists parts groups values) :
    (flags parts).Perm (flags (groups.map Group.part)) := by
  have perm := consists.perm.filterMap Part.flag?
  rw [List.filterMap_append] at perm
  change (flags parts).Perm (_ ++ flags (values.map Part.positional)) at perm
  rwa [flags_map_positional, List.append_nil] at perm

theorem Consists.rulesDirs_perm (consists : Consists parts groups values) :
    (rulesDirs parts).Perm (rulesDirs (groups.map Group.part)) := by
  have perm := consists.perm.filterMap Part.rulesDir?
  rw [List.filterMap_append] at perm
  change (rulesDirs parts).Perm (_ ++ rulesDirs (values.map Part.positional)) at perm
  rwa [rulesDirs_map_positional, List.append_nil] at perm

theorem Ready.fits (ready : Ready groups values) (consists : Consists parts groups values) :
    Fits parts := by
  obtain ⟨_, texts, resultsDir, valid, flagsOnce, rulesDirOnce⟩ := ready
  have ofGroup {part : Part} (membership : part ∈ parts)
      (notPositional : part.positional? = none) : ∃ group ∈ groups, group.part = part := by
    rcases List.mem_append.1 (consists.perm.mem_iff.1 membership) with option | positional
    · exact List.mem_map.1 option
    · obtain ⟨value, _, rfl⟩ := List.mem_map.1 positional
      cases notPositional
  refine ⟨?_, ?_, ?_, ?_, ?_, ?_, ?_⟩
  · intro stray
    obtain ⟨group, _, same⟩ := ofGroup stray rfl
    exact group.part_ne_stray same
  · rwa [consists.order]
  · rwa [consists.order]
  · rwa [consists.rulesDirs_perm.length_eq]
  · intro empty
    obtain ⟨part, membership, named⟩ := List.mem_filterMap.1 empty
    cases part with
    | rulesDir value =>
        cases named
        obtain ⟨group, groupMembership, same⟩ := ofGroup membership rfl
        exact (valid group groupMembership).rulesDir_ne_nil same
    | _ => cases named
  · intro flag on
    obtain ⟨part, membership, named⟩ := List.mem_filterMap.1 on
    cases part with
    | flag known =>
        cases named
        obtain ⟨group, groupMembership, same⟩ := ofGroup membership rfl
        exact (valid group groupMembership).request? same
    | _ => cases named
  · exact consists.flags_perm.nodup_iff.2 flagsOnce

/-- At most one rules directory has one order only. -/
theorem Ready.rulesDirs_eq (ready : Ready groups values) (consists : Consists parts groups values) :
    rulesDirs parts = rulesDirs (groups.map Group.part) := by
  have perm := consists.rulesDirs_perm
  have once := ready.rulesDirOnce
  cases chosen : rulesDirs (groups.map Group.part) with
  | nil =>
      rw [chosen] at perm
      exact perm.eq_nil
  | cons rulesDir others =>
      rw [chosen, List.length_cons] at once
      obtain rfl : others = [] := List.eq_nil_of_length_eq_zero (by omega)
      rw [chosen] at perm
      exact List.perm_singleton.1 perm

end Parts

/-! ## The options of a command line -/

section Options

variable {first second : Options} {parts others : List Part}

/-- The order of the positional arguments is all that matters of the order of parts. -/
theorem unique_of_describes (describes : Describes first parts)
    (otherDescribes : Describes second others)
    (samePositionals : positionals others = positionals parts)
    (sameRulesDirs : rulesDirs others = rulesDirs parts)
    (sameFlags : (flags others).Perm (flags parts)) : second = first := by
  obtain ⟨_, statistic, resultsDir, extra, rulesDir, _, flagsOn⟩ := describes
  obtain ⟨_, otherStatistic, otherResultsDir, otherExtra, otherRulesDir, _, otherFlagsOn⟩ :=
    otherDescribes
  have sameOn (flag : Flag) : flag ∈ second.flags ↔ flag ∈ first.flags := by
    rw [otherFlagsOn.mem_iff, flagsOn.mem_iff, sameFlags.mem_iff]
  have sameStatistic : second.statistic? = first.statistic? := by
    apply Option.map_injective (fun _ _ same => Utf8.encode_injective same)
    rw [statistic, otherStatistic, samePositionals]
  have sameResultsDir : second.resultsDir? = first.resultsDir? := by
    rw [resultsDir, otherResultsDir, samePositionals]
  have sameExtra : second.extra = first.extra := by
    apply (List.map_inj_right fun _ _ same => Utf8.encode_injective same).1
    rw [extra, otherExtra, samePositionals]
  have sameRulesDir : second.rulesDir? = first.rulesDir? := by
    rw [← second.rulesDir?.head?_toList, otherRulesDir, sameRulesDirs, ← rulesDir,
      Option.head?_toList]
  have sameHeader : second.header = first.header := by
    rw [Bool.eq_iff_iff, ← header_mem_flags, sameOn, header_mem_flags]
  have sameVerbose : second.verbose = first.verbose := by
    rw [Bool.eq_iff_iff, ← verbose_mem_flags, sameOn, verbose_mem_flags]
  have sameJson : second.json = first.json := by
    rw [Bool.eq_iff_iff, ← json_mem_flags, sameOn, json_mem_flags]
  cases first
  cases second
  rw [Options.mk.injEq]
  exact ⟨sameStatistic, sameResultsDir, sameExtra, sameRulesDir, sameHeader, sameVerbose, sameJson⟩

end Options

section Placement

variable {groups : List Group} {values : List Bytes}

/-- The options of a command line do not depend on where they stand in it. -/
theorem Ready.exists_options (ready : Ready groups values) :
    ∃ options, ∀ arguments, Places groups values arguments →
      parse arguments = .ok (.run options) := by
  have placed {arguments : List Bytes} (places : Places groups values arguments) :
      ∃ options, parse arguments = .ok (.run options) ∧ Describes options (parts arguments) := by
    have fits := ready.fits (places.consists ready.valid)
    obtain ⟨options, accepted⟩ := exists_run_iff_fits.2 fits
    exact ⟨options, accepted, describes_of_parse accepted⟩
  -- One placement there always is: the options in their order, then two dashes.
  have escaped : Places groups values _ := .before (.refl groups)
  obtain ⟨options, _, describes⟩ := placed escaped
  have consists := escaped.consists ready.valid
  refine ⟨options, ?_⟩
  intro arguments places
  obtain ⟨otherOptions, otherAccepted, otherDescribes⟩ := placed places
  have otherConsists := places.consists ready.valid
  have samePositionals := otherConsists.order.trans consists.order.symm
  have sameRulesDirs :=
    (ready.rulesDirs_eq otherConsists).trans (ready.rulesDirs_eq consists).symm
  have sameFlags := otherConsists.flags_perm.trans consists.flags_perm.symm
  obtain rfl := unique_of_describes describes otherDescribes samePositionals sameRulesDirs sameFlags
  exact otherAccepted

end Placement

end RuleDigest.CommandLine
