import RuleDigest.RuleSet

/-!
# What a directory lists

A walk from a directory comes by each of its names once, and a scan yields each of
its rules once.  The rules are the names of the directory that lead to regular files.
Without the check before it a walk from a file would list nothing and yet succeed.
-/

namespace RuleDigest

theorem Workspace.names_nodup (workspace : Workspace) (directory : Location) :
    (workspace.names directory).Nodup := by
  unfold names
  refine List.pairwise_filterMap.2 ((List.pairwise_map.1 workspace.distinct).imp ?_)
  intro first second differ name firstNamed other secondNamed same
  apply differ
  cases firstAt : first.1 with
  | nil =>
      rw [firstAt] at firstNamed
      cases firstNamed
  | cons firstName firstParent =>
      cases secondAt : second.1 with
      | nil =>
          rw [secondAt] at secondNamed
          cases secondNamed
      | cons secondName secondParent =>
          simp only [firstAt, Option.ite_none_right_eq_some, Option.some_inj] at firstNamed
          simp only [secondAt, Option.ite_none_right_eq_some, Option.some_inj] at secondNamed
          rw [firstNamed.1, firstNamed.2, secondNamed.1, secondNamed.2, same]

theorem Workspace.mem_names_iff {workspace : Workspace} {directory : Location} {name : Bytes} :
    name ∈ workspace.names directory ↔
      ∃ node, workspace.node? (name :: directory) = some node := by
  have listed (node : Node) : workspace.node? (name :: directory) = some node ↔
      (name :: directory, node) ∈ workspace.entries :=
    lookup_eq_some_iff_mem workspace.distinct
  simp only [listed, names, List.mem_filterMap]
  constructor
  · rintro ⟨⟨location, node⟩, membership, named⟩
    cases location with
    | nil => cases named
    | cons first parent =>
        simp only [Option.ite_none_right_eq_some, Option.some_inj] at named
        obtain ⟨rfl, rfl⟩ := named
        exact ⟨node, membership⟩
  · rintro ⟨node, membership⟩
    exact ⟨_, membership, if_pos rfl⟩

theorem Workspace.stat_eq_ok_iff {workspace : Workspace} {path : Bytes} {node : Node} :
    workspace.stat path = .ok node ↔
      ∃ location, workspace.resolve path = .ok location ∧
        workspace.node? location = some node := by
  cases resolved : workspace.resolve path with
  | error cause => simp [stat, resolved, bind, Except.bind]
  | ok location =>
      cases found : workspace.node? location with
      | none =>
          simp [stat, resolved, found, bind, Except.bind, throw, throwThe, MonadExceptOf.throw]
      | some node => simp [stat, resolved, found, bind, Except.bind, pure, Except.pure]

theorem Workspace.isDirectory_iff {workspace : Workspace} {path : Bytes} :
    workspace.isDirectory path = true ↔
      ∃ location, workspace.resolve path = .ok location ∧
        workspace.node? location = some .directory := by
  rw [← stat_eq_ok_iff]
  unfold isDirectory
  split
  next named => simp [named]
  next other => simpa using other

namespace RuleSet

/-- The directory that a path names has an entry of a name, and the path to it leads to a
regular file. -/
def HoldsRule (workspace : Workspace) (root name : Bytes) : Prop :=
  ∃ directory, workspace.resolve root = .ok directory ∧
    (∃ node, workspace.node? (name :: directory) = some node) ∧
    workspace.isFile (Path.join root name) = true

variable {workspace : Workspace} {root : Bytes} {ruleSet : RuleSet}

theorem scan_eq_ok_iff :
    scan workspace root = .ok ruleSet ↔
      ∃ names, listing workspace root = .ok names ∧
        ruleSet = ⟨root, (names.filter (isRule workspace root)).map Rule.mk⟩ := by
  unfold scan
  cases listing workspace root with
  | error error => simp [Except.map]
  | ok names => simp [Except.map, eq_comm]

theorem scan_eq_error_iff {error : ScanError} :
    scan workspace root = .error error ↔ listing workspace root = .error error := by
  unfold scan
  cases listing workspace root with
  | error other => simp [Except.map]
  | ok names => simp [Except.map]

theorem namesBelow_cons (root : Bytes) (names : List Bytes) :
    namesBelow (⟨0, root⟩ :: names.map fun name => ⟨1, name⟩) = names := by
  simp [namesBelow, List.filter_map, Function.comp_def]

/-- A walk fails right at its root. -/
theorem walk_eq_error_iff {error : WalkError} :
    walk workspace root = .error error ↔
      ∃ cause, workspace.stat root = .error cause ∧ error = ⟨0, root, cause⟩ := by
  unfold walk
  cases workspace.stat root with
  | error cause => simp [eq_comm]
  | ok node => cases node <;> simp

/-- What a walk from anything but a directory visits is not listed. -/
theorem walk_of_stat {node : Node} (named : workspace.stat root = .ok node) :
    walk workspace root =
      .ok (⟨0, root⟩ ::
        (if node = .directory then namesAt workspace root else []).map fun name => ⟨1, name⟩) := by
  unfold walk
  rw [named]
  cases node <;> rfl

theorem listing_of_error {cause : IoError} (unnamed : workspace.stat root = .error cause) :
    listing workspace root = .error (.unlistable root ⟨0, root, cause⟩) := by
  have walked := walk_eq_error_iff.2 ⟨cause, unnamed, rfl⟩
  simp [listing, Workspace.resolves, unnamed, walked, Except.isOk, Except.toBool]

theorem listing_of_directory (named : workspace.stat root = .ok .directory) :
    listing workspace root = .ok (namesAt workspace root) := by
  have walked := walk_of_stat named
  rw [if_pos rfl] at walked
  simp [listing, Workspace.isDirectory, named, walked, namesBelow_cons]

theorem listing_of_other {node : Node} (named : workspace.stat root = .ok node)
    (other : node ≠ .directory) : listing workspace root = .error (.notADirectory root) := by
  cases node with
  | directory => exact absurd rfl other
  | _ =>
      simp [listing, Workspace.resolves, Workspace.isDirectory, named, Except.isOk, Except.toBool]

theorem listing_eq_unlistable_iff {path : Bytes} {source : WalkError} :
    listing workspace root = .error (.unlistable path source) ↔
      path = root ∧ ∃ cause, workspace.stat root = .error cause ∧ source = ⟨0, root, cause⟩ := by
  cases named : workspace.stat root with
  | error cause => simp [listing_of_error named, eq_comm]
  | ok node =>
      by_cases isDirectory : node = .directory
      · subst isDirectory
        simp [listing_of_directory named]
      · simp [listing_of_other named isDirectory]

theorem listing_eq_notADirectory_iff {path : Bytes} :
    listing workspace root = .error (.notADirectory path) ↔
      path = root ∧ ∃ node, workspace.stat root = .ok node ∧ node ≠ .directory := by
  cases named : workspace.stat root with
  | error cause => simp [listing_of_error named]
  | ok node =>
      by_cases isDirectory : node = .directory
      · subst isDirectory
        simp [listing_of_directory named]
      · simp [listing_of_other named isDirectory, isDirectory, eq_comm]

theorem listing_eq_ok_iff {names : List Bytes} :
    listing workspace root = .ok names ↔
      ∃ directory, workspace.resolve root = .ok directory ∧
        workspace.node? directory = some .directory ∧ names = workspace.names directory := by
  constructor
  · intro listed
    cases named : workspace.stat root with
    | error cause =>
        rw [listing_of_error named] at listed
        cases listed
    | ok node =>
        by_cases isDirectory : node = .directory
        · subst isDirectory
          obtain ⟨directory, resolved, found⟩ := Workspace.stat_eq_ok_iff.1 named
          rw [listing_of_directory named, namesAt, resolved, Except.ok.injEq] at listed
          exact ⟨directory, resolved, found, listed.symm⟩
        · rw [listing_of_other named isDirectory] at listed
          cases listed
  · rintro ⟨directory, resolved, found, rfl⟩
    rw [listing_of_directory (Workspace.stat_eq_ok_iff.2 ⟨directory, resolved, found⟩), namesAt,
      resolved]

theorem listing_nodup {names : List Bytes} (listed : listing workspace root = .ok names) :
    names.Nodup := by
  obtain ⟨directory, _, _, rfl⟩ := listing_eq_ok_iff.1 listed
  exact workspace.names_nodup directory

/-- Exactly the directories are scanned. -/
theorem exists_scan_iff :
    (∃ ruleSet, scan workspace root = .ok ruleSet) ↔ workspace.isDirectory root = true := by
  rw [Workspace.isDirectory_iff]
  constructor
  · rintro ⟨ruleSet, scanned⟩
    obtain ⟨names, listed, _⟩ := scan_eq_ok_iff.1 scanned
    obtain ⟨directory, resolved, found, _⟩ := listing_eq_ok_iff.1 listed
    exact ⟨directory, resolved, found⟩
  · rintro ⟨directory, resolved, found⟩
    have listed := listing_eq_ok_iff.2 ⟨directory, resolved, found, rfl⟩
    exact ⟨_, scan_eq_ok_iff.2 ⟨_, listed, rfl⟩⟩

/-- A scan yields the rules that the directory holds and no others. -/
theorem mem_rules_iff (scanned : scan workspace root = .ok ruleSet) (rule : Rule) :
    rule ∈ ruleSet.rules ↔ HoldsRule workspace root rule.name := by
  obtain ⟨names, listed, rfl⟩ := scan_eq_ok_iff.1 scanned
  obtain ⟨directory, resolved, _, rfl⟩ := listing_eq_ok_iff.1 listed
  simp only [List.mem_map, List.mem_filter, Workspace.mem_names_iff]
  constructor
  · rintro ⟨name, ⟨entry, isRule⟩, rfl⟩
    exact ⟨directory, resolved, entry, isRule⟩
  · rintro ⟨other, otherResolved, entry, isFile⟩
    rw [resolved, Except.ok.injEq] at otherResolved
    subst otherResolved
    exact ⟨rule.name, ⟨entry, isFile⟩, rfl⟩

/-- A scan yields no rule twice. -/
theorem rules_nodup (scanned : scan workspace root = .ok ruleSet) : ruleSet.rules.Nodup := by
  obtain ⟨names, listed, rfl⟩ := scan_eq_ok_iff.1 scanned
  refine List.pairwise_map.2 (((listing_nodup listed).sublist List.filter_sublist).imp ?_)
  intro first second differ same
  exact differ (congrArg Rule.name same)

/-- The rules of a scan are all that the directory holds, up to their order. -/
theorem perm_rules_of_holdsRule {rules : List Rule}
    (scanned : scan workspace root = .ok ruleSet) (distinct : rules.Nodup)
    (held : ∀ rule, rule ∈ rules ↔ HoldsRule workspace root rule.name) :
    rules.Perm ruleSet.rules := by
  apply (List.perm_ext_iff_of_nodup distinct (rules_nodup scanned)).2
  intro rule
  rw [held, mem_rules_iff scanned]

end RuleSet

end RuleDigest
