import RuleDigest.Proofs.RuleSet.Listing
import RuleDigest.Proofs.Workspace.Reachability

/-!
# What a scan finds

A scan of a path ends in one of three ways, as the path leads to a directory, to something else
or nowhere.  In a workspace that edits lead to these are all there are, since a walk that arrives
somewhere arrives at an entry.
-/

namespace RuleDigest

namespace Workspace

variable {workspace : Workspace} {path : Bytes}

theorem isFile_iff :
    workspace.isFile path = true ↔ ∃ content, workspace.stat path = .ok (.file content) := by
  unfold isFile
  split
  next content named => simp [named]
  next other =>
    simp only [Bool.false_eq_true, false_iff, not_exists]
    exact other

theorem isDirectory_iff_stat :
    workspace.isDirectory path = true ↔ workspace.stat path = .ok .directory := by
  rw [isDirectory_iff, stat_eq_ok_iff]

/-- A path that is empty, too long or holds a NUL leads nowhere. -/
theorem stat_eq_error_of_malformed (malformed : path = [] ∨ pathLimit ≤ path.length ∨ 0 ∈ path) :
    ∃ cause, workspace.stat path = .error cause := by
  cases named : workspace.stat path with
  | error cause => exact ⟨cause, rfl⟩
  | ok node =>
      obtain ⟨location, resolved, _⟩ := stat_eq_ok_iff.1 named
      obtain ⟨checked, _⟩ := resolve_eq_ok_iff.1 resolved
      obtain ⟨noNul, filled, fitting⟩ := checkPath_eq_ok_iff.1 checked
      rcases malformed with empty | long | nul
      · exact absurd empty filled
      · exact absurd fitting (Nat.not_lt.2 long)
      · exact absurd nul noNul

end Workspace

namespace RuleSet

open Workspace (Sound Reachable IsName)

variable {workspace : Workspace} {root path name : Bytes} {ruleSet : RuleSet}

/-- Every name that a directory lists is a single component of a path, and none of them comes from
below one of its own directories. -/
theorem isName_of_mem_rules (sound : Sound workspace) (scanned : scan workspace root = .ok ruleSet)
    {rule : Rule} (membership : rule ∈ ruleSet.rules) : IsName rule.name := by
  obtain ⟨directory, _, ⟨node, found⟩, _⟩ := (mem_rules_iff scanned rule).1 membership
  exact sound.named _ _ _ found

theorem mem_names_iff (scanned : scan workspace root = .ok ruleSet) {directory : Location}
    (resolved : workspace.resolve root = .ok directory) :
    name ∈ ruleSet.rules.map Rule.name ↔
      (∃ node, workspace.node? (name :: directory) = some node) ∧
        workspace.isFile (Path.join root name) = true := by
  constructor
  · intro membership
    obtain ⟨rule, isRule, rfl⟩ := List.mem_map.1 membership
    obtain ⟨other, otherResolved, holds⟩ := (mem_rules_iff scanned rule).1 isRule
    rw [resolved, Except.ok.injEq] at otherResolved
    subst otherResolved
    exact holds
  · intro holds
    exact List.mem_map.2 ⟨⟨name⟩, (mem_rules_iff scanned ⟨name⟩).2 ⟨directory, resolved, holds⟩, rfl⟩

theorem names_nodup (scanned : scan workspace root = .ok ruleSet) :
    (ruleSet.rules.map Rule.name).Nodup := by
  obtain ⟨names, listed, rfl⟩ := scan_eq_ok_iff.1 scanned
  simpa [Function.comp_def] using (listing_nodup listed).sublist List.filter_sublist

/-- A path is scanned exactly if it leads to a directory.  It is refused as no directory exactly
if it leads to something else, and as unlistable exactly if it leads nowhere, at depth 0 and for
the reason for which it does.  The rules found are the names in the directory from which the path
leads on to a regular file, each of them once. -/
theorem scan_finds_exactly_the_rules (reachable : Reachable workspace) (root : Bytes) :
    let scanned := scan workspace root
    ((∃ ruleSet, scanned = .ok ruleSet) ↔ workspace.stat root = .ok .directory) ∧
      (∀ path, scanned = .error (.notADirectory path) ↔
        path = root ∧ ∃ node, workspace.stat root = .ok node ∧ node ≠ .directory) ∧
      (∀ path source, scanned = .error (.unlistable path source) ↔
        path = root ∧ source.depth = 0 ∧ source.path = root ∧
          workspace.stat root = .error source.cause) ∧
      (root = [] ∨ Workspace.pathLimit ≤ root.length ∨ 0 ∈ root →
        ∃ cause, workspace.stat root = .error cause) ∧
      ∀ ruleSet, scanned = .ok ruleSet →
        ruleSet.root = root ∧ (ruleSet.rules.map Rule.name).Nodup ∧
          (∃ directory, workspace.resolve root = .ok directory ∧
            ∀ name, name ∈ ruleSet.rules.map Rule.name ↔
              (∃ node, workspace.node? (name :: directory) = some node) ∧
                ∃ content, workspace.stat (Path.join root name) = .ok (.file content)) ∧
          ∀ rule ∈ ruleSet.rules, IsName rule.name := by
  intro scanned
  have sound := reachable.sound
  refine ⟨?_, ?_, ?_, Workspace.stat_eq_error_of_malformed, ?_⟩
  · rw [← Workspace.isDirectory_iff_stat]
    exact exists_scan_iff
  · intro path
    rw [← listing_eq_notADirectory_iff]
    exact scan_eq_error_iff
  · rintro path ⟨depth, place, cause⟩
    rw [scan_eq_error_iff, listing_eq_unlistable_iff]
    constructor
    · rintro ⟨rfl, other, unnamed, same⟩
      cases same
      exact ⟨rfl, rfl, rfl, unnamed⟩
    · rintro ⟨rfl, rfl, rfl, unnamed⟩
      exact ⟨rfl, cause, unnamed, rfl⟩
  · intro ruleSet found
    refine ⟨?_, names_nodup found, ?_, fun rule => isName_of_mem_rules sound found⟩
    · obtain ⟨_, _, rfl⟩ := scan_eq_ok_iff.1 found
      rfl
    · obtain ⟨names, listed, _⟩ := scan_eq_ok_iff.1 found
      obtain ⟨directory, resolved, _⟩ := listing_eq_ok_iff.1 listed
      refine ⟨directory, resolved, ?_⟩
      intro name
      rw [← Workspace.isFile_iff]
      exact mem_names_iff found resolved

/-- A rules directory with a rule, a link to it, a dangling link, a link to itself, a pipe and a
subdirectory. -/
def crowded : Workspace :=
  [Edit.write (Utf8.ofString "Q/a") [], .write (Utf8.ofString "Q/sub/b") [],
    .makeLink (Utf8.ofString "a") (Utf8.ofString "Q/link"),
    .makeLink (Utf8.ofString "nowhere") (Utf8.ofString "Q/dangling"),
    .makeLink (Utf8.ofString "loop") (Utf8.ofString "Q/loop"),
    .makePipe (Utf8.ofString "Q/pipe")].foldl Workspace.edited .empty

theorem scan_finds_exactly_the_rules_crowded :
    Reachable crowded ∧
      scan crowded (Utf8.ofString "Q") =
        .ok ⟨Utf8.ofString "Q", [⟨Utf8.ofString "a"⟩, ⟨Utf8.ofString "link"⟩]⟩ ∧
      (∀ name, name ∈ [Utf8.ofString "a", Utf8.ofString "link"] ↔
        (∃ node, crowded.node? (name :: Utf8.ofString "Q" :: crowded.here) = some node) ∧
          ∃ content, crowded.stat (Path.join (Utf8.ofString "Q") name) = .ok (.file content)) ∧
      scan crowded (Utf8.ofString "Q/a") = .error (.notADirectory (Utf8.ofString "Q/a")) ∧
      scan crowded (Utf8.ofString "Q/loop") =
        .error (.unlistable (Utf8.ofString "Q/loop") ⟨0, Utf8.ofString "Q/loop", .linkLoop⟩) ∧
      scan crowded (Utf8.ofString "Q/a/b") =
        .error (.unlistable (Utf8.ofString "Q/a/b")
          ⟨0, Utf8.ofString "Q/a/b", .notADirectory⟩) := by
  have reachable : Reachable crowded := .foldl_edited .empty _
  have found : scan crowded (Utf8.ofString "Q") =
      .ok ⟨Utf8.ofString "Q", [⟨Utf8.ofString "a"⟩, ⟨Utf8.ofString "link"⟩]⟩ := rfl
  refine ⟨reachable, found, ?_, ?_, ?_, ?_⟩
  · obtain ⟨_, _, ⟨directory, resolved, mem_iff⟩, _⟩ :=
      (scan_finds_exactly_the_rules reachable (Utf8.ofString "Q")).2.2.2.2 _ found
    have here : crowded.resolve (Utf8.ofString "Q") =
        .ok (Utf8.ofString "Q" :: crowded.here) := rfl
    rw [here, Except.ok.injEq] at resolved
    subst resolved
    exact mem_iff
  · refine ((scan_finds_exactly_the_rules reachable _).2.1 _).2 ⟨rfl, .file [], rfl, ?_⟩
    exact Node.noConfusion
  · exact ((scan_finds_exactly_the_rules reachable _).2.2.1 _ _).2 ⟨rfl, rfl, rfl, rfl⟩
  · exact ((scan_finds_exactly_the_rules reachable _).2.2.1 _ _).2 ⟨rfl, rfl, rfl, rfl⟩

end RuleSet

end RuleDigest
