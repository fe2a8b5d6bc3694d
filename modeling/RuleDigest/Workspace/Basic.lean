import RuleDigest.Lookup
import RuleDigest.Path

/-!
A file tree with links, pipes and a null device.

Entries are kept in one list, keyed by their location: the names from the entry
up to the root, its own name first.  The directory that holds an entry is the
tail of its location, and the root, whose location is empty, is a directory that
needs no entry.
-/

namespace RuleDigest

/-- The names from an entry up to the root, its own first. -/
abbrev Location := List Bytes

/-- What stands at a location. -/
inductive Node where
  | file (content : Bytes)
  | directory
  | link (target : Bytes)
  | pipe
  /-- The device that reads as empty and keeps nothing. -/
  | null
  deriving DecidableEq, Repr

/-- A file tree and the working directory in it. -/
structure Workspace where
  /-- The entries, a directory's in its listing order. -/
  entries : List (Location × Node)
  /-- At each location stands at most one of them. -/
  distinct : (entries.map Prod.fst).Nodup
  /-- The working directory. -/
  here : Location
  deriving Repr

namespace Workspace

def node? (workspace : Workspace) : Location → Option Node
  | [] => some .directory
  | location => workspace.entries.lookup location

def names (workspace : Workspace) (directory : Location) : List Bytes :=
  workspace.entries.filterMap fun entry =>
    match entry.1 with
    | [] => none
    | name :: parent => if parent = directory then some name else none

/-- Entries with a node at a location, in place of what stood there. -/
def putEntry (entries : List (Location × Node)) (location : Location) (node : Node) :
    List (Location × Node) :=
  if (entries.lookup location).isSome then
    entries.map fun entry => if entry.1 = location then (location, node) else entry
  else entries ++ [(location, node)]

theorem putEntry_distinct {entries : List (Location × Node)}
    (distinct : (entries.map Prod.fst).Nodup) (location : Location) (node : Node) :
    ((putEntry entries location node).map Prod.fst).Nodup := by
  unfold putEntry
  split
  next present =>
    have unchanged : (entries.map fun entry =>
        if entry.1 = location then (location, node) else entry).map Prod.fst =
          entries.map Prod.fst := by
      rw [List.map_map]
      apply List.map_congr_left
      intro entry _
      by_cases here : entry.1 = location <;> simp [here]
    rw [unchanged]
    exact distinct
  next absent =>
    have fresh : ∀ entry ∈ entries, (location != entry.1) = true :=
      List.lookup_eq_none_iff.1 (Option.not_isSome_iff_eq_none.1 absent)
    rw [List.map_append]
    refine List.nodup_append.2 ⟨distinct, List.pairwise_singleton _ _, ?_⟩
    intro first membership second last same
    obtain ⟨entry, entryMembership, rfl⟩ := List.mem_map.1 membership
    have located : second = location := by simpa using last
    have differs := fresh entry entryMembership
    rw [same, located] at differs
    simp at differs

/-- Put a node at a location, in place of what stood there. -/
def put (workspace : Workspace) (location : Location) (node : Node) : Workspace :=
  { workspace with
    entries := putEntry workspace.entries location node
    distinct := putEntry_distinct workspace.distinct location node }

theorem lookup_map_replace (entries : List (Location × Node)) (location : Location) (node : Node)
    (asked : Location) :
    (entries.map fun entry => if entry.1 = location then (location, node) else entry).lookup asked =
      if asked = location then (entries.lookup location).map fun _ => node
      else entries.lookup asked := by
  induction entries with
  | nil => simp
  | cons head tail inductionHypothesis =>
      obtain ⟨key, kept⟩ := head
      by_cases here : key = location
      · subst here
        simp only [List.map_cons, if_pos, lookup_cons_ite, inductionHypothesis]
        grind
      · simp only [List.map_cons, here, if_false, lookup_cons_ite, inductionHypothesis]
        grind

/-- Putting a node somewhere changes what stands there and nothing else. -/
theorem node?_put {location : Location} (inside : location ≠ []) (workspace : Workspace)
    (node : Node) (asked : Location) :
    (workspace.put location node).node? asked =
      if asked = location then some node else workspace.node? asked := by
  cases asked with
  | nil => simp [node?, Ne.symm inside]
  | cons name parent =>
      simp only [node?, put, putEntry]
      split
      next present =>
        rw [lookup_map_replace]
        obtain ⟨old, found⟩ := Option.isSome_iff_exists.1 present
        simp [found]
      next absent =>
        have absent : workspace.entries.lookup location = none :=
          Option.not_isSome_iff_eq_none.1 absent
        rw [List.lookup_append, lookup_cons_ite]
        by_cases same : (name :: parent) = location
        · simp [same, absent]
        · simp [same]

/-- Take away an entry with everything below it. -/
def erase (workspace : Workspace) (location : Location) : Workspace :=
  { workspace with
    entries := workspace.entries.filter fun entry => !location.isSuffixOf entry.1
    distinct := (List.filter_sublist.map Prod.fst).nodup workspace.distinct }

/-- Where an entry lies after a move: what lies at the source or below it goes to
the target. -/
def moved (source target location : Location) : Location :=
  if source.isSuffixOf location then
    location.take (location.length - source.length) ++ target
  else location

/-- What is moved to a target meets nothing that did not lie at the target before. -/
theorem moved_injective {source target first second : Location}
    (firstFree : ¬ target <:+ first) (secondFree : ¬ target <:+ second)
    (same : moved source target first = moved source target second) : first = second := by
  have restored {location : Location} (below : source <:+ location) :
      location.take (location.length - source.length) ++ source = location := by
    obtain ⟨names, rfl⟩ := below
    simp
  unfold moved at same
  split at same <;> split at same
  next firstMoved secondMoved =>
    rw [List.isSuffixOf_iff_suffix] at firstMoved secondMoved
    rw [← restored firstMoved, ← restored secondMoved, List.append_cancel_right same]
  next => exact absurd (same ▸ List.suffix_append _ target) secondFree
  next => exact absurd (same ▸ List.suffix_append _ target) firstFree
  next => exact same

/-- After taking away an entry nothing lies at its location or below it. -/
theorem free_of_mem_erase {workspace : Workspace} {target : Location} {entry : Location × Node}
    (membership : entry ∈ (workspace.erase target).entries) : ¬ target <:+ entry.1 := by
  intro below
  have kept := (List.mem_filter.1 membership).2
  simp [List.isSuffixOf_iff_suffix.2 below] at kept

def moveEntries (source target : Location) (entries : List (Location × Node)) :
    List (Location × Node) :=
  entries.map fun entry => (moved source target entry.1, entry.2)

theorem moveEntries_distinct {source target : Location} {entries : List (Location × Node)}
    (free : ∀ entry ∈ entries, ¬ target <:+ entry.1)
    (distinct : (entries.map Prod.fst).Nodup) :
    ((moveEntries source target entries).map Prod.fst).Nodup := by
  unfold moveEntries
  rw [List.map_map]
  refine List.pairwise_map.2 ((List.pairwise_map.1 distinct).imp_of_mem ?_)
  intro first second firstMembership secondMembership differ same
  exact differ (moved_injective (free first firstMembership) (free second secondMembership) same)

/-- Move an entry with everything below it, in place of what stood at the target. -/
def move (workspace : Workspace) (source target : Location) : Workspace :=
  { workspace with
    entries := moveEntries source target (workspace.erase target).entries
    distinct :=
      moveEntries_distinct (fun _ => free_of_mem_erase) (workspace.erase target).distinct }

/-- An empty working directory, and the null device at its usual place. -/
def empty : Workspace :=
  let device := [Utf8.ofString "null", Utf8.ofString "dev"]
  let here := [Utf8.ofString "project", Utf8.ofString "home"]
  { entries := [(device.tail, .directory), (device, .null), (here.tail, .directory),
      (here, .directory)]
    distinct := by decide
    here }

end Workspace

end RuleDigest
