import Mathlib.Data.List.Nodup
import RuleDigest.Lookup
import RuleDigest.Toml.Document

/-!
# Keys of a document

No statement of a document defines a key of the table a second time, so each key of what
a document defines has one value.  Assignments to keys that all differ define what they assign.
-/

namespace RuleDigest.Toml

namespace Entries

def Distinct (entries : Entries) : Prop :=
  (entries.map Prod.fst).Nodup

variable {entries result : Entries}

theorem lookup_eq_none_iff {name : Text} :
    entries.lookup name = none ↔ name ∉ entries.map Prod.fst := by
  rw [List.lookup_eq_none_iff, List.mem_map]
  constructor
  · rintro differs ⟨entry, membership, rfl⟩
    simpa using differs entry membership
  · intro absent entry membership
    rw [bne_iff_ne]
    rintro rfl
    exact absent ⟨entry, membership, rfl⟩

theorem Distinct.append {name : Text} (distinct : entries.Distinct)
    (fresh : entries.lookup name = none) (value : Value) :
    Distinct (entries ++ [(name, value)]) := by
  unfold Distinct at distinct ⊢
  rw [List.map_append, List.map_singleton]
  apply distinct.append (List.nodup_singleton name)
  rw [List.disjoint_singleton]
  exact lookup_eq_none_iff.1 fresh

theorem Distinct.set (distinct : entries.Distinct) (name : Text) (value : Value) :
    Distinct (entries.set name value) := by
  have sameKeys : (entries.set name value).map Prod.fst = entries.map Prod.fst := by
    unfold Entries.set
    rw [List.map_map]
    apply List.map_congr_left
    intro entry _
    by_cases same : entry.1 = name
    · simp [same]
    · simp [same]
  unfold Distinct
  rwa [sameKeys]

theorem Distinct.assign {key : Key} {value : Value} (distinct : entries.Distinct)
    (assigned : entries.assign key value = some result) : result.Distinct := by
  unfold Entries.assign at assigned
  split at assigned
  · cases assigned
  next name =>
    split at assigned
    · cases assigned
    next fresh =>
      cases assigned
      exact distinct.append (Option.not_isSome_iff_eq_none.1 fresh) value
  next name rest _ =>
    split at assigned
    next fresh =>
      obtain ⟨inner, _, rfl⟩ := Option.map_eq_some_iff.1 assigned
      exact distinct.append fresh _
    next origin inner _ =>
      split at assigned
      · cases assigned
      · obtain ⟨changed, _, rfl⟩ := Option.map_eq_some_iff.1 assigned
        exact distinct.set _ _
    next elements _ =>
      split at assigned
      · obtain ⟨changed, _, rfl⟩ := Option.map_eq_some_iff.1 assigned
        exact distinct.set _ _
      · cases assigned
    · cases assigned

theorem Distinct.openTable {name : Text} (distinct : entries.Distinct)
    (opened : openTable name entries = some result) : result.Distinct := by
  unfold Entries.openTable at opened
  split at opened
  next fresh =>
    cases opened
    exact distinct.append fresh _
  · cases opened
    exact distinct.set _ _
  · cases opened

theorem Distinct.openElement {name : Text} (distinct : entries.Distinct)
    (opened : openElement name entries = some result) : result.Distinct := by
  unfold Entries.openElement at opened
  split at opened
  next fresh =>
    cases opened
    exact distinct.append fresh _
  · cases opened
    exact distinct.set _ _
  · cases opened

/-- A change further down leaves the keys of the table as they are or adds the first part of
the way there. -/
theorem Distinct.within {change : Entries → Option Entries} {key : Key}
    (keeps : ∀ {before after : Entries}, before.Distinct → change before = some after →
      after.Distinct)
    (distinct : entries.Distinct) (changed : within change entries key = some result) :
    result.Distinct := by
  unfold Entries.within at changed
  split at changed
  · exact keeps distinct changed
  next name rest =>
    split at changed
    next fresh =>
      obtain ⟨inner, _, rfl⟩ := Option.map_eq_some_iff.1 changed
      exact distinct.append fresh _
    next origin inner _ =>
      obtain ⟨inner, _, rfl⟩ := Option.map_eq_some_iff.1 changed
      exact distinct.set _ _
    next elements _ =>
      split at changed
      · cases changed
      · obtain ⟨last, _, rfl⟩ := Option.map_eq_some_iff.1 changed
        exact distinct.set _ _
    · cases changed

end Entries

section Drafts

variable {draft result : Draft}

theorem Draft.openAt_distinct {opening : Text → Entries → Option Entries} {key : Key}
    (keeps : ∀ {name : Text} {before after : Entries}, before.Distinct →
      opening name before = some after → after.Distinct)
    (distinct : draft.entries.Distinct)
    (opened : Draft.add.openAt draft opening key = some result) :
    result.entries.Distinct := by
  unfold Draft.add.openAt at opened
  split at opened
  · cases opened
  · obtain ⟨entries, changed, rfl⟩ := Option.map_eq_some_iff.1 opened
    exact distinct.within keeps changed

theorem Draft.add_distinct {statement : Statement} (distinct : draft.entries.Distinct)
    (added : draft.add statement = some result) : result.entries.Distinct := by
  cases statement with
  | assign key value =>
      obtain ⟨entries, changed, rfl⟩ := Option.map_eq_some_iff.1 added
      exact distinct.within Entries.Distinct.assign changed
  | table key => exact Draft.openAt_distinct Entries.Distinct.openTable distinct added
  | element key => exact Draft.openAt_distinct Entries.Distinct.openElement distinct added

theorem foldlM_add_distinct {statements : List Statement} (distinct : draft.entries.Distinct)
    (added : statements.foldlM Draft.add draft = some result) : result.entries.Distinct := by
  induction statements generalizing draft with
  | nil =>
      cases added
      exact distinct
  | cons statement rest inductionHypothesis =>
      rw [List.foldlM_cons] at added
      obtain ⟨middle, first, others⟩ := Option.bind_eq_some_iff.1 added
      exact inductionHypothesis (Draft.add_distinct distinct first) others

end Drafts

/-! ## Assignments alone -/

/-- The assignment of a value to a key of the table itself. -/
def Statement.ofEntry (entry : Text × Value) : Statement :=
  .assign [entry.1] entry.2

section Assignments

variable {entries : Entries}

theorem Draft.add_ofEntry {entry : Text × Value} (fresh : entries.lookup entry.1 = none) :
    Draft.add ⟨entries, []⟩ (.ofEntry entry) = some ⟨entries ++ [entry], []⟩ := by
  simp only [Draft.add, Statement.ofEntry, Entries.within, Entries.assign, fresh]
  rfl

/-- Each assignment to a new key adds an entry. -/
theorem foldlM_add_ofEntry {done : Entries} (distinct : Entries.Distinct (done ++ entries)) :
    (entries.map Statement.ofEntry).foldlM Draft.add ⟨done, []⟩ = some ⟨done ++ entries, []⟩ := by
  induction entries generalizing done with
  | nil =>
      rw [List.append_nil]
      rfl
  | cons entry rest inductionHypothesis =>
      have fresh : done.lookup entry.1 = none := by
        rw [Entries.lookup_eq_none_iff]
        intro earlier
        unfold Entries.Distinct at distinct
        rw [List.map_append, List.nodup_append] at distinct
        exact distinct.2.2 entry.1 earlier entry.1 (by simp) rfl
      rw [List.append_cons] at distinct ⊢
      rw [List.map_cons, List.foldlM_cons, Draft.add_ofEntry fresh]
      exact inductionHypothesis distinct

theorem define?_map_ofEntry (distinct : entries.Distinct) :
    define? (entries.map Statement.ofEntry) = some entries := by
  have folded := @foldlM_add_ofEntry entries [] distinct
  rw [define?, folded]
  rfl

end Assignments

theorem distinct_of_read? {document : Text} {entries : Entries}
    (read : read? document = some entries) : entries.Distinct := by
  obtain ⟨statements, _, defined⟩ := Option.bind_eq_some_iff.1 read
  obtain ⟨draft, added, rfl⟩ := Option.map_eq_some_iff.1 defined
  have start : Entries.Distinct [] := List.nodup_nil
  exact foldlM_add_distinct start added

end RuleDigest.Toml
