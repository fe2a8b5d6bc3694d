import RuleDigest.Proofs.Workspace.Walking
import RuleDigest.Workspace.Edit

/-!
# Workspaces that edits lead to

Edits put, erase and move entries, and each of these keeps a workspace sound.  So a workspace that
edits lead to is sound.
-/

namespace RuleDigest.Workspace

variable {workspace next : Workspace} {path name : Bytes}
  {directory location source target : Location} {node : Node}

/-! ## Entries that come, go and move -/

theorem node?_cons_eq_some_iff :
    workspace.node? (name :: directory) = some node ↔
      (name :: directory, node) ∈ workspace.entries :=
  lookup_eq_some_iff_mem workspace.distinct

theorem node?_erase_iff :
    (workspace.erase location).node? (name :: directory) = some node ↔
      workspace.node? (name :: directory) = some node ∧ ¬ location <:+ name :: directory := by
  rw [node?_cons_eq_some_iff, node?_cons_eq_some_iff, erase, List.mem_filter]
  simp [← List.isSuffixOf_iff_suffix]

/-- A node in the place of none or of one that holds nothing. -/
theorem Sound.put (sound : Sound workspace) (isName : IsName name)
    (isDirectory : workspace.node? directory = some .directory)
    (free : workspace.node? (name :: directory) ≠ some .directory)
    (walkable : ∀ target, node = .link target → 0 ∉ target) :
    Sound (workspace.put (name :: directory) node) := by
  have inside : name :: directory ≠ [] := List.cons_ne_nil _ _
  refine ⟨?_, ?_, ?_⟩
  · intro other parent held found
    rw [node?_put inside] at found ⊢
    split at found
    next same =>
      cases same
      rw [if_neg (by simp)]
      exact isDirectory
    · have parentIsDirectory := sound.held _ _ _ found
      rw [if_neg]
      · exact parentIsDirectory
      · rintro rfl
        exact free parentIsDirectory
  · intro other parent held found
    rw [node?_put inside] at found
    split at found
    next same =>
      cases same
      exact isName
    · exact sound.named _ _ _ found
  · intro other target found
    rw [node?_put inside] at found
    split at found
    · exact walkable target (Option.some.inj found)
    · exact sound.targets _ _ found

theorem Sound.erase (sound : Sound workspace) (location : Location) :
    Sound (workspace.erase location) := by
  refine ⟨?_, ?_, ?_⟩
  · intro name directory node found
    obtain ⟨before, notBelow⟩ := node?_erase_iff.1 found
    have isDirectory := sound.held _ _ _ before
    cases directory with
    | nil => rfl
    | cons next parent =>
        refine node?_erase_iff.2 ⟨isDirectory, ?_⟩
        intro below
        exact notBelow (below.trans (List.suffix_cons _ _))
  · intro name directory node found
    exact sound.named _ _ _ (node?_erase_iff.1 found).1
  · intro other target found
    cases other with
    | nil => cases found
    | cons name directory => exact sound.targets _ _ (node?_erase_iff.1 found).1

/-! ### Moves -/

theorem moved_source : moved source target source = target := by
  simp [moved, List.isSuffixOf_iff_suffix]

theorem moved_cons (other : name :: directory ≠ source) :
    moved source target (name :: directory) = name :: moved source target directory := by
  have below_iff : source <:+ name :: directory ↔ source <:+ directory := by
    rw [List.suffix_cons_iff, or_iff_right (Ne.symm other)]
  simp only [moved, List.isSuffixOf_iff_suffix, below_iff]
  split
  next below =>
    have shorter := below.length_le
    rw [List.length_cons, Nat.sub_add_comm shorter, List.take_succ_cons, List.cons_append]
  · rfl

theorem moved_of_not_suffix (apart : ¬ source <:+ location) :
    moved source target location = location :=
  if_neg (by rwa [List.isSuffixOf_iff_suffix])

theorem node?_move_iff (notRoot : source ≠ []) :
    (workspace.move source target).node? (name :: directory) = some node ↔
      ∃ first parent, workspace.node? (first :: parent) = some node ∧
        ¬ target <:+ first :: parent ∧
        moved source target (first :: parent) = name :: directory := by
  have entries : (workspace.move source target).entries =
      (workspace.erase target).entries.map fun entry => (moved source target entry.1, entry.2) := rfl
  rw [node?_cons_eq_some_iff, entries, List.mem_map]
  constructor
  · rintro ⟨⟨location, kept⟩, membership, same⟩
    obtain ⟨lies, rfl⟩ := Prod.mk.inj same
    cases location with
    | nil =>
        rw [moved_of_not_suffix (fun below => notRoot (List.suffix_nil.1 below))] at lies
        cases lies
    | cons first parent =>
        obtain ⟨before, free⟩ := node?_erase_iff.1 (node?_cons_eq_some_iff.2 membership)
        exact ⟨first, parent, before, free, lies⟩
  · rintro ⟨first, parent, before, free, lies⟩
    refine ⟨(first :: parent, node), ?_, by rw [lies]⟩
    exact node?_cons_eq_some_iff.1 (node?_erase_iff.2 ⟨before, free⟩)

/-- A directory that is not replaced is still one after a move. -/
theorem node?_move_of_isDirectory (notRoot : source ≠ [])
    (isDirectory : workspace.node? location = some .directory)
    (free : ¬ name :: directory <:+ location) :
    (workspace.move source (name :: directory)).node?
      (moved source (name :: directory) location) = some .directory := by
  cases location with
  | nil =>
      rw [moved_of_not_suffix fun below => notRoot (List.suffix_nil.1 below)]
      rfl
  | cons first parent =>
      by_cases here : first :: parent = source
      · rw [here, moved_source]
        exact (node?_move_iff notRoot).2
          ⟨first, parent, isDirectory, free, by rw [here, moved_source]⟩
      · rw [moved_cons here]
        exact (node?_move_iff notRoot).2 ⟨first, parent, isDirectory, free, moved_cons here⟩

theorem Sound.move (sound : Sound workspace) (isName : IsName name)
    (isDirectory : workspace.node? directory = some .directory)
    (outside : ¬ source <:+ name :: directory) :
    Sound (workspace.move source (name :: directory)) := by
  have notRoot : source ≠ [] := by
    rintro rfl
    exact outside List.nil_suffix
  refine ⟨?_, ?_, ?_⟩
  · intro other parent node found
    obtain ⟨first, above, before, free, lies⟩ := (node?_move_iff notRoot).1 found
    by_cases here : first :: above = source
    · rw [here, moved_source] at lies
      cases lies
      have apart : ¬ source <:+ directory := by
        intro below
        exact outside (below.trans (List.suffix_cons _ _))
      have shorter : ¬ name :: directory <:+ directory := by
        intro below
        exact absurd below.length_le (by simp)
      have stays := node?_move_of_isDirectory notRoot isDirectory shorter
      rwa [moved_of_not_suffix apart] at stays
    · rw [moved_cons here] at lies
      cases lies
      apply node?_move_of_isDirectory notRoot (sound.held _ _ _ before)
      intro below
      exact free (below.trans (List.suffix_cons _ _))
  · intro other parent node found
    obtain ⟨first, above, before, _, lies⟩ := (node?_move_iff notRoot).1 found
    by_cases here : first :: above = source
    · rw [here, moved_source] at lies
      cases lies
      exact isName
    · rw [moved_cons here] at lies
      cases lies
      exact sound.named _ _ _ before
  · intro location target found
    cases location with
    | nil => cases found
    | cons other parent =>
        obtain ⟨first, above, before, _, _⟩ := (node?_move_iff notRoot).1 found
        exact sound.targets _ _ before

/-! ## Edits -/

theorem of_split? {way : List Bytes} (split : split? path = some (way, name)) :
    (∀ piece ∈ way, IsPiece piece) ∧ IsPiece name := by
  unfold split? at split
  split at split
  next checked =>
    obtain ⟨last, isLast, same⟩ := Option.map_eq_some_iff.1 split
    cases same
    have noNul := noNul_of_checkPath checked
    constructor
    · intro piece membership
      exact isPiece_of_mem_pieces noNul (List.dropLast_subset _ membership)
    · exact isPiece_of_mem_pieces noNul (List.mem_of_mem_getLast? isLast)
  · cases split

theorem Sound.enter (sound : Sound workspace) (isPiece : IsPiece name)
    (entered : workspace.enter directory name = some (next, location)) : Sound next := by
  unfold Workspace.enter at entered
  split at entered
  · cases entered
    exact sound
  next walked =>
    cases entered
    obtain ⟨isDirectory, absent, isName⟩ :=
      sound.fits_walk (List.forall_mem_singleton.2 isPiece) (by simp) walked
    apply sound.put isName isDirectory
    · simp [absent]
    · intro target isLink
      cases isLink
  · cases entered

theorem Sound.enterAll (sound : Sound workspace) {way : List Bytes}
    (pieces : ∀ piece ∈ way, IsPiece piece)
    (entered : workspace.enterAll directory way = some (next, location)) : Sound next := by
  induction way generalizing workspace directory with
  | nil =>
      cases entered
      exact sound
  | cons name rest inductionHypothesis =>
      obtain ⟨isPiece, restPieces⟩ := List.forall_mem_cons.1 pieces
      unfold Workspace.enterAll at entered
      split at entered
      next stepped => exact inductionHypothesis (sound.enter isPiece stepped) restPieces entered
      · cases entered

theorem Sound.provide (sound : Sound workspace)
    (provided : workspace.provide path = some (next, directory, name)) :
    Sound next ∧ IsPiece name := by
  unfold Workspace.provide at provided
  obtain ⟨⟨way, last⟩, split, provided⟩ := Option.bind_eq_some_iff.1 provided
  obtain ⟨⟨made, reached⟩, entered, same⟩ := Option.bind_eq_some_iff.1 provided
  cases same
  obtain ⟨pieces, isPiece⟩ := of_split? split
  exact ⟨sound.enterAll pieces entered, isPiece⟩

/-- What one name in a directory can lead to. -/
theorem advance_singleton (workspace : Workspace) (directory : Location) (name : Bytes) :
    workspace.advance directory [name] = .absent directory name [] ∨
      (∃ target, workspace.advance directory [name] = .link directory target [] ∧
        workspace.node? (name :: directory) = some (.link target)) ∨
      (∃ location, workspace.advance directory [name] = .arrived location) ∨
      ∃ error, workspace.advance directory [name] = .refused error := by
  unfold advance
  split
  · exact .inr (.inr (.inr ⟨_, rfl⟩))
  · split
    · exact .inr (.inr (.inl ⟨_, rfl⟩))
    · split
      · exact .inr (.inr (.inl ⟨_, rfl⟩))
      · split
        · exact .inr (.inr (.inr ⟨_, rfl⟩))
        · split
          · exact .inl rfl
          next isLink => exact .inr (.inl ⟨_, rfl, isLink⟩)
          · exact .inr (.inr (.inl ⟨_, rfl⟩))
  · exact .inr (.inr (.inr ⟨_, rfl⟩))

theorem create_eq_some_iff :
    workspace.create directory name node = some next ↔
      workspace.advance directory [name] = .absent directory name [] ∧
        workspace.put (name :: directory) node = next := by
  unfold create
  rcases workspace.advance_singleton directory name with stops | ⟨_, stops, _⟩ | ⟨_, stops⟩ |
    ⟨_, stops⟩
  · simp [stops]
  · simp [stops]
  · simp [stops]
  · simp [stops]

theorem Sound.fits_advance_singleton (sound : Sound workspace) (isPiece : IsPiece name)
    (directory : Location) : (workspace.advance directory [name]).Fits workspace :=
  sound.fits_advance (List.forall_mem_singleton.2 isPiece) fun none =>
    absurd none (List.cons_ne_nil _ _)

theorem Sound.create (sound : Sound workspace) (isPiece : IsPiece name)
    (walkable : ∀ target, node = .link target → 0 ∉ target)
    (created : workspace.create directory name node = some next) : Sound next := by
  obtain ⟨stops, rfl⟩ := create_eq_some_iff.1 created
  have fits := sound.fits_advance_singleton isPiece directory
  rw [stops] at fits
  obtain ⟨isDirectory, absent, isName⟩ := fits
  exact sound.put isName isDirectory (by simp [absent]) walkable

theorem Sound.store (sound : Sound workspace) (isPiece : IsPiece name) {content : Bytes}
    (stored : workspace.store directory name content = some next) : Sound next := by
  have isFile : ∀ target, Node.file content = .link target → 0 ∉ target := by
    intro target isLink
    cases isLink
  unfold Workspace.store at stored
  split at stored
  next walked =>
    cases stored
    obtain ⟨isDirectory, absent, isName⟩ :=
      sound.fits_walk (List.forall_mem_singleton.2 isPiece) (by simp) walked
    exact sound.put isName isDirectory (by simp [absent]) isFile
  next location walked =>
    split at stored
    next found =>
      cases stored
      cases location with
      | nil => cases found
      | cons last parent =>
          exact sound.put (sound.named _ _ _ found) (sound.held _ _ _ found) (by simp [found]) isFile
    · cases stored
      exact sound
    · cases stored
  · cases stored

theorem Sound.place? (sound : Sound workspace) {place : Place}
    (placed : workspace.place? path = some place) :
    ∃ name directory, place.location = name :: directory ∧ IsName name ∧
      workspace.node? directory = some .directory := by
  unfold Workspace.place? at placed
  obtain ⟨⟨way, last⟩, split, placed⟩ := Option.bind_eq_some_iff.1 placed
  dsimp only at placed
  split at placed
  next directory walked =>
    have fits := sound.fits_advance_singleton (of_split? split).2 directory
    rcases workspace.advance_singleton directory last with stops | ⟨_, stops, isLink⟩ |
      ⟨_, stops⟩ | ⟨_, stops⟩
    · simp only [stops] at placed
      cases placed
      rw [stops] at fits
      obtain ⟨isDirectory, _, isName⟩ := fits
      exact ⟨_, _, rfl, isName, isDirectory⟩
    · simp only [stops] at placed
      cases placed
      exact ⟨_, _, rfl, sound.named _ _ _ isLink, sound.held _ _ _ isLink⟩
    · simp only [stops] at placed
      split at placed
      next same =>
        cases placed
        rw [stops, same] at fits
        obtain ⟨node, found⟩ := fits
        exact ⟨_, _, same, sound.named _ _ _ found, sound.held _ _ _ found⟩
      · cases placed
    · simp only [stops] at placed
      cases placed
  · cases placed

theorem Sound.afterEdit? (sound : Sound workspace) {edit : Edit}
    (edits : workspace.afterEdit? edit = some next) : Sound next := by
  cases edit with
  | write path content =>
      obtain ⟨⟨made, directory, name⟩, provided, stored⟩ := Option.bind_eq_some_iff.1 edits
      obtain ⟨madeSound, isPiece⟩ := sound.provide provided
      exact madeSound.store isPiece stored
  | makeDirectory path =>
      obtain ⟨⟨made, directory, name⟩, provided, edits⟩ := Option.bind_eq_some_iff.1 edits
      obtain ⟨⟨entered, _⟩, enters, same⟩ := Option.bind_eq_some_iff.1 edits
      cases same
      obtain ⟨madeSound, isPiece⟩ := sound.provide provided
      exact madeSound.enter isPiece enters
  | makeLink target path =>
      obtain ⟨_, guarded, edits⟩ := Option.bind_eq_some_iff.1 edits
      obtain ⟨⟨made, directory, name⟩, provided, created⟩ := Option.bind_eq_some_iff.1 edits
      obtain ⟨madeSound, isPiece⟩ := sound.provide provided
      apply madeSound.create isPiece ?_ created
      intro other isLink
      cases isLink
      cases checked : (checkPath target).isOk with
      | true => exact noNul_of_checkPath checked
      | false =>
          rw [checked] at guarded
          cases guarded
  | makePipe path =>
      obtain ⟨⟨made, directory, name⟩, provided, created⟩ := Option.bind_eq_some_iff.1 edits
      obtain ⟨madeSound, isPiece⟩ := sound.provide provided
      apply madeSound.create isPiece ?_ created
      intro target isLink
      cases isLink
  | remove path =>
      simp only [Workspace.afterEdit?] at edits
      split at edits
      · cases edits
        exact sound.erase _
      · cases edits
  | rename path target =>
      simp only [Workspace.afterEdit?] at edits
      split at edits
      next source place placed targetPlaced =>
        obtain ⟨name, directory, located, isName, isDirectory⟩ := sound.place? targetPlaced
        rw [located, relocate] at edits
        split at edits
        · cases edits
        next apart =>
          split at edits
          · cases edits
            apply sound.move isName isDirectory
            intro below
            simp [List.isSuffixOf_iff_suffix.2 below] at apart
          · cases edits
      · cases edits

/-! ## The workspaces that edits lead to -/

theorem empty_sound : Sound empty := by
  have parents : ∀ entry ∈ empty.entries, empty.node? entry.1.tail = some .directory := by decide
  have names : ∀ entry ∈ empty.entries, ∀ name ∈ entry.1.head?, IsName name := by decide
  have plain : ∀ entry ∈ empty.entries, entry.2 = .directory ∨ entry.2 = .null := by decide
  refine ⟨?_, ?_, ?_⟩
  · intro name directory node found
    exact parents _ (node?_cons_eq_some_iff.1 found)
  · intro name directory node found
    exact names _ (node?_cons_eq_some_iff.1 found) name rfl
  · intro location target found
    cases location with
    | nil => cases found
    | cons name directory =>
        rcases plain _ (node?_cons_eq_some_iff.1 found) with isDirectory | isNull
        · cases isDirectory
        · cases isNull

theorem Reachable.sound (reachable : Reachable workspace) : Sound workspace := by
  induction reachable with
  | empty => exact empty_sound
  | edit _ edits inductionHypothesis => exact inductionHypothesis.afterEdit? edits

theorem Reachable.edited (reachable : Reachable workspace) (edit : Edit) :
    Reachable (workspace.edited edit) := by
  unfold Workspace.edited
  cases edits : workspace.afterEdit? edit with
  | none => exact reachable
  | some next => exact .edit reachable edits

theorem Reachable.foldl_edited (reachable : Reachable workspace) (edits : List Edit) :
    Reachable (edits.foldl Workspace.edited workspace) := by
  induction edits generalizing workspace with
  | nil => exact reachable
  | cons edit rest inductionHypothesis => exact inductionHypothesis (reachable.edited edit)

end RuleDigest.Workspace
