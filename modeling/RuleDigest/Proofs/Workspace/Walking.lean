import RuleDigest.Workspace.Resolve

/-!
# Walks through a sound workspace

A workspace is sound if every entry lies in a directory, under a name that is one component of
a path.  A walk through it ends at an entry, or at a vacant name in a directory.
-/

namespace RuleDigest.Workspace

/-- What a path is cut into at its slashes. -/
structure IsPiece (piece : Bytes) : Prop where
  filled : piece ≠ []
  whole : slash ∉ piece
  noNul : 0 ∉ piece

/-- A name that an entry can have. -/
structure IsName (name : Bytes) : Prop extends IsPiece name where
  notDot : name ≠ Path.dot
  notDotDot : name ≠ Path.dotDot

instance (name : Bytes) : Decidable (IsName name) :=
  decidable_of_iff
    ((name ≠ [] ∧ slash ∉ name ∧ 0 ∉ name) ∧ name ≠ Path.dot ∧ name ≠ Path.dotDot)
    ⟨fun ⟨⟨filled, whole, noNul⟩, notDot, notDotDot⟩ =>
        ⟨⟨filled, whole, noNul⟩, notDot, notDotDot⟩,
      fun ⟨⟨filled, whole, noNul⟩, notDot, notDotDot⟩ =>
        ⟨⟨filled, whole, noNul⟩, notDot, notDotDot⟩⟩

/-- Entries have names and lie in directories, and links have targets that can be walked. -/
structure Sound (workspace : Workspace) : Prop where
  held : ∀ name directory node, workspace.node? (name :: directory) = some node →
    workspace.node? directory = some .directory
  named : ∀ name directory node, workspace.node? (name :: directory) = some node → IsName name
  targets : ∀ location target, workspace.node? location = some (.link target) → 0 ∉ target

/-! ## The pieces of a path -/

section Paths

variable {path piece : Bytes}

theorem of_mem_splitOnP (membership : piece ∈ path.splitOnP (· == slash)) :
    slash ∉ piece ∧ ∀ byte ∈ piece, byte ∈ path := by
  induction path generalizing piece with
  | nil =>
      obtain rfl := List.mem_singleton.1 membership
      simp
  | cons first rest inductionHypothesis =>
      rw [List.splitOnP_cons_eq_if_modifyHead] at membership
      split at membership
      · rcases List.mem_cons.1 membership with rfl | later
        · simp
        · obtain ⟨whole, inside⟩ := inductionHypothesis later
          exact ⟨whole, fun byte member => List.mem_cons_of_mem _ (inside byte member)⟩
      next notSlash =>
        obtain ⟨head, others, cut⟩ :=
          List.exists_cons_of_ne_nil (List.splitOnP_ne_nil (· == slash) rest)
        rw [cut, List.modifyHead_cons] at membership
        rw [cut] at inductionHypothesis
        rcases List.mem_cons.1 membership with rfl | later
        · obtain ⟨whole, inside⟩ := inductionHypothesis List.mem_cons_self
          have differs : slash ≠ first := by
            rintro rfl
            simp at notSlash
          refine ⟨by simp [whole, differs], ?_⟩
          intro byte member
          rcases List.mem_cons.1 member with rfl | inHead
          · exact List.mem_cons_self
          · exact List.mem_cons_of_mem _ (inside byte inHead)
        · obtain ⟨whole, inside⟩ := inductionHypothesis (List.mem_cons_of_mem _ later)
          exact ⟨whole, fun byte member => List.mem_cons_of_mem _ (inside byte member)⟩

theorem isPiece_of_mem_pieces (noNul : 0 ∉ path) (membership : piece ∈ Path.pieces path) :
    IsPiece piece := by
  obtain ⟨member, filled⟩ := List.mem_filter.1 membership
  obtain ⟨whole, inside⟩ := of_mem_splitOnP member
  refine ⟨by simpa using filled, whole, ?_⟩
  intro nul
  exact noNul (inside 0 nul)

theorem isPiece_dot : IsPiece Path.dot :=
  ⟨by decide, by decide, by decide⟩

theorem isPiece_of_mem_steps (noNul : 0 ∉ path) (membership : piece ∈ steps path) :
    IsPiece piece := by
  rcases List.mem_append.1 membership with inside | last
  · exact isPiece_of_mem_pieces noNul inside
  · split at last
    · obtain rfl := List.mem_singleton.1 last
      exact isPiece_dot
    · cases last

theorem checkPath_eq_ok_iff {done : Unit} :
    checkPath path = .ok done ↔ 0 ∉ path ∧ path ≠ [] ∧ path.length < pathLimit := by
  unfold checkPath
  split
  next nul => simp_all
  next noNul =>
    split
    next empty => simp_all
    next filled =>
      split
      next long =>
        have tooLong : ¬ path.length < pathLimit := Nat.not_lt.2 long
        simp [tooLong]
      next short =>
        have fitting : path.length < pathLimit := Nat.lt_of_not_le short
        simp_all

theorem noNul_of_checkPath (checked : (checkPath path).isOk = true) : 0 ∉ path := by
  cases outcome : checkPath path with
  | ok done => exact (checkPath_eq_ok_iff.1 outcome).1
  | error cause =>
      rw [outcome] at checked
      cases checked

end Paths

variable {workspace : Workspace} {path name : Bytes} {directory location : Location}

/-! ## Walking -/

theorem Sound.parent_isDirectory (sound : Sound workspace)
    (isDirectory : workspace.node? location = some .directory) :
    workspace.node? location.tail = some .directory := by
  cases location with
  | nil => rfl
  | cons name directory => exact sound.held name directory _ isDirectory

theorem node?_origin (isDirectory : workspace.node? directory = some .directory) :
    workspace.node? (origin path directory) = some .directory := by
  unfold origin
  split
  · rfl
  · exact isDirectory

/-- What is known of the place where a walk up to a link stops. -/
def Stop.Fits (workspace : Workspace) : Stop → Prop
  | .arrived location => ∃ node, workspace.node? location = some node
  | .absent directory name _ =>
      workspace.node? directory = some .directory ∧ workspace.node? (name :: directory) = none ∧
        IsName name
  | .link directory target rest =>
      workspace.node? directory = some .directory ∧ 0 ∉ target ∧ ∀ piece ∈ rest, IsPiece piece
  | .refused _ => True

/-- What is known of the place that a walk leads to. -/
def Place.Fits (workspace : Workspace) : Place → Prop
  | .found location => ∃ node, workspace.node? location = some node
  | .vacant directory name =>
      workspace.node? directory = some .directory ∧ workspace.node? (name :: directory) = none ∧
        IsName name

theorem Sound.fits_advance (sound : Sound workspace) {names : List Bytes}
    (pieces : ∀ piece ∈ names, IsPiece piece)
    (stands : names = [] → ∃ node, workspace.node? location = some node) :
    (workspace.advance location names).Fits workspace := by
  induction names generalizing location with
  | nil => exact stands rfl
  | cons name rest inductionHypothesis =>
      obtain ⟨isPiece, restPieces⟩ := List.forall_mem_cons.1 pieces
      unfold advance
      split
      · trivial
      next isDirectory =>
        split
        · exact inductionHypothesis restPieces fun _ => ⟨_, isDirectory⟩
        next notDot =>
          split
          · exact inductionHypothesis restPieces fun _ => ⟨_, sound.parent_isDirectory isDirectory⟩
          next notDotDot =>
            split
            · trivial
            · split
              next absent => exact ⟨isDirectory, absent, isPiece, notDot, notDotDot⟩
              next isLink => exact ⟨isDirectory, sound.targets _ _ isLink, restPieces⟩
              next found => exact inductionHypothesis restPieces fun _ => ⟨_, found⟩
      · trivial

theorem Sound.fits_walk (sound : Sound workspace) {names : List Bytes} {budget : Nat}
    {place : Place} (pieces : ∀ piece ∈ names, IsPiece piece)
    (stands : names = [] → ∃ node, workspace.node? location = some node)
    (walked : workspace.walk budget location names = .ok place) : place.Fits workspace := by
  fun_induction workspace.walk budget location names with
  | case1 budget location names found stops =>
      have fits := sound.fits_advance pieces stands
      cases walked
      rwa [stops] at fits
  | case2 budget location names directory name stops =>
      have fits := sound.fits_advance pieces stands
      cases walked
      rwa [stops] at fits
  | case3 | case4 | case5 => cases walked
  | case6 location names directory target rest stops budget inductionHypothesis =>
      have fits := sound.fits_advance pieces stands
      rw [stops] at fits
      obtain ⟨isDirectory, noNul, restPieces⟩ := fits
      apply inductionHypothesis ?_ ?_ walked
      · intro piece membership
        rcases List.mem_append.1 membership with inTarget | inRest
        · exact isPiece_of_mem_steps noNul inTarget
        · exact restPieces piece inRest
      · intro _
        exact ⟨_, node?_origin isDirectory⟩

theorem resolve_eq_ok_iff :
    workspace.resolve path = .ok location ↔
      checkPath path = .ok () ∧
        workspace.walk linkLimit (origin path workspace.here) (steps path) =
          .ok (.found location) := by
  unfold resolve
  cases checkPath path with
  | error cause => simp [bind, Except.bind]
  | ok done =>
      cases workspace.walk linkLimit (origin path workspace.here) (steps path) with
      | error cause => simp [bind, Except.bind]
      | ok place =>
          cases place with
          | found other => simp [bind, Except.bind, pure, Except.pure]
          | vacant directory name =>
              simp [bind, Except.bind, throw, throwThe, MonadExceptOf.throw]

end RuleDigest.Workspace
