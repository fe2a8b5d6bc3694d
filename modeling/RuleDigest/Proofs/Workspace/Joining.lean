import RuleDigest.Proofs.Workspace.Walking

/-!
# The path of a name in a directory

A name that is one component of a path is joined to the path of a directory as its last
component.  The joined path is walked as that of the directory is, and from there on by the name
alone, so that it leads to the entry of this name in the directory.
-/

namespace RuleDigest

open Workspace (IsPiece IsName)

namespace Path

variable {directory name : Bytes}

theorem isAbsolute_of_isPiece (isPiece : IsPiece name) : isAbsolute name = false := by
  cases name with
  | nil => rfl
  | cons first rest =>
      have differs : first ≠ slash := by
        rintro rfl
        exact isPiece.whole List.mem_cons_self
      simpa [isAbsolute] using differs

theorem isAbsolute_append (filled : directory ≠ []) (more : Bytes) :
    isAbsolute (directory ++ more) = isAbsolute directory := by
  cases directory with
  | nil => exact absurd rfl filled
  | cons first rest => rfl

theorem join_eq_append (relative : isAbsolute name = false) (filled : directory ≠ []) :
    join directory name =
      directory ++ (if directory.getLast? = some slash then [] else [slash]) ++ name := by
  have notEmpty : directory.isEmpty = false := by simpa using filled
  simp only [join, relative, notEmpty, Bool.false_eq_true, if_false, Bool.false_or, beq_iff_eq]
  split
  · rw [List.append_nil]
  · rw [List.append_assoc, List.singleton_append]

/-- Everything about the pieces of a joined path follows from this one equation. -/
theorem pieces_append_slash (first second : Bytes) :
    pieces (first ++ slash :: second) = pieces first ++ pieces second := by
  unfold pieces
  rw [List.splitOnP_append_cons first second (by simp), List.filter_append]

theorem pieces_of_isPiece (isPiece : IsPiece name) : pieces name = [name] := by
  have whole : ∀ byte ∈ name, (byte == slash) = false := by
    intro byte membership
    rw [beq_eq_false_iff_ne]
    rintro rfl
    exact isPiece.whole membership
  rw [pieces, List.splitOnP_eq_singleton whole]
  simp [isPiece.filled]

theorem pieces_join (isPiece : IsPiece name) (filled : directory ≠ []) :
    pieces (join directory name) = pieces directory ++ [name] := by
  rw [join_eq_append (isAbsolute_of_isPiece isPiece) filled]
  split
  next last =>
    obtain ⟨front, rfl⟩ := List.getLast?_eq_some_iff.1 last
    have noMore : pieces [] = [] := rfl
    rw [List.append_nil, List.append_assoc, List.singleton_append, pieces_append_slash,
      pieces_append_slash, noMore, List.append_nil, pieces_of_isPiece isPiece]
  next =>
    rw [List.append_assoc, List.singleton_append, pieces_append_slash, pieces_of_isPiece isPiece]

/-- A path leads into a folder, to a name that stands right there. -/
structure Enters (folder name path : Bytes) : Prop where
  spelled : path = folder ++ (if folder.getLast? = some slash then [] else [slash]) ++ name
  sameStart : isAbsolute path = isAbsolute folder
  components : components path = components folder ++ [name]

theorem enters_join (isName : IsName name) (filled : directory ≠ []) :
    Enters directory name (join directory name) := by
  have isPiece := isName.toIsPiece
  have spelled := join_eq_append (isAbsolute_of_isPiece isPiece) filled
  have sameStart : isAbsolute (join directory name) = isAbsolute directory := by
    rw [spelled, List.append_assoc, isAbsolute_append filled]
  refine ⟨spelled, sameStart, ?_⟩
  have kept : [name].filter (· ≠ dot) = [name] := by simp [isName.notDot]
  unfold components
  rw [pieces_join isPiece filled, sameStart]
  cases pieces directory with
  | nil =>
      rw [List.nil_append]
      simp [isName.notDot]
  | cons first rest =>
      rw [List.cons_append]
      dsimp only
      rw [List.filter_append, kept, List.append_assoc]

/-- Two names in one folder have paths that are not even spellings of the same. -/
theorem Enters.name_unique {folder first second firstPath secondPath : Bytes}
    (isFirst : Enters folder first firstPath) (isSecond : Enters folder second secondPath)
    (same : Equivalent firstPath secondPath) : first = second := by
  have ends := same.2
  rw [isFirst.components, isSecond.components] at ends
  exact List.singleton_inj.1 (List.append_cancel_left ends)

end Path

namespace Workspace

variable {workspace : Workspace} {path name : Bytes} {location folder : Location}
  {names : List Bytes}

theorem steps_join {directory : Bytes} (isPiece : IsPiece name) (filled : directory ≠ []) :
    steps (Path.join directory name) = Path.pieces directory ++ [name] := by
  have last : (Path.join directory name).getLast? = name.getLast? := by
    rw [Path.join_eq_append (Path.isAbsolute_of_isPiece isPiece) filled, List.getLast?_append,
      List.getLast?_eq_some_getLast isPiece.filled, Option.some_or]
  have noSlash : name.getLast? ≠ some slash := by
    intro isLast
    exact isPiece.whole (List.mem_of_getLast? isLast)
  rw [steps, Path.pieces_join isPiece filled, last, if_neg noSlash, List.append_nil]

/-! ## Walking on -/

/-- Where a walk stops if there are more names behind those that it stopped at. -/
def Stop.goOn (workspace : Workspace) (more : List Bytes) : Stop → Stop
  | .arrived location => workspace.advance location more
  | .absent directory name rest => .absent directory name (rest ++ more)
  | .link directory target rest => .link directory target (rest ++ more)
  | .refused error => .refused error

theorem advance_append (workspace : Workspace) (location : Location) (names more : List Bytes) :
    workspace.advance location (names ++ more) =
      (workspace.advance location names).goOn workspace more := by
  induction names generalizing location with
  | nil => rfl
  | cons name rest inductionHypothesis =>
      rw [List.cons_append, advance, advance]
      split
      · rfl
      · split
        · exact inductionHypothesis location
        · split
          · exact inductionHypothesis location.tail
          · split
            · rfl
            · split
              · rfl
              · rfl
              · exact inductionHypothesis (name :: location)
      · rfl

theorem walk_congr {first second : Location} {others : List Bytes} (budget : Nat)
    (same : workspace.advance first names = workspace.advance second others) :
    workspace.walk budget first names = workspace.walk budget second others := by
  rw [walk.eq_def, walk.eq_def workspace budget second]
  dsimp only
  rw [same]

theorem walk_of_arrived {budget : Nat} {found : Location}
    (stops : workspace.advance location names = .arrived found) :
    workspace.walk budget location names = .ok (.found found) := by
  rw [walk.eq_def]
  dsimp only
  rw [stops]

theorem walk_of_refused {budget : Nat} {error : IoError}
    (stops : workspace.advance location names = .refused error) :
    workspace.walk budget location names = .error error := by
  rw [walk.eq_def]
  dsimp only
  rw [stops]

theorem walk_of_link {budget : Nat} {directory : Location} {target : Bytes} {rest : List Bytes}
    (stops : workspace.advance location names = .link directory target rest) :
    workspace.walk (budget + 1) location names =
      workspace.walk budget (origin target directory) (steps target ++ rest) := by
  rw [walk.eq_def]
  dsimp only
  rw [stops]

theorem walk_of_last_link {directory : Location} {target : Bytes} {rest : List Bytes}
    (stops : workspace.advance location names = .link directory target rest) :
    workspace.walk 0 location names = .error .linkLoop := by
  rw [walk.eq_def]
  dsimp only
  rw [stops]

theorem walk_of_absent {budget : Nat} {directory : Location} {rest : List Bytes}
    (stops : workspace.advance location names = .absent directory name rest) :
    workspace.walk budget location names =
      if rest = [] then .ok (.vacant directory name) else .error .notFound := by
  rw [walk.eq_def]
  dsimp only
  rw [stops]
  cases rest <;> rfl

/-- Without a name to go on by, a walk stays where it is. -/
theorem eq_of_walk_noName {budget : Nat} (noName : names = [] ∨ names = [Path.dot])
    (walked : workspace.walk budget location names = .ok (.found folder)) : location = folder := by
  have stays (stops : workspace.advance location names = .arrived location) :
      location = folder := by
    rw [walk_of_arrived stops] at walked
    cases walked
    rfl
  have refuses {error : IoError} (stops : workspace.advance location names = .refused error) :
      location = folder := by
    rw [walk_of_refused stops] at walked
    cases walked
  rcases noName with rfl | rfl
  · exact stays rfl
  · cases found : workspace.node? location with
    | none => exact refuses (by rw [advance, found])
    | some node =>
        cases node with
        | directory => exact stays (by rw [advance, found]; rfl)
        | _ => exact refuses (by rw [advance, found])

/-- A walk that arrives goes on from where it does, with what is left of its budget. -/
theorem exists_walk_append {budget : Nat} {last : List Bytes}
    (noName : last = [] ∨ last = [Path.dot])
    (walked : workspace.walk budget location (names ++ last) = .ok (.found folder))
    (more : List Bytes) :
    ∃ left ≤ budget, workspace.walk budget location (names ++ more) =
      workspace.walk left folder more := by
  have appended (location : Location) {names : List Bytes} {stop : Stop}
      (stops : workspace.advance location names = stop) (more : List Bytes) :
      workspace.advance location (names ++ more) = stop.goOn workspace more := by
    rw [advance_append, stops]
  -- Along the walk by `names` alone, one case for each way in which it can stop for the first
  -- time.  It arrives, or a link sends it on; in the other cases no further name leads anywhere.
  fun_induction workspace.walk budget location names with
  | case1 budget location names found stops =>
      have arrives : found = folder := by
        rw [walk_congr budget (appended location stops last)] at walked
        exact eq_of_walk_noName noName walked
      subst arrives
      exact ⟨budget, Nat.le_refl _, walk_congr budget (appended location stops more)⟩
  | case2 budget location names directory name stops =>
      rw [walk_of_absent (appended location stops last)] at walked
      split at walked
      · cases walked
      · cases walked
  | case3 budget location names directory name rest _ stops =>
      rw [walk_of_absent (appended location stops last)] at walked
      split at walked
      · cases walked
      · cases walked
  | case4 budget location names error stops =>
      rw [walk_of_refused (appended location stops last)] at walked
      cases walked
  | case5 location names directory target rest stops =>
      rw [walk_of_last_link (appended location stops last)] at walked
      cases walked
  | case6 location names directory target rest stops budget inductionHypothesis =>
      rw [walk_of_link (appended location stops last), ← List.append_assoc] at walked
      obtain ⟨left, fewer, goesOn⟩ := inductionHypothesis walked
      refine ⟨left, Nat.le_succ_of_le fewer, ?_⟩
      rw [walk_of_link (appended location stops more), ← List.append_assoc, goesOn]

/-! ## A name in a directory -/

variable {directory : Bytes}

/-- The path of a name in a directory is walked from the directory by the name alone. -/
theorem exists_walk_join (isPiece : IsPiece name)
    (resolved : workspace.resolve directory = .ok folder) :
    ∃ left ≤ linkLimit,
      workspace.walk linkLimit (origin (Path.join directory name) workspace.here)
        (steps (Path.join directory name)) = workspace.walk left folder [name] := by
  obtain ⟨checked, walked⟩ := resolve_eq_ok_iff.1 resolved
  obtain ⟨_, filled, _⟩ := checkPath_eq_ok_iff.1 checked
  have sameOrigin : origin (Path.join directory name) workspace.here =
      origin directory workspace.here := by
    rw [origin, origin, Path.join_eq_append (Path.isAbsolute_of_isPiece isPiece) filled,
      List.append_assoc, Path.isAbsolute_append filled]
  rw [steps_join isPiece filled, sameOrigin]
  refine exists_walk_append ?_ walked [name]
  split
  · exact .inr rfl
  · exact .inl rfl

theorem checkPath_join (isPiece : IsPiece name) (checked : checkPath directory = .ok ())
    (short : (Path.join directory name).length < pathLimit) :
    checkPath (Path.join directory name) = .ok () := by
  obtain ⟨noNul, filled, _⟩ := checkPath_eq_ok_iff.1 checked
  rw [checkPath_eq_ok_iff]
  refine ⟨?_, ?_, short⟩
  · rw [Path.join_eq_append (Path.isAbsolute_of_isPiece isPiece) filled]
    have between : 0 ∉ (if directory.getLast? = some slash then [] else [slash]) := by
      split
      · exact List.not_mem_nil
      · decide
    simp only [List.mem_append, not_or]
    exact ⟨⟨noNul, between⟩, isPiece.noNul⟩
  · rw [Path.join_eq_append (Path.isAbsolute_of_isPiece isPiece) filled]
    exact List.append_ne_nil_of_right_ne_nil _ isPiece.filled

/-- The path of a directory leads there, and a name in it is short enough to be looked up. -/
structure Admits (workspace : Workspace) (directory name : Bytes) (folder : Location) : Prop where
  resolved : workspace.resolve directory = .ok folder
  isDirectory : workspace.node? folder = some .directory
  isName : IsName name
  fitting : name.length ≤ nameLimit
  short : (Path.join directory name).length < pathLimit

namespace Admits

theorem advance_of_absent (admits : Admits workspace directory name folder)
    (absent : workspace.node? (name :: folder) = none) :
    workspace.advance folder [name] = .absent folder name [] := by
  rw [advance, admits.isDirectory]
  dsimp only
  rw [if_neg admits.isName.notDot, if_neg admits.isName.notDotDot,
    if_neg (Nat.not_lt.2 admits.fitting), absent]

theorem advance_of_node (admits : Admits workspace directory name folder) {node : Node}
    (found : workspace.node? (name :: folder) = some node)
    (noLink : ∀ target, node ≠ .link target) :
    workspace.advance folder [name] = .arrived (name :: folder) := by
  rw [advance, admits.isDirectory]
  dsimp only
  rw [if_neg admits.isName.notDot, if_neg admits.isName.notDotDot,
    if_neg (Nat.not_lt.2 admits.fitting), found]
  cases node with
  | link target => exact absurd rfl (noLink target)
  | _ => rfl

theorem resolve_of_node (admits : Admits workspace directory name folder) {node : Node}
    (found : workspace.node? (name :: folder) = some node)
    (noLink : ∀ target, node ≠ .link target) :
    workspace.resolve (Path.join directory name) = .ok (name :: folder) := by
  have isPiece := admits.isName.toIsPiece
  obtain ⟨checked, _⟩ := resolve_eq_ok_iff.1 admits.resolved
  obtain ⟨left, _, goesOn⟩ := exists_walk_join isPiece admits.resolved
  rw [resolve_eq_ok_iff, goesOn]
  exact ⟨checkPath_join isPiece checked admits.short,
    walk_of_arrived (admits.advance_of_node found noLink)⟩

theorem resolve_of_absent (admits : Admits workspace directory name folder)
    (absent : workspace.node? (name :: folder) = none) :
    workspace.resolve (Path.join directory name) = .error .notFound := by
  have isPiece := admits.isName.toIsPiece
  obtain ⟨checked, _⟩ := resolve_eq_ok_iff.1 admits.resolved
  obtain ⟨left, _, goesOn⟩ := exists_walk_join isPiece admits.resolved
  rw [walk_of_absent (admits.advance_of_absent absent)] at goesOn
  rw [resolve, checkPath_join isPiece checked admits.short, goesOn]
  rfl

/-- The path of the name leads to the entry of the name, if that is no link. -/
theorem stat_of_node (admits : Admits workspace directory name folder) {node : Node}
    (found : workspace.node? (name :: folder) = some node)
    (noLink : ∀ target, node ≠ .link target) :
    workspace.stat (Path.join directory name) = .ok node := by
  rw [stat, admits.resolve_of_node found noLink]
  simp only [bind, Except.bind, found]
  rfl

theorem stat_of_absent (admits : Admits workspace directory name folder)
    (absent : workspace.node? (name :: folder) = none) :
    workspace.stat (Path.join directory name) = .error .notFound := by
  rw [stat, admits.resolve_of_absent absent]
  rfl

end Admits

end Workspace

end RuleDigest
