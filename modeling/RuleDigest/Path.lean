import RuleDigest.Text.Utf8

/-!
Paths as byte strings.

A path is never normalised: `join` only decides whether a slash goes between
its two parts.  `components` is the reading of a path under which trailing
slashes, doubled slashes and inner `.` do not matter.
-/

namespace RuleDigest

/-- The byte that separates the components of a path. -/
def slash : UInt8 := 0x2F

namespace Path

/-- A path that starts at the root directory. -/
def isAbsolute (path : Bytes) : Bool :=
  path.head? == some slash

/-- A path inside a directory.  An absolute name replaces the directory. -/
def join (directory name : Bytes) : Bytes :=
  if isAbsolute name then name
  else if directory.isEmpty || directory.getLast? == some slash then directory ++ name
  else directory ++ slash :: name

theorem suffix_join (directory name : Bytes) : name <:+ join directory name := by
  unfold join
  split
  · exact List.suffix_refl name
  · split
    · exact List.suffix_append directory name
    · exact ⟨directory ++ [slash], by rw [List.append_assoc, List.singleton_append]⟩

/-- The pieces of a path between slashes, without the empty ones. -/
def pieces (path : Bytes) : List Bytes :=
  (path.splitOnP (· == slash)).filter fun piece => !piece.isEmpty

/-- The name of a directory itself. -/
def dot : Bytes := Utf8.ofString "."

/-- The name of a directory's parent. -/
def dotDot : Bytes := Utf8.ofString ".."

/-- The components of a path.  A `.` counts only at the front of a relative path. -/
def components (path : Bytes) : List Bytes :=
  match pieces path with
  | [] => []
  | first :: rest =>
      (if first = dot ∧ isAbsolute path then [] else [first]) ++ rest.filter (· ≠ dot)

/-- Two spellings of one path: both absolute or both relative, with the same
components. -/
def Equivalent (first second : Bytes) : Prop :=
  isAbsolute first = isAbsolute second ∧ components first = components second

instance (first second : Bytes) : Decidable (Equivalent first second) :=
  inferInstanceAs (Decidable (_ ∧ _))

end Path

end RuleDigest
