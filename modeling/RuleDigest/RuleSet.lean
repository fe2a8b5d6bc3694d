import RuleDigest.Layout
import RuleDigest.Workspace.Resolve

/-!
The rules of a rules directory: one for each regular file directly in it, links
to regular files included.

The directory is walked one level deep.  A walk from a file visits that file
alone, at a depth at which nothing is listed, so what is no directory is refused
before the walk.
-/

namespace RuleDigest

/-- The rules found in a directory, in its listing order. -/
structure RuleSet where
  /-- The directory, as it was given. -/
  root : Bytes
  rules : List Rule
  deriving DecidableEq, Repr

/-- What a walk comes by. -/
structure Visit where
  /-- How far below the root it lies. -/
  depth : Nat
  name : Bytes
  deriving DecidableEq, Repr

/-- Why a walk did not go on. -/
structure WalkError where
  /-- How far below the root it was. -/
  depth : Nat
  path : Bytes
  cause : IoError
  deriving DecidableEq, Repr

/-- Why a rules directory could not be scanned. -/
inductive ScanError where
  | notADirectory (root : Bytes)
  | unlistable (root : Bytes) (source : WalkError)
  deriving DecidableEq, Repr

namespace RuleSet

/-- The names in the directory that a path names. -/
def namesAt (workspace : Workspace) (path : Bytes) : List Bytes :=
  match workspace.resolve path with
  | .ok location => workspace.names location
  | .error _ => []

/-- Walk from a root to what lies right below it.  A link at the root is followed,
and the root itself comes first. -/
def walk (workspace : Workspace) (root : Bytes) : Except WalkError (List Visit) :=
  match workspace.stat root with
  | .error cause => .error ⟨0, root, cause⟩
  | .ok .directory => .ok (⟨0, root⟩ :: (namesAt workspace root).map fun name => ⟨1, name⟩)
  | .ok _ => .ok [⟨0, root⟩]

/-- The names of the visits below the root. -/
def namesBelow (visits : List Visit) : List Bytes :=
  (visits.filter fun visit => 1 ≤ visit.depth).map Visit.name

/-- The names that a rules directory lists. -/
def listing (workspace : Workspace) (root : Bytes) : Except ScanError (List Bytes) :=
  if workspace.resolves root && !workspace.isDirectory root then .error (.notADirectory root)
  else
    match walk workspace root with
    | .ok visits => .ok (namesBelow visits)
    | .error error => .error (.unlistable root error)

/-- A name in a directory belongs to a rule. -/
def isRule (workspace : Workspace) (root name : Bytes) : Bool :=
  workspace.isFile (Path.join root name)

/-- List the rules of a directory.  Entries that are no regular files, links
followed, are passed over. -/
def scan (workspace : Workspace) (root : Bytes) : Except ScanError RuleSet :=
  (listing workspace root).map fun names =>
    ⟨root, (names.filter (isRule workspace root)).map Rule.mk⟩

/-- The names of the rules, in ascending order of their bytes. -/
def sortedNames (ruleSet : RuleSet) : List Bytes :=
  (ruleSet.rules.map Rule.name).mergeSort fun first second => first ≤ second

end RuleSet

end RuleDigest
