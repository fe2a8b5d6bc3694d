import RuleDigest.Workspace.Resolve

/-!
The edits under which a workspace grows and shrinks.

The first four make the directories that are missing on the way to their path.
An edit that the file system would refuse has no result.
-/

namespace RuleDigest

inductive Edit where
  /-- Create a file or overwrite it, through links. -/
  | write (path content : Bytes)
  | makeDirectory (path : Bytes)
  | makeLink (target path : Bytes)
  | makePipe (path : Bytes)
  /-- Remove a file, a link itself, or a directory with everything in it. -/
  | remove (path : Bytes)
  /-- Give an entry another place, replacing a file or an empty directory. -/
  | rename (path target : Bytes)
  deriving DecidableEq, Repr

namespace Workspace

/-- The names on the way to a path's last name, and that name. -/
def split? (path : Bytes) : Option (List Bytes × Bytes) :=
  if (checkPath path).isOk then
    (Path.pieces path).getLast?.map fun name => ((Path.pieces path).dropLast, name)
  else none

/-- Enter a directory, which is made where its name is vacant. -/
def enter (workspace : Workspace) (directory : Location) (name : Bytes) :
    Option (Workspace × Location) :=
  match workspace.walk linkLimit directory [name] with
  | .ok (.found location) => some (workspace, location)
  | .ok (.vacant directory name) =>
      some (workspace.put (name :: directory) .directory, name :: directory)
  | .error _ => none

def enterAll (workspace : Workspace) (directory : Location) :
    List Bytes → Option (Workspace × Location)
  | [] => some (workspace, directory)
  | name :: rest =>
      match enter workspace directory name with
      | some (workspace, directory) => enterAll workspace directory rest
      | none => none

/-- The directory in which a path's last name stands or would stand, with the
missing ones on the way made. -/
def provide (workspace : Workspace) (path : Bytes) :
    Option (Workspace × Location × Bytes) := do
  let (way, name) ← split? path
  let (workspace, directory) ← workspace.enterAll (origin path workspace.here) way
  return (workspace, directory, name)

/-- The place of a path's last name, a link there not followed. -/
def place? (workspace : Workspace) (path : Bytes) : Option Place := do
  let (way, name) ← split? path
  match workspace.walk linkLimit (origin path workspace.here) way with
  | .ok (.found directory) =>
      match workspace.advance directory [name] with
      | .absent .. => return .vacant directory name
      | .link .. => return .found (name :: directory)
      | .arrived location => if location = name :: directory then return .found location else none
      | .refused _ => none
  | _ => none

/-- Put a new entry into a directory under a vacant name. -/
def create (workspace : Workspace) (directory : Location) (name : Bytes) (node : Node) :
    Option Workspace :=
  match workspace.advance directory [name] with
  | .absent .. => some (workspace.put (name :: directory) node)
  | _ => none

/-- Write a file in a directory, through links. -/
def store (workspace : Workspace) (directory : Location) (name content : Bytes) :
    Option Workspace :=
  match workspace.walk linkLimit directory [name] with
  | .ok (.vacant directory name) => some (workspace.put (name :: directory) (.file content))
  | .ok (.found location) =>
      match workspace.node? location with
      | some (.file _) => some (workspace.put location (.file content))
      | some .null => some workspace
      | _ => none
  | .error _ => none

/-- An entry may take the place of what stands at a location: a directory that
of an empty directory, anything else that of anything but a directory. -/
def replaces (workspace : Workspace) (source target : Location) : Bool :=
  match workspace.node? source, workspace.node? target with
  | _, none => true
  | some .directory, some .directory => (workspace.names target).isEmpty
  | some .directory, some _ => false
  | _, some .directory => false
  | _, some _ => true

/-- Give the entry at a location another place, outside itself and what holds it. -/
def relocate (workspace : Workspace) (source target : Location) : Option Workspace :=
  if source.isSuffixOf target || target.isSuffixOf source then none
  else if workspace.replaces source target then
    some (workspace.move source target)
  else none

def afterEdit? (workspace : Workspace) : Edit → Option Workspace
  | .write path content => do
      let (workspace, directory, name) ← workspace.provide path
      workspace.store directory name content
  | .makeDirectory path => do
      let (workspace, directory, name) ← workspace.provide path
      let (workspace, _) ← workspace.enter directory name
      return workspace
  | .makeLink target path => do
      guard (checkPath target).isOk
      let (workspace, directory, name) ← workspace.provide path
      workspace.create directory name (.link target)
  | .makePipe path => do
      let (workspace, directory, name) ← workspace.provide path
      workspace.create directory name .pipe
  | .remove path =>
      match workspace.place? path with
      | some (.found location) => some (workspace.erase location)
      | _ => none
  | .rename path target =>
      match workspace.place? path, workspace.place? target with
      | some (.found source), some place => workspace.relocate source place.location
      | _, _ => none

/-- The workspace after an edit, the same one where the edit is refused. -/
def edited (workspace : Workspace) (edit : Edit) : Workspace :=
  (workspace.afterEdit? edit).getD workspace

/-- The workspaces that edits lead to. -/
inductive Reachable : Workspace → Prop where
  | empty : Reachable empty
  | edit {workspace result : Workspace} {edit : Edit} :
      Reachable workspace → workspace.afterEdit? edit = some result → Reachable result

end Workspace

end RuleDigest
