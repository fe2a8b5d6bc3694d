import RuleDigest.Workspace.Basic

/-!
Finding what a path names, links followed, and reading it.

A walk goes from directory to directory.  It stops at the end of the path, at a
name that is absent, at a refusal, or at a link; a link sends it on along the
link's target, at most `linkLimit` times in one walk.
-/

namespace RuleDigest

/-- Why the file system refuses an operation. -/
inductive IoError where
  | notFound
  | notADirectory
  | isADirectory
  | linkLoop
  | nameTooLong
  | nulInName
  | notUtf8
  /-- Any other refusal, with the system's description of it and its number. -/
  | other (description : Text) (number : Nat)
  deriving DecidableEq, Repr

namespace IoError

/-- The text of a refusal. -/
def message : IoError → Text
  | notFound => "No such file or directory (os error 2)".toList
  | notADirectory => "Not a directory (os error 20)".toList
  | isADirectory => "Is a directory (os error 21)".toList
  | linkLoop => "Too many levels of symbolic links (os error 40)".toList
  | nameTooLong => "File name too long (os error 36)".toList
  | nulInName => "file name contained an unexpected NUL byte".toList
  | notUtf8 => "stream did not contain valid UTF-8".toList
  | other description number =>
      description ++ " (os error ".toList ++ Nat.toDigits 10 number ++ [')']

end IoError

/-- Why reading a file comes to nothing. -/
inductive ReadFault where
  | refused (cause : IoError)
  /-- The file is a pipe into which nobody writes, and reading it never ends. -/
  | waits
  deriving DecidableEq, Repr

namespace Workspace

/-- The most links that one walk follows. -/
def linkLimit : Nat := 40

/-- The longest name that a directory can hold, in bytes. -/
def nameLimit : Nat := 255

/-- A path has to be shorter than this, in bytes. -/
def pathLimit : Nat := 4096

/-- Refuse a path that names nothing whatever the tree holds. -/
def checkPath (path : Bytes) : Except IoError Unit :=
  if path.contains 0 then .error .nulInName
  else if path.isEmpty then .error .notFound
  else if pathLimit ≤ path.length then .error .nameTooLong
  else .ok ()

/-- The names to walk along.  A slash at the end asks for a directory, as a
final `.` does. -/
def steps (path : Bytes) : List Bytes :=
  Path.pieces path ++ if path.getLast? = some slash then [Path.dot] else []

/-- Where a walk stops. -/
inductive Stop where
  | arrived (location : Location)
  /-- The directory lacks the next name. -/
  | absent (directory : Location) (name : Bytes) (rest : List Bytes)
  /-- The next name in the directory is a link. -/
  | link (directory : Location) (target : Bytes) (rest : List Bytes)
  | refused (error : IoError)
  deriving Repr

/-- Walk up to the first link. -/
def advance (workspace : Workspace) : Location → List Bytes → Stop
  | location, [] => .arrived location
  | location, name :: rest =>
      match workspace.node? location with
      | none => .refused .notFound
      | some .directory =>
          if name = Path.dot then advance workspace location rest
          else if name = Path.dotDot then advance workspace location.tail rest
          else if nameLimit < name.length then .refused .nameTooLong
          else match workspace.node? (name :: location) with
            | none => .absent location name rest
            | some (.link target) => .link location target rest
            | some _ => advance workspace (name :: location) rest
      | some _ => .refused .notADirectory

/-- What a path leads to. -/
inductive Place where
  | found (location : Location)
  /-- Only the last name is absent. -/
  | vacant (directory : Location) (name : Bytes)
  deriving DecidableEq, Repr

def Place.location : Place → Location
  | found location => location
  | vacant directory name => name :: directory

/-- Where a walk along a path begins. -/
def origin (path : Bytes) (directory : Location) : Location :=
  if Path.isAbsolute path then [] else directory

/-- Walk with a budget of links to follow. -/
def walk (workspace : Workspace) : Nat → Location → List Bytes → Except IoError Place
  | budget, location, names =>
      match workspace.advance location names with
      | .arrived found => .ok (.found found)
      | .absent directory name [] => .ok (.vacant directory name)
      | .absent .. => .error .notFound
      | .refused error => .error error
      | .link directory target rest =>
          match budget with
          | 0 => .error .linkLoop
          | budget + 1 =>
              walk workspace budget (origin target directory) (steps target ++ rest)

/-- The location that a path names, links followed. -/
def resolve (workspace : Workspace) (path : Bytes) : Except IoError Location := do
  checkPath path
  match ← workspace.walk linkLimit (origin path workspace.here) (steps path) with
  | .found location => return location
  | .vacant .. => throw .notFound

/-- The node that a path names, links followed. -/
def stat (workspace : Workspace) (path : Bytes) : Except IoError Node := do
  let location ← workspace.resolve path
  match workspace.node? location with
  | some node => return node
  | none => throw .notFound

/-- The path names something. -/
def resolves (workspace : Workspace) (path : Bytes) : Bool :=
  (workspace.stat path).isOk

def isDirectory (workspace : Workspace) (path : Bytes) : Bool :=
  match workspace.stat path with
  | .ok .directory => true
  | _ => false

/-- The path names a regular file. -/
def isFile (workspace : Workspace) (path : Bytes) : Bool :=
  match workspace.stat path with
  | .ok (.file _) => true
  | _ => false

/-- The bytes of the file that a path names.  The null device reads as empty, and
a link never ends a walk. -/
def read (workspace : Workspace) (path : Bytes) : Except ReadFault Bytes :=
  match workspace.stat path with
  | .error cause => .error (.refused cause)
  | .ok (.file content) => .ok content
  | .ok .directory => .error (.refused .isADirectory)
  | .ok (.link _) => .error (.refused .linkLoop)
  | .ok .pipe => .error .waits
  | .ok .null => .ok []

/-- The text of the file that a path names. -/
def readText (workspace : Workspace) (path : Bytes) : Except ReadFault Text := do
  let content ← workspace.read path
  match Utf8.decode? content with
  | some text => return text
  | none => throw (.refused .notUtf8)

end Workspace

end RuleDigest
