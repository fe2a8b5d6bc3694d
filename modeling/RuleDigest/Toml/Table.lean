import RuleDigest.Toml.Value

/-!
The statements of a document and the table that they define together.

A key is defined once.  A header opens a table that is new or was only implied
so far; a dotted key adds to a table only if no header has opened it.
-/

namespace RuleDigest.Toml

/-- A line of a document that defines something. -/
inductive Statement where
  | assign (key : Key) (value : Value)
  /-- `[key]` -/
  | table (key : Key)
  /-- `[[key]]` -/
  | element (key : Key)
  deriving Repr

namespace Entries

/-- Replace the value of a key. -/
def set (entries : Entries) (name : Text) (value : Value) : Entries :=
  entries.map fun entry => if entry.1 = name then (name, value) else entry

/-- Define a dotted key.  Its last part has to be new, in a table that the same
dotted way made.  Through an array of tables the way goes by its last element. -/
def assign : Entries → Key → Value → Option Entries
  | _, [], _ => none
  | entries, [name], value =>
      if (entries.lookup name).isSome then none else some (entries ++ [(name, value)])
  | entries, name :: rest, value =>
      match entries.lookup name with
      | none => (assign [] rest value).map fun inner => entries ++ [(name, .table .dotted inner)]
      | some (.table origin inner) =>
          if origin = .header ∨ (origin = .implied ∧ rest.length = 1) then none
          else (assign inner rest value).map fun inner => entries.set name (.table origin inner)
      | some (.tables elements) =>
          match elements.getLast?, rest.length with
          | some last, _ + 2 =>
              (assign last rest value).map fun last =>
                entries.set name (.tables (elements.dropLast ++ [last]))
          | _, _ => none
      | some _ => none

/-- Change the table that a header's key leads to, which is implied if it is
new.  In an array of tables the way goes through the last element. -/
def within (change : Entries → Option Entries) : Entries → Key → Option Entries
  | entries, [] => change entries
  | entries, name :: rest =>
      match entries.lookup name with
      | none => (within change [] rest).map fun inner => entries ++ [(name, .table .implied inner)]
      | some (.table origin inner) =>
          (within change inner rest).map fun inner => entries.set name (.table origin inner)
      | some (.tables elements) =>
          match elements.getLast? with
          | none => none
          | some last =>
              (within change last rest).map fun last =>
                entries.set name (.tables (elements.dropLast ++ [last]))
      | some _ => none

/-- Open the table of a header in the table that holds it. -/
def openTable (name : Text) (entries : Entries) : Option Entries :=
  match entries.lookup name with
  | none => some (entries ++ [(name, .table .header [])])
  | some (.table .implied inner) => some (entries.set name (.table .header inner))
  | some _ => none

/-- Add an element to an array of tables in the table that holds it. -/
def openElement (name : Text) (entries : Entries) : Option Entries :=
  match entries.lookup name with
  | none => some (entries ++ [(name, .tables [[]])])
  | some (.tables elements) => some (entries.set name (.tables (elements ++ [[]])))
  | some _ => none

end Entries

/-- What the statements so far define, and the table that the next one adds to. -/
structure Draft where
  entries : Entries
  target : Key
  deriving Repr

namespace Draft

def add (draft : Draft) : Statement → Option Draft
  | .assign key value =>
      (draft.entries.within (Entries.assign · key value) draft.target).map
        fun entries => { draft with entries }
  | .table key => openAt Entries.openTable key
  | .element key => openAt Entries.openElement key
where
  /-- Open a table at a key, in the table that its other parts lead to. -/
  openAt (opening : Text → Entries → Option Entries) (key : Key) : Option Draft :=
    match key.getLast? with
    | none => none
    | some name =>
        (draft.entries.within (opening name) key.dropLast).map fun entries => ⟨entries, key⟩

end Draft

/-- The table that statements define, if no two of them are at odds. -/
def define? (statements : List Statement) : Option Entries :=
  (statements.foldlM Draft.add ⟨[], []⟩).map Draft.entries

end RuleDigest.Toml
