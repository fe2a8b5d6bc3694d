import RuleDigest.Toml.Scalar
import RuleDigest.Toml.Table

/-!
Reading a TOML 1.1 document: its statements, one after the other, and the table
that they define.

Every reader takes a text and yields what it read together with the rest.
-/

namespace RuleDigest.Toml

/-- The most parts that a dotted key may have. -/
def partLimit : Nat := 80

/-- How deep arrays and inline tables may be nested. -/
def depthLimit : Nat := 80

/-! ## Blanks, comments and line ends -/

/-- Skip the blanks within a line. -/
def skipSpaces (text : Text) : Text :=
  text.dropWhile isSpace

def lineEnd? : Text → Option Text
  | [] => some []
  | '\n' :: rest => some rest
  | '\r' :: '\n' :: rest => some rest
  | _ => none

/-- The rest of a line that holds nothing more than a comment. -/
def finishLine? (text : Text) : Option Text :=
  match skipSpaces text with
  | '#' :: comment => lineEnd? (comment.dropWhile isPlain)
  | rest => lineEnd? rest

/-- Skip blanks, comments and line ends, as they may stand inside brackets. -/
def skipGap? : (inComment : Bool) → Text → Option Text
  | _, [] => some []
  | inComment, char :: rest =>
      if char = '\n' then skipGap? false rest
      else if char = '\r' then
        if rest.head? = some '\n' then skipGap? false rest else none
      else if inComment then
        if isPlain char then skipGap? true rest else none
      else if isSpace char then skipGap? false rest
      else if char = '#' then skipGap? true rest
      else some (char :: rest)

/-! ## Keys -/

def isBareKeyChar (char : Char) : Bool :=
  char.isAlphanum || char == '_' || char == '-'

def keyPart? (text : Text) : Option (Text × Text) :=
  match text with
  | '"' :: rest => Quoted.readLine? '"' rest
  | '\'' :: rest => Quoted.readLine? '\'' rest
  | _ =>
      let (name, rest) := text.span isBareKeyChar
      if name.isEmpty then none else some (name, rest)

/-- Read a key of at most so many parts, with blanks around its dots. -/
def key? : (parts : Nat) → Text → Option (Key × Text)
  | 0, _ => none
  | parts + 1, text =>
      match keyPart? text with
      | none => none
      | some (name, rest) =>
          match skipSpaces rest with
          | '.' :: more => (key? parts (skipSpaces more)).map fun (key, rest) => (name :: key, rest)
          | rest => some ([name], rest)

/-- Read a key, an equals sign, and what follows after blanks. -/
def keyEquals? (text : Text) : Option (Key × Text) :=
  match key? partLimit text with
  | some (key, '=' :: rest) => some (key, skipSpaces rest)
  | _ => none

/-! ## Values -/

/-- Read the items of an array, after its opening bracket, with a reader for one. -/
def items? (read? : Text → Option (Value × Text)) (text : Text) : Option (List Value × Text) :=
  match skipGap? false text with
  | none => none
  | some (']' :: rest) => some ([], rest)
  | some body =>
      match read? body with
      | none => none
      | some (value, rest) =>
          match skipGap? false rest with
          | some (']' :: rest) => some ([value], rest)
          | some (',' :: rest) =>
              if rest.length < text.length then
                (items? read? rest).map fun (values, rest) => (value :: values, rest)
              else none
          | _ => none
termination_by text.length

/-- Read a key and an equals sign inside braces, where line ends may stand around
the sign, and what follows after them. -/
def memberEquals? (text : Text) : Option (Key × Text) :=
  match key? partLimit text with
  | none => none
  | some (key, rest) =>
      match skipGap? false rest with
      | some ('=' :: rest) => (skipGap? false rest).map fun rest => (key, rest)
      | _ => none

/-- Read the entries of an inline table, after its opening brace, with a reader
for one value, and add them to those before. -/
def members? (read? : Text → Option (Value × Text)) (entries : Entries) (text : Text) :
    Option (Entries × Text) :=
  match skipGap? false text with
  | none => none
  | some ('\x7D' :: rest) => some (entries, rest)
  | some body =>
      match memberEquals? body with
      | none => none
      | some (key, body) =>
          match read? body with
          | none => none
          | some (value, rest) =>
              match entries.assign key value, skipGap? false rest with
              | some entries, some ('\x7D' :: rest) => some (entries, rest)
              | some entries, some (',' :: rest) =>
                  if rest.length < text.length then members? read? entries rest else none
              | _, _ => none
termination_by text.length

/-- Read a value that may be nested so deep. -/
def value? : (depth : Nat) → Text → Option (Value × Text)
  | depth, text =>
      match text with
      | '"' :: '"' :: '"' :: rest => string (Quoted.readBlock? '"' rest)
      | '\'' :: '\'' :: '\'' :: rest => string (Quoted.readBlock? '\'' rest)
      | '"' :: rest => string (Quoted.readLine? '"' rest)
      | '\'' :: rest => string (Quoted.readLine? '\'' rest)
      | '[' :: rest =>
          match depth with
          | 0 => none
          | depth + 1 =>
              (items? (value? depth) rest).map fun (items, rest) => (.array items, rest)
      | '\x7B' :: rest =>
          match depth with
          | 0 => none
          | depth + 1 =>
              (members? (value? depth) [] rest).map
                fun (entries, rest) => (.inlineTable entries, rest)
      | text => Scalar.read? text
where
  string (quoted : Option (Text × Text)) : Option (Value × Text) :=
    quoted.map fun (text, rest) => (.string text, rest)

/-! ## Statements -/

/-- Read a header after its opening brackets, up to the closing ones. -/
def header? (brackets : Nat) (text : Text) : Option (Key × Text) :=
  match key? partLimit (skipSpaces text) with
  | some (key, rest) =>
      let closing := List.replicate brackets ']'
      if closing.isPrefixOf rest then some (key, rest.drop brackets) else none
  | none => none

/-- Read a statement, if the line holds one, up to the end of its last line. -/
def statement? (text : Text) : Option (Option Statement × Text) :=
  match skipSpaces text with
  | [] => some (none, [])
  | '[' :: '[' :: rest => finish (header? 2 rest) .element
  | '[' :: rest => finish (header? 1 rest) .table
  | char :: rest =>
      if char = '#' ∨ char = '\n' ∨ char = '\r' then
        (finishLine? (char :: rest)).map fun rest => (none, rest)
      else
        match keyEquals? (char :: rest) with
        | none => none
        | some (key, body) => finish (value? depthLimit body) (.assign key)
where
  /-- End the line of a statement. -/
  finish {α : Type} (read : Option (α × Text)) (make : α → Statement) :
      Option (Option Statement × Text) := do
    let (content, rest) ← read
    let rest ← finishLine? rest
    return (some (make content), rest)

def statements? (text : Text) : Option (List Statement) :=
  if text.isEmpty then some []
  else
    match statement? text with
    | none => none
    | some (statement, rest) =>
        if rest.length < text.length then
          (statements? rest).map fun statements => statement.toList ++ statements
        else none
termination_by text.length

/-- A byte order mark in front does not belong to the document. -/
def dropByteOrderMark : Text → Text
  | '\uFEFF' :: rest => rest
  | text => text

/-- The table that a document defines, if it is well-formed. -/
def read? (document : Text) : Option Entries :=
  (statements? (dropByteOrderMark document)).bind define?

end RuleDigest.Toml
