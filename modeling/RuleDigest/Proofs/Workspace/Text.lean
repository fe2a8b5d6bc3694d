import RuleDigest.Proofs.Text.Utf8
import RuleDigest.Workspace.Edit

/-!
# Texts in files

A path names a text when the bytes read there are the encoding of that text.  It
lacks one when it cannot be read or when its bytes encode nothing, and reading a
text tells the two apart.
-/

namespace RuleDigest.Workspace

/-- The path names a file whose bytes are the encoding of a text. -/
def HoldsText (workspace : Workspace) (path : Bytes) (text : Text) : Prop :=
  workspace.read path = .ok (Utf8.encode text)

/-- Why a path names no text. -/
inductive LacksText (workspace : Workspace) (path : Bytes) : ReadFault → Prop where
  | unread {fault : ReadFault} :
      workspace.read path = .error fault → LacksText workspace path fault
  | illFormed {content : Bytes} :
      workspace.read path = .ok content → (∀ text, content ≠ Utf8.encode text) →
      LacksText workspace path (.refused .notUtf8)

/-- A workspace with text files, given with their paths and written one after the other. -/
def ofFiles (files : List (String × String)) : Workspace :=
  files.foldl (fun workspace file =>
    workspace.edited (.write (Utf8.ofString file.1) (Utf8.ofString file.2))) empty

variable {workspace : Workspace} {path : Bytes}

theorem resolves_of_read {content : Bytes} (read : workspace.read path = .ok content) :
    workspace.resolves path = true := by
  unfold resolves
  cases named : workspace.stat path with
  | ok node => rfl
  | error cause =>
      simp only [Workspace.read, named] at read
      cases read

theorem HoldsText.unique {first second : Text} (firstHeld : workspace.HoldsText path first)
    (secondHeld : workspace.HoldsText path second) : first = second := by
  rw [HoldsText, firstHeld, Except.ok.injEq] at secondHeld
  exact Utf8.encode_injective secondHeld

theorem HoldsText.readText_eq {text : Text} (holds : workspace.HoldsText path text) :
    workspace.readText path = .ok text := by
  have decoded := Utf8.decode?_eq_some_iff.2 (rfl : Utf8.encode text = Utf8.encode text)
  simp only [readText, show workspace.read path = _ from holds, bind, Except.bind, decoded]
  rfl

theorem LacksText.readText_eq {fault : ReadFault} (lacks : workspace.LacksText path fault) :
    workspace.readText path = .error fault := by
  cases lacks with
  | unread read =>
      simp only [readText, read, bind, Except.bind]
  | @illFormed content read nothing =>
      have undecoded : Utf8.decode? content = none := by
        rw [Option.eq_none_iff_forall_ne_some]
        intro text decoded
        exact nothing text (Utf8.decode?_eq_some_iff.1 decoded)
      simp only [readText, read, bind, Except.bind, undecoded]
      rfl

/-- A path names a text or lacks one. -/
theorem holdsText_or_lacksText (workspace : Workspace) (path : Bytes) :
    (∃ text, workspace.HoldsText path text) ∨ ∃ fault, workspace.LacksText path fault := by
  cases read : workspace.read path with
  | error fault => exact .inr ⟨fault, .unread read⟩
  | ok content =>
      cases decoded : Utf8.decode? content with
      | some text =>
          refine .inl ⟨text, ?_⟩
          rw [HoldsText, read, Utf8.decode?_eq_some_iff.1 decoded]
      | none =>
          refine .inr ⟨.refused .notUtf8, .illFormed read ?_⟩
          intro text encoded
          rw [Utf8.decode?_eq_some_iff.2 encoded] at decoded
          exact absurd decoded (Option.some_ne_none text)

theorem LacksText.unique {first second : ReadFault} (firstLacks : workspace.LacksText path first)
    (secondLacks : workspace.LacksText path second) : first = second := by
  have read := firstLacks.readText_eq
  rw [secondLacks.readText_eq, Except.error.injEq] at read
  exact read.symm

theorem LacksText.not_holdsText {fault : ReadFault} (lacks : workspace.LacksText path fault)
    (text : Text) : ¬ workspace.HoldsText path text := by
  intro holds
  have read := lacks.readText_eq
  rw [holds.readText_eq] at read
  cases read

/-- Reading waits for nothing but a pipe. -/
theorem lacksText_waits_iff :
    workspace.LacksText path .waits ↔ workspace.stat path = .ok .pipe := by
  have reads : workspace.read path = .error .waits ↔ workspace.stat path = .ok .pipe := by
    unfold Workspace.read
    split <;> simp_all
  constructor
  · intro lacks
    cases lacks with
    | unread read => exact reads.1 read
  · intro isPipe
    exact .unread (reads.2 isPipe)

end RuleDigest.Workspace
