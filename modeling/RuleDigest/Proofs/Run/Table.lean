import RuleDigest.Proofs.Run.Endings
import RuleDigest.Proofs.Summary.Lines

/-!
# The table of a run

A run that is to print no JSON prints a row of values, under a row of names if a header is
wanted.  Nothing is escaped in a row, so that these are the rows of a table as long as what is
put into them is plain.  Values that were found are, and names and the value for what is missing
need not be.
-/

namespace RuleDigest.Run

open CommandLine
open RuleSet (HoldsRule)
open Summary (Finds LacksKey MakeUp Plain)

/-! ## Rows -/

/-- Rows of text, each ended by a line feed. -/
def joinRows (rows : List Text) : Text :=
  rows.flatMap (· ++ ['\n'])

/-- An output consists of rows that are one line each, with a separator for each of the columns. -/
structure Tabulates (rows : List Text) (columns : Nat) (output : Text) : Prop where
  lines : output = joinRows rows
  unbroken : ∀ row ∈ rows, '\n' ∉ row
  separated : ∀ row ∈ rows, Summary.separatorCount row = columns

section Rows

variable {rows printed : List Text}

theorem count_joinRows_cons (row : Text) (rest : List Text) :
    (joinRows (row :: rest)).count '\n' = row.count '\n' + 1 + (joinRows rest).count '\n' := by
  rw [joinRows, List.flatMap_cons, List.count_append, List.count_append]
  rfl

theorem length_le_count_joinRows (rows : List Text) : rows.length ≤ (joinRows rows).count '\n' := by
  induction rows with
  | nil => exact Nat.le_refl 0
  | cons row rest inductionHypothesis =>
      rw [count_joinRows_cons, List.length_cons]
      omega

theorem unbroken_iff_count :
    (∀ row ∈ rows, '\n' ∉ row) ↔ (joinRows rows).count '\n' = rows.length := by
  induction rows with
  | nil => simp [joinRows]
  | cons row rest inductionHypothesis =>
      have restLarge := length_le_count_joinRows rest
      rw [List.forall_mem_cons, inductionHypothesis, ← List.count_eq_zero, count_joinRows_cons,
        List.length_cons]
      omega

theorem takeWhile_joinRows_cons {row : Text} (unbroken : '\n' ∉ row) (rest : List Text) :
    (joinRows (row :: rest)).takeWhile (· != '\n') = row := by
  have inside : ∀ char ∈ row, (char != '\n') = true := by
    intro char membership
    rw [bne_iff_ne]
    rintro rfl
    exact unbroken membership
  rw [joinRows, List.flatMap_cons, List.append_assoc, List.takeWhile_append_of_pos inside]
  exact List.append_nil row

theorem eq_of_joinRows_eq (unbroken : ∀ row ∈ rows, '\n' ∉ row)
    (printedUnbroken : ∀ row ∈ printed, '\n' ∉ row) (same : joinRows rows = joinRows printed) :
    rows = printed := by
  induction rows generalizing printed with
  | nil =>
      cases printed with
      | nil => rfl
      | cons row rest => simp [joinRows] at same
  | cons row rest inductionHypothesis =>
      cases printed with
      | nil => simp [joinRows] at same
      | cons other others =>
          obtain ⟨rowUnbroken, restUnbroken⟩ := List.forall_mem_cons.1 unbroken
          obtain ⟨otherUnbroken, othersUnbroken⟩ := List.forall_mem_cons.1 printedUnbroken
          have sameRow := congrArg (List.takeWhile (· != '\n')) same
          rw [takeWhile_joinRows_cons rowUnbroken, takeWhile_joinRows_cons otherUnbroken] at sameRow
          subst sameRow
          have sameRest : joinRows rest = joinRows others := List.append_cancel_left same
          rw [inductionHypothesis restUnbroken othersUnbroken sameRest]

/-- The rows that are printed are the only ones of their number that an output can consist of. -/
theorem Tabulates.rows_eq {columns : Nat} (tabulates : Tabulates rows columns (joinRows printed))
    (sameLength : rows.length = printed.length) : rows = printed := by
  apply eq_of_joinRows_eq tabulates.unbroken ?_ tabulates.lines.symm
  -- As many line feeds as rows leave none for the inside of a printed row.
  rw [unbroken_iff_count, tabulates.lines, ← sameLength]
  exact unbroken_iff_count.1 tabulates.unbroken

end Rows

/-! ## The rows of a run -/

/-- The rows for rules with their values. -/
def rowsOf (header : Bool) (columns : List (Rule × Text)) : List Text :=
  (if header then [Summary.joinColumns (columns.map fun column => column.1.displayName)] else []) ++
    [Summary.joinColumns (columns.map Prod.snd)]

/-- What stands in the rows, column by column.  The last separator ends the line. -/
def cellsOf (header : Bool) (columns : List (Rule × Text)) : List (List Text) :=
  (if header then [(columns.map fun column => column.1.displayName) ++ [[]]] else []) ++
    [columns.map Prod.snd ++ [[]]]

section Columns

variable {columns : List (Rule × Text)} {header : Bool}

theorem length_rowsOf (header : Bool) (columns : List (Rule × Text)) :
    (rowsOf header columns).length = if header then 2 else 1 := by
  cases header with
  | false => rfl
  | true => rfl

theorem joinRows_rowsOf (header : Bool) (columns : List (Rule × Text)) :
    joinRows (rowsOf header columns) =
      (if header then lineOf (columns.map fun column => column.1.displayName) else []) ++
        lineOf (columns.map Prod.snd) := by
  cases header with
  | false => simp [rowsOf, joinRows, lineOf, Summary.joinColumns, Summary.separator]
  | true => simp [rowsOf, joinRows, lineOf, Summary.joinColumns, Summary.separator]

theorem tabulates_rowsOf_iff :
    Tabulates (rowsOf header columns) columns.length (joinRows (rowsOf header columns)) ↔
      (∀ value ∈ columns.map Prod.snd, Plain value) ∧
        (header = true → ∀ column ∈ columns, Plain column.1.displayName) := by
  have valueRow := @Summary.joinColumns_is_row_iff (columns.map Prod.snd)
  have nameRow := @Summary.joinColumns_is_row_iff (columns.map fun column => column.1.displayName)
  rw [List.length_map] at valueRow nameRow
  rw [List.forall_mem_map] at nameRow
  rw [← valueRow, ← nameRow]
  constructor
  · rintro ⟨_, unbroken, separated⟩
    have isRow {row : Text} (membership : row ∈ rowsOf header columns) :=
      And.intro (unbroken row membership) (separated row membership)
    constructor
    · exact isRow (List.mem_append_right _ (List.mem_singleton.2 rfl))
    · intro wanted
      exact isRow (List.mem_append_left _ (by simp [wanted]))
  · rintro ⟨values, names⟩
    have isRow : ∀ row ∈ rowsOf header columns,
        '\n' ∉ row ∧ Summary.separatorCount row = columns.length := by
      intro row membership
      rcases List.mem_append.1 membership with isHeader | isLine
      · by_cases wanted : header = true
        · rw [if_pos wanted, List.mem_singleton] at isHeader
          rw [isHeader]
          exact names wanted
        · rw [if_neg wanted] at isHeader
          cases isHeader
      · rw [List.mem_singleton] at isLine
        rw [isLine]
        exact values
    exact ⟨rfl, fun row membership => (isRow row membership).1,
      fun row membership => (isRow row membership).2⟩

theorem cut_rowsOf (values : ∀ value ∈ columns.map Prod.snd, Plain value)
    (names : header = true → ∀ column ∈ columns, Plain column.1.displayName) :
    (rowsOf header columns).map Summary.cut = cellsOf header columns := by
  have valueCells := Summary.cut_joinColumns_iff.2 fun value membership =>
    (values value membership).2
  cases header with
  | false => simp [rowsOf, cellsOf, valueCells]
  | true =>
      have nameCells : Summary.cut (Summary.joinColumns
          (columns.map fun column => column.1.displayName)) =
          (columns.map fun column => column.1.displayName) ++ [[]] := by
        apply Summary.cut_joinColumns_iff.2
        rw [List.forall_mem_map]
        intro column membership
        exact (names rfl column membership).2
      simp [rowsOf, cellsOf, valueCells, nameCells]

end Columns

section Runs

variable {workspace : Workspace} {arguments : List Bytes} {spec? : Option Text}

/-- A run without JSON prints a row of values with one column for every rule that the rules
directory holds, under a row of their names if a header is wanted.  This is a table of one or two
lines exactly if the value for what is missing is plain, in case it is needed, and the names are,
in case they are printed.  Then the columns of both rows are those of the same rules. -/
theorem program_prints_table_iff (accepts : Accepts arguments)
    (noJson : .json ∉ flags (parts arguments))
    (succeeded : (program workspace arguments spec?).code = some 0) :
    let output := (program workspace arguments spec?).output
    ∃ (job : Job) (config : Config) (columns : List (Rule × Text)),
      Orders arguments job ∧ Config.load workspace Path.dot = .ok config ∧
      (columns.map Prod.fst).Nodup ∧
      (∀ rule, rule ∈ columns.map Prod.fst ↔
        HoldsRule workspace (job.rulesDirUnder config) rule.name) ∧
      (columns.map fun column => column.1.resultFileName).Pairwise (· < ·) ∧
      (∀ column ∈ columns,
        Finds workspace job.resultsDir job.statistic config.missingValue column.1 column.2) ∧
      output = joinRows (rowsOf job.header columns) ∧
      ((∃ rows, rows.length = (if job.header then 2 else 1) ∧
          Tabulates rows columns.length output) ↔
        (∀ column ∈ columns, LacksKey workspace job.resultsDir job.statistic column.1 →
          Plain config.missingValue) ∧
        (job.header = true → ∀ column ∈ columns, Plain column.1.displayName)) ∧
      ∀ rows, rows.length = (if job.header then 2 else 1) →
        Tabulates rows columns.length output →
        rows.map Summary.cut = cellsOf job.header columns := by
  intro output
  obtain ⟨job, summary, orders, succeeds, printed⟩ := succeeds_of_code accepts succeeded
  obtain ⟨config, ruleSet, loaded, scanned, readable, covers⟩ := succeeds
  have distinct := RuleSet.rules_nodup scanned
  obtain ⟨columns, makeUp, perm, finds⟩ := covers.exists_makeUp distinct readable
  have noObject : job.json = false := by
    rw [← Bool.not_eq_true, orders.json]
    exact noJson
  have outputRows : output = joinRows (rowsOf job.header columns) := by
    rw [joinRows_rowsOf, ← render_of_makeUp makeUp noObject]
    exact printed
  have isPrinted {rows : List Text} (sameLength : rows.length = if job.header then 2 else 1)
      (tabulates : Tabulates rows columns.length output) : rows = rowsOf job.header columns := by
    rw [outputRows] at tabulates
    apply tabulates.rows_eq
    rw [sameLength, length_rowsOf]
  have tabulates_iff : Tabulates (rowsOf job.header columns) columns.length output ↔
      (∀ value ∈ columns.map Prod.snd, Plain value) ∧
        (job.header = true → ∀ column ∈ columns, Plain column.1.displayName) := by
    rw [outputRows]
    exact tabulates_rowsOf_iff
  refine ⟨job, config, columns, orders, loaded, perm.nodup_iff.2 distinct, ?_, makeUp.ascending,
    finds, outputRows, ?_, ?_⟩
  · intro rule
    rw [perm.mem_iff]
    exact RuleSet.mem_rules_iff scanned rule
  · rw [← Summary.values_plain_iff finds, ← tabulates_iff]
    constructor
    · rintro ⟨rows, sameLength, tabulates⟩
      rwa [← isPrinted sameLength tabulates]
    · intro tabulates
      exact ⟨_, length_rowsOf job.header columns, tabulates⟩
  · intro rows sameLength tabulates
    have same := isPrinted sameLength tabulates
    rw [same] at tabulates ⊢
    obtain ⟨values, names⟩ := tabulates_iff.1 tabulates
    exact cut_rowsOf values names

theorem program_prints_table_iff_neighbours :
    let arguments := [Utf8.ofString "--header", Utf8.ofString "k", Utf8.ofString "R"]
    Accepts arguments ∧ .json ∉ flags (parts arguments) ∧
      (program Summary.neighbours arguments none).code = some 0 ∧
      ∃ rows, rows.length = 2 ∧
        Tabulates rows 2 (program Summary.neighbours arguments none).output := by
  intro arguments
  have accepts : Accepts arguments := ⟨_, rfl⟩
  have noJson : .json ∉ flags (parts arguments) := by decide
  have succeeded : (program Summary.neighbours arguments none).code = some 0 := rfl
  have scanned : RuleSet.scan Summary.neighbours Layout.rulesDir =
      .ok ⟨Layout.rulesDir, [⟨Utf8.ofString "a"⟩, ⟨Utf8.ofString "a-b"⟩]⟩ := rfl
  have ordered : Orders arguments ⟨"k".toList, Utf8.ofString "R", none, true, false⟩ :=
    ⟨rfl, rfl, rfl, by decide, by decide⟩
  have defaults : Config.load Summary.neighbours Path.dot = .ok .default := rfl
  obtain ⟨job, config, columns, orders, loaded, distinct, held, _, _, _, isTable, _⟩ :=
    program_prints_table_iff accepts noJson succeeded
  obtain rfl := orders.unique ordered
  rw [defaults, Except.ok.injEq] at loaded
  subst loaded
  have perm : (columns.map Prod.fst).Perm [⟨Utf8.ofString "a"⟩, ⟨Utf8.ofString "a-b"⟩] :=
    RuleSet.perm_rules_of_holdsRule scanned distinct held
  have two : columns.length = 2 := by
    rw [← List.length_map Prod.fst, perm.length_eq]
    rfl
  rw [two] at isTable
  refine ⟨accepts, noJson, succeeded, isTable.2 ⟨?_, ?_⟩⟩
  · intro _ _ _
    exact ⟨by decide, by decide⟩
  · intro _ column membership
    have known := perm.mem_iff.1 (List.mem_map_of_mem membership)
    rcases List.mem_pair.1 known with same | same
    · rw [same]
      exact ⟨by decide, by decide⟩
    · rw [same]
      exact ⟨by decide, by decide⟩

/-- A project whose value for what is missing has two lines. -/
def broken : Workspace :=
  .ofFiles [("rulestat.toml", "missing_value = \"a\\nb\"\n"), ("RuleSets/q", ""), ("R/q.result", "")]

/-- A project with a rule whose name looks like two. -/
def joined : Workspace :=
  .ofFiles [("RuleSets/a; b", ""), ("R/a; b.result", "score: 1\n")]

theorem program_prints_no_table :
    let plain := [Utf8.ofString "score", Utf8.ofString "R"]
    let headed := Utf8.ofString "--header" :: plain
    (Accepts plain ∧ .json ∉ flags (parts plain) ∧ .header ∉ flags (parts plain) ∧
      RuleSet.scan broken Layout.rulesDir = .ok ⟨Layout.rulesDir, [⟨Utf8.ofString "q"⟩]⟩ ∧
      (program broken plain none).code = some 0 ∧
      (program broken plain none).output = "a\nb; \n".toList ∧
      ¬ ∃ rows, rows.length = 1 ∧ Tabulates rows 1 (program broken plain none).output) ∧
    Accepts headed ∧ .json ∉ flags (parts headed) ∧ .header ∈ flags (parts headed) ∧
      RuleSet.scan joined Layout.rulesDir = .ok ⟨Layout.rulesDir, [⟨Utf8.ofString "a; b"⟩]⟩ ∧
      (program joined headed none).code = some 0 ∧
      (program joined headed none).output = "a; b; \n1; \n".toList ∧
      ¬ ∃ rows, rows.length = 2 ∧ Tabulates rows 1 (program joined headed none).output := by
  intro plain headed
  have brokenOutput : (program broken plain none).output = "a\nb; \n".toList := by
    decide +kernel
  have joinedOutput : (program joined headed none).output = "a; b; \n1; \n".toList := rfl
  have accepts : Accepts plain := ⟨_, rfl⟩
  have headedAccepts : Accepts headed := ⟨_, rfl⟩
  refine ⟨⟨accepts, by decide, by decide, rfl, by decide +kernel, brokenOutput, ?_⟩,
    headedAccepts, by decide, by decide, rfl, rfl, joinedOutput, ?_⟩
  · rintro ⟨rows, one, tabulates⟩
    have count := unbroken_iff_count.1 tabulates.unbroken
    rw [← tabulates.lines, brokenOutput, one] at count
    exact absurd count (by decide)
  · rintro ⟨rows, two, tabulates⟩
    have printed : "a; b; \n1; \n".toList = joinRows ["a; b; ".toList, "1; ".toList] := rfl
    rw [joinedOutput, printed] at tabulates
    have same := tabulates.rows_eq two
    have separated := tabulates.separated "a; b; ".toList (by simp [same])
    exact absurd separated (by decide)

end Runs

end RuleDigest.Run
