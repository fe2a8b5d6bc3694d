import RuleDigest.Proofs.Json.Reading
import RuleDigest.Proofs.Summary.Collection
import RuleDigest.Report

/-!
# The JSON report says what the summary says

The report is read back as an object of the statistic and of the values by shown
name, in the order of the raw names.  No name and no value can break out of its
quotes, and an empty summary is no exception.
-/

namespace RuleDigest.Report

open Json (ReadsBack readsBack_object readsBack_string)

theorem readsBack_values (report : Report) (depth : Nat) : ReadsBack (depth + 1) report.values := by
  apply readsBack_object
  intro member membership
  obtain ⟨entry, _, rfl⟩ := List.mem_map.1 membership
  exact readsBack_string depth entry.2

theorem readsBack_json (report : Report) (depth : Nat) : ReadsBack (depth + 2) report.json := by
  apply readsBack_object
  rw [List.forall_mem_cons, List.forall_mem_singleton]
  constructor
  · exact readsBack_string (depth + 1) report.statistic
  · exact readsBack_values report depth

theorem value?_toJson (report : Report) :
    Json.value? Json.depthLimit report.toJson = some (report.json, []) := by
  have read := readsBack_json report 126 0 []
  rwa [List.append_nil] at read

/-- A report is read from its text, also with blanks after it. -/
theorem read?_toJson (report : Report) {rest : Text} (blank : Json.skipSpaces rest = []) :
    Json.read? (report.toJson ++ rest) = some report.json :=
  Json.read?_pretty (readsBack_json report 126) 0 blank

/-- The members of the values. -/
def members (report : Report) : List (Text × Json) :=
  report.summary.entries.map fun entry => (Utf8.decodeLossy entry.1, .string entry.2)

theorem map_fst_members (report : Report) :
    report.members.map Prod.fst = report.summary.shownNames := by
  simp [members, Summary.shownNames]

/-- Where no key is repeated a look-up finds what is recorded. -/
theorem lookup_members {report : Report} (distinct : report.summary.shownNames.Nodup)
    {name : Bytes} {value : Text} (recorded : report.summary.get? name = some value) :
    report.members.lookup (Utf8.decodeLossy name) = some (.string value) := by
  rw [← map_fst_members] at distinct
  rw [lookup_eq_some_iff_mem distinct]
  exact List.mem_map.2 ⟨_, Summary.get?_eq_some_iff_mem.1 recorded, rfl⟩

/-- The text of a report is that of an object of two members, the statistic and the values by
shown name, with nothing after it.  The values stand in ascending order of the raw names.
Whether a header is wanted makes no difference. -/
theorem toJson_is_faithful (statistic : Text) (summary : Summary) (header : Bool) :
    Json.value? Json.depthLimit (Report.mk statistic summary header).toJson =
        some (.object
          [("stat".toList, .string statistic),
            ("values".toList, .object (summary.entries.map fun entry =>
              (Utf8.decodeLossy entry.1, .string entry.2)))], []) ∧
      Json.read? (Report.mk statistic summary header).toJson =
        some (.object
          [("stat".toList, .string statistic),
            ("values".toList, .object (summary.entries.map fun entry =>
              (Utf8.decodeLossy entry.1, .string entry.2)))]) ∧
      (∀ name value, (name, value) ∈ summary.entries ↔ summary.get? name = some value) ∧
      (summary.entries.map Prod.fst).Pairwise (· < ·) ∧
      ∀ other, (Report.mk statistic summary other).toJson =
        (Report.mk statistic summary header).toJson := by
  refine ⟨?_, ?_, ?_, ?_, ?_⟩
  · exact value?_toJson ⟨statistic, summary, header⟩
  · have blank : Json.skipSpaces [] = [] := rfl
    have read := read?_toJson ⟨statistic, summary, header⟩ blank
    rwa [List.append_nil] at read
  · intro name value
    exact Summary.get?_eq_some_iff_mem.symm
  · exact summary.names_ascending
  · intro other
    rfl

/-- A name that is not UTF-8, a value that needs escapes and a value of a character outside of
the basic plane. -/
example :
    (Report.mk "k".toList
        ((Summary.empty.insert [0x72, 0xFE] "\"\\\n\x01".toList).insert
          (Utf8.ofString "a.result") "𝄞".toList) true).toJson =
      ("\x7B\n  \"stat\": \"k\",\n  \"values\": \x7B\n    \"a.result\": \"𝄞\",\n".toList ++
        "    \"r\uFFFD\": \"\\\"\\\\\\n\\u0001\"\n  \x7D\n\x7D".toList) := rfl

end RuleDigest.Report
