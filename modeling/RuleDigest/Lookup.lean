/-!
Looking a key up in a list of pairs.
-/

namespace RuleDigest

/-- A look-up asks the pairs one after the other. -/
theorem lookup_cons_ite {Key Value : Type} [BEq Key] [LawfulBEq Key] [DecidableEq Key]
    (asked key : Key) (value : Value) (rest : List (Key × Value)) :
    ((key, value) :: rest).lookup asked =
      if asked = key then some value else rest.lookup asked := by
  rw [List.lookup_cons]
  by_cases same : asked = key
  · simp [same]
  · have differs : (asked == key) = false := by simpa using same
    simp [differs, same]

/-- Where no key comes twice, a look-up finds the pairs of the list. -/
theorem lookup_eq_some_iff_mem {Key Value : Type} [BEq Key] [LawfulBEq Key] [DecidableEq Key]
    {pairs : List (Key × Value)} (distinct : (pairs.map Prod.fst).Nodup) {asked : Key}
    {value : Value} : pairs.lookup asked = some value ↔ (asked, value) ∈ pairs := by
  induction pairs with
  | nil => simp
  | cons pair rest inductionHypothesis =>
      obtain ⟨key, kept⟩ := pair
      rw [List.map_cons, List.nodup_cons] at distinct
      rw [lookup_cons_ite, List.mem_cons, Prod.mk.injEq]
      by_cases same : asked = key
      · subst same
        have absent : (asked, value) ∉ rest := by
          intro membership
          exact distinct.1 (List.mem_map.2 ⟨_, membership, rfl⟩)
        simp [absent, eq_comm]
      · simp [same, inductionHypothesis distinct.2]

end RuleDigest
