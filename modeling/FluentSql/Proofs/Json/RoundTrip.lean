/-
What is written as JSON is read as it was.

- `parse_of_spells`: a text is read as the value that it spells, if that is not too deep and stands for itself.
- `parse_compact`: so is what is written for a value that its text determines.
-/
import FluentSql.Proofs.Json.Spelling

namespace FluentSql.Json

open FluentSql.Json.Parser FluentSql.Json.Spelling

/-- **Texts that spell a value.** In no object of the value may a name come twice or the reserved name come first. -/
theorem parse_of_spells {text : String} {j : Json} (h : Spells text j) (hj : j.all isVerbatim = true)
    (hdepth : j.depth ≤ maxDepth) : parse text = .ok j := by
  obtain ⟨rest, hvalue, hrest⟩ := h
  obtain ⟨j', hread, hkeep⟩ := value_takes true (text.toList.length + 1) maxDepth hvalue (Nat.le_succ _) hdepth fun _ => hj
  have hfinish : finish rest = .ok () := by rw [finish, hrest]
  obtain rfl := hkeep rfl
  rw [parse, ofChars, hread, wholeText]
  simp only [Except.bind, hfinish]
  rfl

/-- **Written, then read.** The text of a writable value that is not too deep spells that value. -/
theorem parse_compact {j : Json} (hj : j.all isWritable = true) (hdepth : j.depth ≤ maxDepth) :
    parse j.compact = .ok j := by
  rw [all_isWritable, Bool.and_eq_true, Bool.and_eq_true] at hj
  have hverbatim : j.all isVerbatim = true := by
    have hboth := all_and (p := hasDistinctNames) (q := isPlain) j
    rw [hj.1.2, hj.2] at hboth
    exact hboth
  exact parse_of_spells (spells_compact hj.1.1) hverbatim hdepth

end FluentSql.Json
