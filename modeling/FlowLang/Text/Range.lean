/-!
# Ranges of characters

A class of characters given as a list of ranges of code points, as the tables of a Unicode property are.
-/

namespace FlowLang.Text

/-- The first and the last code point of a run of characters. -/
abbrev Range := Nat × Nat

/-- The character's code point lies in the range, both ends included. -/
def Range.has (r : Range) (c : Char) : Bool :=
  r.1 ≤ c.toNat && c.toNat ≤ r.2

/-- The character lies in one of the ranges. -/
def inRanges (table : List Range) (c : Char) : Bool :=
  table.any (Range.has · c)

theorem inRanges_eq_true_iff {table : List Range} {c : Char} :
    inRanges table c = true ↔ ∃ r ∈ table, r.1 ≤ c.toNat ∧ c.toNat ≤ r.2 := by
  simp [inRanges, Range.has]

end FlowLang.Text
