import EntityQuery.Text.Stride

/-!
# Blanks

The Unicode property `White_Space`: the characters that separate the words of SQL text.
-/

namespace EntityQuery.Text

/-- The blanks past ASCII. -/
def blankStrides : List Stride := [
  ⟨0x85, 0x85, 1⟩, ⟨0xA0, 0xA0, 1⟩, ⟨0x1680, 0x1680, 1⟩, ⟨0x2000, 0x200A, 1⟩, ⟨0x2028, 0x2029, 1⟩,
  ⟨0x202F, 0x202F, 1⟩, ⟨0x205F, 0x205F, 1⟩, ⟨0x3000, 0x3000, 1⟩]

/-- The Unicode property `White_Space`. -/
def isBlank (c : Char) : Bool :=
  if c.val < 0x80 then c.val == 0x20 || (0x09 ≤ c.val && c.val ≤ 0x0D) else inStrides blankStrides c

/-- Whatever core counts as white space is a blank. -/
theorem isBlank_of_isWhitespace {c : Char} (h : c.isWhitespace = true) : isBlank c = true := by
  simp only [Char.isWhitespace, Bool.or_eq_true, decide_eq_true_eq] at h
  rcases h with ((rfl | rfl) | rfl) | rfl <;> decide

end EntityQuery.Text
