/-!
# ASCII case folding

Column names, and table names within a statement, are compared without regard to the case of ASCII
letters. All other characters must be equal.
-/

namespace EntityQuery.Text

/-- The characters of a text with ASCII letters in lower case. -/
def folded (s : String) : List Char := s.toList.map Char.toLower

/-- Whether two names are equal up to the case of ASCII letters. -/
def sameName (a b : String) : Bool := folded a == folded b

theorem sameName_iff {a b : String} : sameName a b = true ↔ folded a = folded b := by
  simp [sameName]

@[simp] theorem sameName_self (a : String) : sameName a a = true := by simp [sameName]

theorem sameName_comm (a b : String) : sameName a b = sameName b a := by
  simp only [sameName]
  exact BEq.comm

theorem sameName_trans {a b c : String} (hab : sameName a b = true) (hbc : sameName b c = true) :
    sameName a c = true := by
  rw [sameName_iff] at *
  exact hab.trans hbc

end EntityQuery.Text
