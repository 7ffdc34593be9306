import EntityQuery.Proofs.Storage.EntityTables

/-!
# Spellings of table names

Two notions of equal names meet in a statement. A table is looked up by its upper-cased name, with the
upper case of all letters, of which some have one of several characters. A qualifier in an expression is
compared with the name that the table is filed under, up to the case of ASCII letters only.

* `Text.isLower_of_mem_upper`: no upper-cased name has a lower-case ASCII letter, so on names that tables
  are filed under the second notion is equality (`Text.sameName_uppercased_iff`).
* `Text.sameName_uppercased_self_iff` finds the spellings on which the two agree: the letters past ASCII
  must be in upper case already.
-/

namespace EntityQuery

namespace Text

/-! ## Upper-cased letters -/

theorem isLower_iff {c : Char} : c.isLower = true ↔ 0x61 ≤ c.toNat ∧ c.toNat ≤ 0x7A := by
  rw [Char.isLower, Bool.and_eq_true, decide_eq_true_iff, decide_eq_true_iff]
  exact Iff.rfl

theorem isUpper_iff {c : Char} : c.isUpper = true ↔ 0x41 ≤ c.toNat ∧ c.toNat ≤ 0x5A := by
  rw [Char.isUpper, decide_eq_true_iff]
  exact Iff.rfl

theorem isLower_ofNat {n : Nat} (h : n < 0x61 ∨ 0x7A < n) : (Char.ofNat n).isLower = false := by
  rw [← Bool.not_eq_true, isLower_iff, Char.toNat_ofNat]
  split <;> omega

/-- Letters of one character do not go to lower-case ASCII letters. -/
theorem shiftedStrides_apart : ∀ p ∈ shiftedStrides,
    (p.1.last : Int) + p.2 < 0x61 ∨ (0x7A : Int) < p.1.first + p.2 := by
  decide +kernel

/-- Letters that are spelled out do not go to lower-case ASCII letters, but to several characters. -/
theorem expandedLetters_apart :
    (expandedLetters.all fun p => 1 < p.2.length && p.2.all fun d => !d.isLower) = true := by
  decide +kernel

theorem expanded_of_find? {c c' : Char} {cs : List Char}
    (h : expandedLetters.find? (·.1 == c) = some (c', cs)) :
    1 < cs.length ∧ ∀ d ∈ cs, d.isLower = false := by
  have hall := List.all_eq_true.1 expandedLetters_apart _ (List.mem_of_find?_eq_some h)
  simpa using hall

/-- No upper-cased letter is a lower-case ASCII letter. -/
theorem isLower_of_mem_upper {c d : Char} (h : d ∈ upper c) : d.isLower = false := by
  rw [upper] at h
  split at h
  · rw [List.mem_singleton.1 h, Char.isLower_toUpper_eq_false]
  · next hpast =>
    rw [upperPastAscii] at h
    split at h
    · next _ cs hfind => exact (expanded_of_find? hfind).2 d h
    · split at h
      · next _ stride distance hfind =>
        rw [List.mem_singleton.1 h]
        have happart := shiftedStrides_apart _ (List.mem_of_find?_eq_some hfind)
        have hin := List.find?_some hfind
        simp only [Stride.contains, Bool.and_eq_true, decide_eq_true_eq] at hin happart
        refine isLower_ofNat ?_
        omega
      · rw [List.mem_singleton.1 h, ← Bool.not_eq_true, isLower_iff]
        have hge : 0x80 ≤ c.toNat := Nat.le_of_not_lt fun hlt => hpast (UInt32.lt_iff_toNat_lt.2 hlt)
        omega

/-- A letter has at least one upper-case character. -/
theorem length_upper_pos (c : Char) : 0 < (upper c).length := by
  rw [upper]
  split
  · exact Nat.one_pos
  · rw [upperPastAscii]
    split
    · next _ cs hfind => exact Nat.zero_lt_of_lt (expanded_of_find? hfind).1
    · split <;> exact Nat.one_pos

/-! ## Names that tables are filed under -/

/-- Folding case loses nothing of an upper-cased name. -/
theorem toUpper_folded_uppercased (s : String) :
    (folded (uppercased s)).map Char.toUpper = (uppercased s).toList := by
  rw [folded, List.map_map]
  refine (List.map_congr_left fun c hc => ?_).trans (List.map_id _)
  rw [toList_uppercased] at hc
  obtain ⟨d, -, hd⟩ := List.mem_flatMap.1 hc
  have hlower : ¬ c.isLower := by simp [isLower_of_mem_upper hd]
  rw [Function.comp_apply, Char.toUpper_toLower_eq_toUpper, Char.toUpper_eq_of_not_isLower hlower, id]

/-- Upper-cased names that are equal up to the case of ASCII letters are equal. -/
theorem sameName_uppercased_iff {a b : String} :
    sameName (uppercased a) (uppercased b) = true ↔ uppercased a = uppercased b := by
  refine ⟨fun h => String.toList_inj.1 ?_, fun h => by rw [h, sameName_self]⟩
  rw [← toUpper_folded_uppercased a, ← toUpper_folded_uppercased b, sameName_iff.1 h]

/-! ## Spellings -/

/-- The letters past ASCII are in upper case. -/
def UpperPastAscii (s : String) : Prop := ∀ c ∈ s.toList, ¬ c.val < 0x80 → upper c = [c]

/-- Case folding leaves characters past ASCII alone, and does not lead to them. -/
theorem toLower_eq_iff {c d : Char} (hc : ¬ c.val < 0x80) : d.toLower = c ↔ d = c := by
  by_cases hd : d.isUpper
  · have hrange := isUpper_iff.1 hd
    have hge : 0x80 ≤ c.toNat := Nat.le_of_not_lt fun hlt => hc (UInt32.lt_iff_toNat_lt.2 hlt)
    constructor
    · intro h
      have hlower : c.toNat = (Char.ofNat (d.toNat + 32)).toNat := by
        rw [← h, Char.toLower_eq_of_isUpper hd]
      rw [Char.toNat_ofNat] at hlower
      split at hlower <;> omega
    · rintro rfl
      omega
  · rw [Char.toLower_eq_of_not_isUpper hd]

/-- The length of a text does not shrink in upper case. -/
theorem length_le_upper (cs : List Char) : cs.length ≤ (cs.flatMap upper).length := by
  induction cs with
  | nil => exact Nat.le_refl 0
  | cons c cs ih =>
    have hc := length_upper_pos c
    rw [List.flatMap_cons, List.length_append, List.length_cons]
    omega

/-- The upper-cased text agrees with the text itself, up to the case of ASCII letters, exactly if its
letters past ASCII are in upper case. -/
theorem folded_flatMap_upper_iff (cs : List Char) :
    (cs.flatMap upper).map Char.toLower = cs.map Char.toLower ↔
      ∀ c ∈ cs, ¬ c.val < 0x80 → upper c = [c] := by
  induction cs with
  | nil => simp
  | cons c cs ih =>
    rw [List.flatMap_cons, List.map_append, List.map_cons, List.forall_mem_cons]
    constructor
    · intro h
      -- a longer upper case would leave too few characters for those of the rest
      obtain ⟨d, hd⟩ : ∃ d, upper c = [d] := by
        have hlength := congrArg List.length h
        simp only [List.length_append, List.length_map, List.length_cons] at hlength
        have hpos := length_upper_pos c
        have hrest := length_le_upper cs
        exact List.length_eq_one_iff.1 (by omega)
      rw [hd, List.map_singleton, List.singleton_append, List.cons.injEq] at h
      refine ⟨fun hc => ?_, ih.1 h.2⟩
      have hself := (toLower_eq_iff hc).2 rfl
      rw [hd, (toLower_eq_iff hc).1 (h.1.trans hself)]
    · rintro ⟨hc, hcs⟩
      have hfirst : (upper c).map Char.toLower = [c.toLower] := by
        by_cases hascii : c.val < 0x80
        · rw [upper_of_ascii hascii, List.map_singleton, Char.toLower_toUpper_eq_toLower]
        · rw [hc hascii, List.map_singleton]
      rw [hfirst, ih.2 hcs, List.singleton_append]

/-- The name that a table is filed under is equal to a spelling, up to the case of ASCII letters, exactly
if the letters past ASCII are in upper case in the spelling. -/
theorem sameName_uppercased_self_iff {s : String} :
    sameName (uppercased s) s = true ↔ UpperPastAscii s := by
  rw [sameName_iff, folded, folded, toList_uppercased, folded_flatMap_upper_iff, UpperPastAscii]

instance (s : String) : Decidable (UpperPastAscii s) := decidable_of_iff _ sameName_uppercased_self_iff

end Text

end EntityQuery
