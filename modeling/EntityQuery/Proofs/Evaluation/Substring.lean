import EntityQuery.Proofs.Evaluation.Likeness
import EntityQuery.Proofs.Request.Writing

/-!
# Substring tests as patterns

A substring test is written as a pattern match, in which the text looked for stands escaped between two
`%` signs. Matching such a pattern is finding the text.

* `patternItems_escapeLikeChars`: escaped characters are read as themselves.
* `isLike_substringPattern`: a text is like the pattern of another exactly if it contains it.
* `isLike_escaped_iff` says the same of the pattern as it is put together.
-/

namespace EntityQuery

/-! ## Finding a text -/

/-- Characters with anything behind them match what begins with them. -/
theorem matches_chars_iff {needle text : List Char} :
    Matches (needle.map .char ++ [.any]) text ↔ needle <+: text := by
  induction needle generalizing text with
  | nil =>
    exact iff_of_true (matches_any_iff.2 ⟨[], List.nil_suffix, .nil⟩) List.nil_prefix
  | cons c needle ih =>
    cases text with
    | nil =>
      refine iff_of_false (fun h => ?_) (fun h => nomatch List.prefix_nil.1 h)
      have hchar := matches_nil_iff.1 h (.char c) List.mem_cons_self
      cases hchar
    | cons d text =>
      rw [List.map_cons, List.cons_append, matches_char_iff, ih, List.cons_prefix_cons]

/-- With anything in front of them too, they match what contains them. -/
theorem matches_any_chars_iff {needle text : List Char} :
    Matches (.any :: (needle.map .char ++ [.any])) text ↔ needle <:+: text := by
  rw [matches_any_iff, List.infix_iff_prefix_suffix]
  exact exists_congr fun rest => by rw [matches_chars_iff, and_comm]

/-! ## Escaped texts -/

/-- Escaped characters stand for themselves. -/
theorem patternItems_escapeLikeChars (needle rest : List Char) :
    patternItems (some '\\') (escapeLikeChars '\\' needle ++ '%' :: rest) =
      needle.map .char ++ patternItems (some '\\') ('%' :: rest) := by
  induction needle with
  | nil => rfl
  | cons c needle ih =>
    rw [escapeLikeChars]
    split
    · next h =>
      rw [List.cons_append, List.cons_append, patternItems, if_pos rfl, ih]
      rfl
    -- a character that is none of the three means itself, as something is behind it
    · next h =>
      obtain ⟨hany, hone, hescape⟩ : c ≠ '%' ∧ c ≠ '_' ∧ c ≠ '\\' := by
        refine ⟨?_, ?_, ?_⟩ <;> (rintro rfl; exact h (by simp))
      rw [List.map_cons, List.cons_append, List.cons_append, ← ih]
      cases hrest : escapeLikeChars '\\' needle ++ '%' :: rest with
      | nil => simp at hrest
      | cons d ds =>
        rw [patternItems, if_neg (by simpa using hescape), PatternItem.ofChar, if_neg hany,
          if_neg hone]

/-- The pattern of a substring test is read as the characters of the text, with anything in front of
them and behind. -/
theorem patternItems_substringPattern (needle : String) :
    patternItems (some '\\') (substringPattern needle).toList =
      .any :: (needle.toList.map .char ++ [.any]) := by
  have hpattern : (substringPattern needle).toList =
      '%' :: (escapeLikeChars '\\' needle.toList ++ ['%']) := by
    simp [substringPattern, escapeLike]
  have hrest := patternItems_escapeLikeChars needle.toList []
  cases hchars : escapeLikeChars '\\' needle.toList ++ ['%'] with
  | nil => simp at hchars
  | cons d ds =>
    rw [hchars] at hrest
    rw [hpattern, hchars, patternItems, if_neg (by decide), hrest]
    rfl

/-- A text is like the pattern of another exactly if it contains it. -/
theorem isLike_substringPattern (text needle : String) :
    isLike text (substringPattern needle) (some '\\') = decide (needle.toList <:+: text.toList) := by
  rw [Bool.eq_iff_iff, decide_eq_true_iff, isLike_iff, patternItems_substringPattern]
  exact matches_any_chars_iff

/-- Whatever its characters are, the escaped form of a text between two `%` signs matches the texts in
which it stands somewhere, and no others. -/
theorem isLike_escaped_iff (text needle : String) :
    isLike text ("%" ++ escapeLike needle ++ "%") (some likeEscape) = true ↔
      ∃ before behind, text = before ++ needle ++ behind := by
  have hlike := isLike_substringPattern text needle
  rw [substringPattern] at hlike
  rw [likeEscape, hlike, decide_eq_true_iff]
  constructor
  · rintro ⟨before, behind, htext⟩
    refine ⟨.ofList before, .ofList behind, String.toList_inj.1 ?_⟩
    simp [← htext]
  · rintro ⟨before, behind, rfl⟩
    exact ⟨before.toList, behind.toList, by simp⟩

example : isLike "50% off" ("%" ++ escapeLike "0%" ++ "%") (some likeEscape) = true := by cbv

example : isLike "500 off" ("%" ++ escapeLike "0%" ++ "%") (some likeEscape) = false := by cbv

end EntityQuery
