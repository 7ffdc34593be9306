import Mathlib
import EntityQuery.Evaluation.Pattern

/-!
# What patterns match

A text is like a pattern if it can be cut into parts, one for each item of the pattern. Matching does not
try all cuts: it goes back to the last `%` only, and never makes the run of an earlier one longer. This
loses nothing. What the items behind the last `%` match with a longer run of an earlier one, they match
with a longer run of the last one too.

* `Like` says of the characters of a pattern what they match, and `Matches` says it of items
  (`like_iff_matches`).
* `Matching.Holds` is what a matching stands for: the items that are left match the text that is left, or
  they will after going back. Steps keep it (`Matching.Aligned.holds_step`), and so does a run of them
  (`Matching.Aligned.run_iff`).
* `isLike_decides`: matching comes to an end, and finds out whether the text is like the pattern.
-/

namespace EntityQuery

/-! ## Patterns and texts -/

/-- The text is like the pattern. -/
inductive Like (escape : Option Char) : List Char → List Char → Prop
  /-- nothing is like nothing -/
  | nil : Like escape [] []
  /-- the character behind an escape character matches itself -/
  | escaped {c d : Char} {pattern text : List Char} (hescape : some c = escape)
      (hrest : Like escape pattern text) : Like escape (c :: d :: pattern) (d :: text)
  /-- an escape character at the end matches itself -/
  | last {c : Char} (hescape : some c = escape) : Like escape [c] [c]
  /-- `%` matches any run of characters -/
  | run (part : List Char) {pattern text : List Char} (hescape : some '%' ≠ escape)
      (hrest : Like escape pattern text) : Like escape ('%' :: pattern) (part ++ text)
  /-- `_` matches any one character -/
  | one (c : Char) {pattern text : List Char} (hescape : some '_' ≠ escape)
      (hrest : Like escape pattern text) : Like escape ('_' :: pattern) (c :: text)
  /-- every other character matches itself -/
  | same {c : Char} {pattern text : List Char} (hescape : some c ≠ escape) (hrun : c ≠ '%')
      (hone : c ≠ '_') (hrest : Like escape pattern text) : Like escape (c :: pattern) (c :: text)

/-- The part of a text that one item matches. -/
def PatternItem.Takes : PatternItem → List Char → Prop
  | .any, _ => True
  | .one, part => ∃ c, part = [c]
  | .char c, part => part = [c]

/-- The text can be cut into parts, one for each item. -/
inductive Matches : List PatternItem → List Char → Prop
  /-- no parts for no items -/
  | nil : Matches [] []
  /-- a part for the first item in front of the others -/
  | cons {item : PatternItem} {items : List PatternItem} {part text : List Char}
      (hpart : item.Takes part) (hrest : Matches items text) : Matches (item :: items) (part ++ text)

section Matches

variable {items : List PatternItem} {text : List Char}

theorem matches_cons_iff {item : PatternItem} :
    Matches (item :: items) text ↔
      ∃ part rest, text = part ++ rest ∧ item.Takes part ∧ Matches items rest := by
  constructor
  · rintro (_ | ⟨hpart, hrest⟩)
    exact ⟨_, _, rfl, hpart, hrest⟩
  · rintro ⟨part, rest, rfl, hpart, hrest⟩
    exact .cons hpart hrest

/-- A `%` leaves some rest of the text to the items behind it. -/
theorem matches_any_iff : Matches (.any :: items) text ↔ ∃ rest, rest <:+ text ∧ Matches items rest := by
  rw [matches_cons_iff]
  constructor
  · rintro ⟨part, rest, rfl, -, hrest⟩
    exact ⟨rest, List.suffix_append part rest, hrest⟩
  · rintro ⟨rest, ⟨part, rfl⟩, hrest⟩
    exact ⟨part, rest, rfl, trivial, hrest⟩

/-- A second `%` in a row adds nothing. -/
theorem matches_any_any_iff : Matches (.any :: .any :: items) text ↔ Matches (.any :: items) text := by
  rw [matches_any_iff]
  constructor
  · rintro ⟨rest, hsuffix, h⟩
    obtain ⟨rest', hsuffix', h⟩ := matches_any_iff.1 h
    exact matches_any_iff.2 ⟨rest', hsuffix'.trans hsuffix, h⟩
  · exact fun h => ⟨text, List.suffix_rfl, h⟩

theorem matches_one_iff {c : Char} : Matches (.one :: items) (c :: text) ↔ Matches items text := by
  rw [matches_cons_iff]
  constructor
  · rintro ⟨part, rest, htext, ⟨d, rfl⟩, hrest⟩
    obtain ⟨-, rfl⟩ := List.cons.inj htext
    exact hrest
  · exact fun hrest => ⟨[c], text, rfl, ⟨c, rfl⟩, hrest⟩

theorem matches_char_iff {c d : Char} :
    Matches (.char c :: items) (d :: text) ↔ c = d ∧ Matches items text := by
  rw [matches_cons_iff]
  constructor
  · rintro ⟨part, rest, htext, rfl, hrest⟩
    obtain ⟨rfl, rfl⟩ := List.cons.inj htext
    exact ⟨rfl, hrest⟩
  · rintro ⟨rfl, hrest⟩
    exact ⟨[c], text, rfl, rfl, hrest⟩

theorem not_matches_nil_cons {c : Char} : ¬ Matches [] (c :: text) := nofun

/-- Only `%` signs match nothing. -/
theorem matches_nil_iff : Matches items [] ↔ ∀ item ∈ items, item = .any := by
  induction items with
  | nil => exact iff_of_true .nil (fun _ h => nomatch h)
  | cons item items ih =>
    rw [matches_cons_iff, List.forall_mem_cons, ← ih]
    constructor
    · rintro ⟨part, rest, htext, hpart, hrest⟩
      obtain ⟨rfl, rfl⟩ := List.append_eq_nil_iff.1 htext.symm
      cases item with
      | any => exact ⟨rfl, hrest⟩
      | one => cases hpart with | intro c hc => cases hc
      | char c => cases hpart
    · rintro ⟨rfl, hrest⟩
      exact ⟨[], [], rfl, trivial, hrest⟩

/-- Items other than `%` match one character each. -/
theorem matches_append_of_fixed {fixed : List PatternItem} (hfixed : .any ∉ fixed)
    (h : Matches (fixed ++ items) text) :
    fixed.length ≤ text.length ∧ Matches items (text.drop fixed.length) := by
  induction fixed generalizing text with
  | nil => exact ⟨Nat.zero_le _, h⟩
  | cons item fixed ih =>
    obtain ⟨hitem, hfixed⟩ := not_or.1 (mt List.mem_cons.2 hfixed)
    obtain ⟨part, rest, rfl, hpart, hrest⟩ := matches_cons_iff.1 h
    obtain ⟨hlength, hitems⟩ := ih hfixed hrest
    obtain ⟨c, rfl⟩ : ∃ c, part = [c] := by
      cases item with
      | any => exact absurd rfl hitem
      | one => exact hpart
      | char c => exact ⟨c, hpart⟩
    exact ⟨Nat.succ_le_succ hlength, hitems⟩

end Matches

/-! ## Reading patterns -/

section Reading

variable {escape : Option Char} {pattern text : List Char}

/-- The character behind an escape character consumes itself. -/
theorem like_escaped_iff {c d : Char} (hc : some c = escape) :
    Like escape (c :: d :: pattern) text ↔ ∃ rest, text = d :: rest ∧ Like escape pattern rest := by
  constructor
  · intro h
    cases h with
    | escaped _ hrest => exact ⟨_, rfl, hrest⟩
    | run _ hescape => exact absurd hc hescape
    | one _ hescape => exact absurd hc hescape
    | same hescape => exact absurd hc hescape
  · rintro ⟨rest, rfl, hrest⟩
    exact .escaped hc hrest

theorem like_last_iff {c : Char} (hc : some c = escape) : Like escape [c] text ↔ text = [c] := by
  constructor
  · intro h
    cases h with
    | last => rfl
    | run _ hescape => exact absurd hc hescape
    | one _ hescape => exact absurd hc hescape
    | same hescape => exact absurd hc hescape
  · rintro rfl
    exact .last hc

/-- A character that is not escaped takes what its item takes. -/
theorem like_cons_iff {c : Char} (hc : some c ≠ escape) :
    Like escape (c :: pattern) text ↔
      ∃ part rest, text = part ++ rest ∧ (PatternItem.ofChar c).Takes part ∧
        Like escape pattern rest := by
  constructor
  · intro h
    cases h with
    | escaped hescape | last hescape => exact absurd hescape hc
    | run part _ hrest => exact ⟨part, _, rfl, trivial, hrest⟩
    | one d _ hrest => exact ⟨[d], _, rfl, ⟨d, rfl⟩, hrest⟩
    | same _ hrun hone hrest =>
      refine ⟨[c], _, rfl, ?_, hrest⟩
      rw [PatternItem.ofChar, if_neg hrun, if_neg hone]
      rfl
  · rintro ⟨part, rest, rfl, hpart, hrest⟩
    rw [PatternItem.ofChar] at hpart
    split at hpart
    · next hrun =>
      subst hrun
      exact .run part hc hrest
    · next hrun =>
      split at hpart
      · next hone =>
        subst hone
        obtain ⟨d, rfl⟩ := hpart
        exact .one d hc hrest
      · next hone =>
        obtain rfl : part = [c] := hpart
        exact .same hc hrun hone hrest

/-- A pattern is read as its items. -/
theorem like_iff_matches : Like escape pattern text ↔ Matches (patternItems escape pattern) text := by
  induction pattern using patternItems.induct escape generalizing text with
  | case1 =>
    constructor
    · rintro ⟨⟩
      exact .nil
    · rintro ⟨⟩
      exact .nil
  | case2 c =>
    rw [patternItems]
    split
    · next hc =>
      rw [like_last_iff hc, matches_cons_iff]
      constructor
      · rintro rfl
        exact ⟨[c], [], rfl, rfl, .nil⟩
      · rintro ⟨part, rest, rfl, rfl, ⟨⟩⟩
        rfl
    · next hc =>
      rw [like_cons_iff hc, matches_cons_iff]
      have hnil (rest : List Char) : Like escape [] rest ↔ Matches [] rest :=
        ⟨fun h => by cases h; exact .nil, fun h => by cases h; exact .nil⟩
      simp only [hnil]
  | case3 c d cs hc ih =>
    rw [patternItems, if_pos hc, like_escaped_iff hc, matches_cons_iff]
    constructor
    · rintro ⟨rest, rfl, hrest⟩
      exact ⟨[d], rest, rfl, rfl, ih.1 hrest⟩
    · rintro ⟨part, rest, rfl, rfl, hrest⟩
      exact ⟨rest, rfl, ih.2 hrest⟩
  | case4 c d cs hc ih =>
    rw [patternItems, if_neg hc, like_cons_iff hc, matches_cons_iff]
    simp only [ih]

end Reading

/-! ## Steps -/

namespace Matching

/-- What a matching stands for: what is left matches, or the items behind the last `%` do, with a longer
run of it. -/
def Holds (m : Matching) : Prop :=
  Matches m.items m.text ∨
    ∃ items c text, m.resume = some (items, c :: text) ∧ Matches (.any :: items) text

/-- Since the last `%`, items that match one character each have gone, with as many characters. -/
def Aligned (m : Matching) : Prop :=
  ∀ items text, m.resume = some (items, text) → ∃ fixed part, items = fixed ++ m.items ∧
    text = part ++ m.text ∧ fixed.length = part.length ∧ .any ∉ fixed

theorem aligned_start (items : List PatternItem) (text : List Char) : (start items text).Aligned :=
  fun _ _ h => nomatch h

theorem holds_start {items : List PatternItem} {text : List Char} :
    (start items text).Holds ↔ Matches items text :=
  or_iff_left fun ⟨_, _, _, h, _⟩ => nomatch h

/-- Behind a `%`, nothing has gone yet. -/
theorem aligned_resumed (items : List PatternItem) (text : List Char) :
    (⟨items, text, some (items, text)⟩ : Matching).Aligned := by
  rintro _ _ ⟨⟩
  exact ⟨[], [], rfl, rfl, rfl, List.not_mem_nil⟩

/-- Behind a `%`, what is left is matched by some rest of the text. -/
theorem holds_resumed {items : List PatternItem} {text : List Char} :
    (⟨items, text, some (items, text)⟩ : Matching).Holds ↔ Matches (.any :: items) text := by
  rw [Holds, matches_any_iff]
  constructor
  · rintro (h | ⟨_, c, rest, ⟨⟩, h⟩)
    · exact ⟨text, List.suffix_rfl, h⟩
    · obtain ⟨rest', hsuffix, h⟩ := matches_any_iff.1 h
      exact ⟨rest', hsuffix.trans (List.suffix_cons c rest), h⟩
  · rintro ⟨rest, hsuffix, h⟩
    cases text with
    | nil => exact .inl (List.suffix_nil.1 hsuffix ▸ h)
    | cons c text =>
      rcases List.suffix_cons_iff.1 hsuffix with rfl | hsuffix
      · exact .inl h
      · exact .inr ⟨items, c, text, rfl, matches_any_iff.2 ⟨rest, hsuffix, h⟩⟩

variable {m m' : Matching}

/-- With a longer run of the last `%`, the items that are left match a rest of what is left. -/
theorem Aligned.later (h : m.Aligned) {items : List PatternItem} {c : Char} {text : List Char}
    (hresume : m.resume = some (items, c :: text)) (hmatches : Matches (.any :: items) text) :
    m.text ≠ [] ∧ Matches (.any :: m.items) m.text := by
  obtain ⟨fixed, part, rfl, htext, hlength, hfixed⟩ := h _ _ hresume
  obtain ⟨rest, ⟨before, rfl⟩, hrest⟩ := matches_any_iff.1 hmatches
  obtain ⟨hshort, hitems⟩ := matches_append_of_fixed hfixed hrest
  -- the run has grown by `c` and `before`, so the items that are left start that much later
  have hdrop : rest.drop fixed.length = m.text.drop (before.length + 1) := by
    calc rest.drop fixed.length
        = ((c :: (before ++ rest)).drop (before.length + 1)).drop fixed.length := by simp
      _ = (part ++ m.text).drop (part.length + (before.length + 1)) := by
        rw [htext, List.drop_drop, hlength, Nat.add_comm]
      _ = m.text.drop (before.length + 1) := List.drop_length_add_append ..
  refine ⟨fun hnil => ?_, matches_any_iff.2 ⟨_, List.drop_suffix (before.length + 1) m.text, hdrop ▸ hitems⟩⟩
  have htotal := congrArg List.length htext
  simp only [hnil, List.length_cons, List.length_append, List.length_nil] at htotal
  omega

/-! ### One step -/

/-- Where what is left does not match, going back keeps what the matching stands for, or finds that no
run can become longer. -/
theorem step_cases_of_retry (hstep : m.step = m.retry) (h : ¬ Matches m.items m.text) :
    (∃ m', m.step = .inr m' ∧ m'.Aligned ∧ (m'.Holds ↔ m.Holds)) ∨
      ∃ answer : Bool, m.step = .inl answer ∧ (answer = true ↔ m.Holds) := by
  rw [hstep]
  have hnone (hresume : ∀ items c text, m.resume ≠ some (items, c :: text)) : ¬ m.Holds :=
    fun hholds => hholds.elim h fun ⟨items, c, text, heq, _⟩ => hresume items c text heq
  rcases m with ⟨items, text, _ | ⟨behind, _ | ⟨c, rest⟩⟩⟩
  · exact .inr ⟨false, rfl, iff_of_false Bool.false_ne_true (hnone nofun)⟩
  · exact .inr ⟨false, rfl, iff_of_false Bool.false_ne_true (hnone nofun)⟩
  · refine .inl ⟨_, rfl, aligned_resumed behind rest, holds_resumed.trans ⟨fun hany => ?_, ?_⟩⟩
    · exact .inr ⟨behind, c, rest, rfl, hany⟩
    · rintro (hmatches | ⟨_, _, _, ⟨⟩, hany⟩)
      · exact absurd hmatches h
      · exact hany

/-- One more item has gone, with its character. -/
theorem Aligned.advance {item : PatternItem} {items : List PatternItem} {c : Char} {text : List Char}
    {resume : Option (List PatternItem × List Char)}
    (h : Aligned ⟨item :: items, c :: text, resume⟩) (hitem : item ≠ .any) :
    Aligned ⟨items, text, resume⟩ := by
  intro behind rest hresume
  obtain ⟨fixed, part, rfl, rfl, hlength, hfixed⟩ := h behind rest hresume
  refine ⟨fixed ++ [item], part ++ [c], by simp, by simp, by simp [hlength], ?_⟩
  simp [hfixed, hitem.symm]

/-- A step leads to a matching that stands for the same, or to the answer. -/
theorem Aligned.step_cases (h : m.Aligned) :
    (∃ m', m.step = .inr m' ∧ m'.Aligned ∧ (m'.Holds ↔ m.Holds)) ∨
      ∃ answer : Bool, m.step = .inl answer ∧ (answer = true ↔ m.Holds) := by
  rcases m with ⟨items, _ | ⟨d, text⟩, resume⟩
  -- at the end of the text, no run can become longer
  · refine .inr ⟨items.all (· == .any), by cases items <;> rfl, ?_⟩
    rw [Holds, matches_nil_iff, List.all_eq_true]
    simp only [beq_iff_eq]
    refine (or_iff_left ?_).symm
    rintro ⟨behind, c, rest, hresume, hany⟩
    exact (h.later hresume hany).1 rfl
  · cases items with
    | nil => exact step_cases_of_retry rfl not_matches_nil_cons
    | cons item items =>
      cases item with
      -- what an earlier `%` could still reach, this one reaches too
      | any =>
        refine .inl ⟨_, rfl, aligned_resumed items (d :: text), holds_resumed.trans ⟨.inl, ?_⟩⟩
        rintro (hmatches | ⟨behind, c, rest, hresume, hany⟩)
        · exact hmatches
        · exact matches_any_any_iff.1 (h.later hresume hany).2
      | one => exact .inl ⟨_, rfl, h.advance nofun, or_congr_left matches_one_iff.symm⟩
      | char c =>
        by_cases hc : c = d
        · refine .inl ⟨_, if_pos hc, h.advance nofun, or_congr_left ?_⟩
          exact (matches_char_iff.trans (and_iff_right hc)).symm
        · exact step_cases_of_retry (if_neg hc) fun hmatches => hc (matches_char_iff.1 hmatches).1

/-! ### Runs -/

/-- Some number of steps leads from a matching to an answer. -/
inductive Ends : Matching → Bool → Prop
  /-- one step does -/
  | now {m : Matching} {answer : Bool} (h : m.step = .inl answer) : Ends m answer
  /-- one step and those behind it do -/
  | later {m m' : Matching} {answer : Bool} (h : m.step = .inr m') (hends : Ends m' answer) :
    Ends m answer

/-- Every matching comes to its end. -/
theorem ends_run (m : Matching) : m.Ends m.run := by
  induction m using run.induct with
  | case1 m answer h =>
    have hrun : m.run = answer := by
      rw [run]
      split <;> simp_all
    exact hrun ▸ .now h
  | case2 m m' h ih =>
    have hrun : m.run = m'.run := by
      rw [run]
      split <;> simp_all
    exact hrun ▸ .later h ih

/-- The answer is whether the matching holds. -/
theorem Aligned.ends_iff (h : m.Aligned) {answer : Bool} (hends : m.Ends answer) :
    answer = true ↔ m.Holds := by
  induction hends with
  | now hstep =>
    rcases h.step_cases with ⟨m', hmore, -⟩ | ⟨answer', hanswer, hiff⟩
    · cases hstep.symm.trans hmore
    · cases hstep.symm.trans hanswer
      exact hiff
  | later hstep _ ih =>
    rcases h.step_cases with ⟨m', hmore, haligned, hiff⟩ | ⟨answer', hanswer, -⟩
    · cases hstep.symm.trans hmore
      exact (ih haligned).trans hiff
    · cases hstep.symm.trans hanswer

end Matching

/-! ## The answer -/

/-- The answer is whether the items of the pattern match. -/
theorem isLike_iff {text pattern : String} {escape : Option Char} :
    isLike text pattern escape = true ↔
      Matches (patternItems escape pattern.toList) text.toList :=
  ((Matching.aligned_start _ _).ends_iff (Matching.ends_run _)).trans Matching.holds_start

/-- Matching comes to its end after some number of steps. Its answer is whether the text is like the
pattern, also where `%` or `_` is the escape character, and where an escape character is the last. -/
theorem isLike_decides (text pattern : String) (escape : Option Char) :
    (Matching.start (patternItems escape pattern.toList) text.toList).Ends (isLike text pattern escape) ∧
      (isLike text pattern escape = true ↔ Like escape pattern.toList text.toList) :=
  ⟨Matching.ends_run _, isLike_iff.trans like_iff_matches.symm⟩

example : isLike "100%" "1%%%" (some '%') = false := by cbv

example : isLike "1%0%" "1%%_%" (some '%') = true := by cbv

end EntityQuery
