/-!
# LIKE patterns

A pattern is a list of `PatternItem`s: `%` matches any run of characters, `_` any one character, and
everything else itself. The character after the escape character matches itself, and so does an
escape character at the end.

`isLike` goes through items and text side by side, one `Matching.step` after the other. At a `%` the
run is empty at first. Where an item does not match, the run of the last `%` gets one character longer,
and matching goes on behind it; the runs of the `%` signs before it stay as they are.
-/

namespace EntityQuery

/-- One item of a pattern. -/
inductive PatternItem where
  /-- any run of characters, the empty one included -/
  | any
  /-- any one character -/
  | one
  /-- exactly this character -/
  | char (c : Char)
  deriving DecidableEq, Repr

/-- What an unescaped character means. -/
def PatternItem.ofChar (c : Char) : PatternItem :=
  if c = '%' then .any else if c = '_' then .one else .char c

/-- The items of a pattern. -/
def patternItems (escape : Option Char) : List Char → List PatternItem
  | [] => []
  | [c] => [if some c = escape then .char c else .ofChar c]
  | c :: d :: cs =>
    if some c = escape then .char d :: patternItems escape cs
    else .ofChar c :: patternItems escape (d :: cs)

/-- How far items and text are matched. -/
structure Matching where
  /-- the items that are left -/
  items : List PatternItem
  /-- the text that is left -/
  text : List Char
  /-- the items behind the last `%`, and the text behind its run -/
  resume : Option (List PatternItem × List Char)

namespace Matching

/-- Nothing is matched yet. -/
def start (items : List PatternItem) (text : List Char) : Matching := ⟨items, text, none⟩

/-- Goes back to the last `%` and makes its run one character longer. -/
def retry (m : Matching) : Bool ⊕ Matching :=
  match m.resume with
  | some (items, _ :: text) => .inr ⟨items, text, some (items, text)⟩
  | _ => .inl false

/-- Matches one item, or finds the answer. -/
def step (m : Matching) : Bool ⊕ Matching :=
  match m.items, m.text with
  | items, [] => .inl (items.all (· == .any))
  | .any :: items, text => .inr ⟨items, text, some (items, text)⟩
  | .one :: items, _ :: text => .inr ⟨items, text, m.resume⟩
  | .char c :: items, d :: text => if c = d then .inr ⟨items, text, m.resume⟩ else m.retry
  | [], _ => m.retry

/-- What gets smaller: the items that may still be tried, the text for the run of the last `%`, and
the text. -/
def size (m : Matching) : Nat × Nat × Nat :=
  (max m.items.length (m.resume.elim 0 (·.1.length)), m.resume.elim 0 (·.2.length), m.text.length)

/-- Going back makes a run longer. -/
theorem size_retry {m m' : Matching} (h : m.retry = .inr m') :
    Prod.Lex (· < ·) (Prod.Lex (· < ·) (· < ·)) m'.size m.size := by
  rcases m with ⟨items, text, resume⟩
  simp only [retry] at h
  split at h
  · obtain rfl := Sum.inr.inj h
    refine Prod.Lex.right' _ ?_ (Prod.Lex.left _ _ ?_)
    · simp only [Option.elim_some, Nat.max_self]
      exact Nat.le_max_right _ _
    · simp
  · cases h

/-- Every step makes the matching smaller. -/
theorem size_step {m m' : Matching} (h : m.step = .inr m') :
    Prod.Lex (· < ·) (Prod.Lex (· < ·) (· < ·)) m'.size m.size := by
  rcases m with ⟨items, text, resume⟩
  simp only [step] at h
  split at h
  · cases h
  · obtain rfl := Sum.inr.inj h
    refine Prod.Lex.left _ _ ?_
    simp only [Option.elim_some, List.length_cons]
    omega
  · obtain rfl := Sum.inr.inj h
    refine Prod.Lex.right' _ ?_ (Prod.Lex.right' _ (Nat.le_refl _) ?_)
    · simp only [List.length_cons]
      omega
    · simp
  · split at h
    · obtain rfl := Sum.inr.inj h
      refine Prod.Lex.right' _ ?_ (Prod.Lex.right' _ (Nat.le_refl _) ?_)
      · simp only [List.length_cons]
        omega
      · simp
    · exact size_retry h
  · exact size_retry h

/-- Whether the items match the text, with a longer run of the last `%` if need be. -/
def run (m : Matching) : Bool :=
  match _h : m.step with
  | .inl answer => answer
  | .inr m' => m'.run
termination_by m.size
decreasing_by exact size_step ‹_›

end Matching

/-- Whether `text` is like `pattern`. -/
def isLike (text pattern : String) (escape : Option Char) : Bool :=
  (Matching.start (patternItems escape pattern.toList) text.toList).run

end EntityQuery
