import EntityQuery.Proofs.Sql.Spelling

/-!
# Rendering tokens

A row of tokens is written with a blank between any two of them, but for those that stick together: a
comma, a closing parenthesis and a semicolon stick to what is before them, an opening parenthesis and the
sign of a number to what is behind them, and a dot to the names on both sides.

* `Token.spelling` is the text of one token, and `Token.Plain` says which tokens can be written.
* `tokenize_render`: a row of plain tokens is read back from its text.
-/

namespace EntityQuery.Sql

/-! ## Spelling -/

/-- A name that is written as it is: a word that is not reserved. -/
def IsBare (name : String) : Prop := IsWord name ∧ Keyword.ofWord? name = none

namespace Token

/-- The text of a token. -/
def spelling : Token → List Char
  | .identifier name => name.toList
  | .number digits => digits.toList
  | .string content => '\'' :: (doubled content.toList ++ ['\''])
  | .keyword word => word.text.toList
  | .symbol sign => sign.text.toList
  | .unknown c => [c]

/-- A token that can be written: a name is bare, and a numeral is whole. -/
def Plain : Token → Prop
  | .identifier name => IsBare name
  | .number digits => digits.toList ≠ [] ∧ ∀ c ∈ digits.toList, c.isDigit = true
  | .string _ | .keyword _ | .symbol _ => True
  | .unknown _ => False

/-- Whether the second token is written without a blank behind the first. -/
def sticks : Token → Token → Bool
  | _, .symbol .comma | _, .symbol .rightParen | _, .symbol .semicolon => true
  | .symbol .leftParen, _ => true
  | .identifier _, .symbol .dot => true
  | .symbol .dot, .identifier _ => true
  | .symbol .minus, .number _ => true
  | _, _ => false

/-- Whether a token ends in front of a character. -/
def endsAt : Token → Char → Bool
  | .symbol .leftParen, _ | .symbol .dot, _ => true
  | .symbol .minus, c => c != '-'
  | .identifier _, c => c ∈ [' ', ',', ')', ';', '.']
  | _, c => c ∈ [' ', ',', ')', ';']

end Token

/-- The text of a row of tokens. -/
def render : List Token → List Char
  | [] => []
  | [t] => t.spelling
  | t :: u :: ts => t.spelling ++ (if t.sticks u then [] else [' ']) ++ render (u :: ts)

/-! ## Single tokens -/

/-- What may stand behind the text of a token. -/
def Token.Stands (t : Token) (rest : List Char) : Prop :=
  ∀ c cs, rest = c :: cs → t.endsAt c = true

/-- The text of a plain token is one of its spellings. -/
theorem Token.Plain.spelledAs {t : Token} (h : t.Plain) : t.SpelledAs t.spelling := by
  cases t with
  | identifier name =>
    obtain ⟨c, cs, hname, hc, hcs⟩ := h.1.shape
    exact .bare hname hc hcs h.2
  | number digits => exact .whole h.1 h.2
  | string content => exact .string content
  | keyword word => exact .keyword (Text.sameName_self word.text)
  | symbol sign => exact .symbol sign
  | unknown c => exact h.elim

/-- A token does not go on where it ends. -/
theorem Token.goesOn_of_endsAt {t : Token} {c : Char} (h : t.endsAt c = true) : t.goesOn c = false := by
  cases t with
  | symbol s =>
    cases s with
    | minus => simpa [endsAt, goesOn, Symbol.goesOn] using h
    | less | greater =>
      simp only [endsAt, List.mem_cons, List.not_mem_nil, or_false, decide_eq_true_eq] at h
      rcases h with rfl | rfl | rfl | rfl <;> rfl
    | _ => rfl
  | identifier _ =>
    simp only [endsAt, List.mem_cons, List.not_mem_nil, or_false, decide_eq_true_eq] at h
    rcases h with rfl | rfl | rfl | rfl | rfl <;> rfl
  | _ =>
    simp only [endsAt, List.mem_cons, List.not_mem_nil, or_false, decide_eq_true_eq] at h
    rcases h with rfl | rfl | rfl | rfl <;> rfl

/-- A token is read from its text, in front of what may stand behind it. -/
theorem tokenizeChars_spelling {t : Token} {rest : List Char} (ht : t.Plain) (h : t.Stands rest) :
    tokenizeChars (t.spelling ++ rest) = t :: tokenizeChars rest :=
  ht.spelledAs.read fun c cs hrest => Token.goesOn_of_endsAt (h c cs hrest)

/-! ## Rows of tokens -/

theorem endsAt_blank (t : Token) : t.endsAt ' ' = true := by
  cases t with
  | symbol s => cases s <;> decide
  | _ => rfl

/-- A token may stand behind one that it sticks to. -/
theorem stands_of_sticks {t u : Token} (hu : u.Plain) (h : t.sticks u = true) (rest : List Char) :
    t.Stands (u.spelling ++ rest) := by
  intro c cs hrest
  unfold Token.sticks at h
  split at h
  -- the signs that stick to what is before them
  iterate 3
    · obtain ⟨rfl, -⟩ := List.cons.inj hrest
      cases t with
      | symbol s => cases s <;> decide
      | _ => rfl
  · rfl
  · obtain ⟨rfl, -⟩ := List.cons.inj hrest
    rfl
  · rfl
  · next digits =>
    -- the first digit of a number is no minus
    have hdash : c ≠ '-' := by
      rintro rfl
      have hmem : '-' ∈ digits.toList := by
        cases hdigits : digits.toList with
        | nil => exact absurd hdigits hu.1
        | cons d ds =>
          rw [Token.spelling, hdigits] at hrest
          exact (List.cons.inj hrest).1 ▸ List.mem_cons_self
      exact absurd (hu.2 '-' hmem) (by decide)
    simpa [Token.endsAt] using hdash
  · cases h

/-- The text of a row begins with that of its first token. -/
theorem render_cons (t : Token) (ts : List Token) : ∃ rest, render (t :: ts) = t.spelling ++ rest := by
  cases ts with
  | nil => exact ⟨[], (List.append_nil _).symm⟩
  | cons u ts => exact ⟨_, List.append_assoc _ _ _⟩

theorem tokenizeChars_render {ts : List Token} (h : ∀ t ∈ ts, t.Plain) :
    tokenizeChars (render ts) = ts := by
  induction ts with
  | nil => exact tokenizeChars_nil
  | cons t ts ih =>
    have ht := h t List.mem_cons_self
    have hrest := ih fun u hu => h u (List.mem_cons_of_mem _ hu)
    cases ts with
    | nil =>
      have hstands : t.Stands [] := by simp [Token.Stands]
      have hread := tokenizeChars_spelling ht hstands
      rwa [List.append_nil, tokenizeChars_nil] at hread
    | cons u ts =>
      rw [render, List.append_assoc]
      by_cases hsticks : t.sticks u = true
      · rw [if_pos hsticks, List.nil_append]
        obtain ⟨rest, hu⟩ := render_cons u ts
        have hstands := stands_of_sticks (h u (by simp)) hsticks rest
        rw [← hu] at hstands
        rw [tokenizeChars_spelling ht hstands, hrest]
      · rw [if_neg hsticks]
        have hstands : t.Stands ([' '] ++ render (u :: ts)) := by
          intro c cs hc
          obtain ⟨rfl, -⟩ := List.cons.inj hc
          exact endsAt_blank t
        rw [tokenizeChars_spelling ht hstands]
        exact congrArg _ ((tokenizeChars_blank (by decide) _).trans hrest)

/-- A row of tokens is read back from its text. -/
theorem tokenize_render {ts : List Token} (h : ∀ t ∈ ts, t.Plain) :
    tokenize (String.ofList (render ts)) = ts := by
  rw [tokenize, String.toList_ofList, tokenizeChars_render h]

/-- A semicolon is written behind all others. -/
theorem render_semicolon {ts : List Token} (h : ts ≠ []) :
    render (ts ++ [.symbol .semicolon]) = render ts ++ [';'] := by
  induction ts with
  | nil => exact absurd rfl h
  | cons t ts ih =>
    cases ts with
    | nil => exact List.append_assoc _ _ _
    | cons u ts =>
      have hrest := ih (List.cons_ne_nil u ts)
      rw [List.cons_append] at hrest
      rw [List.cons_append, List.cons_append, render, hrest, render]
      simp only [List.append_assoc]

end EntityQuery.Sql
