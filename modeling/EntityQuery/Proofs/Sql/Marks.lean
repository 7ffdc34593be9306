import EntityQuery.Proofs.Sql.Names

/-!
# Question marks in a text

A `?` sign stands for a parameter where it stands by itself: not in a string, not in a name between
double quotes, and not in a comment. `openMarks` counts these signs character by character, and knows
nothing about tokens. They are the `?` tokens of the text (`count_tokenize`).
-/

namespace EntityQuery.Sql

/-- What a character of a text stands in. -/
inductive Region where
  /-- a place where a token may start -/
  | plain
  /-- a string -/
  | string
  /-- a name between double quotes -/
  | name
  /-- a comment, up to the end of the line -/
  | comment

/-- The number of `?` signs in plain places. Two quotes in a string leave it and enter it again. -/
def openMarks : Region → List Char → Nat
  | _, [] => 0
  | .plain, '-' :: '-' :: cs => openMarks .comment cs
  | .plain, '?' :: cs => openMarks .plain cs + 1
  | .plain, '\'' :: cs => openMarks .string cs
  | .plain, '"' :: cs => openMarks .name cs
  | .plain, _ :: cs => openMarks .plain cs
  | .string, '\'' :: cs => openMarks .plain cs
  | .string, _ :: cs => openMarks .string cs
  | .name, '"' :: cs => openMarks .plain cs
  | .name, _ :: cs => openMarks .name cs
  | .comment, '\n' :: cs => openMarks .plain cs
  | .comment, _ :: cs => openMarks .comment cs

/-! ## Leaving a region -/

theorem openMarks_string (cs : List Char) :
    openMarks .string cs = openMarks .plain (stringBody cs).2 := by
  fun_induction stringBody cs with
  | case1 => rfl
  | case2 cs ih => exact ih
  | case3 cs hcs => rfl
  | case4 c cs hdouble hquote ih =>
    rw [openMarks, ih]
    exact hquote

/-- A region that one character closes is left behind it. -/
theorem openMarks_closed {region : Region} {close : Char}
    (hclose : ∀ cs, openMarks region (close :: cs) = openMarks .plain cs)
    (hinside : ∀ c cs, c ≠ close → openMarks region (c :: cs) = openMarks region cs) (cs : List Char) :
    openMarks region cs = openMarks .plain ((cs.dropWhile (· != close)).drop 1) := by
  induction cs with
  | nil => simp [openMarks]
  | cons c cs ih =>
    by_cases hc : c = close
    · rw [hc, hclose, List.dropWhile_cons_of_neg (by simp)]
      rfl
    · rw [hinside c cs hc, ih, List.dropWhile_cons_of_pos (by simpa using hc)]

theorem openMarks_name (cs : List Char) :
    openMarks .name cs = openMarks .plain ((cs.dropWhile (· != '"')).drop 1) := by
  refine openMarks_closed (fun cs => by rw [openMarks]) (fun c cs hc => ?_) cs
  rw [openMarks]
  exact hc

theorem openMarks_comment (cs : List Char) :
    openMarks .comment cs = openMarks .plain (skipLine cs) := by
  refine openMarks_closed (fun cs => by rw [openMarks]) (fun c cs hc => ?_) cs
  rw [openMarks]
  exact hc

/-! ## Characters without effect -/

/-- A character that is no `?` and opens nothing. -/
def Inert (c : Char) : Prop := c ≠ '?' ∧ c ≠ '\'' ∧ c ≠ '"' ∧ c ≠ '-'

instance : DecidablePred Inert := fun _ => inferInstanceAs (Decidable (_ ∧ _))

/-- A character with a property that the others lack is inert. -/
theorem inert_of {p : Char → Bool} {c : Char} (hc : p c = true)
    (h : p '?' = false ∧ p '\'' = false ∧ p '"' = false ∧ p '-' = false) : Inert c := by
  obtain ⟨hmark, hquote, hdouble, hdash⟩ := h
  refine ⟨?_, ?_, ?_, ?_⟩ <;> rintro rfl <;> simp_all

theorem Inert.skip {c : Char} (h : Inert c) (cs : List Char) :
    openMarks .plain (c :: cs) = openMarks .plain cs := by
  obtain ⟨hmark, hquote, hdouble, hdash⟩ := h
  rw [openMarks]
  · exact fun _ h _ => hdash h
  · exact fun h => hmark h
  · exact fun h => hquote h
  · exact fun h => hdouble h

/-- A `-` that no other follows starts no comment. -/
theorem openMarks_dash {cs : List Char} (h : ∀ cs', cs ≠ '-' :: cs') :
    openMarks .plain ('-' :: cs) = openMarks .plain cs := by
  rw [openMarks]
  · exact fun cs' _ => h cs'
  all_goals simp

theorem openMarks_dropWhile {p : Char → Bool}
    (h : p '?' = false ∧ p '\'' = false ∧ p '"' = false ∧ p '-' = false) (cs : List Char) :
    openMarks .plain (cs.dropWhile p) = openMarks .plain cs := by
  induction cs with
  | nil => rfl
  | cons c cs ih =>
    cases hc : p c with
    | true => rw [List.dropWhile_cons_of_pos hc, ih, (inert_of hc h).skip]
    | false => rw [List.dropWhile_cons_of_neg (by simp [hc])]

theorem openMarks_number (cs : List Char) :
    openMarks .plain (numberBody cs).2 = openMarks .plain cs := by
  have hdigits := openMarks_dropWhile (p := Char.isDigit) (by decide)
  rw [numberBody, ← hdigits cs]
  split
  · next d rest hcs =>
    have hpoint : Inert '.' := by decide
    rw [hcs, hpoint.skip]
    split
    · next hd => rw [hdigits, (inert_of hd (by decide)).skip]
    · rw [hpoint.skip]
  · rfl

/-! ## Tokens -/

/-- A lexeme that is no `?` token takes no sign that counts. -/
theorem openMarks_other {text rest : List Char} {t : Token} (ht : t ≠ .symbol .placeholder)
    (h : openMarks .plain text = openMarks .plain rest) :
    openMarks .plain text =
      (if t = .symbol .placeholder then 1 else 0) + openMarks .plain rest := by
  rw [if_neg ht, Nat.zero_add, h]

theorem wordToken_ne_symbol (word : String) (s : Symbol) : wordToken word ≠ .symbol s := by
  rw [wordToken]
  split <;> simp

/-- A lexeme is a `?` token for the sign by itself, and leaves every other one for later. -/
theorem openMarks_lexeme {c : Char} {cs : List Char} (h : ∀ cs', c = '-' → cs ≠ '-' :: cs') :
    openMarks .plain (c :: cs) =
      (if (lexeme c cs).1 = .symbol .placeholder then 1 else 0) +
        openMarks .plain (lexeme c cs).2 := by
  unfold lexeme
  split
  case h_3 => rw [openMarks, if_pos rfl, Nat.add_comm]
  case h_9 => exact openMarks_other (by simp) (openMarks_dash fun cs' => h cs' rfl)
  -- signs of two characters
  case h_10 | h_11 | h_13 | h_15 =>
    refine openMarks_other (by simp) ?_
    rw [Inert.skip (by decide), Inert.skip (by decide)]
  case h_16 => exact openMarks_other (by simp) (openMarks_string _)
  case h_17 => exact openMarks_other (by simp) (openMarks_name _)
  case h_18 _ _ _ _ hmark _ _ _ _ _ hdash _ _ hquote hdouble _ _ _ _ =>
    have hinert : Inert c := ⟨hmark, hquote, hdouble, hdash⟩
    split
    · refine openMarks_other (wordToken_ne_symbol _ _) ?_
      rw [hinert.skip, openMarks_dropWhile (by decide)]
    · split
      · refine openMarks_other (by simp) ?_
        rw [hinert.skip, openMarks_number]
      · exact openMarks_other (by simp) (hinert.skip cs)
  -- signs of one character
  all_goals exact openMarks_other (by simp) (Inert.skip (by decide) _)

/-- The `?` tokens of a text are the `?` signs outside of strings, quoted names and comments. -/
theorem count_tokenize (sql : String) :
    (tokenize sql).count (.symbol .placeholder) = openMarks .plain sql.toList := by
  rw [tokenize]
  fun_induction tokenizeChars sql.toList with
  | case1 => rfl
  | case2 cs hle ih => rw [ih, openMarks, openMarks_comment]
  | case3 c cs hc hblank ih => rw [ih, (inert_of hblank (by decide)).skip]
  | case4 c cs hc hblank hle ih =>
    rw [List.count_cons, ih, openMarks_lexeme hc, Nat.add_comm]
    simp

end EntityQuery.Sql
