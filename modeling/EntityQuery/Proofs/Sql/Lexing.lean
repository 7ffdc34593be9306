import Mathlib
import EntityQuery.Sql.Lexer
import EntityQuery.Sql.Numeral
import EntityQuery.Sql.Statement

/-!
# Texts that are read as given tokens

A text is put together from words, signs and numerals. Each of them is one token wherever the
text goes on with a character that does not continue it, so the tokens of the whole are those of
the parts in a row.

* `Spells follow text tokens`: in front of whatever satisfies `follow`, the text is read as `tokens`.
* `Spells.append` puts such texts together, and `Spells.tokenize_eq` reads the result.
-/

namespace EntityQuery.Sql

/-! ## Reading in front of other text -/

theorem tokenizeChars_nil : tokenizeChars [] = [] := by
  rw [tokenizeChars]

theorem tokenizeChars_blank {c : Char} (h : Text.isBlank c = true) (cs : List Char) :
    tokenizeChars (c :: cs) = tokenizeChars cs := by
  rw [tokenizeChars, if_pos h]
  rintro cs' rfl _
  exact absurd h (by decide)

/-- A comment is skipped with its line. -/
theorem tokenizeChars_dashes (cs : List Char) :
    tokenizeChars ('-' :: '-' :: cs) = tokenizeChars (skipLine cs) := by
  rw [tokenizeChars]

theorem tokenizeChars_lexeme {c : Char} (h : Text.isBlank c = false) (hc : c ≠ '-')
    (cs : List Char) :
    tokenizeChars (c :: cs) = (lexeme c cs).1 :: tokenizeChars (lexeme c cs).2 := by
  rw [tokenizeChars, if_neg (by simp [h])]
  intro cs' hc' _
  exact hc hc'

/-- The text ends, or goes on with a blank, a comma or a closing parenthesis, by which no token is
continued. -/
def Stops (rest : List Char) : Prop :=
  rest = [] ∨ ∃ c cs, rest = c :: cs ∧ (c = ' ' ∨ c = ',' ∨ c = ')')

/-- Any text. -/
def Anything (_ : List Char) : Prop := True

/-- In front of whatever satisfies `follow`, the text is read as the tokens. -/
def Spells (follow : List Char → Prop) (text : List Char) (tokens : List Token) : Prop :=
  ∀ rest, follow rest → tokenizeChars (text ++ rest) = tokens ++ tokenizeChars rest

variable {P Q : List Char → Prop} {as bs : List Char} {ts us : List Token}

/-- Texts in a row are read as their tokens in a row, where the second is one that may follow. -/
theorem Spells.append (ha : Spells P as ts) (hb : Spells Q bs us)
    (h : ∀ rest, Q rest → P (bs ++ rest)) : Spells Q (as ++ bs) (ts ++ us) := by
  intro rest hrest
  rw [List.append_assoc, ha _ (h rest hrest), hb rest hrest, List.append_assoc]

/-- Behind a text that ends by itself, anything may stand. -/
theorem Spells.append_closed (ha : Spells Anything as ts) (hb : Spells Q bs us) :
    Spells Q (as ++ bs) (ts ++ us) :=
  ha.append hb fun _ _ => trivial

/-- Behind any text, one may stand that begins with a stop. -/
theorem Spells.append_stop {c : Char} {cs : List Char} (ha : Spells Stops as ts)
    (hb : Spells Q (c :: cs) us) (hc : c = ' ' ∨ c = ',' ∨ c = ')') :
    Spells Q (as ++ (c :: cs)) (ts ++ us) :=
  ha.append hb fun rest _ => .inr ⟨c, cs ++ rest, rfl, hc⟩

/-- Behind any text, a phrase may stand that begins with a stop. -/
theorem Spells.append_phrase {phrase : String} (ha : Spells Stops as ts)
    (hb : Spells Q phrase.toList us)
    (h : phrase.toList.head?.any (· ∈ [' ', ',', ')']) = true) :
    Spells Q (as ++ phrase.toList) (ts ++ us) := by
  cases hphrase : phrase.toList with
  | nil =>
    rw [hphrase] at h
    cases h
  | cons c cs =>
    rw [hphrase] at hb h
    exact ha.append_stop hb (by simpa using h)

theorem Spells.stops (h : Spells Anything as ts) : Spells Stops as ts :=
  fun rest _ => h rest trivial

theorem Stops.append (ha : Stops as) (hb : Stops bs) : Stops (as ++ bs) := by
  rcases ha with rfl | ⟨c, cs, rfl, hc⟩
  · exact hb
  · exact .inr ⟨c, cs ++ bs, rfl, hc⟩

/-- A clause that may be absent, behind any text. -/
theorem spells_clause (ha : Spells Stops as ts) (hb : Spells Stops bs us) (h : Stops bs) :
    Spells Stops (as ++ bs) (ts ++ us) :=
  ha.append hb fun _ hrest => h.append hrest

/-- A whole text is read as the tokens that it spells. -/
theorem Spells.tokenize_eq {text : String} (h : Spells Stops text.toList ts) :
    tokenize text = ts := by
  have h := h [] (.inl rfl)
  rw [List.append_nil, tokenizeChars_nil, List.append_nil] at h
  exact h

/-! ## Signs and blanks -/

theorem spells_nil : Spells Stops [] [] := fun _ _ => rfl

theorem spells_space : Spells Anything [' '] [] :=
  fun rest _ => tokenizeChars_blank (by decide) rest

theorem spells_leftParen : Spells Anything ['('] [.symbol .leftParen] :=
  fun rest _ => tokenizeChars_lexeme (by decide) (by decide) rest

theorem spells_rightParen : Spells Anything [')'] [.symbol .rightParen] :=
  fun rest _ => tokenizeChars_lexeme (by decide) (by decide) rest

theorem spells_comma : Spells Anything [',', ' '] [.symbol .comma] := by
  intro rest _
  exact (tokenizeChars_lexeme (by decide) (by decide) _).trans
    (congrArg _ (tokenizeChars_blank (by decide) rest))

theorem spells_placeholder : Spells Anything ['?'] [.symbol .placeholder] :=
  fun rest _ => tokenizeChars_lexeme (by decide) (by decide) rest

theorem spells_dot : Spells Anything ['.'] [.symbol .dot] :=
  fun rest _ => tokenizeChars_lexeme (by decide) (by decide) rest

/-! ## Words and names -/

theorem stops_head {rest : List Char} (h : Stops rest) {c : Char} {cs : List Char}
    (hc : rest = c :: cs) : continuesName c = false ∧ c.isDigit = false ∧ c ≠ '.' ∧ c ≠ '\'' := by
  rcases h with rfl | ⟨c', cs', rfl, h⟩
  · cases hc
  · obtain ⟨rfl, rfl⟩ := List.cons.inj hc
    rcases h with rfl | rfl | rfl <;> decide

/-- No character of a list goes on into what does not begin with one. -/
theorem takeWhile_append_stop {p : Char → Bool} {cs rest : List Char} (hcs : ∀ c ∈ cs, p c = true)
    (hrest : ∀ c rest', rest = c :: rest' → p c = false) :
    (cs ++ rest).takeWhile p = cs ∧ (cs ++ rest).dropWhile p = rest := by
  rw [List.takeWhile_append_of_pos hcs, List.dropWhile_append_of_pos hcs]
  cases rest with
  | nil => simp
  | cons c rest =>
    have hc := hrest c rest rfl
    simp [hc]

theorem lexeme_word {c : Char} (h : startsName c = true) (cs : List Char) :
    lexeme c cs =
      (wordToken (String.ofList (c :: cs.takeWhile continuesName)), cs.dropWhile continuesName) := by
  unfold lexeme
  split
  all_goals first | exact absurd h (by decide) | rw [if_pos h]

/-- A word: its first character starts a name, and the others continue it. -/
structure IsWord (word : String) : Prop where
  /-- the first character is one that starts a name, and it is followed by such as continue it -/
  shape : ∃ c cs, word.toList = c :: cs ∧ startsName c = true ∧ ∀ x ∈ cs, continuesName x = true
  /-- the first character is no blank -/
  no_blank : ∀ c cs, word.toList = c :: cs → Text.isBlank c = false

/-- The check of a word, character by character. -/
def isWordText (word : String) : Bool :=
  match word.toList with
  | [] => false
  | c :: cs => startsName c && cs.all continuesName && !Text.isBlank c

theorem isWord_iff {word : String} : IsWord word ↔ isWordText word = true := by
  rw [isWordText]
  constructor
  · rintro ⟨⟨c, cs, hword, hstart, hrest⟩, hblank⟩
    rw [hword]
    simp only [hstart, hblank c cs hword, List.all_eq_true.2 hrest]
    rfl
  · intro h
    split at h
    · cases h
    · next c cs hword =>
      rw [Bool.and_eq_true, Bool.and_eq_true, Bool.not_eq_true'] at h
      obtain ⟨⟨hstart, hrest⟩, hblank⟩ := h
      refine ⟨⟨c, cs, hword, hstart, List.all_eq_true.1 hrest⟩, fun c' cs' h => ?_⟩
      rw [(List.cons.inj (h.symm.trans hword)).1]
      exact hblank

instance (word : String) : Decidable (IsWord word) := decidable_of_iff _ isWord_iff.symm

/-- A word is one token in front of whatever does not continue a name. -/
theorem spells_word {word : String} (h : IsWord word)
    (hP : ∀ rest, P rest → ∀ c cs, rest = c :: cs → continuesName c = false) :
    Spells P word.toList [wordToken word] := by
  intro rest hrest
  obtain ⟨c, cs, hword, hstart, hcs⟩ := h.shape
  have hblank := h.no_blank c cs hword
  have hdash : c ≠ '-' := by
    rintro rfl
    exact absurd hstart (by decide)
  obtain ⟨htake, hdrop⟩ := takeWhile_append_stop hcs (hP rest hrest)
  rw [hword, List.cons_append, tokenizeChars_lexeme hblank hdash, lexeme_word hstart, htake, hdrop,
    ← hword, String.ofList_toList]
  rfl

theorem Keyword.ofWord?_text (k : Keyword) : Keyword.ofWord? k.text = some k := by
  cases k <;> rfl

theorem Keyword.isWord_text (k : Keyword) : IsWord k.text := by
  rw [isWord_iff]
  cases k <;> rfl

theorem spells_keyword (k : Keyword) : Spells Stops k.text.toList [.keyword k] := by
  have h := spells_word k.isWord_text fun rest (h : Stops rest) c cs hc => (stops_head h hc).1
  rw [wordToken, k.ofWord?_text] at h
  exact h

/-- Reserved words with a blank before each. -/
def words (ks : List Keyword) : List Char := ks.flatMap fun k => ' ' :: k.text.toList

theorem spells_words (ks : List Keyword) : Spells Stops (words ks) (ks.map .keyword) := by
  induction ks with
  | nil => exact spells_nil
  | cons k ks ih =>
    have hword : Spells Stops (' ' :: k.text.toList) [.keyword k] :=
      spells_space.append_closed (spells_keyword k)
    cases ks with
    | nil =>
      rw [words, List.flatMap_singleton]
      exact hword
    | cons k' ks => exact hword.append_stop ih (.inl rfl)

/-- Reserved words with blanks around them. -/
theorem spells_spaced (ks : List Keyword) :
    Spells Anything (words ks ++ [' ']) (ks.map .keyword ++ []) :=
  (spells_words ks).append_stop spells_space (.inl rfl)

/-! ## Literals and comparisons -/

/-- The string of one backslash. -/
theorem spells_backslash : Spells Stops ['\'', '\\', '\''] [.string "\\"] := by
  intro rest h
  rcases h with rfl | ⟨c, cs, rfl, rfl | rfl | rfl⟩
  all_goals exact tokenizeChars_lexeme (by decide) (by decide) _

/-- The sign of a comparison. -/
def signOf : Comparison → Symbol
  | .equal => .equal
  | .notEqual => .notEqual
  | .less => .less
  | .greater => .greater
  | .lessEqual => .lessEqual
  | .greaterEqual => .greaterEqual

/-- The word of a direction. -/
def directionWord : Direction → Keyword
  | .asc => .ASC
  | .desc => .DESC

theorem spells_comparison (op : Comparison) :
    Spells Anything (' ' :: (op.symbol.toList ++ [' '])) [.symbol (signOf op)] := by
  intro rest _
  cases op
  all_goals
    refine (tokenizeChars_blank (by decide) _).trans ?_
    refine (tokenizeChars_lexeme (by decide) (by decide) _).trans ?_
    exact congrArg _ (tokenizeChars_blank (by decide) rest)

theorem not_startsName_of_isDigit {c : Char} (h : c.isDigit = true) :
    startsName c = false ∧ Text.isBlank c = false ∧ c ≠ '-' := by
  have hv : c.toNat = 48 ∨ c.toNat = 49 ∨ c.toNat = 50 ∨ c.toNat = 51 ∨ c.toNat = 52 ∨
      c.toNat = 53 ∨ c.toNat = 54 ∨ c.toNat = 55 ∨ c.toNat = 56 ∨ c.toNat = 57 := by
    simp only [Char.isDigit, Bool.and_eq_true, decide_eq_true_eq, UInt32.le_iff_toNat_le] at h
    have h₁ : 48 ≤ c.toNat := h.1
    have h₂ : c.toNat ≤ 57 := h.2
    omega
  have hc : c = Char.ofNat c.toNat := (Char.ofNat_toNat c).symm
  rcases hv with hv | hv | hv | hv | hv | hv | hv | hv | hv | hv <;>
    (rw [hv] at hc; subst hc; decide)

theorem lexeme_digit {c : Char} (h : c.isDigit = true) (cs : List Char) :
    lexeme c cs = (.number (String.ofList (c :: (numberBody cs).1)), (numberBody cs).2) := by
  unfold lexeme
  split
  all_goals first
    | exact absurd h (by decide)
    | rw [if_neg (by simp [(not_startsName_of_isDigit h).1]), if_pos h]

/-- A row of digits is one numeral, in front of whatever goes on neither with a digit nor a point. -/
theorem tokenizeChars_digits {digits rest : List Char} (hne : digits ≠ [])
    (h : ∀ c ∈ digits, c.isDigit = true)
    (hrest : ∀ c cs, rest = c :: cs → c.isDigit = false ∧ c ≠ '.') :
    tokenizeChars (digits ++ rest) = .number (String.ofList digits) :: tokenizeChars rest := by
  cases digits with
  | nil => exact absurd rfl hne
  | cons c cs =>
    have hc := h c List.mem_cons_self
    obtain ⟨-, hblank, hdash⟩ := not_startsName_of_isDigit hc
    have hcs (x : Char) (hx : x ∈ cs) : x.isDigit = true := h x (List.mem_cons_of_mem _ hx)
    obtain ⟨htake, hdrop⟩ := takeWhile_append_stop hcs fun c' rest' hc' => (hrest c' rest' hc').1
    have hbody : numberBody (cs ++ rest) = (cs, rest) := by
      rw [numberBody, htake, hdrop]
      split
      · exact absurd rfl (hrest '.' _ rfl).2
      · rfl
    rw [List.cons_append, tokenizeChars_lexeme hblank hdash, lexeme_digit hc, hbody]

/-- A row of digits is one numeral. -/
theorem spells_digits {digits : List Char} (hne : digits ≠ []) (h : ∀ c ∈ digits, c.isDigit = true) :
    Spells Stops digits [.number (String.ofList digits)] := fun _ hrest =>
  tokenizeChars_digits hne h fun _ _ hc => ⟨(stops_head hrest hc).2.1, (stops_head hrest hc).2.2.1⟩

end EntityQuery.Sql
