import EntityQuery.Proofs.Sql.Names
import EntityQuery.Proofs.Storage.Spellings

/-!
# Tokens in any spelling

Most tokens can be written in several ways. A reserved word may have its letters in any case, `<>` may be
written `!=`, and a name may stand between double quotes. What stands between two tokens may be any blanks
and comments, as long as it begins with a blank.

* `Token.SpelledAs` holds of a token and each of its texts. Such a text is read in front of any character
  that the token does not go on with (`Token.SpelledAs.read`).
* `Written` puts such texts together: it is a printer of tokens that leaves all of this open.
* `tokenize_written`: whatever was written for a row of tokens, it is read as this row.
-/

namespace EntityQuery

/-! ## Blanks and letters -/

namespace Text

/-- The runs of blanks are apart from those of letters and numerals. -/
theorem blankStrides_apart : ∀ s ∈ blankStrides, ∀ t ∈ alphabeticStrides ++ numericStrides,
    s.last < t.first ∨ t.last < s.first := by
  decide +kernel

/-- A blank is no letter and no numeral. -/
theorem isAlphanumeric_of_isBlank {c : Char} (h : isBlank c = true) : isAlphanumeric c = false := by
  by_cases hascii : c.val < 0x80
  · exact ascii_forall (P := fun c => isBlank c = true → isAlphanumeric c = false) (by decide) hascii h
  · rw [isBlank, if_neg hascii, inStrides_eq_true_iff] at h
    obtain ⟨s, hs, hblank⟩ := h
    rw [isAlphanumeric, if_neg hascii, ← Bool.not_eq_true, Bool.or_eq_true, inStrides_eq_true_iff,
      inStrides_eq_true_iff]
    have hapart : ∀ t ∈ alphabeticStrides ++ numericStrides, ¬ t.contains c = true := by
      intro t ht hcontains
      have hst := blankStrides_apart s hs t ht
      simp only [Stride.contains, Bool.and_eq_true, decide_eq_true_eq] at hblank hcontains
      omega
    rintro (⟨t, ht, hcontains⟩ | ⟨t, ht, hcontains⟩)
    · exact hapart t (List.mem_append_left _ ht) hcontains
    · exact hapart t (List.mem_append_right _ ht) hcontains

theorem ascii_of_isAlpha {c : Char} (h : c.isAlpha = true) : c.val < 0x80 := by
  rw [Char.isAlpha, Bool.or_eq_true, isUpper_iff, isLower_iff] at h
  rw [UInt32.lt_iff_toNat_lt]
  change c.toNat < 128
  omega

/-- A text that is equal to one of ASCII letters, up to their case, has ASCII letters only. -/
theorem isAlpha_of_sameName {a b : String} (h : sameName a b = true)
    (hb : ∀ c ∈ folded b, c.isLower = true) : ∀ c ∈ a.toList, c.isAlpha = true := by
  intro c hc
  have hmem : c.toLower ∈ folded b := by
    rw [← sameName_iff.1 h]
    exact List.mem_map_of_mem hc
  rw [← Char.isLower_toLower_eq_isAlpha]
  exact hb _ hmem

end Text

namespace Sql

theorem continuesName_of_isBlank {c : Char} (h : Text.isBlank c = true) : continuesName c = false := by
  rw [continuesName, Text.isAlphanumeric_of_isBlank h, Bool.false_or, beq_eq_false_iff_ne]
  rintro rfl
  cases h

theorem continuesName_of_startsName {c : Char} (h : startsName c = true) : continuesName c = true := by
  rw [startsName, Bool.or_eq_true] at h
  rw [continuesName, Bool.or_eq_true]
  exact h.imp_left Text.isAlphanumeric_of_isAlphabetic

/-- A word need not be asked for blanks, because none starts a name. -/
theorem isWord_of_shape {word : String} {c : Char} {cs : List Char} (hword : word.toList = c :: cs)
    (hc : startsName c = true) (hcs : ∀ x ∈ cs, continuesName x = true) : IsWord word := by
  refine ⟨⟨c, cs, hword, hc, hcs⟩, fun c' cs' hword' => ?_⟩
  obtain ⟨rfl, -⟩ := List.cons.inj (hword.symm.trans hword')
  rw [← Bool.not_eq_true]
  intro hblank
  exact Bool.false_ne_true ((continuesName_of_isBlank hblank).symm.trans (continuesName_of_startsName hc))

/-! ## Reserved words in any case -/

theorem startsName_of_isAlpha {c : Char} (h : c.isAlpha = true) : startsName c = true := by
  rw [startsName, Text.isAlphabetic, if_pos (Text.ascii_of_isAlpha h), h, Bool.true_or]

namespace Keyword

variable {k : Keyword} {word : String}

theorem isLower_of_mem_folded_text : ∀ c ∈ Text.folded k.text, c.isLower = true :=
  List.all_eq_true.1 (by cases k <;> rfl)

theorem isAscii_text : Text.IsAscii k.text := by
  cases k <;> decide

variable (h : Text.sameName word k.text = true)
include h

/-- A reserved word is one in any case of its letters. -/
theorem ofWord?_of_sameName : Keyword.ofWord? word = some k := by
  have hascii : Text.IsAscii word := fun c hc =>
    Text.ascii_of_isAlpha (Text.isAlpha_of_sameName h isLower_of_mem_folded_text c hc)
  have hupper : Text.uppercased word = Text.uppercased k.text := by
    rw [← Text.sameName_uppercased_iff, Text.sameName_iff, Text.folded_uppercased hascii,
      Text.folded_uppercased isAscii_text]
    exact Text.sameName_iff.1 h
  rw [Keyword.ofWord?, hupper]
  exact k.ofWord?_text

theorem isWord_of_sameName : IsWord word := by
  have halpha := Text.isAlpha_of_sameName h isLower_of_mem_folded_text
  cases hword : word.toList with
  | nil =>
    have hfolded : Text.folded k.text = [] := by
      rw [← Text.sameName_iff.1 h, Text.folded, hword, List.map_nil]
    cases k <;> exact absurd hfolded (by decide)
  | cons c cs =>
    rw [hword, List.forall_mem_cons] at halpha
    exact isWord_of_shape hword (startsName_of_isAlpha halpha.1) fun x hx =>
      continuesName_of_startsName (startsName_of_isAlpha (halpha.2 x hx))

end Keyword

/-! ## Spellings of a token -/

/-- The content of a string literal with its quotes doubled. -/
def doubled : List Char → List Char
  | [] => []
  | c :: cs => if c = '\'' then '\'' :: '\'' :: doubled cs else c :: doubled cs

/-- The spellings of a token: the texts that it may be written as. -/
inductive Token.SpelledAs : Token → List Char → Prop where
  /-- a reserved word, in any case of its letters -/
  | keyword {k : Keyword} {word : String} (h : Text.sameName word k.text = true) :
      SpelledAs (.keyword k) word.toList
  /-- a sign -/
  | symbol (s : Symbol) : SpelledAs (.symbol s) s.text.toList
  /-- the other form of `<>` -/
  | bang : SpelledAs (.symbol .notEqual) ['!', '=']
  /-- a string between quotes, with those of its content doubled -/
  | string (content : String) :
      SpelledAs (.string content) ('\'' :: (doubled content.toList ++ ['\'']))
  /-- digits -/
  | whole {digits : String} (hne : digits.toList ≠ []) (h : ∀ c ∈ digits.toList, c.isDigit = true) :
      SpelledAs (.number digits) digits.toList
  /-- digits, a point, and digits -/
  | decimal {digits : String} {whole fraction : List Char}
      (hdigits : digits.toList = whole ++ '.' :: fraction)
      (hwhole : whole ≠ []) (hw : ∀ c ∈ whole, c.isDigit = true)
      (hfraction : fraction ≠ []) (hf : ∀ c ∈ fraction, c.isDigit = true) :
      SpelledAs (.number digits) digits.toList
  /-- a name by itself: a word that is not reserved -/
  | bare {name : String} {c : Char} {cs : List Char} (hname : name.toList = c :: cs)
      (hc : startsName c = true) (hcs : ∀ x ∈ cs, continuesName x = true)
      (hfree : Keyword.ofWord? name = none) : SpelledAs (.identifier name) name.toList
  /-- a name between double quotes, of which it has none -/
  | quoted {name : String} (h : '"' ∉ name.toList) :
      SpelledAs (.identifier name) ('"' :: (name.toList ++ ['"']))

/-! ## Reading one token -/

/-- Whether a sign is another one, or opens a comment, together with a character. -/
def Symbol.goesOn : Symbol → Char → Bool
  | .minus, c => c == '-'
  | .less, c => c == '=' || c == '>'
  | .greater, c => c == '='
  | _, _ => false

/-- Whether a token goes on with a character, so that it is read as part of a longer one. -/
def Token.goesOn : Token → Char → Bool
  | .identifier _, c | .keyword _, c => continuesName c
  | .number _, c => c.isDigit || c == '.'
  | .string _, c => c == '\''
  | .symbol s, c => s.goesOn c
  | .unknown _, _ => false

/-- No token goes on with a blank. -/
theorem Token.goesOn_of_isBlank (t : Token) {c : Char} (h : Text.isBlank c = true) :
    t.goesOn c = false := by
  have hne {x : Char} (hx : Text.isBlank x = false) : (c == x) = false := by
    rw [beq_eq_false_iff_ne]
    rintro rfl
    exact Bool.false_ne_true (hx.symm.trans h)
  cases t with
  | identifier _ | keyword _ => exact continuesName_of_isBlank h
  | number _ =>
    have hdigit : c.isDigit = false := by
      rw [← Bool.not_eq_true]
      intro hdigit
      exact Bool.false_ne_true ((not_startsName_of_isDigit hdigit).2.1.symm.trans h)
    rw [goesOn, hdigit, hne (by decide), Bool.or_self]
  | string _ => exact hne (by decide)
  | symbol s =>
    have hdash := hne (x := '-') (by decide)
    have hequal := hne (x := '=') (by decide)
    have hgreater := hne (x := '>') (by decide)
    cases s <;> simp [goesOn, Symbol.goesOn, hdash, hequal, hgreater]
  | unknown _ => rfl

theorem tokenizeChars_of_lexeme {c : Char} {cs rest : List Char} {t : Token}
    (hblank : Text.isBlank c = false) (hdash : c ≠ '-') (h : lexeme c cs = (t, rest)) :
    tokenizeChars (c :: cs) = t :: tokenizeChars rest := by
  rw [tokenizeChars_lexeme hblank hdash, h]

theorem tokenizeChars_word {word : String} {rest : List Char} (h : IsWord word)
    (hrest : ∀ c cs, rest = c :: cs → continuesName c = false) :
    tokenizeChars (word.toList ++ rest) = wordToken word :: tokenizeChars rest :=
  spells_word (P := fun rest => ∀ c cs, rest = c :: cs → continuesName c = false) h (fun _ h => h) rest
    hrest

theorem tokenizeChars_minus {rest : List Char} (h : ∀ cs, rest ≠ '-' :: cs) :
    tokenizeChars ('-' :: rest) = .symbol .minus :: tokenizeChars rest := by
  have hblank : ¬ Text.isBlank '-' = true := by decide
  rw [tokenizeChars, if_neg hblank]
  · rfl
  · exact fun cs _ hrest => h cs hrest

theorem tokenizeChars_symbol {s : Symbol} {rest : List Char}
    (h : ∀ c cs, rest = c :: cs → s.goesOn c = false) :
    tokenizeChars (s.text.toList ++ rest) = .symbol s :: tokenizeChars rest := by
  cases s with
  | minus =>
    have hdash : ∀ cs, rest ≠ '-' :: cs := by
      rintro cs rfl
      cases h '-' cs rfl
    exact tokenizeChars_minus hdash
  | less =>
    have hlexeme : lexeme '<' rest = (.symbol .less, rest) := by
      rw [lexeme]
      · rintro cs rfl
        cases h '=' cs rfl
      · rintro cs rfl
        cases h '>' cs rfl
    exact tokenizeChars_of_lexeme (by decide) (by decide) hlexeme
  | greater =>
    have hlexeme : lexeme '>' rest = (.symbol .greater, rest) := by
      rw [lexeme]
      rintro cs rfl
      cases h '=' cs rfl
    exact tokenizeChars_of_lexeme (by decide) (by decide) hlexeme
  | _ => exact tokenizeChars_lexeme (by decide) (by decide) _

/-- A string literal is read up to its last quote. -/
theorem stringBody_doubled {rest : List Char} (hrest : rest.head? ≠ some '\'') (cs : List Char) :
    stringBody (doubled cs ++ '\'' :: rest) = (cs, rest) := by
  induction cs with
  | nil =>
    cases rest with
    | nil => rfl
    | cons c cs =>
      have hc : c ≠ '\'' := by simpa using hrest
      rw [doubled, List.nil_append, stringBody]
      rintro cs' heq
      exact hc (List.cons.inj heq).1
  | cons c cs ih =>
    rw [doubled]
    split
    · next hc =>
      subst hc
      rw [List.cons_append, List.cons_append, stringBody, ih]
    · next hc =>
      rw [List.cons_append, stringBody, ih]
      · exact fun _ hquote _ => hc hquote
      · exact hc

/-- A string literal is one token, in front of whatever is no quote. -/
theorem tokenizeChars_string {rest : List Char} (h : rest.head? ≠ some '\'') (content : List Char) :
    tokenizeChars ('\'' :: (doubled content ++ ['\'']) ++ rest) =
      .string (String.ofList content) :: tokenizeChars rest := by
  have hlexeme : lexeme '\'' (doubled content ++ '\'' :: rest) =
      (.string (String.ofList content), rest) := by
    rw [lexeme, stringBody_doubled h]
  have htext : '\'' :: (doubled content ++ ['\'']) ++ rest = '\'' :: (doubled content ++ '\'' :: rest) := by
    rw [List.cons_append, List.append_assoc, List.singleton_append]
  rw [htext, tokenizeChars_of_lexeme (by decide) (by decide) hlexeme]

/-- The numeral of a point between digits, behind the first digit. -/
theorem numberBody_decimal {whole fraction rest : List Char} (hw : ∀ c ∈ whole, c.isDigit = true)
    (hne : fraction ≠ []) (hf : ∀ c ∈ fraction, c.isDigit = true)
    (hrest : ∀ c cs, rest = c :: cs → c.isDigit = false) :
    numberBody (whole ++ '.' :: (fraction ++ rest)) = (whole ++ '.' :: fraction, rest) := by
  have hpoint : ∀ c cs, '.' :: (fraction ++ rest) = c :: cs → c.isDigit = false := by
    intro c cs hc
    rw [← (List.cons.inj hc).1]
    rfl
  obtain ⟨htake, hdrop⟩ := takeWhile_append_stop hw hpoint
  cases fraction with
  | nil => exact absurd rfl hne
  | cons d ds =>
    obtain ⟨hd, hds⟩ := List.forall_mem_cons.1 hf
    obtain ⟨htake', hdrop'⟩ := takeWhile_append_stop hds hrest
    rw [numberBody, htake, hdrop]
    simp only [List.cons_append, if_pos hd, htake', hdrop']

/-- Up to a closing character, all is taken. -/
theorem takeWhile_closed {a : Char} {cs : List Char} (h : a ∉ cs) (rest : List Char) :
    (cs ++ a :: rest).takeWhile (· != a) = cs ∧
      ((cs ++ a :: rest).dropWhile (· != a)).drop 1 = rest := by
  have hcs : ∀ c ∈ cs, (c != a) = true := fun c hc => bne_iff_ne.2 fun hca => h (hca ▸ hc)
  have hclose : ∀ c rest', a :: rest = c :: rest' → (c != a) = false := by
    intro c rest' hc
    rw [← (List.cons.inj hc).1, bne_self_eq_false]
  obtain ⟨htake, hdrop⟩ := takeWhile_append_stop hcs hclose
  exact ⟨htake, by rw [hdrop, List.drop_one, List.tail_cons]⟩

theorem tokenizeChars_quoted {name : List Char} (h : '"' ∉ name) (rest : List Char) :
    tokenizeChars ('"' :: (name ++ ['"']) ++ rest) =
      .identifier (String.ofList name) :: tokenizeChars rest := by
  obtain ⟨htake, hdrop⟩ := takeWhile_closed h rest
  have htext : '"' :: (name ++ ['"']) ++ rest = '"' :: (name ++ '"' :: rest) := by
    rw [List.cons_append, List.append_assoc, List.singleton_append]
  have hlexeme : lexeme '"' (name ++ '"' :: rest) = (.identifier (String.ofList name), rest) := by
    rw [lexeme, htake, hdrop]
  rw [htext, tokenizeChars_of_lexeme (by decide) (by decide) hlexeme]

theorem tokenizeChars_decimal {whole fraction rest : List Char} (hwhole : whole ≠ [])
    (hw : ∀ c ∈ whole, c.isDigit = true) (hfraction : fraction ≠ [])
    (hf : ∀ c ∈ fraction, c.isDigit = true) (hrest : ∀ c cs, rest = c :: cs → c.isDigit = false) :
    tokenizeChars (whole ++ '.' :: fraction ++ rest) =
      .number (String.ofList (whole ++ '.' :: fraction)) :: tokenizeChars rest := by
  cases whole with
  | nil => exact absurd rfl hwhole
  | cons d ds =>
    obtain ⟨hd, hds⟩ := List.forall_mem_cons.1 hw
    obtain ⟨-, hblank, hdash⟩ := not_startsName_of_isDigit hd
    have htext : d :: ds ++ '.' :: fraction ++ rest = d :: (ds ++ '.' :: (fraction ++ rest)) := by
      simp only [List.cons_append, List.append_assoc]
    rw [htext, tokenizeChars_lexeme hblank hdash, lexeme_digit hd,
      numberBody_decimal hds hfraction hf hrest, List.cons_append]

/-- Each spelling of a token is read as this token, in front of what does not go on with it. -/
theorem Token.SpelledAs.read {t : Token} {word rest : List Char} (h : t.SpelledAs word)
    (hrest : ∀ c cs, rest = c :: cs → t.goesOn c = false) :
    tokenizeChars (word ++ rest) = t :: tokenizeChars rest := by
  cases h with
  | @keyword k word h =>
    have hread := tokenizeChars_word (Keyword.isWord_of_sameName h) hrest
    rwa [wordToken, Keyword.ofWord?_of_sameName h] at hread
  | symbol s => exact tokenizeChars_symbol hrest
  | bang => exact tokenizeChars_lexeme (by decide) (by decide) _
  | string content =>
    have hquote : rest.head? ≠ some '\'' := by
      intro hhead
      obtain ⟨cs, hcs⟩ := List.head?_eq_some_iff.1 hhead
      cases hrest '\'' cs hcs
    have hread := tokenizeChars_string hquote content.toList
    rwa [String.ofList_toList] at hread
  | @whole digits hne h =>
    have hends : ∀ c cs, rest = c :: cs → c.isDigit = false ∧ c ≠ '.' := fun c cs hc => by
      simpa [goesOn] using hrest c cs hc
    have hread := tokenizeChars_digits hne h hends
    rwa [String.ofList_toList] at hread
  | @decimal digits whole fraction hdigits hwhole hw hfraction hf =>
    have hends : ∀ c cs, rest = c :: cs → c.isDigit = false := fun c cs hc => by
      have hgoes := hrest c cs hc
      rw [goesOn, Bool.or_eq_false_iff] at hgoes
      exact hgoes.1
    have hread := tokenizeChars_decimal hwhole hw hfraction hf hends
    rwa [← hdigits, String.ofList_toList] at hread
  | @bare name c cs hname hc hcs hfree =>
    have hread := tokenizeChars_word (isWord_of_shape hname hc hcs) hrest
    rwa [wordToken, hfree] at hread
  | @quoted name h =>
    have hread := tokenizeChars_quoted h rest
    rwa [String.ofList_toList] at hread

/-! ## Rows of tokens -/

/-- The text ends, or goes on with a blank. -/
def Parted (rest : List Char) : Prop := ∀ c cs, rest = c :: cs → Text.isBlank c = true

/-- The texts that a row of tokens may be written as. Behind each token, the text ends or goes on with a
blank. Otherwise blanks stand anywhere between tokens, and so do comments, up to the end of their line. -/
inductive Written : List Token → List Char → Prop where
  /-- nothing -/
  | nil : Written [] []
  /-- a token in one of its spellings -/
  | token {t : Token} {ts : List Token} {word rest : List Char} (h : t.SpelledAs word)
      (hparted : Parted rest) (hrest : Written ts rest) : Written (t :: ts) (word ++ rest)
  /-- a blank -/
  | blank {c : Char} {ts : List Token} {rest : List Char} (hc : Text.isBlank c = true)
      (hrest : Written ts rest) : Written ts (c :: rest)
  /-- a comment -/
  | comment {line : List Char} {ts : List Token} {rest : List Char} (hline : '\n' ∉ line)
      (hrest : Written ts rest) : Written ts ('-' :: '-' :: (line ++ '\n' :: rest))

/-- A token with a separator behind it, which begins with a blank. -/
theorem Written.spaced {t : Token} {ts : List Token} {word rest : List Char} {c : Char}
    (h : t.SpelledAs word) (hc : Text.isBlank c = true) (hrest : Written ts rest) :
    Written (t :: ts) (word ++ c :: rest) := by
  refine .token h (fun c' cs' heq => ?_) (.blank hc hrest)
  rw [← (List.cons.inj heq).1]
  exact hc

/-- The last token of a text. -/
theorem Written.last {t : Token} {word : List Char} (h : t.SpelledAs word) : Written [t] word := by
  rw [← List.append_nil word]
  exact .token h (fun _ _ heq => nomatch heq) .nil

/-- Whatever was written for a row of tokens, it is read as this row and nothing else. -/
theorem tokenize_written {tokens : List Token} {text : String} (h : Written tokens text.toList) :
    tokenize text = tokens := by
  rw [tokenize]
  generalize text.toList = cs at h
  -- what is behind a token has been read as the other tokens, and the token stops in front of it
  induction h with
  | nil => exact tokenizeChars_nil
  | @token t _ _ _ h hparted hrest ih =>
    rw [h.read fun c cs hrest => t.goesOn_of_isBlank (hparted c cs hrest), ih]
  | blank hc hrest ih => rw [tokenizeChars_blank hc, ih]
  | comment hline hrest ih => rw [tokenizeChars_dashes, skipLine, (takeWhile_closed hline _).2, ih]

/-- Tokens of all kinds, with comments between them. -/
theorem tokenize_written_kinds :
    let tokens : List Token := [.keyword .SELECT, .identifier "a--b", .symbol .notEqual, .string "it's",
      .number "12.50", .symbol .minus, .identifier "_été", .number "7"]
    let text := "SeLeCT \"a--b\"\t!= 'it''s'\u3000-- it's 7\n12.50 - --\n\n_été 7"
    Written tokens text.toList ∧ tokenize text = tokens := by
  intro tokens text
  have hselect : Token.SpelledAs (.keyword .SELECT) "SeLeCT".toList := .keyword (by decide)
  have hquoted : Token.SpelledAs (.identifier "a--b") "\"a--b\"".toList := .quoted (by decide)
  have hunequal : Token.SpelledAs (.symbol .notEqual) "!=".toList := .bang
  have hstring : Token.SpelledAs (.string "it's") "'it''s'".toList := .string "it's"
  have hdecimal : Token.SpelledAs (.number "12.50") "12.50".toList :=
    .decimal (rfl : _ = ['1', '2'] ++ '.' :: ['5', '0']) (List.cons_ne_nil _ _) (List.all_eq_true.1 rfl)
      (List.cons_ne_nil _ _) (List.all_eq_true.1 rfl)
  have hminus : Token.SpelledAs (.symbol .minus) "-".toList := .symbol .minus
  have hbare : Token.SpelledAs (.identifier "_été") "_été".toList :=
    .bare (rfl : _ = '_' :: ['é', 't', 'é']) (by decide) (List.all_eq_true.1 (by decide +kernel)) (by decide)
  have hwhole : Token.SpelledAs (.number "7") "7".toList :=
    .whole (by decide) (List.all_eq_true.1 rfl)
  have hspace : Text.isBlank ' ' = true := by decide
  have htab : Text.isBlank '\t' = true := by decide
  have hline : Text.isBlank '\n' = true := by decide
  have hwide : Text.isBlank '\u3000' = true := by decide
  obtain ⟨cs, hcs, hwritten⟩ : ∃ cs, text.toList = cs ∧ Written tokens cs := ⟨_, by decide +kernel,
    .spaced hselect hspace <| .spaced hquoted htab <| .spaced hunequal hspace <|
    .spaced hstring hwide <| .comment (by decide : '\n' ∉ [' ', 'i', 't', '\'', 's', ' ', '7']) <|
    .spaced hdecimal hspace <| .spaced hminus hspace <| .comment (by decide : '\n' ∉ []) <|
    .blank hline <| .spaced hbare hspace <| .last hwhole⟩
  have hwritten : Written tokens text.toList := hcs ▸ hwritten
  exact ⟨hwritten, tokenize_written hwritten⟩

end Sql

end EntityQuery
