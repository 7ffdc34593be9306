import EntityQuery.Proofs.Sql.Lexing

/-!
# Names in a text

A name may stand in a text if it is read as one identifier there. `IsName` asks this of the name alone:
it is one identifier, and nothing of it stays open. Blanks and comments around the identifier do no
harm, and it may stand between double quotes.

* `nameOf` is the identifier, and `spells_name` reads it in front of whatever does not continue it.
* `isName_of_tokenize`: a text that is read as itself is such a name.
-/

namespace EntityQuery.Sql

/-! ## Names that are one identifier -/

/-- A text that is read as one identifier, and that does not run into what is behind it: no quote and
no comment stays open. -/
structure IsName (text : String) : Prop where
  /-- the text is read as one identifier -/
  single : ∃ name, tokenize text = [.identifier name]
  /-- what is behind it is read as well -/
  closed : tokenize (text ++ " ?") = tokenize text ++ [.symbol .placeholder]

/-- The identifier that a text is read as. -/
def nameOf (text : String) : String :=
  match tokenize text with
  | [.identifier name] => name
  | _ => text

theorem nameOf_eq {text name : String} (h : tokenize text = [.identifier name]) :
    nameOf text = name := by
  rw [nameOf, h]

/-- Where the text behind does not go on with `p`, it does not matter to the part that does. -/
theorem takeWhile_append {p : Char → Bool} {rest : List Char}
    (hrest : ∀ c rest', rest = c :: rest' → p c = false) (cs : List Char) :
    (cs ++ rest).takeWhile p = cs.takeWhile p ∧ (cs ++ rest).dropWhile p = cs.dropWhile p ++ rest := by
  induction cs with
  | nil =>
    cases rest with
    | nil => exact ⟨rfl, rfl⟩
    | cons c rest =>
      have hc := hrest c rest rfl
      simp [hc]
  | cons c cs ih =>
    cases hc : p c with
    | true => simp [hc, ih]
    | false => simp [hc]

/-- The part before a closing character does not depend on what is behind it. -/
theorem takeWhile_append_of_mem {a : Char} {cs : List Char} (h : a ∈ cs) (rest : List Char) :
    (cs ++ rest).takeWhile (· != a) = cs.takeWhile (· != a) ∧
      ((cs ++ rest).dropWhile (· != a)).drop 1 = (cs.dropWhile (· != a)).drop 1 ++ rest := by
  induction cs with
  | nil => cases h
  | cons c cs ih =>
    by_cases hc : c = a
    · simp [hc]
    · have ih := ih ((List.mem_cons.1 h).resolve_left fun h => hc h.symm)
      simp [hc, ih]

/-- Without a closing character, all is taken. -/
theorem takeWhile_of_not_mem {a : Char} {cs : List Char} (h : a ∉ cs) :
    cs.takeWhile (· != a) = cs ∧ cs.dropWhile (· != a) = [] := by
  have hall : ∀ c ∈ cs, (c != a) = true := by
    intro c hc
    simpa using fun hca : c = a => h (hca ▸ hc)
  have htake : (cs ++ []).takeWhile (· != a) = cs ∧ (cs ++ []).dropWhile (· != a) = [] :=
    takeWhile_append_stop hall (by simp)
  rwa [List.append_nil] at htake

/-- A comment that does not go on behind the text ends within it. -/
theorem tokenizeChars_comment {cs : List Char}
    (h : tokenizeChars ('-' :: '-' :: cs ++ [' ', '?']) ≠ []) (rest : List Char) :
    tokenizeChars ('-' :: '-' :: cs ++ rest) = tokenizeChars (skipLine cs ++ rest) := by
  have hcomment (x : List Char) : tokenizeChars ('-' :: '-' :: cs ++ x) =
      tokenizeChars (skipLine (cs ++ x)) := by
    rw [List.cons_append, List.cons_append, tokenizeChars_dashes]
  -- without a line end, the comment would have eaten the placeholder
  by_cases hline : '\n' ∈ cs
  · rw [hcomment, skipLine, (takeWhile_append_of_mem hline _).2]
    rfl
  · have hline' : '\n' ∉ cs ++ [' ', '?'] := by simp [hline]
    rw [hcomment, skipLine, (takeWhile_of_not_mem hline').2, List.drop_nil, tokenizeChars_nil] at h
    exact absurd rfl h

/-- A text without tokens of its own, that leaves no comment open, is skipped. -/
theorem tokenizeChars_skip {cs : List Char} (h : tokenizeChars cs = [])
    (hclosed : tokenizeChars (cs ++ [' ', '?']) = [.symbol .placeholder]) (rest : List Char) :
    tokenizeChars (cs ++ rest) = tokenizeChars rest := by
  fun_induction tokenizeChars cs with
  | case1 => rfl
  | case2 cs _ ih =>
    have hcomment := tokenizeChars_comment (hclosed ▸ List.cons_ne_nil _ _)
    rw [hcomment] at hclosed ⊢
    exact ih h hclosed
  | case3 c cs hc hblank ih =>
    rw [List.cons_append, tokenizeChars_blank hblank] at hclosed ⊢
    exact ih h hclosed
  | case4 c cs hc hblank hle ih => cases h

/-- An identifier is a word, or it stands between quotes. -/
theorem lexeme_identifier {c : Char} {cs : List Char} {name : String}
    (h : (lexeme c cs).1 = .identifier name) :
    c = '"' ∨ startsName c = true ∧
      wordToken (String.ofList (c :: cs.takeWhile continuesName)) = .identifier name := by
  by_cases hquote : c = '"'
  · exact .inl hquote
  by_cases hstart : startsName c = true
  · rw [lexeme_word hstart] at h
    dsimp only at h
    exact .inr ⟨hstart, h⟩
  · unfold lexeme at h
    split at h
    all_goals try cases h
    · exact absurd rfl hquote
    · rw [if_neg hstart] at h
      split at h <;> cases h

/-- The lexeme of an identifier does not depend on what is behind the text, unless it is left open. -/
theorem lexeme_append {c : Char} {cs : List Char} {name : String}
    (h : (lexeme c cs).1 = .identifier name) (hquote : c = '"' → '"' ∈ cs) {rest : List Char}
    (hrest : ∀ x rest', rest = x :: rest' → continuesName x = false) :
    lexeme c (cs ++ rest) = (.identifier name, (lexeme c cs).2 ++ rest) := by
  rcases lexeme_identifier h with rfl | ⟨hstart, hword⟩
  · obtain ⟨htake, hdrop⟩ := takeWhile_append_of_mem (hquote rfl) rest
    have hlexeme : lexeme '"' (cs ++ rest) = (.identifier (String.ofList
        ((cs ++ rest).takeWhile (· != '"'))), ((cs ++ rest).dropWhile (· != '"')).drop 1) := rfl
    rw [hlexeme, htake, hdrop, ← h]
    rfl
  · obtain ⟨htake, hdrop⟩ := takeWhile_append hrest cs
    rw [lexeme_word hstart, lexeme_word hstart, htake, hdrop, hword]

/-- The tokens of an open quote are not those of a closed one. -/
theorem mem_of_closed_quote {cs : List Char} {name : String}
    (h : (lexeme '"' cs).1 = .identifier name)
    (hclosed : (lexeme '"' (cs ++ [' ', '?'])).1 = .identifier name) : '"' ∈ cs := by
  -- an open quote would take in what is behind the text
  apply Decidable.byContradiction
  intro hquote
  have hquote' : '"' ∉ cs ++ [' ', '?'] := by simp [hquote]
  have hname : String.ofList cs = name := by
    rw [← (takeWhile_of_not_mem hquote).1]
    exact Token.identifier.inj h
  have hname' : String.ofList (cs ++ [' ', '?']) = name := by
    rw [← (takeWhile_of_not_mem hquote').1]
    exact Token.identifier.inj hclosed
  have hlength := congrArg List.length (String.ofList_inj.1 (hname.trans hname'.symm))
  simp at hlength

/-- One identifier, that nothing behind it belongs to, stands for itself in front of other text. -/
theorem tokenizeChars_identifier {cs : List Char} {name : String}
    (h : tokenizeChars cs = [.identifier name])
    (hclosed : tokenizeChars (cs ++ [' ', '?']) = [.identifier name, .symbol .placeholder])
    {rest : List Char} (hrest : ∀ x rest', rest = x :: rest' → continuesName x = false) :
    tokenizeChars (cs ++ rest) = .identifier name :: tokenizeChars rest := by
  fun_induction tokenizeChars cs with
  | case1 => cases h
  | case2 cs _ ih =>
    have hcomment := tokenizeChars_comment (hclosed ▸ List.cons_ne_nil _ _)
    rw [hcomment] at hclosed ⊢
    exact ih h hclosed
  | case3 c cs hc hblank ih =>
    rw [List.cons_append, tokenizeChars_blank hblank] at hclosed ⊢
    exact ih h hclosed
  -- the identifier itself: its lexeme, and nothing but skipped text behind it
  | case4 c cs hc hblank hle ih =>
    obtain ⟨hname, hleft⟩ := List.cons.inj h
    have hdash : c ≠ '-' := by
      rintro rfl
      cases hname
    have hblank : Text.isBlank c = false := by simpa using hblank
    rw [List.cons_append, tokenizeChars_lexeme hblank hdash] at hclosed ⊢
    have hquote : c = '"' → '"' ∈ cs := by
      rintro rfl
      exact mem_of_closed_quote hname (List.cons.inj hclosed).1
    have hspace : ∀ x rest', [' ', '?'] = x :: rest' → continuesName x = false := by
      rintro x rest' hx
      obtain ⟨rfl, -⟩ := List.cons.inj hx
      decide
    rw [lexeme_append hname hquote hspace] at hclosed
    rw [lexeme_append hname hquote hrest, tokenizeChars_skip hleft (List.cons.inj hclosed).2]

/-- A name is its identifier in front of whatever does not continue a name. -/
theorem spells_name {P : List Char → Prop} {text : String} (h : IsName text)
    (hP : ∀ rest, P rest → ∀ c cs, rest = c :: cs → continuesName c = false) :
    Spells P text.toList [.identifier (nameOf text)] := by
  obtain ⟨name, hname⟩ := h.single
  have hclosed := h.closed
  rw [hname, tokenize, String.toList_append] at hclosed
  rw [nameOf_eq hname]
  exact fun rest hrest => tokenizeChars_identifier hname hclosed (hP rest hrest)

/-- A word that is no reserved one is read as itself, in front of what ends a name. -/
theorem spells_identifier {word : String} (h : IsWord word) (hfree : Keyword.ofWord? word = none) :
    Spells Stops word.toList [.identifier word] := by
  have htoken := spells_word h fun _ (h : Stops _) _ _ hc => (stops_head h hc).1
  rwa [wordToken, hfree] at htoken

/-- A word that is no reserved one is a name, and stands for itself. -/
theorem isName_of_word {word : String} (h : IsWord word) (hfree : Keyword.ofWord? word = none) :
    IsName word ∧ nameOf word = word := by
  have hspells := spells_identifier h hfree
  have hclosed : tokenize (word ++ " ?") = [.identifier word, .symbol .placeholder] := by
    have hmark : Spells Stops " ?".toList [.symbol .placeholder] :=
      (spells_space.append_closed spells_placeholder).stops
    have happend := hspells.append_phrase hmark rfl
    rw [← String.toList_append] at happend
    exact happend.tokenize_eq
  have hword := hspells.tokenize_eq
  refine ⟨⟨⟨word, hword⟩, ?_⟩, nameOf_eq hword⟩
  rw [hword]
  exact hclosed

/-- A column with its table is three tokens. -/
theorem spells_qualified {table column : String} (ht : IsName table) (hc : IsName column) :
    Spells Stops (table ++ "." ++ column).toList
      [.identifier (nameOf table), .symbol .dot, .identifier (nameOf column)] := by
  rw [String.toList_append, String.toList_append, List.append_assoc]
  have hcolumn : Spells Stops column.toList [.identifier (nameOf column)] :=
    spells_name hc fun rest h c cs hrest => (stops_head h hrest).1
  have htable : Spells (fun rest => ∃ cs, rest = '.' :: cs) table.toList
      [.identifier (nameOf table)] :=
    spells_name ht fun rest ⟨cs, h⟩ c cs' hrest => by
      obtain ⟨rfl, -⟩ := List.cons.inj (h.symm.trans hrest)
      decide
  exact htable.append (spells_dot.append_closed hcolumn) fun rest _ => ⟨_, rfl⟩

/-! ## Names that stand for themselves -/

/-- The identifier that a word is, is the word. -/
theorem identifier_of_wordToken {word name : String} (h : wordToken word = .identifier name) :
    Keyword.ofWord? word = none ∧ name = word := by
  rw [wordToken] at h
  split at h
  · cases h
  · next hfree => exact ⟨hfree, (Token.identifier.inj h).symm⟩

/-- An identifier is no longer than its lexeme, and shorter if it is quoted. -/
theorem length_of_lexeme {c : Char} {cs : List Char} {name : String}
    (h : (lexeme c cs).1 = .identifier name) :
    name.toList.length ≤ cs.length + 1 ∧ (c = '"' → name.toList.length ≤ cs.length) := by
  rcases lexeme_identifier h with rfl | ⟨hstart, hword⟩
  · have hle := (List.takeWhile_sublist (l := cs) (· != '"')).length_le
    cases h
    simp only [String.toList_ofList]
    omega
  · have hle := (List.takeWhile_sublist (l := cs) continuesName).length_le
    have hquote : c ≠ '"' := by
      rintro rfl
      exact absurd hstart (by decide)
    rw [(identifier_of_wordToken hword).2, String.toList_ofList, List.length_cons]
    exact ⟨by omega, fun hc => absurd hc hquote⟩

/-- No identifier is longer than the text that it is read from. -/
theorem length_le_of_mem_tokenizeChars {name : String} {cs : List Char}
    (h : .identifier name ∈ tokenizeChars cs) : name.toList.length ≤ cs.length := by
  fun_induction tokenizeChars cs with
  | case1 => cases h
  | case2 cs hle ih =>
    have := ih h
    simp only [List.length_cons]
    omega
  | case3 c cs hc hblank ih =>
    have := ih h
    simp only [List.length_cons]
    omega
  | case4 c cs hc hblank hle ih =>
    simp only [List.length_cons]
    rcases List.mem_cons.1 h with h | h
    · exact (length_of_lexeme h.symm).1
    · have := ih h
      omega

/-- A text that is read as itself is a word, and no reserved one. -/
theorem isWord_of_tokenize {text : String} (h : tokenize text = [.identifier text]) :
    IsWord text ∧ Keyword.ofWord? text = none := by
  -- A shorter text cannot be read as this one, so nothing of it is skipped or put in quotes.
  have hshort (cs : List Char) (hcs : tokenizeChars cs = [.identifier text]) :
      text.toList.length ≤ cs.length :=
    length_le_of_mem_tokenizeChars (hcs ▸ List.mem_singleton_self _)
  rw [tokenize, tokenizeChars.eq_def] at h
  split at h
  · cases h
  · next cs hcs =>
    have hle := hshort _ h
    have hskip := length_skipLine_le cs
    rw [hcs, List.length_cons, List.length_cons] at hle
    omega
  · next c cs _ hcs =>
    split at h
    · have hle := hshort _ h
      rw [hcs, List.length_cons] at hle
      omega
    · next hblank =>
      obtain ⟨hlexeme, -⟩ := List.cons.inj h
      rcases lexeme_identifier hlexeme with rfl | ⟨hstart, hword⟩
      · have hle := (length_of_lexeme hlexeme).2 rfl
        rw [hcs, List.length_cons] at hle
        omega
      obtain ⟨hfree, htext⟩ := identifier_of_wordToken hword
      rw [← htext] at hfree
      have htake : cs.takeWhile continuesName = cs := by
        rw [htext, String.toList_ofList] at hcs
        exact (List.cons.inj hcs).2
      refine ⟨⟨⟨c, cs, hcs, hstart, ?_⟩, ?_⟩, hfree⟩
      · rw [← htake]
        exact fun x hx => List.all_eq_true.1 List.all_takeWhile x hx
      · intro c' cs' hcs'
        obtain ⟨rfl, -⟩ := List.cons.inj (hcs.symm.trans hcs')
        simpa using hblank

/-- A text that is read as itself is a name. -/
theorem isName_of_tokenize {text : String} (h : tokenize text = [.identifier text]) :
    IsName text ∧ nameOf text = text :=
  isName_of_word (isWord_of_tokenize h).1 (isWord_of_tokenize h).2

end EntityQuery.Sql
