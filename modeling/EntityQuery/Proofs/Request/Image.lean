import EntityQuery.Proofs.Request.Compiling
import EntityQuery.Proofs.Sql.Parameters
import EntityQuery.Proofs.Sql.Reading

/-!
# The expression that a constraint is written as

A constraint is written as text, and the text is read as an expression. Between the two stand its
tokens: `Constraint.spells_text` says that the text is read as these tokens, and `Constraint.reads`
that the tokens are read as the image of the constraint, a tree of the same shape. Its parameters are
numbered from left to right (`Constraint.parameters_image`).

* A column is a qualified name, and every other operand the parameter of its number.
* Conjunction, disjunction, null tests, membership and substring tests keep their form.
* Membership in an empty list is a comparison of two constants.
-/

namespace EntityQuery

open Sql

/-! ## Tokens and images -/

/-- The table and the columns of these fields are written as names. -/
def Naming.Readable (naming : Naming) (fields : List Field) : Prop :=
  ∀ f ∈ fields, IsName (naming.tableName f.entity) ∧ ∀ c, naming.columnName f = some c → IsName c

theorem Naming.readable_append {naming : Naming} {fs gs : List Field} :
    naming.Readable (fs ++ gs) ↔ naming.Readable fs ∧ naming.Readable gs := List.forall_mem_append

/-- The identifier of a field's table. -/
def Naming.tableIdent (naming : Naming) (f : Field) : String := nameOf (naming.tableName f.entity)

/-- The identifier of a field's column. -/
def Naming.columnIdent (naming : Naming) (f : Field) : String :=
  nameOf ((naming.columnName f).getD "")

/-- A column as an expression. -/
def Naming.image (naming : Naming) (f : Field) : Expr :=
  .qualified (naming.tableIdent f) (naming.columnIdent f)

/-- A column as tokens. -/
def Naming.tokens (naming : Naming) (f : Field) : List Token :=
  [.identifier (naming.tableIdent f), .symbol .dot, .identifier (naming.columnIdent f)]

/-- An operand as an expression, where `next` is the number of its parameter. -/
def Operand.image (naming : Naming) (next : Nat) : Operand → Expr
  | .field f => naming.image f
  | _ => .parameter next

/-- An operand as tokens. -/
def Operand.tokens (naming : Naming) : Operand → List Token
  | .field f => naming.tokens f
  | _ => [.symbol .placeholder]

/-- A whole number as an expression. -/
def constant (n : Int32) : Expr := .literal (.integer n)

/-- A constraint as an expression, where `next` is the number of its first parameter. -/
def Constraint.image (naming : Naming) (next : Nat) : Constraint → Expr
  | .compare op left right =>
    .compare op (left.image naming next) (right.image naming (next + left.isParameter.toNat))
  | .and left right => .and (left.image naming next) (right.image naming (next + left.parameterCount))
  | .or left right => .or (left.image naming next) (right.image naming (next + left.parameterCount))
  | .inList negated _ [] => .compare .equal (constant 1) (constant (if negated then 1 else 0))
  | .inList negated f (v :: vs) =>
    .inList negated (naming.image f) ((List.range' next (v :: vs).length).map .parameter)
  | .isNull negated f => .isNull negated (naming.image f)
  | .contains negated f _ => .like negated (naming.image f) (.parameter next) (some likeEscape)

/-- A constraint as tokens. -/
def Constraint.tokens (naming : Naming) : Constraint → List Token
  | .compare op left right => left.tokens naming ++ [.symbol (signOf op)] ++ right.tokens naming
  | .and left right =>
    [.symbol .leftParen] ++ left.tokens naming ++ [.keyword .AND] ++ right.tokens naming ++
      [.symbol .rightParen]
  | .or left right =>
    [.symbol .leftParen] ++ left.tokens naming ++ [.keyword .OR] ++ right.tokens naming ++
      [.symbol .rightParen]
  | .inList negated _ [] =>
    [.number "1", .symbol .equal, .number (if negated then "1" else "0")]
  | .inList negated f (v :: vs) =>
    naming.tokens f ++ (Reader.notTokens negated ++ [.keyword .IN, .symbol .leftParen]) ++
      Reader.commaTokens ((v :: vs).map fun _ => [.symbol .placeholder]) ++ [.symbol .rightParen]
  | .isNull negated f =>
    naming.tokens f ++ ([.keyword .IS] ++ Reader.notTokens negated ++ [.keyword .NULL])
  | .contains negated f _ =>
    naming.tokens f ++ (Reader.notTokens negated ++ [.keyword .LIKE]) ++
      [.symbol .placeholder, .keyword .ESCAPE, .string likeEscape.toString]

/-! ## Text to tokens -/

theorem Naming.spells_qualified {naming : Naming} {f : Field} (hmap : (naming.columnName f).isSome)
    (hname : naming.Readable [f]) :
    Spells Stops (naming.qualified f).toList (naming.tokens f) := by
  obtain ⟨column, hcolumn⟩ := Option.isSome_iff_exists.1 hmap
  obtain ⟨htable, hcolumns⟩ := hname f (List.mem_singleton_self f)
  rw [qualified, tokens, tableIdent, columnIdent, hcolumn]
  exact Sql.spells_qualified htable (hcolumns column hcolumn)

theorem Operand.spells_text {naming : Naming} {o : Operand} (hmap : naming.Maps o.columns)
    (hname : naming.Readable o.columns) : Spells Stops (o.text naming).toList (o.tokens naming) := by
  cases o with
  | field f => exact Naming.spells_qualified (hmap f (List.mem_singleton_self f)) hname
  | value f v | accessor f a =>
    change Spells Stops "?".toList _
    exact spells_placeholder.stops

/-- Texts with commas between them are read as their tokens with commas between them. -/
theorem spells_commas {α : Type} {text : α → String} {tokens : α → List Token} {xs : List α}
    (h : ∀ x ∈ xs, Spells Stops (text x).toList (tokens x)) :
    Spells Stops (", ".intercalate (xs.map text)).toList (Reader.commaTokens (xs.map tokens)) := by
  induction xs with
  | nil => exact spells_nil
  | cons x xs ih =>
    have hx := h x List.mem_cons_self
    cases xs with
    | nil =>
      have htokens : Reader.commaTokens ([x].map tokens) = tokens x := by
        simp [Reader.commaTokens, List.intercalate]
      rw [htokens, List.map_singleton, String.intercalate_singleton]
      exact hx
    | cons y ys =>
      have htokens : Reader.commaTokens ((x :: y :: ys).map tokens) =
          tokens x ++ ([.symbol .comma] ++ Reader.commaTokens ((y :: ys).map tokens)) := by
        simp [Reader.commaTokens, List.intercalate]
      have hrest := ih fun z hz => h z (List.mem_cons_of_mem _ hz)
      rw [htokens, List.map_cons, List.map_cons, String.intercalate_cons_cons, ← List.map_cons,
        String.toList_append, String.toList_append, List.append_assoc]
      exact hx.append_stop (spells_comma.append_closed hrest) (.inr (.inl rfl))

/-- One and zero, as they stand in constant conditions. -/
theorem spells_constants (right : Char) (h : right.isDigit = true) :
    Spells Stops ("1 = ".toList ++ [right])
      [.number "1", .symbol .equal, .number (String.ofList [right])] := by
  have hleft : Spells Stops ['1'] [.number "1"] :=
    spells_digits (List.cons_ne_nil _ _) fun c hc => List.mem_singleton.1 hc ▸ rfl
  have hright : Spells Stops [right] [.number (String.ofList [right])] :=
    spells_digits (List.cons_ne_nil _ _) fun c hc => List.mem_singleton.1 hc ▸ h
  exact (hleft.append_stop (spells_comparison .equal) (.inl rfl)).append_closed hright

/-- Two conditions joined by a word, between parentheses. -/
theorem spells_joined {left right : String} {ls rs : List Token} {word : String} {k : Keyword}
    (hl : Spells Stops left.toList ls) (hr : Spells Stops right.toList rs)
    (hword : word.toList = ' ' :: (k.text.toList ++ [' '])) :
    Spells Stops ("(" ++ left ++ word ++ right ++ ")").toList
      ([.symbol .leftParen] ++ ls ++ [.keyword k] ++ rs ++ [.symbol .rightParen]) := by
  have hk := spells_spaced [k]
  rw [words, List.flatMap_singleton] at hk
  rw [String.toList_append, String.toList_append, String.toList_append, String.toList_append, hword]
  exact (((spells_leftParen.append_closed hl).append_stop hk (.inl rfl)).append_closed
    hr).append_stop spells_rightParen.stops (.inr (.inr rfl))

/-- The text of a constraint is read as its tokens. -/
theorem Constraint.spells_text {naming : Naming} {c : Constraint}
    (hmap : naming.Maps c.referencedFields) (hname : naming.Readable c.referencedFields) :
    Spells Stops (c.text naming).toList (c.tokens naming) := by
  induction c with
  | compare op left right =>
    obtain ⟨hml, hmr⟩ := Naming.maps_append.1 hmap
    obtain ⟨hnl, hnr⟩ := Naming.readable_append.1 hname
    have hsign : (" " ++ op.symbol ++ " ").toList = ' ' :: (op.symbol.toList ++ [' ']) := by simp
    rw [text, String.toList_append, String.toList_append, hsign, tokens]
    exact ((Operand.spells_text hml hnl).append_stop (spells_comparison op) (.inl rfl)).append_closed
      (Operand.spells_text hmr hnr)
  | and left right ihl ihr | or left right ihl ihr =>
    obtain ⟨hml, hmr⟩ := Naming.maps_append.1 hmap
    obtain ⟨hnl, hnr⟩ := Naming.readable_append.1 hname
    exact spells_joined (ihl hml hnl) (ihr hmr hnr) rfl
  | inList negated f values =>
    have hf := Naming.spells_qualified (hmap f (List.mem_singleton_self f)) hname
    cases values with
    | nil =>
      rw [text, tokens]
      cases negated with
      | true => exact spells_constants '1' (by decide)
      | false => exact spells_constants '0' (by decide)
    | cons v vs =>
      have hmarks : Spells Stops (questionMarksText (v :: vs).length).toList
          (Reader.commaTokens ((v :: vs).map fun _ => [.symbol .placeholder])) := by
        rw [questionMarksText, ← List.map_const']
        exact spells_commas fun _ _ => spells_placeholder.stops
      have hin : Spells Anything (if negated then " NOT IN (" else " IN (").toList
          (Reader.notTokens negated ++ [.keyword .IN, .symbol .leftParen]) := by
        cases negated with
        | true => exact (spells_spaced [.NOT, .IN]).append_closed spells_leftParen
        | false => exact (spells_spaced [.IN]).append_closed spells_leftParen
      rw [text, String.toList_append, String.toList_append, String.toList_append, tokens]
      refine ((hf.append hin fun rest _ => ?_).append_closed hmarks).append_stop
        spells_rightParen.stops (.inr (.inr rfl))
      cases negated <;> exact .inr ⟨' ', _, rfl, .inl rfl⟩
  | isNull negated f =>
    have hf := Naming.spells_qualified (hmap f (List.mem_singleton_self f)) hname
    rw [text, String.toList_append, tokens]
    cases negated with
    | true => exact hf.append_stop (spells_words [.IS, .NOT, .NULL]) (.inl rfl)
    | false => exact hf.append_stop (spells_words [.IS, .NULL]) (.inl rfl)
  | contains negated f value =>
    have hf := Naming.spells_qualified (hmap f (List.mem_singleton_self f)) hname
    have hlike : Spells Stops (if negated then " NOT LIKE" else " LIKE").toList
        (Reader.notTokens negated ++ [.keyword .LIKE]) := by
      cases negated with
      | true => exact spells_words [.NOT, .LIKE]
      | false => exact spells_words [.LIKE]
    have hescape : Spells Stops (" ? ESCAPE '" ++ likeEscape.toString ++ "'").toList
        [.symbol .placeholder, .keyword .ESCAPE, .string likeEscape.toString] :=
      ((spells_space.append_closed spells_placeholder).append_closed
        (spells_spaced [.ESCAPE])).append_closed spells_backslash
    have htext : (Constraint.contains negated f value).text naming =
        naming.qualified f ++ (if negated then " NOT LIKE" else " LIKE") ++
          (" ? ESCAPE '" ++ likeEscape.toString ++ "'") := by
      simp only [text, String.append_assoc]
    rw [htext, String.toList_append, String.toList_append, tokens]
    refine (hf.append hlike fun rest _ => ?_).append hescape fun rest _ => .inr ⟨' ', _, rfl, .inl rfl⟩
    cases negated <;> exact .inr ⟨' ', _, rfl, .inl rfl⟩

/-! ## Tokens to image -/

open Reader

theorem operand_column (naming : Naming) (f : Field) (inner : Reader Expr) (rest : List Token)
    (k : Nat) :
    operand inner ⟨naming.tokens f ++ rest, k⟩ = .ok (naming.image f, ⟨rest, k⟩) :=
  (operand_primary (by simp [Naming.tokens])).trans (primary_qualified _ _)

theorem operand_placeholder (inner : Reader Expr) (rest : List Token) (k : Nat) :
    operand inner ⟨[.symbol .placeholder] ++ rest, k⟩ = .ok (.parameter (k + 1), ⟨rest, k + 1⟩) :=
  (operand_primary (by simp)).trans primary_placeholder

theorem Operand.reads (naming : Naming) (o : Operand) (inner : Reader Expr) (rest : List Token)
    (k : Nat) :
    operand inner ⟨o.tokens naming ++ rest, k⟩ =
      .ok (o.image naming (k + 1), ⟨rest, k + o.isParameter.toNat⟩) := by
  cases o with
  | field f => exact operand_column naming f inner rest k
  | value f v | accessor f a => exact operand_placeholder inner rest k

/-- The parameters of a list are numbered in a row. -/
theorem zipWith_parameter {α : Type} (xs : List α) (k : Nat) :
    List.zipWith (fun _ i => Expr.parameter (i + 1)) xs (List.range' k xs.length) =
      (List.range' (k + 1) xs.length).map .parameter := by
  induction xs generalizing k with
  | nil => rfl
  | cons x xs ih =>
    simp only [List.length_cons, List.range'_succ, List.zipWith_cons_cons, List.map_cons, ih]

/-- A predicate that starts with a column goes on with what is behind it. -/
theorem negation_of_column (naming : Naming) (f : Field) (inner : Reader Expr) (limit : Nat)
    (tokens : List Token) (k : Nat) :
    negation inner limit limit ⟨naming.tokens f ++ tokens, k⟩ =
      afterOperand inner limit (naming.image f) ⟨tokens, k⟩ := by
  rw [negation_predicate (by simp [Naming.tokens]),
    predicate_of_operand (operand_column naming f inner _ k)]

theorem endsPredicate_word {w : Keyword} (hw : w = .AND ∨ w = .OR) (rest : List Token) :
    EndsPredicate (Token.keyword w :: rest).head? := by
  rcases hw with rfl | rfl
  · exact (by decide : EndsPredicate (some (.keyword .AND)))
  · exact (by decide : EndsPredicate (some (.keyword .OR)))

theorem endsPredicate_rightParen (rest : List Token) :
    EndsPredicate (Token.symbol .rightParen :: rest).head? :=
  (by decide : EndsPredicate (some (.symbol .rightParen)))

namespace Constraint

variable {naming : Naming} {left right : Constraint}

/-- The tokens of a constraint are read as its image, in front of whatever ends a predicate. -/
def ReadsAsImage (naming : Naming) (c : Constraint) : Prop :=
  ∀ limit rest k, (c.tokens naming).length ≤ limit → EndsPredicate rest.head? →
    negation (expression limit) limit limit ⟨c.tokens naming ++ rest, k⟩ =
      .ok (c.image naming (k + 1), ⟨rest, k + c.parameterCount⟩)

theorem reads_compare (op : Comparison) (left right : Operand) :
    (compare op left right).ReadsAsImage naming := by
  intro limit rest k _ _
  have hl := left.reads naming (expression limit)
    (.symbol (signOf op) :: (right.tokens naming ++ rest)) k
  have hr := right.reads naming (expression limit) rest (k + left.isParameter.toNat)
  rw [Nat.add_right_comm k left.isParameter.toNat 1,
    Nat.add_assoc k left.isParameter.toNat right.isParameter.toNat] at hr
  have htokens : (compare op left right).tokens naming ++ rest =
      left.tokens naming ++ .symbol (signOf op) :: (right.tokens naming ++ rest) := by
    simp [tokens]
  have hhead : (left.tokens naming ++
      .symbol (signOf op) :: (right.tokens naming ++ rest)).head? ≠ some (.keyword .NOT) := by
    cases left <;> simp [Operand.tokens, Naming.tokens]
  rw [htokens, negation_predicate hhead, predicate_of_operand hl, afterOperand_comparison hr,
    image, parameterCount]

/-- Two constraints between parentheses, with a word that joins them. -/
theorem negation_joined {word : Keyword} {join : Expr → Expr → Expr}
    (hjoin : word = .AND ∧ join = .and ∨ word = .OR ∧ join = .or)
    (hleft : left.ReadsAsImage naming) (hright : right.ReadsAsImage naming) {limit : Nat}
    (hlimit : (left.tokens naming).length + (right.tokens naming).length + 3 ≤ limit)
    {rest : List Token} (hrest : EndsPredicate rest.head?) (k : Nat) :
    negation (expression limit) limit limit
        ⟨.symbol .leftParen :: ((left.tokens naming ++ .keyword word :: right.tokens naming) ++
          .symbol .rightParen :: rest), k⟩ =
      .ok (join (left.image naming (k + 1)) (right.image naming (k + 1 + left.parameterCount)),
        ⟨rest, k + (left.parameterCount + right.parameterCount)⟩) := by
  -- the parentheses take one from the limit
  obtain ⟨m, rfl⟩ : ∃ m, limit = m + 1 := ⟨limit - 1, by omega⟩
  have hword : word = .AND ∨ word = .OR := hjoin.imp And.left And.left
  have hl := hleft m _ k (by omega)
    (endsPredicate_word hword (right.tokens naming ++ .symbol .rightParen :: rest))
  have hr := hright m _ (k + left.parameterCount) (by omega) (endsPredicate_rightParen rest)
  rw [Nat.add_right_comm k left.parameterCount 1,
    Nat.add_assoc k left.parameterCount right.parameterCount] at hr
  have hinner := expression_joined hjoin (by omega) hl hr (by simp) (by simp)
  rw [← List.cons_append, ← List.append_assoc] at hinner
  exact negation_parens hinner hrest _

theorem reads_and (hleft : left.ReadsAsImage naming) (hright : right.ReadsAsImage naming) :
    (and left right).ReadsAsImage naming := by
  intro limit rest k hlimit hrest
  simp only [tokens, List.length_append, List.length_singleton] at hlimit
  have htokens : (and left right).tokens naming ++ rest = .symbol .leftParen ::
      ((left.tokens naming ++ .keyword .AND :: right.tokens naming) ++
        .symbol .rightParen :: rest) := by
    simp [tokens]
  rw [htokens, image, parameterCount]
  exact negation_joined (.inl ⟨rfl, rfl⟩) hleft hright (by omega) hrest k

theorem reads_or (hleft : left.ReadsAsImage naming) (hright : right.ReadsAsImage naming) :
    (or left right).ReadsAsImage naming := by
  intro limit rest k hlimit hrest
  simp only [tokens, List.length_append, List.length_singleton] at hlimit
  have htokens : (or left right).tokens naming ++ rest = .symbol .leftParen ::
      ((left.tokens naming ++ .keyword .OR :: right.tokens naming) ++
        .symbol .rightParen :: rest) := by
    simp [tokens]
  rw [htokens, image, parameterCount]
  exact negation_joined (.inr ⟨rfl, rfl⟩) hleft hright (by omega) hrest k

/-- Membership in an empty list is written as a comparison of constants. -/
theorem reads_inList_nil (negated : Bool) (f : Field) :
    (inList negated f []).ReadsAsImage naming := by
  intro limit rest k _ _
  have hl : operand (expression limit) ⟨[.number "1"] ++ (.symbol (signOf .equal) ::
      ([.number (if negated then "1" else "0")] ++ rest)), k⟩ =
      .ok (constant 1, ⟨.symbol (signOf .equal) ::
        ([.number (if negated then "1" else "0")] ++ rest), k⟩) := by
    rw [List.singleton_append, operand_primary (by simp), primary_number]
    rfl
  have hr : operand (expression limit) ⟨[.number (if negated then "1" else "0")] ++ rest, k⟩ =
      .ok (constant (if negated then 1 else 0), ⟨rest, k⟩) := by
    rw [List.singleton_append, operand_primary (by simp), primary_number]
    cases negated <;> rfl
  have htokens : (inList negated f []).tokens naming ++ rest =
      [.number "1"] ++ (.symbol (signOf .equal) ::
        ([.number (if negated then "1" else "0")] ++ rest)) := rfl
  rw [htokens, negation_predicate (by simp), predicate_of_operand hl,
    afterOperand_comparison hr, image, parameterCount]
  rfl

theorem reads_inList_cons (negated : Bool) (f : Field) (v : Value) (vs : List Value) :
    (inList negated f (v :: vs)).ReadsAsImage naming := by
  intro limit rest k hlimit _
  have hlength :
      (commaTokens ((v :: vs).map fun _ => [Token.symbol .placeholder])).length ≤ limit := by
    simp only [tokens, List.length_append, List.length_cons] at hlimit
    omega
  have hcomma : (Token.symbol .rightParen :: rest).head? ≠ some (.symbol .comma) := by simp
  have hitems := commaList_reads (List.cons_ne_nil v vs) hlength
    (fun _ _ rest k => operand_placeholder (expression limit) rest k) hcomma k
  rw [zipWith_parameter, Nat.mul_one] at hitems
  have htokens : (inList negated f (v :: vs)).tokens naming ++ rest = naming.tokens f ++
      (notTokens negated ++ .keyword .IN :: .symbol .leftParen ::
        (commaTokens ((v :: vs).map fun _ => [.symbol .placeholder]) ++
          .symbol .rightParen :: rest)) := by
    simp [tokens]
  rw [htokens, negation_of_column, afterOperand_inList negated hitems, image, parameterCount]

theorem reads_isNull (negated : Bool) (f : Field) : (isNull negated f).ReadsAsImage naming := by
  intro limit rest k _ _
  have htokens : (isNull negated f).tokens naming ++ rest = naming.tokens f ++
      .keyword .IS :: (notTokens negated ++ .keyword .NULL :: rest) := by
    simp [tokens]
  rw [htokens, negation_of_column, afterOperand_isNull negated, image, parameterCount,
    Nat.add_zero]

theorem reads_contains (negated : Bool) (f : Field) (value : String) :
    (contains negated f value).ReadsAsImage naming := by
  intro limit rest k _ _
  have htokens : (contains negated f value).tokens naming ++ rest = naming.tokens f ++
      (notTokens negated ++ .keyword .LIKE :: ([.symbol .placeholder] ++
        .keyword .ESCAPE :: .string likeEscape.toString :: rest)) := by
    simp [tokens]
  have hescape : likeEscape.toString.toList = [likeEscape] := rfl
  rw [htokens, negation_of_column,
    afterOperand_like negated hescape (operand_placeholder (expression limit) _ k), image,
    parameterCount]

/-- The tokens of every constraint are read as its image. -/
theorem reads (c : Constraint) : c.ReadsAsImage naming := by
  induction c with
  | compare op left right => exact reads_compare op left right
  | and left right ihl ihr => exact reads_and ihl ihr
  | or left right ihl ihr => exact reads_or ihl ihr
  | inList negated f values =>
    cases values with
    | nil => exact reads_inList_nil negated f
    | cons v vs => exact reads_inList_cons negated f v vs
  | isNull negated f => exact reads_isNull negated f
  | contains negated f value => exact reads_contains negated f value

end Constraint

/-! ## Parameters -/

theorem Naming.parameters_image (naming : Naming) (f : Field) :
    (naming.image f).parameters = [] := by
  rw [image, Expr.parameters]

theorem Operand.parameters_image (naming : Naming) (o : Operand) (next : Nat) :
    (o.image naming next).parameters = List.range' next o.isParameter.toNat := by
  cases o with
  | field f => exact naming.parameters_image f
  | value f v | accessor f a =>
    rfl

/-- The parameters of a constraint are numbered in a row. -/
theorem Constraint.parameters_image (naming : Naming) (c : Constraint) (next : Nat) :
    (c.image naming next).parameters = List.range' next c.parameterCount := by
  induction c generalizing next with
  | compare op left right =>
    rw [image, Expr.parameters, left.parameters_image, right.parameters_image,
      List.range'_append_1, parameterCount]
  | and left right ihl ihr | or left right ihl ihr =>
    rw [image, Expr.parameters, ihl, ihr, List.range'_append_1, parameterCount]
  | inList negated f values =>
    cases values with
    | nil =>
      rw [image, Expr.parameters, constant, constant, Expr.parameters, Expr.parameters]
      rfl
    | cons v vs =>
      rw [image, Expr.parameters, naming.parameters_image, listParameters_map]
      rfl
  | isNull negated f =>
    rw [image, Expr.parameters, naming.parameters_image]
    rfl
  | contains negated f value =>
    rw [image, Expr.parameters, naming.parameters_image, Expr.parameters]
    rfl

end EntityQuery
