import EntityQuery.Proofs.Sql.Names
import EntityQuery.Sql.Parser

/-!
# Running readers on given tokens

What each reader does on an input whose first tokens are known: single tokens first, then lists,
chains and what stands around an operand. A reader takes its own tokens and leaves the others, so the
lemmas are run one behind the other with `bind_of_read`.

* `commaList_reads` reads a list whose items are read one by one;
* `chain_of_word` and `chain_end` follow a chain of `AND`s or `OR`s;
* `operand_parens` reads an expression between parentheses, and the lemmas on `afterOperand` the tests
  behind an operand.
-/

namespace EntityQuery.Sql.Reader

variable {α β : Type}

/-! ## Single tokens -/

/-- A reading that succeeds goes on with its value on the rest. -/
theorem bind_of_read {x : Reader α} {f : α → Reader β} {input input' : Input} {a : α}
    (h : x input = .ok (a, input')) : (x >>= f) input = f a input' := by
  change (x input >>= fun p => f p.1 p.2) = _
  rw [h]
  rfl

/-- A reading that fails goes on with nothing. -/
theorem bind_of_fail {x : Reader α} {f : α → Reader β} {input : Input} {e : ParseError}
    (h : x input = .error e) : (x >>= f) input = .error e := by
  change (x input >>= fun p => f p.1 p.2) = _
  rw [h]
  rfl

theorem pure_apply (a : α) (input : Input) : (pure a : Reader α) input = .ok (a, input) := rfl

section Tokens

variable {rest : List Token} {k : Nat}

theorem peek_apply : peek ⟨rest, k⟩ = .ok (rest.head?, ⟨rest, k⟩) := rfl

theorem accept_hit (t : Token) : accept t ⟨t :: rest, k⟩ = .ok (true, ⟨rest, k⟩) := by
  rw [accept, bind_of_read peek_apply, List.head?_cons, if_pos rfl]
  rfl

theorem accept_miss {t : Token} (h : rest.head? ≠ some t) :
    accept t ⟨rest, k⟩ = .ok (false, ⟨rest, k⟩) := by
  rw [accept, bind_of_read peek_apply, if_neg h]
  rfl

theorem acceptWord_hit (w : Keyword) :
    acceptWord w ⟨.keyword w :: rest, k⟩ = .ok (true, ⟨rest, k⟩) := accept_hit _

theorem acceptWord_miss {w : Keyword} (h : rest.head? ≠ some (.keyword w)) :
    acceptWord w ⟨rest, k⟩ = .ok (false, ⟨rest, k⟩) := accept_miss h

theorem acceptSign_hit (s : Symbol) :
    acceptSign s ⟨.symbol s :: rest, k⟩ = .ok (true, ⟨rest, k⟩) := accept_hit _

theorem acceptSign_miss {s : Symbol} (h : rest.head? ≠ some (.symbol s)) :
    acceptSign s ⟨rest, k⟩ = .ok (false, ⟨rest, k⟩) := accept_miss h

theorem expect_hit (t : Token) : expect t ⟨t :: rest, k⟩ = .ok ((), ⟨rest, k⟩) := by
  rw [expect, bind_of_read (accept_hit t)]
  rfl

theorem number_hit (digits : String) :
    number ⟨.number digits :: rest, k⟩ = .ok (digits, ⟨rest, k⟩) := rfl

theorem primary_number (digits : String) :
    primary ⟨.number digits :: rest, k⟩ = .ok (.literal (numeralValue false digits), ⟨rest, k⟩) :=
  rfl

theorem primary_placeholder :
    primary ⟨.symbol .placeholder :: rest, k⟩ = .ok (.parameter (k + 1), ⟨rest, k + 1⟩) := rfl

theorem primary_qualified (table column : String) :
    primary ⟨.identifier table :: .symbol .dot :: .identifier column :: rest, k⟩ =
      .ok (.qualified table column, ⟨rest, k⟩) := rfl

theorem primary_column {column : String} (h : rest.head? ≠ some (.symbol .dot)) :
    primary ⟨.identifier column :: rest, k⟩ = .ok (.column column, ⟨rest, k⟩) := by
  rw [primary, bind_of_read peek_apply]
  change (skip >>= _) _ = _
  have hskip : skip ⟨.identifier column :: rest, k⟩ = .ok ((), ⟨rest, k⟩) := rfl
  rw [bind_of_read hskip, bind_of_read (acceptSign_miss h)]
  rfl

end Tokens

/-! ## Lists and chains -/

/-- Lists of tokens with commas between them. -/
def commaTokens (items : List (List Token)) : List Token := [.symbol .comma].intercalate items

theorem commaTokens_singleton (item : List Token) : commaTokens [item] = item := by
  simp [commaTokens, List.intercalate]

theorem commaTokens_cons (item next : List Token) (items : List (List Token)) :
    commaTokens (item :: next :: items) = item ++ .symbol .comma :: commaTokens (next :: items) := by
  simp [commaTokens, List.intercalate]

/-- A list has at most one item more than commas. -/
theorem length_le_succ_commaTokens (items : List (List Token)) :
    items.length ≤ (commaTokens items).length + 1 := by
  induction items with
  | nil => exact Nat.zero_le _
  | cons ts items ih =>
    cases items with
    | nil => exact Nat.succ_le_succ (Nat.zero_le _)
    | cons us items =>
      simp only [commaTokens_cons, List.length_append, List.length_cons] at ih ⊢
      omega

/-- An item is no longer than the list. -/
theorem length_le_of_mem_commaTokens {items : List (List Token)} {ts : List Token} (h : ts ∈ items) :
    ts.length ≤ (commaTokens items).length := by
  induction items with
  | nil => cases h
  | cons us items ih =>
    cases items with
    | nil => rw [List.mem_singleton.1 h, commaTokens_singleton]
    | cons vs items =>
      rw [commaTokens_cons, List.length_append, List.length_cons]
      rcases List.mem_cons.1 h with rfl | h
      · omega
      · have hle := ih h
        omega

theorem length_le_of_commaTokens {tokens : β → List Token} {xs : List β} {limit : Nat}
    (h : (commaTokens (xs.map tokens)).length ≤ limit) : xs.length ≤ limit + 1 := by
  have hle := length_le_succ_commaTokens (xs.map tokens)
  rw [List.length_map] at hle
  exact hle.trans (Nat.succ_le_succ h)

/-- A reading that no comma follows is a list of one item. -/
theorem commaList_singleton {item : Reader α} {input : Input} {a : α} {rest : List Token} {k : Nat}
    (h : item input = .ok (a, ⟨rest, k⟩)) (hrest : rest.head? ≠ some (.symbol .comma))
    (limit : Nat) : commaList item limit input = .ok ([a], ⟨rest, k⟩) := by
  cases limit with
  | zero =>
    rw [commaList, bind_of_read h]
    rfl
  | succ limit =>
    rw [commaList, bind_of_read h, bind_of_read (acceptSign_miss hrest)]
    rfl

/-- A list is read item by item. Each item meets `count` parameters, so the first parameter of an item
depends on its place. -/
theorem commaList_reads {item : Reader α} {tokens : β → List Token} {count : Nat} {value : β → Nat → α}
    {xs : List β} {limit : Nat} (hne : xs ≠ []) (hlimit : (commaTokens (xs.map tokens)).length ≤ limit)
    (hitem : ∀ x ∈ xs, ∀ rest k, item ⟨tokens x ++ rest, k⟩ = .ok (value x k, ⟨rest, k + count⟩))
    {rest : List Token} (hrest : rest.head? ≠ some (.symbol .comma)) (k : Nat) :
    commaList item limit ⟨commaTokens (xs.map tokens) ++ rest, k⟩ =
      .ok (List.zipWith value xs (List.range' k xs.length count),
        ⟨rest, k + xs.length * count⟩) := by
  have hlength := length_le_of_commaTokens hlimit
  clear hlimit
  -- each item moves the count on and takes one from the limit
  induction xs generalizing limit k with
  | nil => exact absurd rfl hne
  | cons x xs ih =>
    have hx := hitem x List.mem_cons_self
    cases xs with
    | nil =>
      rw [List.map_singleton, commaTokens_singleton, commaList_singleton (hx rest k) hrest]
      simp
    | cons y ys =>
      have htokens : commaTokens ((x :: y :: ys).map tokens) ++ rest =
          tokens x ++ (.symbol .comma :: (commaTokens ((y :: ys).map tokens) ++ rest)) := by
        simp only [List.map_cons, commaTokens_cons, List.append_assoc, List.cons_append]
      cases limit with
      | zero =>
        simp only [List.length_cons] at hlength
        omega
      | succ limit =>
        have hys := ih (List.cons_ne_nil y ys) (fun z hz => hitem z (List.mem_cons_of_mem _ hz))
          (k + count) (Nat.le_of_succ_le_succ hlength)
        rw [htokens, commaList, bind_of_read (hx _ k), bind_of_read (acceptSign_hit .comma)]
        simp only [if_true]
        have hcount : k + (x :: y :: ys).length * count =
            k + count + (y :: ys).length * count := by
          rw [List.length_cons, Nat.succ_mul]
          omega
        rw [bind_of_read hys, pure_apply, hcount]
        rfl

/-- A list of items without parameters. -/
theorem commaList_plain {item : Reader α} {tokens : β → List Token} {value : β → α} {xs : List β}
    {limit : Nat} (hne : xs ≠ []) (hlimit : (commaTokens (xs.map tokens)).length ≤ limit)
    (hitem : ∀ x ∈ xs, ∀ rest k, item ⟨tokens x ++ rest, k⟩ = .ok (value x, ⟨rest, k⟩))
    {rest : List Token} (hrest : rest.head? ≠ some (.symbol .comma)) (k : Nat) :
    commaList item limit ⟨commaTokens (xs.map tokens) ++ rest, k⟩ =
      .ok (xs.map value, ⟨rest, k⟩) := by
  have hvalues (ys : List β) (j : Nat) :
      List.zipWith (fun x _ => value x) ys (List.range' j ys.length 0) = ys.map value := by
    induction ys generalizing j with
    | nil => rfl
    | cons y ys ih => exact congrArg _ (ih j)
  have hitem' : ∀ x ∈ xs, ∀ rest k,
      item ⟨tokens x ++ rest, k⟩ = .ok ((fun x _ => value x) x k, ⟨rest, k + 0⟩) := hitem
  have hread := commaList_reads hne hlimit hitem' hrest k
  rw [hvalues, Nat.mul_zero, Nat.add_zero] at hread
  exact hread

section Chains

variable {word : Keyword} {join : Expr → Expr → Expr} {operand : Reader Expr} {left : Expr}
  {rest : List Token} {k : Nat}

theorem chain_end (h : rest.head? ≠ some (.keyword word)) (limit : Nat) :
    chain word join operand limit left ⟨rest, k⟩ = .ok (left, ⟨rest, k⟩) := by
  cases limit with
  | zero => rfl
  | succ limit =>
    rw [chain, bind_of_read (acceptWord_miss h)]
    rfl

theorem chain_of_word {tokens : List Token} {right : Expr} {k' : Nat}
    (hright : operand ⟨tokens ++ rest, k⟩ = .ok (right, ⟨rest, k'⟩))
    (h : rest.head? ≠ some (.keyword word)) {limit : Nat} (hlimit : 0 < limit) :
    chain word join operand limit left ⟨.keyword word :: (tokens ++ rest), k⟩ =
      .ok (join left right, ⟨rest, k'⟩) := by
  cases limit with
  | zero => exact absurd hlimit (Nat.lt_irrefl 0)
  | succ limit =>
    rw [chain, bind_of_read (acceptWord_hit word)]
    simp only [if_true]
    rw [bind_of_read hright, chain_end h]

end Chains

/-! ## Operands and what is behind them -/

section Operands

variable {inner : Reader Expr} {rest tokens : List Token} {k k' : Nat} {e : Expr} {limit : Nat}

/-- Without a parenthesis an operand is a single value. -/
theorem operand_primary (h : tokens.head? ≠ some (.symbol .leftParen)) :
    operand inner ⟨tokens, k⟩ = primary ⟨tokens, k⟩ := by
  rw [operand, bind_of_read (acceptSign_miss h)]
  rfl

theorem operand_parens
    (h : inner ⟨tokens ++ .symbol .rightParen :: rest, k⟩ =
      .ok (e, ⟨.symbol .rightParen :: rest, k'⟩)) :
    operand inner ⟨.symbol .leftParen :: (tokens ++ .symbol .rightParen :: rest), k⟩ =
      .ok (e, ⟨rest, k'⟩) := by
  rw [operand, bind_of_read (acceptSign_hit .leftParen)]
  simp only [if_true]
  rw [bind_of_read h, bind_of_read (expect_hit _)]
  rfl

/-- Tokens that an operand is not followed by in a predicate. -/
def EndsPredicate (found : Option Token) : Prop :=
  found ≠ some (.keyword .IS) ∧ found ≠ some (.keyword .NOT) ∧ found ≠ some (.keyword .IN) ∧
    found ≠ some (.keyword .LIKE) ∧ comparisonOf found = none

instance : DecidablePred EndsPredicate := fun _ => inferInstanceAs (Decidable (_ ∧ _))

theorem afterOperand_end (h : EndsPredicate rest.head?) :
    afterOperand inner limit e ⟨rest, k⟩ = .ok (e, ⟨rest, k⟩) := by
  obtain ⟨his, hnot, hin, hlike, hcomparison⟩ := h
  rw [afterOperand, bind_of_read (acceptWord_miss his)]
  simp only [if_false, Bool.false_eq_true]
  rw [bind_of_read (acceptWord_miss hnot), bind_of_read (acceptWord_miss hin)]
  simp only [if_false, Bool.false_eq_true]
  rw [bind_of_read (acceptWord_miss hlike)]
  simp only [if_false, Bool.false_eq_true]
  rw [bind_of_read peek_apply, hcomparison]
  rfl

theorem comparisonOf_signOf (op : Comparison) :
    comparisonOf (some (.symbol (signOf op))) = some op := by
  cases op <;> rfl

theorem afterOperand_comparison {op : Comparison} {right : Expr}
    (h : operand inner ⟨tokens ++ rest, k⟩ = .ok (right, ⟨rest, k'⟩)) :
    afterOperand inner limit e ⟨.symbol (signOf op) :: (tokens ++ rest), k⟩ =
      .ok (.compare op e right, ⟨rest, k'⟩) := by
  have hword (w : Keyword) : acceptWord w ⟨.symbol (signOf op) :: (tokens ++ rest), k⟩ =
      .ok (false, ⟨.symbol (signOf op) :: (tokens ++ rest), k⟩) :=
    acceptWord_miss (by simp)
  have hskip : skip ⟨.symbol (signOf op) :: (tokens ++ rest), k⟩ = .ok ((), ⟨tokens ++ rest, k⟩) :=
    rfl
  rw [afterOperand, bind_of_read (hword .IS)]
  simp only [if_false, Bool.false_eq_true]
  rw [bind_of_read (hword .NOT), bind_of_read (hword .IN)]
  simp only [if_false, Bool.false_eq_true]
  rw [bind_of_read (hword .LIKE)]
  simp only [if_false, Bool.false_eq_true]
  rw [bind_of_read peek_apply, List.head?_cons, comparisonOf_signOf]
  simp only
  rw [bind_of_read hskip, bind_of_read h]
  rfl

/-- `NOT` on request. -/
def notTokens (negated : Bool) : List Token := if negated then [.keyword .NOT] else []

theorem acceptNot (negated : Bool) (h : rest.head? ≠ some (.keyword .NOT)) :
    acceptWord .NOT ⟨notTokens negated ++ rest, k⟩ = .ok (negated, ⟨rest, k⟩) := by
  cases negated with
  | true => exact acceptWord_hit .NOT
  | false => exact acceptWord_miss h

theorem afterOperand_isNull (negated : Bool) :
    afterOperand inner limit e
        ⟨.keyword .IS :: (notTokens negated ++ .keyword .NULL :: rest), k⟩ =
      .ok (.isNull negated e, ⟨rest, k⟩) := by
  rw [afterOperand, bind_of_read (acceptWord_hit .IS)]
  simp only [if_true]
  rw [bind_of_read (acceptNot negated (by simp)), bind_of_read (expect_hit _)]
  rfl

/-- A `NOT` that stands in front of some word is read as such. -/
theorem acceptIs_notTokens (negated : Bool) {w : Keyword} (hw : w ≠ .IS) :
    acceptWord .IS ⟨notTokens negated ++ .keyword w :: rest, k⟩ =
      .ok (false, ⟨notTokens negated ++ .keyword w :: rest, k⟩) := by
  apply acceptWord_miss
  cases negated <;> simp [notTokens, hw]

theorem afterOperand_inList (negated : Bool) {items : List Expr}
    (h : commaList (operand inner) limit ⟨tokens ++ .symbol .rightParen :: rest, k⟩ =
      .ok (items, ⟨.symbol .rightParen :: rest, k'⟩)) :
    afterOperand inner limit e
        ⟨notTokens negated ++ .keyword .IN :: .symbol .leftParen ::
          (tokens ++ .symbol .rightParen :: rest), k⟩ =
      .ok (.inList negated e items, ⟨rest, k'⟩) := by
  rw [afterOperand, bind_of_read (acceptIs_notTokens negated (by decide))]
  simp only [if_false, Bool.false_eq_true]
  rw [bind_of_read (acceptNot negated (by simp)), bind_of_read (acceptWord_hit .IN)]
  simp only [if_true]
  rw [bind_of_read (expect_hit _), bind_of_read h, bind_of_read (expect_hit _)]
  rfl

/-- Behind `LIKE` stands a pattern, and perhaps an escape character. -/
theorem afterOperand_pattern (negated : Bool) {pattern : Expr} {input : Input}
    (h : operand inner ⟨tokens, k⟩ = .ok (pattern, input)) :
    afterOperand inner limit e ⟨notTokens negated ++ .keyword .LIKE :: tokens, k⟩ =
      (do
        if ← acceptWord .ESCAPE then
          return .like negated e pattern (some (← escapeChar))
        else
          return .like negated e pattern none : Reader Expr) input := by
  rw [afterOperand, bind_of_read (acceptIs_notTokens negated (by decide))]
  simp only [if_false, Bool.false_eq_true]
  rw [bind_of_read (acceptNot negated (by simp)), bind_of_read (acceptWord_miss (by simp))]
  simp only [if_false, Bool.false_eq_true]
  rw [bind_of_read (acceptWord_hit .LIKE)]
  simp only [if_true]
  rw [bind_of_read h]

theorem afterOperand_like (negated : Bool) {pattern : Expr} {escape : Char} {text : String}
    (htext : text.toList = [escape])
    (h : operand inner ⟨tokens ++ .keyword .ESCAPE :: .string text :: rest, k⟩ =
      .ok (pattern, ⟨.keyword .ESCAPE :: .string text :: rest, k'⟩)) :
    afterOperand inner limit e
        ⟨notTokens negated ++ .keyword .LIKE ::
          (tokens ++ .keyword .ESCAPE :: .string text :: rest), k⟩ =
      .ok (.like negated e pattern (some escape), ⟨rest, k'⟩) := by
  have hescape : escapeChar ⟨.string text :: rest, k'⟩ = .ok (escape, ⟨rest, k'⟩) := by
    rw [escapeChar, bind_of_read peek_apply]
    simp only [List.head?_cons, htext]
    rfl
  rw [afterOperand_pattern negated h, bind_of_read (acceptWord_hit .ESCAPE)]
  simp only [if_true]
  rw [bind_of_read hescape]
  rfl

/-- Without an escape character, a pattern ends in front of whatever is no `ESCAPE`. -/
theorem afterOperand_like_plain (negated : Bool) {pattern : Expr}
    (h : operand inner ⟨tokens ++ rest, k⟩ = .ok (pattern, ⟨rest, k'⟩))
    (hrest : rest.head? ≠ some (.keyword .ESCAPE)) :
    afterOperand inner limit e ⟨notTokens negated ++ .keyword .LIKE :: (tokens ++ rest), k⟩ =
      .ok (.like negated e pattern none, ⟨rest, k'⟩) := by
  rw [afterOperand_pattern negated h, bind_of_read (acceptWord_miss hrest)]
  rfl

/-- Without a `NOT` in front, a negation is a predicate. -/
theorem negation_predicate (h : tokens.head? ≠ some (.keyword .NOT)) (nots : Nat) :
    negation inner limit nots ⟨tokens, k⟩ = predicate inner limit ⟨tokens, k⟩ := by
  cases nots with
  | zero => rfl
  | succ nots =>
    rw [negation, bind_of_read (acceptWord_miss h)]
    rfl

/-- An operand and what is behind it. -/
theorem predicate_of_operand {input input' : Input}
    (h : operand inner input = .ok (e, input')) :
    predicate inner limit input = afterOperand inner limit e input' := by
  rw [predicate, bind_of_read h]

/-- An expression between parentheses is a negation by itself. -/
theorem negation_parens
    (h : inner ⟨tokens ++ .symbol .rightParen :: rest, k⟩ =
      .ok (e, ⟨.symbol .rightParen :: rest, k'⟩))
    (hrest : EndsPredicate rest.head?) (nots : Nat) :
    negation inner limit nots ⟨.symbol .leftParen :: (tokens ++ .symbol .rightParen :: rest), k⟩ =
      .ok (e, ⟨rest, k'⟩) := by
  rw [negation_predicate (by simp), predicate_of_operand (operand_parens h), afterOperand_end hrest]

end Operands

/-! ## Factors, terms and expressions -/

section Levels

variable {limit : Nat} {tokens rest : List Token} {k k' k'' : Nat} {e left right : Expr}

/-- A negation that is not followed by `AND` is a conjunction. -/
theorem conjunction_of_negation {inner : Reader Expr}
    (h : negation inner limit limit ⟨tokens ++ rest, k⟩ = .ok (e, ⟨rest, k'⟩))
    (hrest : rest.head? ≠ some (.keyword .AND)) :
    conjunction inner limit ⟨tokens ++ rest, k⟩ = .ok (e, ⟨rest, k'⟩) := by
  rw [conjunction, bind_of_read h, chain_end hrest]

/-- A conjunction that is not followed by `OR` is an expression. -/
theorem expression_of_conjunction
    (h : conjunction (expression limit) limit ⟨tokens ++ rest, k⟩ = .ok (e, ⟨rest, k'⟩))
    (hrest : rest.head? ≠ some (.keyword .OR)) :
    expression (limit + 1) ⟨tokens ++ rest, k⟩ = .ok (e, ⟨rest, k'⟩) := by
  rw [expression, disjunction, bind_of_read h, chain_end hrest]

variable {ls rs : List Token}

/-- Two negations with a word between them that joins them. -/
theorem expression_joined {word : Keyword} {join : Expr → Expr → Expr}
    (hjoin : word = .AND ∧ join = .and ∨ word = .OR ∧ join = .or) (hlimit : 0 < limit)
    (hl : negation (expression limit) limit limit ⟨ls ++ .keyword word :: (rs ++ rest), k⟩ =
      .ok (left, ⟨.keyword word :: (rs ++ rest), k'⟩))
    (hr : negation (expression limit) limit limit ⟨rs ++ rest, k'⟩ = .ok (right, ⟨rest, k''⟩))
    (hand : rest.head? ≠ some (.keyword .AND)) (hor : rest.head? ≠ some (.keyword .OR)) :
    expression (limit + 1) ⟨ls ++ .keyword word :: (rs ++ rest), k⟩ =
      .ok (join left right, ⟨rest, k''⟩) := by
  rcases hjoin with ⟨rfl, rfl⟩ | ⟨rfl, rfl⟩
  · have hconjunction : conjunction (expression limit) limit
        ⟨ls ++ .keyword .AND :: (rs ++ rest), k⟩ = .ok (.and left right, ⟨rest, k''⟩) := by
      rw [conjunction, bind_of_read hl, chain_of_word hr hand hlimit]
    rw [expression, disjunction, bind_of_read hconjunction, chain_end hor]
  · have hleft := conjunction_of_negation hl (by simp)
    have hright := conjunction_of_negation hr hand
    rw [expression, disjunction, bind_of_read hleft, chain_of_word hright hor hlimit]

end Levels

/-! ## Statements -/

/-- A sort key is a single value with a direction behind it. -/
theorem orderItem_of_primary {input : Input} {e : Expr} {direction : Direction} {rest : List Token}
    {k : Nat} (h : primary input = .ok (e, ⟨.keyword (directionWord direction) :: rest, k⟩)) :
    orderItem input = .ok (⟨e, direction⟩, ⟨rest, k⟩) := by
  rw [orderItem, bind_of_read h]
  cases direction with
  | asc =>
    rw [directionWord, bind_of_read (acceptWord_hit .ASC)]
    rfl
  | desc =>
    rw [directionWord, bind_of_read (acceptWord_miss (by simp))]
    simp only [if_false, Bool.false_eq_true]
    rw [bind_of_read (acceptWord_hit .DESC)]
    rfl

section Statements

variable {limit k : Nat} {rest : List Token}

theorem statement_select :
    statement limit ⟨.keyword .SELECT :: rest, k⟩ = select limit ⟨rest, k⟩ := rfl

theorem statement_insert :
    statement limit ⟨.keyword .INSERT :: rest, k⟩ = insert limit ⟨rest, k⟩ := rfl

theorem statement_update :
    statement limit ⟨.keyword .UPDATE :: rest, k⟩ = update limit ⟨rest, k⟩ := rfl

theorem statement_delete :
    statement limit ⟨.keyword .DELETE :: rest, k⟩ = delete limit ⟨rest, k⟩ := rfl

theorem statement_create :
    statement limit ⟨.keyword .CREATE :: rest, k⟩ = createTable limit ⟨rest, k⟩ := rfl

end Statements

/-! ## Whole texts -/

/-- Where all items satisfy a predicate, nothing is left behind them. -/
theorem span_of_all {p : α → Bool} {xs : List α} (h : ∀ x ∈ xs, p x = true) :
    xs.span p = (xs, []) := by
  have hloop (acc : List α) : List.span.loop p xs acc = (acc.reverse ++ xs, []) := by
    induction xs generalizing acc with
    | nil => rw [List.span.loop, List.append_nil]
    | cons x xs ih =>
      rw [List.span.loop, h x List.mem_cons_self]
      simp only
      rw [ih fun y hy => h y (List.mem_cons_of_mem _ hy), List.reverse_cons, List.append_assoc]
      rfl
  exact hloop []

/-- The text of a number has no point. -/
theorem span_toString (n : Nat) :
    (toString n).toList.span (· != '.') = (Nat.toDigits 10 n, []) := by
  have htext : (toString n).toList = Nat.toDigits 10 n := by
    rw [Nat.toString_eq_ofList_toDigits]
    exact String.toList_ofList
  have hdigit : ∀ c ∈ Nat.toDigits 10 n, (c != '.') = true := by
    intro c hc
    have hdigit := Nat.isDigit_of_mem_toDigits (by decide) (by decide) hc
    simp only [bne_iff_ne, ne_eq]
    rintro rfl
    exact absurd hdigit (by decide)
  rw [htext, span_of_all hdigit]

theorem digitsValue_toDigits (n : Nat) : digitsValue (Nat.toDigits 10 n) = n :=
  Nat.ofDigitChars_ten_toDigits

/-- A row count is read back from its digits. -/
theorem countValue_toString {n : Nat} (h : n < UInt64.size) : countValue (toString n) = .ok n := by
  rw [countValue, span_toString]
  simp only [digitsValue_toDigits, if_neg (Nat.not_le_of_lt h)]
  rfl

/-- A limit as tokens. -/
def limitTokens (top : Option Nat) : List Token :=
  match top with
  | none => []
  | some n => [.keyword .LIMIT, .number (toString n)]

theorem rowLimit_reads {top : Option Nat} (h : ∀ n ∈ top, n < UInt64.size) {rest : List Token}
    (hrest : rest.head? ≠ some (.keyword .LIMIT)) (k : Nat) :
    rowLimit ⟨limitTokens top ++ rest, k⟩ = .ok (top, ⟨rest, k⟩) := by
  cases top with
  | none =>
    rw [rowLimit, limitTokens, List.nil_append, bind_of_read (acceptWord_miss hrest)]
    rfl
  | some n =>
    rw [rowLimit, limitTokens, List.cons_append, bind_of_read (acceptWord_hit .LIMIT)]
    simp only [if_true]
    rw [List.cons_append, bind_of_read (number_hit _), countValue_toString (h n rfl)]
    rfl

/-- Behind a statement, a text ends, perhaps with a semicolon. -/
theorem whole_of_statement {limit : Nat} {input : Input} {s : Statement} {rest : List Token}
    {count : Nat} (h : statement limit input = .ok (s, ⟨rest, count⟩))
    (hrest : rest = [] ∨ rest = [.symbol .semicolon]) :
    whole limit input = .ok (s, ⟨[], count⟩) := by
  have hsemicolon : ∃ found, acceptSign .semicolon ⟨rest, count⟩ = .ok (found, ⟨[], count⟩) := by
    rcases hrest with rfl | rfl
    · exact ⟨false, acceptSign_miss (by simp)⟩
    · exact ⟨true, acceptSign_hit .semicolon⟩
  obtain ⟨found, hfound⟩ := hsemicolon
  rw [whole, bind_of_read h, bind_of_read hfound, bind_of_read peek_apply]
  rfl

/-- A text is parsed if its tokens are read as one statement. -/
theorem parse_of_whole {sql : String} {tokens rest : List Token} {s : Statement} {count : Nat}
    (htokens : tokenize sql = tokens)
    (h : whole tokens.length ⟨tokens, 0⟩ = .ok (s, ⟨rest, count⟩)) :
    parse sql = .ok ⟨s, count⟩ := by
  have hrun : (whole tokens.length).run ⟨tokens, 0⟩ = .ok (s, ⟨rest, count⟩) := h
  simp only [parse, htokens, hrun]

theorem parse_of_statement {sql : String} {tokens : List Token} {s : Statement} {count : Nat}
    (htokens : tokenize sql = tokens)
    (h : statement tokens.length ⟨tokens, 0⟩ = .ok (s, ⟨[], count⟩)) :
    parse sql = .ok ⟨s, count⟩ :=
  parse_of_whole htokens (whole_of_statement h (.inl rfl))

end EntityQuery.Sql.Reader
