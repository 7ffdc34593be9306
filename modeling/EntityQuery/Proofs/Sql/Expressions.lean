import EntityQuery.Proofs.Sql.Printing

/-!
# Printed expressions are read back

`Yields` says that a reader takes some tokens and gives a value, wherever the parameters of the value are
numbered one behind the other and what follows the tokens does not go on with them. The looser a level of
the grammar binds, the less it allows behind an expression. A level that joins expressions by a word reads
them as a chain: `Collects` says which expression the chain has joined behind some tokens.

* `Expr.Reads` says by what an expression is read: by the reader of its own level and of every looser one.
* `Expr.reads`: every printable expression is read like this.
-/

namespace EntityQuery.Sql

namespace Reader

variable {α β : Type}

/-! ## Readers that yield values -/

/-- Parameters that are numbered one by one behind the first `k`. -/
def NumberedFrom (k : Nat) (ns : List Nat) : Prop := ns = List.range' (k + 1) ns.length

theorem numberedFrom_append {k : Nat} {ns ms : List Nat} :
    NumberedFrom k (ns ++ ms) ↔ NumberedFrom k ns ∧ NumberedFrom (k + ns.length) ms := by
  have hrange : List.range' (k + 1) (ns ++ ms).length =
      List.range' (k + 1) ns.length ++ List.range' (k + ns.length + 1) ms.length := by
    rw [List.length_append, Nat.add_right_comm k, List.range'_append_1]
  rw [NumberedFrom, hrange]
  constructor
  · intro h
    exact List.append_inj h (by rw [List.length_range'])
  · intro ⟨hns, hms⟩
    rw [← hns, ← hms]

/-- The reader takes the tokens and gives `a`, whose parameters have the numbers `ns`, in front of
everything that `ends` allows. -/
def Yields (x : Reader α) (tokens : List Token) (a : α) (ns : List Nat)
    (ends : Option Token → Prop) : Prop :=
  ∀ k rest, NumberedFrom k ns → ends rest.head? →
    x ⟨tokens ++ rest, k⟩ = .ok (a, ⟨rest, k + ns.length⟩)

/-- A token may be followed by anything. -/
def Anywhere : Option Token → Prop := fun _ => True

section Yields

variable {x : Reader α} {f : α → Reader β} {a : α} {b : β} {ts us : List Token} {ns ms : List Nat}
  {ends ends' : Option Token → Prop}

theorem Yields.weaken (h : Yields x ts a ns ends) (hends : ∀ found, ends' found → ends found) :
    Yields x ts a ns ends' := fun k rest hk hrest => h k rest hk (hends _ hrest)

theorem yields_pure (a : α) : Yields (pure a) [] a [] ends := fun _ _ _ _ => rfl

/-- One reading behind another. -/
theorem Yields.bind (hx : Yields x ts a ns ends) (hf : Yields (f a) us b ms ends')
    (hends : ∀ rest : List Token, ends' rest.head? → ends (us ++ rest).head?) :
    Yields (x >>= f) (ts ++ us) b (ns ++ ms) ends' := by
  intro k rest hk hrest
  obtain ⟨hns, hms⟩ := numberedFrom_append.1 hk
  rw [List.append_assoc, bind_of_read (hx k _ hns (hends rest hrest)), hf _ rest hms hrest,
    List.length_append, Nat.add_assoc]

/-- A value that is made of what has been read. -/
theorem Yields.map (hx : Yields x ts a ns ends) (g : α → β) :
    Yields (x >>= fun a => pure (g a)) ts (g a) ns ends := by
  intro k rest hk hrest
  rw [bind_of_read (hx k rest hk hrest), pure_apply]

theorem yields_accept (t : Token) : Yields (accept t) [t] true [] Anywhere :=
  fun _ _ _ _ => accept_hit t

theorem yields_accept_miss (t : Token) : Yields (accept t) [] false [] (· ≠ some t) :=
  fun _ _ _ hrest => accept_miss hrest

theorem yields_expect (t : Token) : Yields (expect t) [t] () [] Anywhere :=
  fun _ _ _ _ => expect_hit t

theorem yields_name (n : String) : Yields name [.identifier n] n [] Anywhere := fun _ _ _ _ => rfl

/-- A reader that drops a token and goes on as another one. -/
theorem Yields.of_token {y : Reader α} {t : Token} (hx : Yields x ts a ns ends)
    (hy : ∀ rest k, y ⟨t :: rest, k⟩ = x ⟨rest, k⟩) : Yields y (t :: ts) a ns ends :=
  fun k rest hk hrest => (hy _ k).trans (hx k rest hk hrest)

/-- A token behind a reading. -/
theorem Yields.bind_token (hx : Yields x ts a ns ends) {t : Token}
    (hf : Yields (f a) (t :: us) b ms ends') (ht : ends (some t)) :
    Yields (x >>= f) (ts ++ t :: us) b (ns ++ ms) ends' := hx.bind hf fun _ _ => ht

/-- A reading between parentheses, or before some other token. -/
theorem Yields.bind_expect (hx : Yields x ts a ns ends) {t : Token} (ht : ends (some t))
    (g : α → β) :
    Yields (do let a ← x; expect t; return g a) (ts ++ [t]) (g a) ns Anywhere := by
  have hread := hx.bind_token (f := fun a => do expect t; return g a) ((yields_expect t).map _) ht
  rwa [List.append_nil] at hread

end Yields

/-! ## Lists -/

/-- What no comma may follow, and otherwise allows the same. -/
def NoComma (ends : Option Token → Prop) (found : Option Token) : Prop :=
  ends found ∧ found ≠ some (.symbol .comma)

/-- A list is read item by item. -/
theorem yields_commaList {item : Reader α} {tokens : α → List Token} {numbers : α → List Nat}
    {ends : Option Token → Prop} {xs : List α} {limit : Nat} (hne : xs ≠ [])
    (hlimit : (commaTokens (xs.map tokens)).length ≤ limit) (hcomma : ends (some (.symbol .comma)))
    (hitem : ∀ x ∈ xs, Yields item (tokens x) x (numbers x) ends) :
    Yields (commaList item limit) (commaTokens (xs.map tokens)) xs (xs.flatMap numbers)
      (NoComma ends) := by
  have hlength := length_le_of_commaTokens hlimit
  clear hlimit
  -- each item takes one from the limit
  induction xs generalizing limit with
  | nil => exact absurd rfl hne
  | cons x xs ih =>
    have hx := hitem x List.mem_cons_self
    cases xs with
    | nil =>
      rw [List.map_singleton, commaTokens_singleton, List.flatMap_singleton]
      exact fun k rest hk hrest => commaList_singleton (hx k rest hk hrest.1) hrest.2 limit
    | cons y ys =>
      obtain ⟨m, rfl⟩ : ∃ m, limit = m + 1 :=
        ⟨limit - 1, by simp only [List.length_cons] at hlength; omega⟩
      have hys := ih (List.cons_ne_nil y ys)
        (fun z hz => hitem z (List.mem_cons_of_mem _ hz)) (Nat.le_of_succ_le_succ hlength)
      rw [List.map_cons, List.map_cons, commaTokens_cons, List.flatMap_cons, commaList]
      exact hx.bind_token ((yields_accept _).bind (hys.map (x :: ·)) fun _ _ => trivial) hcomma

/-! ## Chains -/

section Chains

variable {word : Keyword} {join : Expr → Expr → Expr} {operand : Reader Expr} {limit : Nat}
  {ts us : List Token} {e left right : Expr} {ends : Option Token → Prop}

/-- Operands joined by a word, of which there are at most `limit` behind the first. -/
def chained (word : Keyword) (join : Expr → Expr → Expr) (operand : Reader Expr) (limit : Nat) :
    Reader Expr := operand >>= chain word join operand limit

/-- Behind the tokens, the chain has joined `e`, and its limit has lost no more than there were tokens. -/
def Collects (word : Keyword) (join : Expr → Expr → Expr) (operand : Reader Expr) (limit : Nat)
    (tokens : List Token) (e : Expr) (ends : Option Token → Prop) : Prop :=
  ∀ k rest, NumberedFrom k e.parameters → ends rest.head? →
    ∃ more, limit ≤ more + tokens.length ∧
      chained word join operand limit ⟨tokens ++ rest, k⟩ =
        chain word join operand more e ⟨rest, k + e.parameters.length⟩

/-- The first operand. -/
theorem Yields.collects (h : Yields operand ts e e.parameters ends) :
    Collects word join operand limit ts e ends := by
  intro k rest hk hrest
  exact ⟨limit, Nat.le_add_right _ _, by rw [chained, bind_of_read (h k rest hk hrest)]⟩

/-- One more operand. -/
theorem Collects.step (hleft : Collects word join operand limit ts left ends)
    (hright : Yields operand us right right.parameters ends) (hword : ends (some (.keyword word)))
    (hjoin : (join left right).parameters = left.parameters ++ right.parameters)
    (hlimit : ts.length < limit) :
    Collects word join operand limit (ts ++ .keyword word :: us) (join left right) ends := by
  intro k rest hk hrest
  rw [hjoin] at hk ⊢
  obtain ⟨hkl, hkr⟩ := numberedFrom_append.1 hk
  obtain ⟨more, hmore, hread⟩ := hleft k (.keyword word :: (us ++ rest)) hkl hword
  obtain ⟨n, rfl⟩ : ∃ n, more = n + 1 := ⟨more - 1, by omega⟩
  refine ⟨n, by simp only [List.length_append, List.length_cons]; omega, ?_⟩
  rw [List.append_assoc, List.cons_append, hread, chain, bind_of_read (acceptWord_hit word)]
  simp only [if_true]
  rw [bind_of_read (hright _ rest hkr hrest), List.length_append, Nat.add_assoc]

/-- The chain ends in front of what is not its word. -/
theorem Collects.yields (h : Collects word join operand limit ts e ends) :
    Yields (chained word join operand limit) ts e e.parameters
      (fun found => ends found ∧ found ≠ some (.keyword word)) := by
  intro k rest hk hrest
  obtain ⟨more, -, hread⟩ := h k rest hk hrest.1
  rw [hread, chain_end hrest.2]

end Chains

theorem conjunction_eq (inner : Reader Expr) (limit : Nat) :
    conjunction inner limit = chained .AND .and (negation inner limit limit) limit := rfl

theorem expression_eq (limit : Nat) :
    expression (limit + 1) = chained .OR .or (conjunction (expression limit) limit) limit := rfl

/-! ## What may follow an expression -/

/-- A single value goes on with nothing but a dot. -/
def EndsOperand (found : Option Token) : Prop := found ≠ some (.symbol .dot)

/-- A test may go on with another test behind its operand, or with an escape character. -/
def EndsTest (found : Option Token) : Prop :=
  EndsPredicate found ∧ EndsOperand found ∧ found ≠ some (.keyword .ESCAPE)

/-- A conjunction goes on with `AND`. -/
def EndsConjunction (found : Option Token) : Prop := EndsTest found ∧ found ≠ some (.keyword .AND)

/-- An expression goes on with `OR`. -/
def EndsExpression (found : Option Token) : Prop :=
  EndsConjunction found ∧ found ≠ some (.keyword .OR)

instance : DecidablePred EndsOperand := fun _ => inferInstanceAs (Decidable (¬ _))

instance : DecidablePred EndsTest := fun _ => inferInstanceAs (Decidable (_ ∧ _))

instance : DecidablePred EndsConjunction := fun _ => inferInstanceAs (Decidable (_ ∧ _))

instance : DecidablePred EndsExpression := fun _ => inferInstanceAs (Decidable (_ ∧ _))

/-! ## Readers of the levels -/

section Levels

variable {inner : Reader Expr} {limit nots : Nat} {ts : List Token} {e : Expr} {ns : List Nat}
  {ends : Option Token → Prop}

/-- What is read as a single value is read as an operand. -/
theorem operand_of_primary {input : Input} {r : Expr × Input} (h : primary input = .ok r) :
    operand inner input = .ok r := by
  rcases input with ⟨tokens, k⟩
  rwa [operand_primary]
  -- no single value starts with a parenthesis
  intro hparen
  rw [primary, bind_of_read peek_apply, hparen] at h
  cases h

theorem Yields.operand (h : Yields primary ts e ns ends) : Yields (operand inner) ts e ns ends :=
  fun k rest hk hrest => operand_of_primary (h k rest hk hrest)

/-- An expression between parentheses is an operand. -/
theorem Yields.parens (h : Yields inner ts e ns EndsExpression) :
    Yields (Reader.operand inner) (.symbol .leftParen :: (ts ++ [.symbol .rightParen])) e ns
      Anywhere := by
  intro k rest hk _
  have hclosed : EndsExpression (some (.symbol .rightParen)) := by decide
  rw [List.cons_append, List.append_assoc]
  exact operand_parens (h k _ hk hclosed)

/-- What is read as an operand with its test is read as a negation. -/
theorem negation_of_predicate {input : Input} {r : Expr × Input}
    (h : predicate inner limit input = .ok r) : negation inner limit nots input = .ok r := by
  rcases input with ⟨tokens, k⟩
  rwa [negation_predicate]
  -- no operand starts with `NOT`
  intro hnot
  have hparen : tokens.head? ≠ some (.symbol .leftParen) := by
    rw [hnot]
    decide
  have hfails : Reader.operand inner ⟨tokens, k⟩ = .error (.noValue tokens.head?) := by
    rw [operand_primary hparen, primary, bind_of_read peek_apply, hnot]
    rfl
  rw [predicate, bind_of_fail hfails] at h
  cases h

theorem Yields.negation (h : Yields (predicate inner limit) ts e ns ends) :
    Yields (negation inner limit nots) ts e ns ends :=
  fun k rest hk hrest => negation_of_predicate (h k rest hk hrest)

/-- An operand without a test. -/
theorem Yields.predicate (h : Yields (Reader.operand inner) ts e ns EndsOperand) :
    Yields (Reader.predicate inner limit) ts e ns EndsTest := by
  intro k rest hk hrest
  rw [predicate_of_operand (h k rest hk hrest.2.1), afterOperand_end hrest.1]

end Levels

end Reader

open Reader

/-! ## Single values -/

theorem numeralValue_toString (negative : Bool) (n : Nat) :
    numeralValue negative (toString n) = wholeValue negative n := by
  rw [numeralValue, span_toString]
  simp only [digitsValue_toDigits]

/-- A whole number is its sign and its size. -/
theorem signed_natAbs (i : Int) : (if decide (i < 0) then -(i.natAbs : Int) else i.natAbs) = i := by
  by_cases hi : i < 0
  · rw [if_pos (decide_eq_true hi), Int.ofNat_natAbs_of_nonpos (Int.le_of_lt hi), Int.neg_neg]
  · rw [if_neg (by simpa using hi), Int.natAbs_of_nonneg (Int.not_lt.1 hi)]

theorem wholeValue_integer (v : Int32) :
    wholeValue (decide (v.toInt < 0)) v.toInt.natAbs = .integer v := by
  rw [wholeValue]
  simp only [signed_natAbs, narrow?_toInt]

theorem wholeValue_long {v : Int64} (h : narrow? v.toInt = none) :
    wholeValue (decide (v.toInt < 0)) v.toInt.natAbs = .long v := by
  have hrange : -9223372036854775808 ≤ v.toInt ∧ v.toInt ≤ 9223372036854775807 :=
    ⟨v.le_toInt, Int.le_of_lt_add_one v.toInt_lt⟩
  rw [wholeValue]
  simp only [signed_natAbs, h, if_pos hrange, Int64.ofInt_toInt]

/-- The tokens of a whole number are read as its value. -/
theorem primary_integer (i : Int) (rest : List Token) (k : Nat) :
    primary ⟨integerTokens i ++ rest, k⟩ =
      .ok (.literal (wholeValue (decide (i < 0)) i.natAbs), ⟨rest, k⟩) := by
  rw [integerTokens, ← numeralValue_toString]
  by_cases hi : i < 0
  · rw [if_pos hi, decide_eq_true hi]
    rfl
  · rw [if_neg hi, decide_eq_false hi]
    rfl

/-- A literal is read back. -/
theorem primary_literal {v : Value} (hv : v.Printable) (rest : List Token) (k : Nat) :
    primary ⟨literalTokens v ++ rest, k⟩ = .ok (.literal v, ⟨rest, k⟩) := by
  cases v with
  | null | string s => rfl
  | boolean b => cases b <;> rfl
  | integer i => rw [literalTokens, primary_integer, wholeValue_integer]
  | long i => rw [literalTokens, primary_integer, wholeValue_long hv]
  | double d | date d | blob b => exact hv.elim

/-! ## Expressions of every level -/

namespace Expr

/-- By what an expression is read, with enough of a limit: by the reader of its own level and of every
looser one. -/
structure Reads (e : Expr) : Prop where
  disjunction : ∀ limit, e.tokens.length ≤ limit →
    Collects .OR .or (conjunction (expression limit) limit) limit e.tokens e EndsConjunction
  conjunction : 1 ≤ e.level → ∀ limit, e.tokens.length ≤ limit →
    Collects .AND .and (negation (expression limit) limit limit) limit e.tokens e EndsTest
  negation : 2 ≤ e.level → ∀ limit nots, e.tokens.length ≤ limit → e.tokens.length ≤ nots →
    Yields (negation (expression limit) limit nots) e.tokens e e.parameters EndsTest
  primary : 4 ≤ e.level → Yields primary e.tokens e e.parameters EndsOperand

namespace Reads

variable {e left right : Expr} {limit nots : Nat}

/-! ### From one level to the looser ones -/

theorem of_conjunction
    (hconjunction : ∀ limit, e.tokens.length ≤ limit →
      Collects .AND .and (Reader.negation (expression limit) limit limit) limit e.tokens e EndsTest)
    (hnegation : 2 ≤ e.level → ∀ limit nots, e.tokens.length ≤ limit → e.tokens.length ≤ nots →
      Yields (Reader.negation (expression limit) limit nots) e.tokens e e.parameters EndsTest)
    (hprimary : 4 ≤ e.level → Yields Reader.primary e.tokens e e.parameters EndsOperand) :
    e.Reads where
  disjunction limit hlimit := (hconjunction limit hlimit).yields.collects
  conjunction _ := hconjunction
  negation := hnegation
  primary := hprimary

theorem of_negation
    (hnegation : ∀ limit nots, e.tokens.length ≤ limit → e.tokens.length ≤ nots →
      Yields (Reader.negation (expression limit) limit nots) e.tokens e e.parameters EndsTest)
    (hprimary : 4 ≤ e.level → Yields Reader.primary e.tokens e e.parameters EndsOperand) :
    e.Reads :=
  of_conjunction (fun limit hlimit => (hnegation limit limit hlimit hlimit).collects)
    (fun _ => hnegation) hprimary

theorem of_predicate (hlevel : e.level < 4)
    (hpredicate : ∀ limit, e.tokens.length ≤ limit →
      Yields (predicate (expression limit) limit) e.tokens e e.parameters EndsTest) : e.Reads :=
  of_negation (fun limit _ hlimit _ => (hpredicate limit hlimit).negation)
    fun h => absurd hlevel (Nat.not_lt.2 h)

theorem of_primary (hprimary : Yields Reader.primary e.tokens e e.parameters EndsOperand) : e.Reads :=
  of_negation (fun _ _ _ _ => hprimary.operand.predicate.negation) fun _ => hprimary

/-! ### Expressions in their places -/

theorem expression (h : e.Reads) (hlimit : e.tokens.length ≤ limit) :
    Yields (Reader.expression (limit + 1)) e.tokens e e.parameters EndsExpression := by
  rw [expression_eq]
  exact (h.disjunction limit hlimit).yields

/-- Between parentheses, every expression is an operand. -/
theorem parens (h : e.Reads)
    (hlimit : (Token.symbol .leftParen :: (e.tokens ++ [.symbol .rightParen])).length ≤ limit) :
    Yields (Reader.operand (Reader.expression limit))
      (.symbol .leftParen :: (e.tokens ++ [.symbol .rightParen])) e e.parameters EndsOperand := by
  rw [List.length_cons, List.length_append, List.length_singleton] at hlimit
  obtain ⟨m, rfl⟩ : ∃ m, limit = m + 1 := ⟨limit - 1, by omega⟩
  exact (h.expression (by omega)).parens.weaken fun _ _ => trivial

theorem operand (h : e.Reads) (hlimit : e.operandTokens.length ≤ limit) :
    Yields (Reader.operand (Reader.expression limit)) e.operandTokens e e.parameters EndsOperand := by
  rw [operandTokens] at hlimit ⊢
  rcases Nat.lt_or_ge e.level 4 with hlevel | hlevel
  · rw [enclosed_of_lt hlevel] at hlimit ⊢
    exact h.parens hlimit
  · rw [enclosed_of_le hlevel]
    exact (h.primary hlevel).operand

/-- Where at least a negation may stand. -/
theorem factor (h : e.Reads) (hlimit : (e.enclosed 2 e.tokens).length ≤ limit)
    (hnots : (e.enclosed 2 e.tokens).length ≤ nots) :
    Yields (Reader.negation (Reader.expression limit) limit nots) (e.enclosed 2 e.tokens) e
      e.parameters EndsTest := by
  rcases Nat.lt_or_ge e.level 2 with hlevel | hlevel
  · rw [enclosed_of_lt hlevel] at hlimit ⊢
    exact (h.parens hlimit).predicate.negation
  · rw [enclosed_of_le hlevel] at hlimit hnots ⊢
    exact h.negation hlevel limit nots hlimit hnots

/-- Where at least a conjunction may stand. -/
theorem factors (h : e.Reads) (hlimit : (e.enclosed 1 e.tokens).length ≤ limit) :
    Collects .AND .and (Reader.negation (Reader.expression limit) limit limit) limit
      (e.enclosed 1 e.tokens) e EndsTest := by
  rcases Nat.lt_or_ge e.level 1 with hlevel | hlevel
  · rw [enclosed_of_lt hlevel] at hlimit ⊢
    exact (h.parens hlimit).predicate.negation.collects
  · rw [enclosed_of_le hlevel] at hlimit ⊢
    exact h.conjunction hlevel limit hlimit

theorem term (h : e.Reads) (hlimit : (e.enclosed 1 e.tokens).length ≤ limit) :
    Yields (Reader.conjunction (Reader.expression limit) limit) (e.enclosed 1 e.tokens) e e.parameters
      EndsConjunction := by
  rw [conjunction_eq]
  exact (h.factors hlimit).yields

/-! ### One case for each form -/

theorem or (hleft : left.Reads) (hright : right.Reads) : (Expr.or left right).Reads where
  disjunction limit hlimit := by
    rw [tokens, enclosed_of_le (Nat.zero_le _)] at hlimit ⊢
    simp only [List.length_append, List.length_cons] at hlimit
    have hword : EndsConjunction (some (.keyword .OR)) := by decide
    have hterm := hright.term (show (right.enclosed 1 right.tokens).length ≤ limit by omega)
    exact (hleft.disjunction limit (by omega)).step hterm hword (parameters.eq_def _) (by omega)
  conjunction h := absurd h (by simp [level])
  negation h := absurd h (by simp [level])
  primary h := absurd h (by simp [level])

theorem and (hleft : left.Reads) (hright : right.Reads) : (Expr.and left right).Reads := by
  refine of_conjunction (fun limit hlimit => ?_) (fun h => absurd h (by simp [level]))
    fun h => absurd h (by simp [level])
  rw [tokens] at hlimit ⊢
  simp only [List.length_append, List.length_cons] at hlimit
  have hword : EndsTest (some (.keyword .AND)) := by decide
  have hfactor := hright.factor (show (right.enclosed 2 right.tokens).length ≤ limit by omega)
    (show (right.enclosed 2 right.tokens).length ≤ limit by omega)
  exact (hleft.factors (by omega)).step hfactor hword (parameters.eq_def _) (by omega)

theorem not (he : e.Reads) : (Expr.not e).Reads := by
  refine of_negation (fun limit nots hlimit hnots => ?_) fun h => absurd h (by simp [level])
  rw [tokens, List.length_cons] at hlimit hnots
  obtain ⟨n, rfl⟩ : ∃ n, nots = n + 1 := ⟨nots - 1, by omega⟩
  have hlength : (e.enclosed 2 e.tokens).length ≤ limit := by omega
  have hfactor := he.factor hlength (show (e.enclosed 2 e.tokens).length ≤ n by omega)
  rw [tokens, parameters, Reader.negation]
  exact (yields_accept _).bind (hfactor.map Expr.not) fun _ _ => trivial

theorem compare (op : Comparison) (hleft : left.Reads) (hright : right.Reads) :
    (Expr.compare op left right).Reads := by
  refine of_predicate (by simp [level]) fun limit hlimit => ?_
  rw [tokens, ← operandTokens, ← operandTokens] at hlimit ⊢
  simp only [List.length_append, List.length_cons] at hlimit
  have hr := hright.operand (show right.operandTokens.length ≤ limit by omega)
  have htest : Yields (afterOperand (Reader.expression limit) limit left)
      (.symbol (signOf op) :: right.operandTokens) (.compare op left right) right.parameters
      EndsOperand := fun k rest hk hrest => afterOperand_comparison (hr k rest hk hrest)
  have hsign : EndsOperand (some (.symbol (signOf op))) := by cases op <;> decide
  rw [parameters]
  exact ((hleft.operand (by omega)).bind_token htest hsign).weaken fun _ h => h.2.1

/-- A test behind an operand may be negated. -/
theorem endsOperand_notTokens (negated : Bool) (w : Keyword) (rest : List Token) :
    EndsOperand (notTokens negated ++ .keyword w :: rest).head? := by
  cases negated <;> simp [notTokens, EndsOperand]

theorem isNull (negated : Bool) (he : e.Reads) : (Expr.isNull negated e).Reads := by
  refine of_predicate (by simp [level]) fun limit hlimit => ?_
  rw [tokens, ← operandTokens] at hlimit ⊢
  simp only [List.length_append, List.length_cons] at hlimit
  have htest : Yields (afterOperand (Reader.expression limit) limit e)
      (.keyword .IS :: (notTokens negated ++ [.keyword .NULL])) (.isNull negated e) [] Anywhere := by
    intro k rest _ _
    rw [List.cons_append, List.append_assoc]
    exact afterOperand_isNull negated
  have hlength : e.operandTokens.length ≤ limit := by omega
  have hread := (he.operand hlength).bind_token htest (by decide)
  rw [List.append_nil] at hread
  rw [parameters]
  exact hread.weaken fun _ _ => trivial

theorem like (negated : Bool) (escape : Option Char) (he : e.Reads) (hpattern : right.Reads) :
    (Expr.like negated e right escape).Reads := by
  refine of_predicate (by simp [level]) fun limit hlimit => ?_
  rw [tokens, ← operandTokens, ← operandTokens] at hlimit ⊢
  simp only [List.length_append, List.length_cons] at hlimit
  have hp := hpattern.operand (show right.operandTokens.length ≤ limit by omega)
  have htest : Yields (afterOperand (Reader.expression limit) limit e)
      (notTokens negated ++ .keyword .LIKE :: (right.operandTokens ++ escapeTokens escape))
      (.like negated e right escape) right.parameters EndsTest := by
    intro k rest hk hrest
    rw [List.append_assoc, List.cons_append, List.append_assoc]
    cases escape with
    | none => exact afterOperand_like_plain negated (hp k rest hk hrest.2.1) hrest.2.2
    | some c =>
      have hword : EndsOperand (some (.keyword .ESCAPE)) := by decide
      exact afterOperand_like negated (String.toList_singleton c) (hp k _ hk hword)
  rw [parameters]
  exact (he.operand (by omega)).bind htest fun rest _ => by
    rw [List.append_assoc]
    exact endsOperand_notTokens negated _ _

theorem inList (negated : Bool) {items : List Expr} (he : e.Reads) (hne : items ≠ [])
    (hitems : ∀ item ∈ items, item.Reads) : (Expr.inList negated e items).Reads := by
  refine of_predicate (by simp [level]) fun limit hlimit => ?_
  rw [tokens, ← operandTokens, operandsTokens_eq] at hlimit ⊢
  simp only [List.length_append, List.length_cons] at hlimit
  have hlength : (commaTokens (items.map operandTokens)).length ≤ limit := by omega
  have hlist := yields_commaList hne hlength (by decide) fun item hitem =>
    (hitems item hitem).operand
      ((length_le_of_mem_commaTokens (List.mem_map_of_mem hitem)).trans hlength)
  have htest : Yields (afterOperand (Reader.expression limit) limit e)
      (notTokens negated ++ .keyword .IN :: .symbol .leftParen ::
        (commaTokens (items.map operandTokens) ++ [.symbol .rightParen]))
      (.inList negated e items) (items.flatMap parameters) Anywhere := by
    intro k rest hk _
    have hclosed : NoComma EndsOperand (some (.symbol .rightParen)) := ⟨by decide, by decide⟩
    rw [List.append_assoc, List.cons_append, List.cons_append, List.append_assoc]
    exact afterOperand_inList negated (hlist k _ hk hclosed)
  rw [parameters, listParameters_eq]
  refine ((he.operand (by omega)).bind htest fun rest _ => ?_).weaken fun _ _ => trivial
  rw [List.append_assoc]
  exact endsOperand_notTokens negated _ _

end Reads

mutual

/-- Every printable expression is read back. -/
theorem reads : ∀ e : Expr, e.Printable → e.Reads
  | .literal v, h => by
    refine .of_primary fun k rest _ _ => ?_
    rw [tokens, parameters]
    exact primary_literal h rest k
  | .parameter n, _ => by
    refine .of_primary fun k rest hk _ => ?_
    have hn : n = k + 1 := by simpa [parameters, NumberedFrom] using hk
    rw [tokens, parameters, hn]
    exact primary_placeholder
  | .column name, _ => by
    refine .of_primary fun k rest _ hrest => ?_
    rw [tokens, parameters]
    exact primary_column hrest
  | .qualified table name, _ => by
    refine .of_primary fun k rest _ _ => ?_
    rw [tokens, parameters]
    exact primary_qualified table name
  | .compare op left right, h => .compare op (left.reads h.1) (right.reads h.2)
  | .and left right, h => .and (left.reads h.1) (right.reads h.2)
  | .or left right, h => .or (left.reads h.1) (right.reads h.2)
  | .not e, h => .not (e.reads h)
  | .inList negated e items, h => .inList negated (e.reads h.1) h.2.1 (allReads items h.2.2)
  | .like negated e pattern escape, h => .like negated escape (e.reads h.1) (pattern.reads h.2)
  | .isNull negated e, h => .isNull negated (e.reads h)

theorem allReads : ∀ es : List Expr, AllPrintable es → ∀ e ∈ es, e.Reads
  | [], _ => nofun
  | e :: es, h => List.forall_mem_cons.2 ⟨e.reads h.1, allReads es h.2⟩

end

end Expr

end EntityQuery.Sql
