import EntityQuery.Proofs.Sql.Marks
import EntityQuery.Proofs.Sql.Parameters
import EntityQuery.Proofs.Sql.Reading
import EntityQuery.Proofs.Stateful

/-!
# How parameters are numbered

A reader counts the `?` signs that it meets, and a parameter gets the count for its number. So the
parameters of a statement are numbered in the order of the text, as long as every reader puts what it
reads first in front of what it reads later, and drops no sign uncounted.

* `NumbersFrom` says this of one reader: it takes tokens from the front, and what it makes of them
  carries the numbers of the `?` signs among them. Readers in a row keep it (`NumbersFrom.bind`).
* There is one lemma for each reader, up to whole texts (`numbers_whole`).
* `parameters_are_numbered`: so the parameters of a statement are numbered from 1 without a gap, one for
  each `?` sign of the text that stands by itself.
-/

namespace EntityQuery.Sql.Reader

/-- The number of `?` signs among tokens. -/
def marks (ts : List Token) : Nat := ts.count (.symbol .placeholder)

theorem marks_append (ts us : List Token) : marks (ts ++ us) = marks ts + marks us :=
  List.count_append

theorem marks_singleton {t : Token} (h : t ≠ .symbol .placeholder) : marks [t] = 0 :=
  List.count_singleton.trans (if_neg (by simpa using h))

variable {α β : Type}

/-- Where the tokens satisfy `P`, a reader that succeeds takes some of them from the front. It counts
the `?` signs among these, and its value carries their numbers, behind those that are `known` from what
was read before. -/
def NumbersFrom (P : List Token → Prop) (known : List Nat) (numbers : α → List Nat) (x : Reader α) :
    Prop :=
  ∀ ts k a ts' k', P ts → x ⟨ts, k⟩ = .ok (a, ⟨ts', k'⟩) →
    ∃ taken, ts = taken ++ ts' ∧ k' = k + marks taken ∧
      numbers a = known ++ List.range' (k + 1) (marks taken)

/-- A reader that numbers the `?` signs it takes, wherever it starts. -/
abbrev Numbers (known : List Nat) (numbers : α → List Nat) (x : Reader α) : Prop :=
  NumbersFrom (fun _ => True) known numbers x

/-- A reader that takes no `?` sign. -/
abbrev Unmarked (x : Reader α) : Prop := Numbers [] (fun _ => []) x

variable {P : List Token → Prop} {known : List Nat} {numbers : β → List Nat}

/-! ## Readers in a row -/

/-- Inversion: readers in a row that succeed have two that succeed. -/
theorem ok_of_bind {x : Reader α} {f : α → Reader β} {input input'' : Input} {b : β}
    (h : (x >>= f) input = .ok (b, input'')) :
    ∃ a input', x input = .ok (a, input') ∧ f a input' = .ok (b, input'') := by
  obtain ⟨⟨a, input'⟩, hx, hf⟩ := EntityQuery.ok_of_bind h
  exact ⟨a, input', hx, hf⟩

theorem Numbers.from {x : Reader β} (h : Numbers known numbers x) : NumbersFrom P known numbers x :=
  fun ts k b ts' k' _ => h ts k b ts' k' trivial

/-- What is read first is numbered first. -/
theorem NumbersFrom.bind {own : α → List Nat} {x : Reader α} {f : α → Reader β}
    (hx : NumbersFrom P [] own x) (hf : ∀ a, Numbers (known ++ own a) numbers (f a)) :
    NumbersFrom P known numbers (x >>= f) := by
  intro ts k b ts'' k'' hP h
  obtain ⟨a, ⟨ts', k'⟩, hread, hrest⟩ := ok_of_bind h
  obtain ⟨taken, rfl, rfl, hown⟩ := hx ts k a ts' k' hP hread
  obtain ⟨taken', rfl, rfl, hnumbers⟩ := hf a ts' _ b ts'' k'' trivial hrest
  refine ⟨taken ++ taken', (List.append_assoc ..).symm, by rw [marks_append, Nat.add_assoc], ?_⟩
  rw [hnumbers, hown, List.nil_append, List.append_assoc, marks_append, Nat.add_right_comm,
    List.range'_append_1]

/-- What takes no `?` sign may stand anywhere. -/
theorem NumbersFrom.bind_unmarked {x : Reader α} {f : α → Reader β}
    (hx : NumbersFrom P [] (fun _ => []) x) (hf : ∀ a, Numbers known numbers (f a)) :
    NumbersFrom P known numbers (x >>= f) :=
  hx.bind fun a => (List.append_nil known).symm ▸ hf a

theorem numbers_pure {b : β} (h : numbers b = known) : Numbers known numbers (pure b) := by
  intro ts k b' ts' k' _ hread
  cases hread
  exact ⟨[], rfl, rfl, by rw [h]; exact (List.append_nil known).symm⟩

/-- A reader that fails makes no value. -/
theorem numbersFrom_throw (e : ParseError) : NumbersFrom P known numbers (throw e : Reader β) :=
  fun _ _ _ _ _ _ hread => nomatch hread

/-- A check in front of a reader takes nothing. -/
theorem numbers_unless {c : Prop} [Decidable c] {e : ParseError} {rest : PUnit → Reader β}
    (h : Numbers known numbers (rest ⟨⟩)) :
    Numbers known numbers (if c then throw e >>= rest else rest ⟨⟩) := by
  split
  · exact (numbersFrom_throw e : Unmarked _).bind_unmarked fun _ => h
  · exact h

/-! ## Single tokens -/

/-- A look at the next token takes nothing, and what is done next may depend on it. -/
theorem numbers_peek {f : Option Token → Reader β}
    (h : ∀ found, NumbersFrom (·.head? = found) known numbers (f found)) :
    Numbers known numbers (peek >>= f) :=
  fun ts k b ts' k' _ hread => h ts.head? ts k b ts' k' rfl hread

/-- A token that is known to be no `?` sign may be dropped. -/
theorem unmarked_skip {found : Option Token} (h : found ≠ some (.symbol .placeholder)) :
    NumbersFrom (·.head? = found) [] (fun _ => []) skip := by
  rintro ts k a ts' k' rfl hread
  cases ts with
  | nil =>
    cases hread
    exact ⟨[], rfl, rfl, rfl⟩
  | cons t ts =>
    cases hread
    have ht : marks [t] = 0 := marks_singleton fun h' => h (congrArg some h')
    refine ⟨[t], rfl, ?_, ?_⟩
    · rw [ht, Nat.add_zero]
    · rw [ht]
      rfl

theorem unmarked_accept {t : Token} (h : t ≠ .symbol .placeholder) : Unmarked (accept t) := by
  refine numbers_peek fun found => ?_
  split
  · next hfound =>
    refine (unmarked_skip ?_).bind_unmarked fun _ => numbers_pure rfl
    rw [hfound]
    exact fun h' => h (Option.some.inj h')
  · exact (numbers_pure rfl).from

theorem unmarked_acceptWord (w : Keyword) : Unmarked (acceptWord w) := unmarked_accept nofun

theorem unmarked_acceptSign {s : Symbol} (h : s ≠ .placeholder) : Unmarked (acceptSign s) :=
  unmarked_accept fun h' => h (Token.symbol.inj h')

theorem unmarked_expect {t : Token} (h : t ≠ .symbol .placeholder) : Unmarked (expect t) := by
  refine (unmarked_accept h).bind_unmarked fun found => ?_
  split
  · exact numbers_pure rfl
  · exact numbers_peek fun found => numbersFrom_throw _

theorem unmarked_name : Unmarked name := by
  refine numbers_peek fun found => ?_
  split
  · exact (unmarked_skip (by simp)).bind_unmarked fun _ => numbers_pure rfl
  · exact numbersFrom_throw _

theorem unmarked_number : Unmarked number := by
  refine numbers_peek fun found => ?_
  split
  · exact (unmarked_skip (by simp)).bind_unmarked fun _ => numbers_pure rfl
  · exact numbersFrom_throw _

theorem unmarked_escapeChar : Unmarked escapeChar := by
  refine numbers_peek fun found => ?_
  split
  · split
    · exact (unmarked_skip (by simp)).bind_unmarked fun _ => numbers_pure rfl
    · exact numbersFrom_throw _
  · exact numbersFrom_throw _

/-- A `?` sign is the parameter with the number that is then reached. -/
theorem numbers_placeholder :
    NumbersFrom (·.head? = some (.symbol .placeholder)) [] Expr.parameters
      (do skip; return .parameter (← nextParameter)) := by
  intro ts k e ts' k' hhead hread
  cases ts with
  | nil => cases hhead
  | cons t ts =>
    obtain rfl := Option.some.inj hhead
    cases hread
    exact ⟨[.symbol .placeholder], rfl, rfl, rfl⟩

theorem numbers_primary : Numbers [] Expr.parameters primary := by
  refine numbers_peek fun found => ?_
  split
  · exact (unmarked_skip (by simp)).bind_unmarked fun _ => numbers_pure rfl
  · exact (unmarked_skip (by simp)).bind_unmarked fun _ =>
      unmarked_number.bind_unmarked fun _ => numbers_pure rfl
  · exact (unmarked_skip (by simp)).bind_unmarked fun _ => numbers_pure rfl
  · exact (unmarked_skip (by simp)).bind_unmarked fun _ => numbers_pure rfl
  · exact (unmarked_skip (by simp)).bind_unmarked fun _ => numbers_pure rfl
  · exact (unmarked_skip (by simp)).bind_unmarked fun _ => numbers_pure rfl
  · exact numbers_placeholder
  · refine (unmarked_skip (by simp)).bind_unmarked fun _ =>
      (unmarked_acceptSign (by simp)).bind_unmarked fun found => ?_
    split
    · exact unmarked_name.bind_unmarked fun _ => numbers_pure rfl
    · exact numbers_pure rfl
  · exact numbersFrom_throw _

/-! ## Lists and chains -/

/-- The items of a list are numbered one after the other. -/
theorem numbers_commaList {own : α → List Nat} {item : Reader α} (h : Numbers [] own item)
    (limit : Nat) : Numbers [] (List.flatMap own) (commaList item limit) := by
  induction limit with
  | zero => exact h.bind fun a => numbers_pure (List.flatMap_singleton own a)
  | succ limit ih =>
    refine h.bind fun a => (unmarked_acceptSign (by simp)).bind_unmarked fun found => ?_
    split
    · exact ih.bind fun as => numbers_pure List.flatMap_cons
    · exact numbers_pure (List.flatMap_singleton own a)

/-- A list without `?` signs. -/
theorem unmarked_commaList {item : Reader α} (h : Unmarked item) (limit : Nat) :
    Unmarked (commaList item limit) := by
  have hlist := numbers_commaList h limit
  intro ts k as ts' k' hP hread
  obtain ⟨taken, hts, hk, hnumbers⟩ := hlist ts k as ts' k' hP hread
  refine ⟨taken, hts, hk, ?_⟩
  rw [← hnumbers]
  exact (List.flatMap_eq_nil_iff.2 fun _ _ => rfl).symm

/-- The operands of a chain are numbered one after the other, behind those of its first. -/
theorem numbers_chain {word : Keyword} {join : Expr → Expr → Expr} {operand : Reader Expr}
    (hjoin : ∀ left right, (join left right).parameters = left.parameters ++ right.parameters)
    (h : Numbers [] Expr.parameters operand) (limit : Nat) (left : Expr) :
    Numbers left.parameters Expr.parameters (chain word join operand limit left) := by
  induction limit generalizing left with
  | zero => exact numbers_pure rfl
  | succ limit ih =>
    refine (unmarked_acceptWord word).bind_unmarked fun found => ?_
    split
    · refine h.bind fun right => ?_
      rw [← hjoin]
      exact ih (join left right)
    · exact numbers_pure rfl

/-! ## Expressions -/

section Expressions

variable {inner : Reader Expr}

theorem numbers_operand (h : Numbers [] Expr.parameters inner) :
    Numbers [] Expr.parameters (operand inner) := by
  refine (unmarked_acceptSign (by simp)).bind_unmarked fun found => ?_
  split
  · exact h.bind fun e => (unmarked_expect (by simp)).bind_unmarked fun _ => numbers_pure rfl
  · exact numbers_primary

/-- No comparison is written as a `?` sign. -/
theorem not_placeholder_of_comparison {found : Option Token} {op : Comparison}
    (h : comparisonOf found = some op) : found ≠ some (.symbol .placeholder) := by
  rintro rfl
  cases h

/-- A test puts what it reads behind its operand. -/
theorem numbers_afterOperand (h : Numbers [] Expr.parameters inner) (limit : Nat) (left : Expr) :
    Numbers left.parameters Expr.parameters (afterOperand inner limit left) := by
  have hoperand := numbers_operand h
  refine (unmarked_acceptWord .IS).bind_unmarked fun found => ?_
  split
  · exact (unmarked_acceptWord .NOT).bind_unmarked fun _ =>
      (unmarked_expect (by simp)).bind_unmarked fun _ => numbers_pure rfl
  refine (unmarked_acceptWord .NOT).bind_unmarked fun negated =>
    (unmarked_acceptWord .IN).bind_unmarked fun found => ?_
  split
  · refine (unmarked_expect (by simp)).bind_unmarked fun _ =>
      (numbers_commaList hoperand limit).bind fun items =>
        (unmarked_expect (by simp)).bind_unmarked fun _ => numbers_pure ?_
    rw [Expr.parameters, listParameters_eq]
  refine (unmarked_acceptWord .LIKE).bind_unmarked fun found => ?_
  split
  · refine hoperand.bind fun pattern => (unmarked_acceptWord .ESCAPE).bind_unmarked fun found => ?_
    split
    · exact unmarked_escapeChar.bind_unmarked fun c => numbers_pure rfl
    · exact numbers_pure rfl
  refine numbers_unless (numbers_peek fun found => ?_)
  split
  · next op hop =>
    exact (unmarked_skip (not_placeholder_of_comparison hop)).bind_unmarked fun _ =>
      hoperand.bind fun right => numbers_pure rfl
  · exact (numbers_pure rfl).from

theorem numbers_predicate (h : Numbers [] Expr.parameters inner) (limit : Nat) :
    Numbers [] Expr.parameters (predicate inner limit) :=
  (numbers_operand h).bind fun left => numbers_afterOperand h limit left

theorem numbers_negation (h : Numbers [] Expr.parameters inner) (limit nots : Nat) :
    Numbers [] Expr.parameters (negation inner limit nots) := by
  induction nots with
  | zero => exact numbers_predicate h limit
  | succ nots ih =>
    refine (unmarked_acceptWord .NOT).bind_unmarked fun found => ?_
    split
    · exact ih.bind fun e => numbers_pure rfl
    · exact numbers_predicate h limit

theorem numbers_conjunction (h : Numbers [] Expr.parameters inner) (limit : Nat) :
    Numbers [] Expr.parameters (conjunction inner limit) :=
  (numbers_negation h limit limit).bind fun left =>
    numbers_chain (fun _ _ => rfl) (numbers_negation h limit limit) limit left

theorem numbers_disjunction (h : Numbers [] Expr.parameters inner) (limit : Nat) :
    Numbers [] Expr.parameters (disjunction inner limit) :=
  (numbers_conjunction h limit).bind fun left =>
    numbers_chain (fun _ _ => rfl) (numbers_conjunction h limit) limit left

end Expressions

theorem numbers_expression (limit : Nat) : Numbers [] Expr.parameters (expression limit) := by
  induction limit with
  | zero => exact numbers_peek fun found => numbersFrom_throw _
  | succ limit ih => exact numbers_disjunction ih limit

/-! ## Statements -/

section Statements

variable (limit : Nat)

theorem numbers_filter : Numbers [] filterParameters (filter limit) := by
  refine (unmarked_acceptWord .WHERE).bind_unmarked fun found => ?_
  split
  · exact (numbers_expression limit).bind fun e => numbers_pure rfl
  · exact numbers_pure rfl

theorem numbers_selectItem : Numbers [] SelectItem.parameters selectItem := by
  refine (unmarked_acceptSign (by simp)).bind_unmarked fun found => ?_
  split
  · exact numbers_pure rfl
  · exact numbers_primary.bind fun e => numbers_pure rfl

theorem numbers_orderItem : Numbers [] (·.expr.parameters) orderItem := by
  refine numbers_primary.bind fun e => (unmarked_acceptWord .ASC).bind_unmarked fun found => ?_
  split
  · exact numbers_pure rfl
  · refine (unmarked_acceptWord .DESC).bind_unmarked fun found => ?_
    split <;> exact numbers_pure rfl

theorem unmarked_rowLimit : Unmarked rowLimit := by
  refine (unmarked_acceptWord .LIMIT).bind_unmarked fun found => ?_
  split
  · refine unmarked_number.bind_unmarked fun text => ?_
    split
    · exact numbers_pure rfl
    · exact numbersFrom_throw _
  · exact numbers_pure rfl

theorem numbers_ordering : Numbers [] (List.flatMap (·.expr.parameters)) (ordering limit) := by
  refine (unmarked_acceptWord .ORDER).bind_unmarked fun found => ?_
  split
  · exact (unmarked_expect (by simp)).bind_unmarked fun _ => numbers_commaList numbers_orderItem limit
  · exact numbers_pure rfl

theorem numbers_select : Numbers [] Statement.parameters (select limit) := by
  refine (unmarked_acceptWord .DISTINCT).bind_unmarked fun distinct =>
    (numbers_commaList numbers_selectItem limit).bind fun items =>
      (unmarked_expect (by simp)).bind_unmarked fun _ =>
        (unmarked_commaList unmarked_name limit).bind_unmarked fun tables =>
          (numbers_filter limit).bind fun filter =>
            (numbers_ordering limit).bind fun order =>
              unmarked_rowLimit.bind_unmarked fun count => numbers_pure ?_
  rw [Statement.parameters, List.nil_append]

theorem unmarked_columnList : Unmarked (columnList limit) := by
  refine (unmarked_acceptSign (by simp)).bind_unmarked fun found => ?_
  split
  · exact (unmarked_commaList unmarked_name limit).bind_unmarked fun columns =>
      (unmarked_expect (by simp)).bind_unmarked fun _ => numbers_pure rfl
  · exact numbers_pure rfl

theorem numbers_valueRow : Numbers [] Expr.listParameters (valueRow limit) := by
  refine (unmarked_expect (by simp)).bind_unmarked fun _ =>
    (numbers_commaList (numbers_operand (numbers_expression limit)) limit).bind fun row =>
      (unmarked_expect (by simp)).bind_unmarked fun _ => numbers_pure ?_
  rw [listParameters_eq, List.nil_append]

theorem numbers_insert : Numbers [] Statement.parameters (insert limit) :=
  (unmarked_expect (by simp)).bind_unmarked fun _ => unmarked_name.bind_unmarked fun table =>
    (unmarked_columnList limit).bind_unmarked fun columns =>
      (unmarked_expect (by simp)).bind_unmarked fun _ =>
        (numbers_commaList (numbers_valueRow limit) limit).bind fun rows => numbers_pure rfl

theorem numbers_assignment : Numbers [] (·.2.parameters) (assignment limit) :=
  unmarked_name.bind_unmarked fun column => (unmarked_expect (by simp)).bind_unmarked fun _ =>
    (numbers_operand (numbers_expression limit)).bind fun e => numbers_pure rfl

theorem numbers_update : Numbers [] Statement.parameters (update limit) :=
  unmarked_name.bind_unmarked fun table => (unmarked_expect (by simp)).bind_unmarked fun _ =>
    (numbers_commaList (numbers_assignment limit) limit).bind fun assignments =>
      (numbers_filter limit).bind fun filter => numbers_pure rfl

theorem numbers_delete : Numbers [] Statement.parameters (delete limit) :=
  (unmarked_expect (by simp)).bind_unmarked fun _ => unmarked_name.bind_unmarked fun table =>
    (numbers_filter limit).bind fun filter => numbers_pure rfl

/-- No type is written as a `?` sign. -/
theorem not_placeholder_of_type {found : Option Token} {type : ColumnType}
    (h : typeOf found = some type) : found ≠ some (.symbol .placeholder) := by
  rintro rfl
  cases h

theorem unmarked_columnType : Unmarked columnType := by
  refine numbers_peek fun found => ?_
  split
  · exact numbersFrom_throw _
  · next type htype =>
    refine (unmarked_skip (not_placeholder_of_type htype)).bind_unmarked fun _ => ?_
    dsimp only
    split
    · refine (unmarked_acceptSign (by simp)).bind_unmarked fun found => ?_
      split
      · exact unmarked_number.bind_unmarked fun _ =>
          (unmarked_expect (by simp)).bind_unmarked fun _ => numbers_pure rfl
      · exact numbers_pure rfl
    · exact numbers_pure rfl

theorem unmarked_columnDef : Unmarked columnDef :=
  unmarked_name.bind_unmarked fun _ => unmarked_columnType.bind_unmarked fun _ =>
    numbers_pure rfl

theorem numbers_createTable : Numbers [] Statement.parameters (createTable limit) :=
  (unmarked_expect (by simp)).bind_unmarked fun _ => unmarked_name.bind_unmarked fun table =>
    (unmarked_expect (by simp)).bind_unmarked fun _ =>
      (unmarked_commaList unmarked_columnDef limit).bind_unmarked fun columns =>
        (unmarked_expect (by simp)).bind_unmarked fun _ => numbers_pure rfl

theorem numbers_statement : Numbers [] Statement.parameters (statement limit) := by
  refine numbers_peek fun found => ?_
  split
  · exact (unmarked_skip (by simp)).bind_unmarked fun _ => numbers_select limit
  · exact (unmarked_skip (by simp)).bind_unmarked fun _ => numbers_insert limit
  · exact (unmarked_skip (by simp)).bind_unmarked fun _ => numbers_update limit
  · exact (unmarked_skip (by simp)).bind_unmarked fun _ => numbers_delete limit
  · exact (unmarked_skip (by simp)).bind_unmarked fun _ => numbers_createTable limit
  · exact numbersFrom_throw _

theorem numbers_whole : Numbers [] Statement.parameters (whole limit) := by
  refine (numbers_statement limit).bind fun s =>
    (unmarked_acceptSign (by simp)).bind_unmarked fun _ => numbers_peek fun found => ?_
  split
  · exact (numbers_pure (List.nil_append _).symm).from
  · exact numbersFrom_throw _

/-- A whole text leaves no token. -/
theorem tokens_of_whole {input input' : Input} {s : Statement}
    (h : whole limit input = .ok (s, input')) : input'.tokens = [] := by
  obtain ⟨s', input₁, -, h⟩ := ok_of_bind h
  obtain ⟨found, input₂, -, h⟩ := ok_of_bind h
  obtain ⟨next, input₃, hpeek, h⟩ := ok_of_bind h
  cases hpeek
  cases hnext : input₂.tokens.head? with
  | none =>
    rw [hnext] at h
    cases h
    exact List.head?_eq_none_iff.1 hnext
  | some t =>
    rw [hnext] at h
    cases h

end Statements

end EntityQuery.Sql.Reader

namespace EntityQuery.Sql

/-- The parameters of a statement are numbered from 1 in the order of its text, each number once. They
are as many as the `?` tokens of the text, which are the `?` signs outside of strings, quoted names and
comments. -/
theorem parameters_are_numbered {sql : String} {p : Parsed} (h : parse sql = .ok p) :
    p.statement.parameters = List.range' 1 p.parameters ∧
      p.parameters = (tokenize sql).count (.symbol .placeholder) ∧
      p.parameters = openMarks .plain sql.toList := by
  rw [parse] at h
  split at h
  · next s input hread =>
    cases h
    have hread : Reader.whole (tokenize sql).length ⟨tokenize sql, 0⟩ = .ok (s, input) := hread
    obtain ⟨taken, htokens, hcount, hnumbers⟩ :=
      Reader.numbers_whole _ _ _ s input.tokens input.parameters trivial hread
    -- nothing is left, so what was taken is the whole text
    rw [Reader.tokens_of_whole _ hread, List.append_nil] at htokens
    rw [Nat.zero_add, Reader.marks, ← htokens] at hcount
    rw [List.nil_append, Nat.zero_add, Reader.marks, ← htokens, ← hcount] at hnumbers
    exact ⟨hnumbers, hcount, hcount.trans (count_tokenize sql)⟩
  · cases h

/-- A text with `?` signs on every level, of which one stands in a string, one in a quoted name and one
in a comment. -/
def markedUpdate : String :=
  "UPDATE T SET A = ?, B = 'a?b' WHERE C IN (?, -1) AND NOT (\"D?\" LIKE ? OR ? < E) -- ?"

theorem parameters_are_numbered_update :
    ∃ p, parse markedUpdate = .ok p ∧ p.statement.parameters = List.range' 1 4 ∧
      4 = (tokenize markedUpdate).count (.symbol .placeholder) ∧
      4 = openMarks .plain markedUpdate.toList := by
  have hparse : parse markedUpdate = .ok
      ⟨.update ⟨"T", [("A", .parameter 1), ("B", .literal (.string "a?b"))],
        some (.and (.inList false (.column "C") [.parameter 2, .literal (.integer (-1))])
          (.not (.or (.like false (.column "D?") (.parameter 3) none)
            (.compare .less (.parameter 4) (.column "E")))))⟩, 4⟩ := by cbv
  exact ⟨_, hparse, parameters_are_numbered hparse⟩

end EntityQuery.Sql
