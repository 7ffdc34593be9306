import EntityQuery.Proofs.Request.Image

/-!
# The clauses that requests are written with

The condition, the sort keys and the limit of a request are clauses that may be absent. Each of them is
text, tokens and an image: the text is read as the tokens (`spells_condition`, `spells_order`,
`spells_limit`), and the tokens are read as the image (`filter_reads`, `ordering_reads`, and
`rowLimit_reads` for the limit).
-/

namespace EntityQuery

open Sql Sql.Reader

/-- A sort key of a statement. -/
def orderImage (key : String × Direction) : OrderItem := ⟨.column (nameOf key.1), key.2⟩

/-! ## Texts of clauses -/

/-- A condition as tokens. -/
def conditionTokens (naming : Naming) : Option Constraint → List Token
  | none => []
  | some c => .keyword .WHERE :: c.tokens naming

theorem spells_condition {naming : Naming} {condition : Option Constraint}
    (hmap : naming.Maps (conditionFields condition))
    (hname : naming.Readable (conditionFields condition)) :
    Spells Stops (conditionText naming condition).toList (conditionTokens naming condition) ∧
      Stops (conditionText naming condition).toList := by
  cases condition with
  | none => exact ⟨spells_nil, .inl rfl⟩
  | some c =>
    have htext : (conditionText naming (some c)).toList =
        (words [.WHERE] ++ [' ']) ++ (c.text naming).toList := String.toList_append
    rw [htext]
    exact ⟨(spells_spaced [.WHERE]).append_closed (Constraint.spells_text hmap hname),
      .inr ⟨' ', _, rfl, .inl rfl⟩⟩

/-- A sort key as tokens. -/
def keyTokens (key : String × Direction) : List Token :=
  [.identifier (nameOf key.1), .keyword (directionWord key.2)]

/-- The sort keys of a selection as tokens. -/
def orderTokens : List (String × Direction) → List Token
  | [] => []
  | key :: keys => .keyword .ORDER :: .keyword .BY :: commaTokens ((key :: keys).map keyTokens)

theorem spells_key {key : String × Direction} (h : IsName key.1) :
    Spells Stops (orderText key).toList (keyTokens key) := by
  have hname : Spells Stops key.1.toList [.identifier (nameOf key.1)] :=
    spells_name h fun rest h c cs hrest => (stops_head h hrest).1
  have hdirection : " ".toList ++ key.2.keyword.toList = words [directionWord key.2] := by
    cases key.2 <;> rfl
  rw [orderText, String.toList_append, String.toList_append, List.append_assoc, hdirection]
  exact hname.append (spells_words _) fun rest _ => .inr ⟨' ', _, rfl, .inl rfl⟩

theorem spells_order {keys : List (String × Direction)} (h : ∀ key ∈ keys, IsName key.1) :
    Spells Stops (Selection.clause " ORDER BY " (if (keys.map orderText).isEmpty then none
        else some (", ".intercalate (keys.map orderText)))).toList (orderTokens keys) ∧
      Stops (Selection.clause " ORDER BY " (if (keys.map orderText).isEmpty then none
        else some (", ".intercalate (keys.map orderText)))).toList := by
  cases keys with
  | nil => exact ⟨spells_nil, .inl rfl⟩
  | cons key keys =>
    have htext : (Selection.clause " ORDER BY " (if ((key :: keys).map orderText).isEmpty then none
        else some (", ".intercalate ((key :: keys).map orderText)))).toList =
        (words [.ORDER, .BY] ++ [' ']) ++
          (", ".intercalate ((key :: keys).map orderText)).toList := String.toList_append
    rw [htext]
    exact ⟨(spells_spaced [.ORDER, .BY]).append_closed (spells_commas fun k hk => spells_key (h k hk)),
      .inr ⟨' ', _, rfl, .inl rfl⟩⟩

theorem spells_limit (top : Option Nat) :
    Spells Stops (Selection.clause " LIMIT " (top.map toString)).toList (limitTokens top) ∧
      Stops (Selection.clause " LIMIT " (top.map toString)).toList := by
  cases top with
  | none => exact ⟨spells_nil, .inl rfl⟩
  | some n =>
    have hn : (toString n).toList = Nat.toDigits 10 n := by
      rw [Nat.toString_eq_ofList_toDigits]
      exact String.toList_ofList
    have htext : (Selection.clause " LIMIT " (some (toString n))).toList =
        (words [.LIMIT] ++ [' ']) ++ Nat.toDigits 10 n := by
      rw [Selection.clause, String.toList_append, hn]
      rfl
    have hdigits : Spells Stops (Nat.toDigits 10 n) [.number (toString n)] := by
      rw [Nat.toString_eq_ofList_toDigits]
      exact spells_digits Nat.toDigits_ne_nil fun c hc =>
        Nat.isDigit_of_mem_toDigits (by decide) (by decide) hc
    rw [Option.map_some, htext]
    exact ⟨(spells_spaced [.LIMIT]).append_closed hdigits, .inr ⟨' ', _, rfl, .inl rfl⟩⟩

/-! ## Reading clauses -/

/-- Tokens that may stand behind a condition. -/
def EndsCondition (found : Option Token) : Prop :=
  found = none ∨ found = some (.keyword .ORDER) ∨ found = some (.keyword .LIMIT)

theorem EndsCondition.facts {found : Option Token} (h : EndsCondition found) :
    EndsPredicate found ∧ found ≠ some (.keyword .AND) ∧ found ≠ some (.keyword .OR) ∧
      found ≠ some (.keyword .WHERE) ∧ found ≠ some (.symbol .comma) := by
  rcases h with rfl | rfl | rfl <;> decide

theorem head_limit (top : Option Nat) :
    (limitTokens top).head? = none ∨ (limitTokens top).head? = some (.keyword .LIMIT) := by
  cases top with
  | none => exact .inl rfl
  | some n => exact .inr rfl

theorem endsCondition_order (keys : List (String × Direction)) (top : Option Nat) :
    EndsCondition (orderTokens keys ++ limitTokens top).head? := by
  cases keys with
  | nil => exact (head_limit top).imp_right Or.inr
  | cons key keys => exact .inr (.inl rfl)

theorem head_condition (naming : Naming) (condition : Option Constraint) {rest : List Token}
    (hrest : EndsCondition rest.head?) :
    (conditionTokens naming condition ++ rest).head? ≠ some (.symbol .comma) := by
  cases condition with
  | none => exact hrest.facts.2.2.2.2
  | some c => simp [conditionTokens]

theorem filter_reads {naming : Naming} {condition : Option Constraint} {limit : Nat}
    (hlimit : (conditionTokens naming condition).length ≤ limit) {rest : List Token}
    (hrest : EndsCondition rest.head?) (k : Nat) :
    filter limit ⟨conditionTokens naming condition ++ rest, k⟩ =
      .ok (condition.map (·.image naming (k + 1)), ⟨rest, k + conditionCount condition⟩) := by
  obtain ⟨hpredicate, hand, hor, hwhere, -⟩ := hrest.facts
  cases condition with
  | none =>
    rw [filter, conditionTokens, List.nil_append, bind_of_read (acceptWord_miss hwhere)]
    rfl
  | some c =>
    rw [conditionTokens, List.length_cons] at hlimit
    obtain ⟨m, rfl⟩ : ∃ m, limit = m + 1 := ⟨limit - 1, by omega⟩
    have hnegation := c.reads _ _ k (Nat.le_of_succ_le_succ hlimit) hpredicate
    have hexpression :=
      expression_of_conjunction (conjunction_of_negation hnegation hand) hor
    rw [filter, conditionTokens, List.cons_append, bind_of_read (acceptWord_hit .WHERE)]
    simp only [if_true]
    rw [bind_of_read hexpression]
    rfl

theorem orderItem_reads (key : String × Direction) (rest : List Token) (k : Nat) :
    orderItem ⟨keyTokens key ++ rest, k⟩ = .ok (orderImage key, ⟨rest, k⟩) := by
  have hcolumn : primary ⟨keyTokens key ++ rest, k⟩ =
      .ok (.column (nameOf key.1), ⟨.keyword (directionWord key.2) :: rest, k⟩) :=
    primary_column (by simp)
  exact orderItem_of_primary hcolumn

theorem ordering_reads {keys : List (String × Direction)} {limit : Nat}
    (hlimit : (orderTokens keys).length ≤ limit) {rest : List Token}
    (hrest : rest.head? = none ∨ rest.head? = some (.keyword .LIMIT)) (k : Nat) :
    ordering limit ⟨orderTokens keys ++ rest, k⟩ = .ok (keys.map orderImage, ⟨rest, k⟩) := by
  cases keys with
  | nil =>
    have horder : rest.head? ≠ some (.keyword .ORDER) := by
      rcases hrest with h | h <;> rw [h] <;> simp
    rw [ordering, orderTokens, List.nil_append, bind_of_read (acceptWord_miss horder)]
    rfl
  | cons key keys =>
    have hcomma : rest.head? ≠ some (.symbol .comma) := by
      rcases hrest with h | h <;> rw [h] <;> simp
    have hlength : (commaTokens ((key :: keys).map keyTokens)).length ≤ limit := by
      rw [orderTokens, List.length_cons, List.length_cons] at hlimit
      omega
    have hkeys := commaList_plain (List.cons_ne_nil key keys) hlength
      (fun key _ rest k => orderItem_reads key rest k) hcomma k
    rw [ordering, orderTokens, List.cons_append, bind_of_read (acceptWord_hit .ORDER)]
    simp only [if_true]
    rw [List.cons_append, bind_of_read (expect_hit _)]
    exact hkeys

end EntityQuery
