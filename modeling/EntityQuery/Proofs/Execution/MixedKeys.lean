import EntityQuery.Proofs.Execution.SortKeys

/-!
# Sort keys with NaN

In the order of sorted rows a NaN is equal to every number. So this is no order of the values of a column
where a NaN stands among numbers that differ, and it is one of all other values that a column stores.

* `ColumnType.Stored` says which values a column stores, and `Value.Mixed` where a NaN is among numbers
  that differ.
* `Value.order_swap_of_holds`: exchanging the sides reverses the order. `Value.not_trans_iff` and
  `Value.not_trans_eq_iff` are about the three values for which it is not transitive, and so
  `Value.ordersOn_iff_not_mixed` about the sets of values that it orders.
* `stored_values_are_ordered_unless_mixed`: all of these, and what they mean for sorting rows.
-/

namespace EntityQuery

open Sql

/-- The values that a column of the type stores. -/
def ColumnType.Stored (type : ColumnType) (v : Value) : Prop :=
  ∃ written, type.normalize written = .ok v

theorem ColumnType.stored_iff_holds {type : ColumnType} {v : Value} :
    type.Stored v ↔ type.holds v = true :=
  ⟨fun ⟨_, h⟩ => holds_of_normalize h, fun h => ⟨v, normalize_of_holds h⟩⟩

/-- Only columns of doubles have NaNs. -/
theorem ColumnType.eq_double_of_isNaN {type : ColumnType} {v : Value} (hv : type.holds v = true)
    (hnan : v.isNaN = true) : type = .double := by
  cases v with
  | double d => cases type <;> simp_all [holds]
  | _ => cases hnan

namespace Value

/-! ## NaN among the values of a column -/

/-- `null` is the least value. -/
theorem order_null_right (v : Value) : v.order .null = if v = .null then .eq else .gt := by
  cases v <;> rfl

/-- Doubles that do not compare are equal. -/
theorem order_double (x y : Double) : (Value.double x).order (.double y) = (x.compare? y).getD .eq := by
  change (x.compare? y).getD (compare "double" "double") = _
  rw [Std.ReflOrd.compare_self (a := "double")]

/-- A NaN is equal to all values of its column but `null`, which it comes behind. -/
theorem order_of_isNaN_left {a b : Value} (ha : a.isNaN = true) (hb : ColumnType.double.holds b = true) :
    a.order b = if b = .null then .gt else .eq := by
  cases a with
  | double x =>
    cases b with
    | null => rfl
    | double y =>
      rw [order_double, Double.compare?_eq_none_iff.2 (.inl ha)]
      simp
    | _ => cases hb
  | _ => cases ha

variable {type : ColumnType} {a b c : Value}

/-- Exchanging two values of a column reverses their order. -/
theorem order_swap_of_holds (ha : type.holds a = true) (hb : type.holds b = true) :
    b.order a = (a.order b).swap := by
  by_cases htype : type = .double
  · subst htype
    cases a with
    | null => cases b <;> rfl
    | double x =>
      cases b with
      | null => rfl
      | double y =>
        rw [order_double, order_double, ← Double.compare?_swap]
        cases x.compare? y <;> rfl
      | _ => cases hb
    | _ => cases ha
  · have hnan {v : Value} (hv : type.holds v = true) : v.isNaN = false :=
      Bool.eq_false_iff.2 fun h => htype (ColumnType.eq_double_of_isNaN hv h)
    exact (Value.ordersOn type).swap ⟨ha, hnan ha⟩ ⟨hb, hnan hb⟩

theorem order_of_isNaN_right (ha : ColumnType.double.holds a = true) (hb : b.isNaN = true) :
    a.order b = if a = .null then .lt else .eq := by
  have hb' : ColumnType.double.holds b = true := by
    cases b <;> first | rfl | cases hb
  rw [order_swap_of_holds hb' ha, order_of_isNaN_left hb ha]
  split <;> rfl

/-- The order of values of a column is transitive at all values but NaNs. -/
theorem order_trans_of_isNaN_eq_false (ha : type.holds a = true) (hb : type.holds b = true)
    (hc : type.holds c = true) (hnan : b.isNaN = false) (hab : a.order b ≠ .gt) (hbc : b.order c ≠ .gt) :
    a.order c ≠ .gt := by
  by_cases hnana : a.isNaN = true
  · obtain rfl := ColumnType.eq_double_of_isNaN ha hnana
    rw [order_of_isNaN_left hnana hc]
    -- only null comes before a NaN, and then the second value is null, too
    split
    · next hnull =>
      rw [hnull, order_null_right] at hbc
      rw [order_of_isNaN_left hnana hb] at hab
      split at hbc
      · next hnull => exact absurd (if_pos hnull) hab
      · exact absurd rfl hbc
    · simp
  · by_cases hnanc : c.isNaN = true
    · obtain rfl := ColumnType.eq_double_of_isNaN hc hnanc
      rw [order_of_isNaN_right ha hnanc]
      split <;> simp
    · exact (Value.ordersOn type).trans ⟨ha, by simpa using hnana⟩ ⟨hb, hnan⟩ ⟨hc, by simpa using hnanc⟩
        hab hbc

/-- The order is not transitive at a NaN, between two numbers of which the first is greater. -/
theorem not_trans_iff (ha : type.holds a = true) (hb : type.holds b = true) (hc : type.holds c = true) :
    (a.order b ≠ .gt ∧ b.order c ≠ .gt ∧ a.order c = .gt) ↔
      b.isNaN = true ∧ c ≠ .null ∧ a.order c = .gt := by
  cases hnan : b.isNaN with
  | false =>
    simp only [Bool.false_eq_true, false_and, iff_false]
    rintro ⟨hab, hbc, hac⟩
    exact order_trans_of_isNaN_eq_false ha hb hc hnan hab hbc hac
  | true =>
    obtain rfl := ColumnType.eq_double_of_isNaN hb hnan
    rw [order_of_isNaN_left hnan hc, order_of_isNaN_right ha hnan]
    split <;> split <;> simp [*]

/-- Equality in this order is not transitive at a NaN, between two numbers that differ. -/
theorem not_trans_eq_iff (ha : type.holds a = true) (hb : type.holds b = true)
    (hc : type.holds c = true) :
    (a.order b = .eq ∧ b.order c = .eq ∧ a.order c ≠ .eq) ↔
      b.isNaN = true ∧ a ≠ .null ∧ c ≠ .null ∧ a.order c ≠ .eq := by
  cases hnan : b.isNaN with
  | false =>
    simp only [Bool.false_eq_true, false_and, iff_false]
    rintro ⟨hab, hbc, hac⟩
    have hle := order_trans_of_isNaN_eq_false ha hb hc hnan (by simp [hab]) (by simp [hbc])
    have hge := order_trans_of_isNaN_eq_false hc hb ha hnan
      (by simp [order_swap_of_holds hb hc, hbc]) (by simp [order_swap_of_holds ha hb, hab])
    rw [order_swap_of_holds ha hc] at hge
    revert hle hge hac
    cases a.order c <;> decide
  | true =>
    obtain rfl := ColumnType.eq_double_of_isNaN hb hnan
    rw [order_of_isNaN_left hnan hc, order_of_isNaN_right ha hnan]
    split <;> split <;> simp [*]

/-! ## Sets of values -/

/-- A NaN and two numbers that differ are among the values. -/
def Mixed (p : Value → Prop) : Prop :=
  ∃ a b c, p a ∧ p b ∧ p c ∧ b.isNaN = true ∧ c ≠ .null ∧ a.order c = .gt

/-- Values of a column are ordered exactly if no NaN is among numbers that differ. -/
theorem ordersOn_iff_not_mixed {p : Value → Prop} (h : ∀ v, p v → type.holds v = true) :
    OrdersOn p Value.order ↔ ¬ Mixed p := by
  constructor
  · rintro horders ⟨a, b, c, ha, hb, hc, hmiddle⟩
    obtain ⟨hab, hbc, hac⟩ := (not_trans_iff (h a ha) (h b hb) (h c hc)).2 hmiddle
    exact horders.trans ha hb hc hab hbc hac
  · intro hmixed
    refine ⟨fun ha hb => order_swap_of_holds (h _ ha) (h _ hb), fun {a b c} ha hb hc hab hbc hac => ?_⟩
    exact hmixed ⟨a, b, c, ha, hb, hc, (not_trans_iff (h a ha) (h b hb) (h c hc)).1 ⟨hab, hbc, hac⟩⟩

end Value

/-! ## Sorting rows -/

/-- Rows whose sort keys are stored values are sorted, if in no key a NaN is among numbers that differ. -/
theorem sortRows_of_not_mixed {evaluate : Row → Expr → Except EvalError Value} {s : Select}
    {rows : List Row} {keys : Row → List Value} {types : List ColumnType}
    (hkeys : ∀ row ∈ rows,
      s.order.mapM (fun item => evaluate row (sortExpr s.items item.expr)) = .ok (keys row))
    (hstored : ∀ row ∈ rows, List.Forall₂ ColumnType.Stored types (keys row))
    (hmixed : ∀ i : Nat, ¬ Value.Mixed fun v => ∃ row ∈ rows, (keys row)[i]? = some v) :
    let order := fun a b => keysOrder (s.order.map (·.direction)) (keys a) (keys b)
    OrdersOn (· ∈ rows) order ∧ ∃ sorted, sortRows evaluate s rows = .ok sorted ∧ sorted.Perm rows ∧
      sorted.Pairwise fun a b => order a b ≠ .gt := by
  intro order
  have horders : OrdersOn (· ∈ rows) order := by
    -- one set of values for each key
    let column (i : Nat) (v : Value) : Prop := ∃ row ∈ rows, (keys row)[i]? = some v
    refine ((ordersOn_keysOrder_of ((List.range types.length).map column) (fun p hp => ?_) _).comap
      (f := keys)).mono fun row hrow => ?_
    · obtain ⟨i, hi, rfl⟩ := List.mem_map.1 hp
      have hi := List.mem_range.1 hi
      have htyped : ∀ v, column i v → types[i].holds v = true := by
        rintro v ⟨row, hrow, hv⟩
        obtain ⟨hi', rfl⟩ := List.getElem?_eq_some_iff.1 hv
        exact ColumnType.stored_iff_holds.1 ((List.forall₂_iff_get.1 (hstored row hrow)).2 i hi hi')
      exact (Value.ordersOn_iff_not_mixed htyped).2 (hmixed i)
    · rw [List.forall₂_map_left_iff]
      have hlength := (hstored row hrow).length_eq
      refine List.forall₂_iff_get.2 ⟨by rw [List.length_range, hlength], fun i hi hi' => ?_⟩
      refine ⟨row, hrow, ?_⟩
      simp
  refine ⟨horders, ?_⟩
  obtain ⟨sorted, hperm, hsorted, hrows⟩ := sortRows_stable_of (R := fun _ _ => True) evaluate s id
    horders (fun _ h => h) (List.pairwise_of_forall fun _ _ => trivial) hkeys
  refine ⟨sorted, by simpa using hrows, hperm, hsorted.imp fun {a b} hab => ?_⟩
  change order a b = .lt ∨ order a b = .eq ∧ True at hab
  rcases hab with hab | ⟨hab, -⟩ <;> simp [hab]

/-- The order of the values that columns store, and the sorting of rows by them. -/
theorem stored_values_are_ordered_unless_mixed (type : ColumnType) :
    (∀ a b c : Value, type.Stored a → type.Stored b → type.Stored c →
      b.order a = (a.order b).swap ∧
      (a.order b ≠ .gt ∧ b.order c ≠ .gt ∧ a.order c = .gt ↔
        b.isNaN = true ∧ c ≠ .null ∧ a.order c = .gt) ∧
      (a.order b = .eq ∧ b.order c = .eq ∧ a.order c ≠ .eq ↔
        b.isNaN = true ∧ a ≠ .null ∧ c ≠ .null ∧ a.order c ≠ .eq)) ∧
    (∀ p : Value → Prop, (∀ v, p v → type.Stored v) →
      (OrdersOn p Value.order ↔ ¬ Value.Mixed p)) ∧
    ∀ (evaluate : Row → Expr → Except EvalError Value) (s : Select) (rows : List Row)
      (keys : Row → List Value) (types : List ColumnType),
      (∀ row ∈ rows,
        s.order.mapM (fun item => evaluate row (sortExpr s.items item.expr)) = .ok (keys row)) →
      (∀ row ∈ rows, List.Forall₂ ColumnType.Stored types (keys row)) →
      (∀ i : Nat, ¬ Value.Mixed fun v => ∃ row ∈ rows, (keys row)[i]? = some v) →
      let order := fun a b => keysOrder (s.order.map (·.direction)) (keys a) (keys b)
      OrdersOn (· ∈ rows) order ∧ ∃ sorted, sortRows evaluate s rows = .ok sorted ∧
        sorted.Perm rows ∧ sorted.Pairwise fun a b => order a b ≠ .gt := by
  refine ⟨fun a b c ha hb hc => ?_, fun p hp => ?_,
    fun evaluate s rows keys types hkeys hstored hmixed => sortRows_of_not_mixed hkeys hstored hmixed⟩
  · rw [ColumnType.stored_iff_holds] at ha hb hc
    exact ⟨Value.order_swap_of_holds ha hb, Value.not_trans_iff ha hb hc,
      Value.not_trans_eq_iff ha hb hc⟩
  · exact Value.ordersOn_iff_not_mixed fun v hv => ColumnType.stored_iff_holds.1 (hp v hv)

/-- A NaN. -/
def Double.quietNaN : Double := ⟨0x7ff8000000000000⟩

/-- Two is behind one, but not behind a NaN, which is not behind one. Rows with one number are sorted. -/
theorem stored_values_are_ordered_unless_mixed_one :
    let one : Value := .double (.ofInt 1)
    let two : Value := .double (.ofInt 2)
    let nan : Value := .double .quietNaN
    let s : Select := ⟨false, [.allColumns], ["T"], none, [⟨.column "N", .asc⟩], none⟩
    let rows : List Row := [[nan], [one], [.null]]
    (two.order nan ≠ .gt ∧ nan.order one ≠ .gt ∧ two.order one = .gt) ∧
      (∀ v ∈ rows, List.Forall₂ ColumnType.Stored [.double] v) ∧
      ∃ sorted, sortRows (fun row _ => .ok (row.headD .null)) s rows = .ok sorted ∧ sorted.Perm rows ∧
        sorted.Pairwise fun a b => keysOrder [.asc] [a.headD .null] [b.headD .null] ≠ .gt := by
  intro one two nan s rows
  have hstored (v : Value) (hv : ColumnType.double.holds v = true) : ColumnType.double.Stored v :=
    ColumnType.stored_iff_holds.2 hv
  obtain ⟨horder, -, hsort⟩ := stored_values_are_ordered_unless_mixed .double
  have hrows : ∀ row ∈ rows, List.Forall₂ ColumnType.Stored [.double] row := by
    simp [rows, ColumnType.stored_iff_holds, one, nan, ColumnType.holds]
  refine ⟨((horder two nan one (hstored _ rfl) (hstored _ rfl) (hstored _ rfl)).2.1).2
    ⟨rfl, by simp [one], by decide +kernel⟩, hrows, ?_⟩
  refine (hsort (fun row _ => .ok (row.headD .null)) s rows (fun row => [row.headD .null]) [.double]
    (fun _ _ => rfl) ?_ ?_).2
  · simp [rows, ColumnType.stored_iff_holds, one, nan, ColumnType.holds]
  · rintro i ⟨a, b, c, ⟨x, hx, ha⟩, -, ⟨y, hy, hc⟩, -, hnull, hgt⟩
    cases i with
    | zero =>
      simp only [rows, List.mem_cons, List.not_mem_nil, or_false] at hx hy
      simp only [List.getElem?_cons_zero, Option.some.injEq] at ha hc
      subst ha hc
      revert hnull hgt
      rcases hx with rfl | rfl | rfl <;> rcases hy with rfl | rfl | rfl <;> decide +kernel
    | succ i => simp at ha

/-- The order of stored values is not always transitive. -/
theorem order_of_stored_values_is_not_transitive :
    ¬ ∀ (type : ColumnType) (a b c : Value), type.Stored a → type.Stored b → type.Stored c →
      a.order b ≠ .gt → b.order c ≠ .gt → a.order c ≠ .gt := by
  intro htrans
  have hstored (d : Double) : ColumnType.double.Stored (.double d) := ⟨.double d, rfl⟩
  refine htrans .double (.double (.ofInt 2)) (.double .quietNaN) (.double (.ofInt 1)) (hstored _) (hstored _)
    (hstored _) ?_ ?_ ?_ <;> decide +kernel

end EntityQuery
