import EntityQuery.Value.Basic

/-!
# The order of values

Two orders are built on values:

* `Value.compare?` is the comparison of predicates: defined between values of one type, between
  numbers of any types, and between a date and an integer, which then counts days. Everything else,
  `null` and NaN included, does not compare;
* `Value.order` is the order of sorted rows: `null` comes first, values that do not compare are
  ordered by the names of their types.
-/

namespace EntityQuery.Value

/-- The order of two values, where they compare. Integers compare exactly; with a double on one side
both sides are compared as doubles. -/
def compare? : Value → Value → Option Ordering
  | .boolean a, .boolean b => some (compare a b)
  | .string a, .string b => some (compare a b)
  | .blob a, .blob b => some (compare a b)
  | .date a, .date b => some (compare a.day b.day)
  | .date a, b => b.integral?.map (compare a.day ·)
  | a, .date b => a.integral?.map (compare · b.day)
  | a, b =>
    match a.integral?, b.integral? with
    | some x, some y => some (compare x y)
    | _, _ =>
      match a.numeric?, b.numeric? with
      | some x, some y => x.compare? y
      | _, _ => none

/-- The order of sorted rows. -/
def order : Value → Value → Ordering
  | .null, .null => .eq
  | .null, _ => .lt
  | _, .null => .gt
  | a, b => (a.compare? b).getD (compare a.typeName b.typeName)

/-- Nothing compares with `null`. -/
theorem compare?_null_right (v : Value) : v.compare? .null = none := by
  cases v <;> simp [compare?, integral?, numeric?]

/-- `null` compares with nothing. -/
theorem compare?_null_left (v : Value) : Value.null.compare? v = none := by
  cases v <;> simp [compare?, integral?, numeric?]

/-- `null` is the least value. -/
theorem order_null_left (v : Value) : Value.null.order v = if v = .null then .eq else .lt := by
  cases v <;> simp [order]

/-- Values that compare are sorted as they compare. -/
theorem order_of_compare? {a b : Value} {o : Ordering} (h : a.compare? b = some o) :
    a.order b = o := by
  have ha : a ≠ .null := by rintro rfl; simp [compare?_null_left] at h
  have hb : b ≠ .null := by rintro rfl; simp [compare?_null_right] at h
  cases a <;> cases b <;> simp_all [order]

end EntityQuery.Value
