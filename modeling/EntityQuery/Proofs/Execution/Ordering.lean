import EntityQuery.Execution.Select
import EntityQuery.Proofs.Stateful

/-!
# Sorting rows

Rows are sorted by keys that are compared one after the other. Whether this puts them into an order
depends on the values: those of one column do compare, as long as there is no NaN among them, and
those of different types need not.

* `OrdersOn` says that a comparison orders the values with some property. It holds of the values of one
  column (`Value.ordersOn`), and of keys of such values (`ordersOn_keyOrder`).
* `sortBy_sorted`: sorting by such a comparison puts a list into its order, and it does so with the items
  behind the sorted ones too (`sortBy_map`).
-/

namespace EntityQuery

/-! ## Comparisons that order -/

/-- The comparison orders the values that satisfy `p`. -/
structure OrdersOn {α : Type} (p : α → Prop) (cmp : α → α → Ordering) : Prop where
  /-- exchanging the sides reverses it -/
  swap : ∀ {a b}, p a → p b → cmp b a = (cmp a b).swap
  /-- not to come behind is transitive -/
  trans : ∀ {a b c}, p a → p b → p c → cmp a b ≠ .gt → cmp b c ≠ .gt → cmp a c ≠ .gt

section OrdersOn

variable {α β : Type} {p q : α → Prop} {cmp cmp' : α → α → Ordering}

/-- A lawful comparison of images orders what it is an image of. -/
theorem ordersOn_of_compare [Ord β] [Std.TransOrd β] {f : α → β}
    (h : ∀ a b, p a → p b → cmp a b = compare (f a) (f b)) : OrdersOn p cmp where
  swap {a b} ha hb := by
    rw [h b a hb ha, h a b ha hb]
    exact Std.OrientedCmp.eq_swap
  trans {a b c} ha hb hc hab hbc := by
    rw [h a b ha hb] at hab
    rw [h b c hb hc] at hbc
    rw [h a c ha hc]
    exact Ordering.isLE_iff_ne_gt.1
      (Std.TransCmp.isLE_trans (Ordering.isLE_iff_ne_gt.2 hab) (Ordering.isLE_iff_ne_gt.2 hbc))

theorem OrdersOn.comap {γ : Type} {f : γ → α} (h : OrdersOn p cmp) :
    OrdersOn (fun x => p (f x)) fun x y => cmp (f x) (f y) where
  swap ha hb := h.swap ha hb
  trans ha hb hc hab hbc := h.trans ha hb hc hab hbc

theorem OrdersOn.mono (h : OrdersOn p cmp) (hpq : ∀ a, q a → p a) : OrdersOn q cmp where
  swap ha hb := h.swap (hpq _ ha) (hpq _ hb)
  trans ha hb hc := h.trans (hpq _ ha) (hpq _ hb) (hpq _ hc)

/-- In the other direction, values are ordered too. -/
theorem OrdersOn.apply (h : OrdersOn p cmp) (d : Direction) :
    OrdersOn p fun a b => d.apply (cmp a b) := by
  cases d with
  | asc => exact h
  | desc =>
    refine ⟨fun ha hb => congrArg Ordering.swap (h.swap ha hb), fun {a b c} ha hb hc hab hbc => ?_⟩
    change (cmp a b).swap ≠ .gt at hab
    change (cmp b c).swap ≠ .gt at hbc
    change (cmp a c).swap ≠ .gt
    rw [← h.swap ha hb] at hab
    rw [← h.swap hb hc] at hbc
    rw [← h.swap ha hc]
    exact h.trans hc hb ha hbc hab

/-- One comparison and, where it does not tell values apart, another. -/
theorem OrdersOn.lexicographic (h : OrdersOn p cmp) (h' : OrdersOn q cmp') :
    OrdersOn (fun a => p a ∧ q a) fun a b => (cmp a b).then (cmp' a b) where
  swap ha hb := by
    rw [h.swap ha.1 hb.1, h'.swap ha.2 hb.2, Ordering.swap_then]
  trans {a b c} ha hb hc hab hbc := by
    have hac := h.trans ha.1 hb.1 hc.1
    have hac' := h'.trans ha.2 hb.2 hc.2
    have hca := h.trans hc.1 ha.1 hb.1
    have hbc' := h.trans hb.1 hc.1 ha.1
    have hswap := h.swap ha.1 hc.1
    have hswap' := h.swap ha.1 hb.1
    have hswap'' := h.swap hb.1 hc.1
    revert hab hbc hac hac' hca hbc'
    rw [hswap, hswap', hswap'']
    cases cmp a b <;> cases cmp b c <;> cases cmp a c <;> simp +contextual [Ordering.then]

end OrdersOn

/-! ## Values of one column -/

/-- Whether the value is a NaN. -/
def Value.isNaN : Value → Bool
  | .double d => d.isNaN
  | _ => false

namespace Value

/-- The units of a double. -/
def units? : Value → Option Int
  | .double d => some d.units
  | _ => none

/-- The truth value. -/
def boolean? : Value → Option Bool
  | .boolean b => some b
  | _ => none

/-- The text. -/
def string? : Value → Option String
  | .string s => some s
  | _ => none

/-- The bytes. -/
def blob? : Value → Option (List UInt8)
  | .blob b => some b
  | _ => none

/-- The day of a date. -/
def day? : Value → Option Int
  | .date d => some d.day
  | _ => none

end Value

/-- The values of one column are ordered, as far as they are not NaN. -/
theorem Value.ordersOn (type : ColumnType) :
    OrdersOn (fun v => type.holds v = true ∧ v.isNaN = false) Value.order := by
  cases type with
  | integer | bigint =>
    refine ordersOn_of_compare (f := Value.integral?) fun a b ha hb => ?_
    cases a <;> cases b <;> simp_all [ColumnType.holds] <;> rfl
  | double =>
    -- doubles that are not NaN compare as their units do
    have hdoubles (a b : Double) (ha : a.isNaN = false) (hb : b.isNaN = false) :
        (Value.double a).order (.double b) = compare (some a.units) (some b.units) := by
      refine Value.order_of_compare? ?_
      change a.compare? b = _
      rw [Double.compare?, ha, hb]
      rfl
    refine ordersOn_of_compare (f := Value.units?) fun a b ha hb => ?_
    cases a <;> cases b <;> simp_all [ColumnType.holds, Value.isNaN, Value.units?] <;> rfl
  | boolean =>
    refine ordersOn_of_compare (f := Value.boolean?) fun a b ha hb => ?_
    cases a <;> cases b <;> simp_all [ColumnType.holds] <;> rfl
  | varchar =>
    refine ordersOn_of_compare (f := Value.string?) fun a b ha hb => ?_
    cases a <;> cases b <;> simp_all [ColumnType.holds] <;> rfl
  | blob =>
    refine ordersOn_of_compare (f := Value.blob?) fun a b ha hb => ?_
    cases a <;> cases b <;> simp_all [ColumnType.holds] <;> rfl
  | date =>
    refine ordersOn_of_compare (f := Value.day?) fun a b ha hb => ?_
    cases a <;> cases b <;> simp_all [ColumnType.holds] <;> rfl

/-! ## Stable sorting -/

section SortBy

variable {α β : Type}

/-- Placing an item keeps a backward list in order. -/
theorem placeBackwards_sorted {p : α → Prop} {cmp : α → α → Ordering} (h : OrdersOn p cmp) {x : α}
    {ys : List α} (hx : p x) (hys : ∀ y ∈ ys, p y) (hsorted : ys.Pairwise fun b a => cmp a b ≠ .gt) :
    (placeBackwards (fun a b => cmp a b == .lt) x ys).Pairwise fun b a => cmp a b ≠ .gt := by
  induction ys with
  | nil => exact List.pairwise_singleton _ _
  | cons y ys ih =>
    obtain ⟨hy, hrest⟩ := List.pairwise_cons.1 hsorted
    have hpy := hys y List.mem_cons_self
    have hpys : ∀ z ∈ ys, p z := fun z hz => hys z (List.mem_cons_of_mem _ hz)
    rw [placeBackwards]
    split
    -- the item goes on towards the front, so it must not come behind this one
    · next hlt =>
      have hxy : cmp x y = .lt := eq_of_beq hlt
      refine List.pairwise_cons.2 ⟨fun z hz => ?_, ih hpys hrest⟩
      rcases List.mem_cons.1 ((placeBackwards_perm _ x ys).mem_iff.1 hz) with rfl | hz
      · rw [hxy]
        simp
      · exact hy z hz
    -- it stands behind this one, and so behind all in front of this one
    · next hlt =>
      have hyx : cmp y x ≠ .gt := by
        rw [h.swap hx hpy]
        cases hxy : cmp x y <;> simp_all
      refine List.pairwise_cons.2 ⟨fun z hz => ?_, hsorted⟩
      rcases List.mem_cons.1 hz with rfl | hz
      · exact hyx
      · exact h.trans (hpys z hz) hpy hx (hy z hz) hyx

/-- Sorting puts a list in order. -/
theorem sortBy_sorted {p : α → Prop} {cmp : α → α → Ordering} (h : OrdersOn p cmp) {xs : List α}
    (hxs : ∀ x ∈ xs, p x) :
    (sortBy (fun a b => cmp a b == .lt) xs).Pairwise fun a b => cmp a b ≠ .gt := by
  have hplaced (ys : List α) (hys : ∀ y ∈ ys, p y)
      (hsorted : ys.Pairwise fun b a => cmp a b ≠ .gt) :
      (xs.foldl (fun sorted x => placeBackwards (fun a b => cmp a b == .lt) x sorted) ys).Pairwise
        fun b a => cmp a b ≠ .gt := by
    induction xs generalizing ys with
    | nil => exact hsorted
    | cons x xs ih =>
      have hx := hxs x List.mem_cons_self
      refine ih (fun z hz => hxs z (List.mem_cons_of_mem _ hz)) _ (fun y hy => ?_)
        (placeBackwards_sorted h hx hys hsorted)
      rcases List.mem_cons.1 ((placeBackwards_perm _ x ys).mem_iff.1 hy) with rfl | hy
      · exact hx
      · exact hys y hy
  rw [sortBy, List.pairwise_reverse]
  exact hplaced [] (fun y hy => absurd hy List.not_mem_nil) List.Pairwise.nil

/-- Sorting looks at no more than what is compared. -/
theorem sortBy_map (f : α → β) (before : β → β → Bool) (xs : List α) :
    sortBy before (xs.map f) = (sortBy (fun a b => before (f a) (f b)) xs).map f := by
  have hplace (x : α) (ys : List α) : placeBackwards before (f x) (ys.map f) =
      (placeBackwards (fun a b => before (f a) (f b)) x ys).map f := by
    induction ys with
    | nil => rfl
    | cons y ys ih =>
      rw [List.map_cons, placeBackwards, placeBackwards]
      split
      · rw [ih, List.map_cons]
      · rfl
  have hfold (ys : List α) :
      (xs.map f).foldl (fun sorted x => placeBackwards before x sorted) (ys.map f) =
        (xs.foldl (fun sorted x => placeBackwards (fun a b => before (f a) (f b)) x sorted) ys).map
          f := by
    induction xs generalizing ys with
    | nil => rfl
    | cons x xs ih =>
      rw [List.map_cons, List.foldl_cons, List.foldl_cons, hplace]
      exact ih _
  rw [sortBy, sortBy, List.map_reverse]
  exact congrArg List.reverse (hfold [])

end SortBy

/-! ## Sort keys -/

/-- The order of two readings of fields under sort keys: the first key that tells them apart decides. -/
def keyOrder : List (Field × Direction) → (Field → Value) → (Field → Value) → Ordering
  | [], _, _ => .eq
  | (f, d) :: keys, a, b => (d.apply ((a f).order (b f))).then (keyOrder keys a b)

/-- The values of sort keys are before others exactly if their order says so. -/
theorem keysBefore_eq (keys : List (Field × Direction)) (a b : Field → Value) :
    keysBefore (keys.map (·.2)) (keys.map fun key => a key.1) (keys.map fun key => b key.1) =
      (keyOrder keys a b == .lt) := by
  induction keys with
  | nil => rfl
  | cons key keys ih =>
    rcases key with ⟨f, d⟩
    rw [List.map_cons, List.map_cons, List.map_cons, keysBefore, keyOrder, ih]
    dsimp only
    cases d.apply ((a f).order (b f)) <;> rfl

/-- Readings whose keys are values of one column each are ordered, as far as they are not NaN. -/
theorem ordersOn_keyOrder (keys : List (Field × Direction)) (type : Field → ColumnType) :
    OrdersOn (fun a : Field → Value => ∀ key ∈ keys,
      (type key.1).holds (a key.1) = true ∧ (a key.1).isNaN = false) (keyOrder keys) := by
  induction keys with
  | nil => exact ⟨fun _ _ => rfl, fun _ _ _ h _ => h⟩
  | cons key keys ih =>
    rcases key with ⟨f, d⟩
    have hfirst := ((Value.ordersOn (type f)).comap (f := fun a : Field → Value => a f)).apply d
    exact (hfirst.lexicographic ih).mono fun a ha =>
      ⟨ha (f, d) List.mem_cons_self, fun key hkey => ha key (List.mem_cons_of_mem _ hkey)⟩

end EntityQuery
