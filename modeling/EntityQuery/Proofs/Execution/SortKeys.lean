import EntityQuery.Proofs.Evaluation.ExprTypes
import EntityQuery.Proofs.Execution.SortedRows

/-!
# Sort keys of a query

A query sorts its rows by the values of expressions.

* `keysOrder` is the order of rows by the values of their sort keys. The values of one key are of one
  type in all rows, so this is an order (`ordersOn_keysOrder`).
* `evaluate_written`: a bare column may stand for a selected one, but where it has a value by itself, it
  is the same.
* `sortBy_stable`: items change places only if one must be before the other. So the rows are sorted by
  their keys, and behind these by the order they had (`sortRows_stable`).
-/

namespace EntityQuery

open Sql

/-! ## The order of sort keys -/

/-- The order of the values of sort keys: the first that differ decide. -/
def keysOrder : List Direction → List Value → List Value → Ordering
  | d :: ds, a :: as, b :: bs => (d.apply (a.order b)).then (keysOrder ds as bs)
  | _, _, _ => .eq

/-- Values of sort keys are before others exactly if their order says so. -/
theorem keysBefore_eq_keysOrder (ds : List Direction) (as bs : List Value) :
    keysBefore ds as bs = (keysOrder ds as bs == .lt) := by
  fun_induction keysOrder ds as bs with
  | case1 d ds a as b bs ih =>
    rw [keysBefore, ih]
    cases d.apply (a.order b) <;> rfl
  | case2 ds as bs hnone =>
    rw [keysBefore]
    · rfl
    · exact hnone

/-- The values of sort keys that have types and compare. -/
structure KeysOf (types : List ColumnType) (vs : List Value) : Prop where
  /-- each is of its type -/
  typed : List.Forall₂ (fun type v => type.holds v = true) types vs
  /-- none is a NaN -/
  comparable : ∀ v ∈ vs, v.isNaN = false

/-- A comparison orders what it compares as one that does. -/
theorem OrdersOn.congr {α : Type} {p : α → Prop} {cmp cmp' : α → α → Ordering} (h : OrdersOn p cmp')
    (heq : ∀ {a b}, p a → p b → cmp a b = cmp' a b) : OrdersOn p cmp where
  swap ha hb := by
    rw [heq ha hb, heq hb ha]
    exact h.swap ha hb
  trans ha hb hc := by
    rw [heq ha hb, heq hb hc, heq ha hc]
    exact h.trans ha hb hc

/-- Values of sort keys are ordered if those of each key are. -/
theorem ordersOn_keysOrder_of (columns : List (Value → Prop))
    (h : ∀ p ∈ columns, OrdersOn p Value.order) (ds : List Direction) :
    OrdersOn (List.Forall₂ (fun p v => p v) columns) (keysOrder ds) := by
  have hnone {p : List Value → Prop} : OrdersOn p fun _ _ => .eq :=
    ⟨fun _ _ => rfl, fun _ _ _ h _ => h⟩
  induction columns generalizing ds with
  | nil =>
    refine hnone.congr fun {as bs} has hbs => ?_
    obtain rfl := List.forall₂_nil_left_iff.1 has
    cases ds <;> rfl
  | cons p columns ih =>
    cases ds with
    | nil => exact hnone.congr fun _ _ => rfl
    | cons d ds =>
      have hp := h p List.mem_cons_self
      have hfirst := (hp.comap (f := fun vs : List Value => vs.headD .null)).apply d
      have hrest := (ih (fun q hq => h q (List.mem_cons_of_mem _ hq)) ds).comap (f := List.tail)
      refine ((hfirst.lexicographic hrest).mono fun vs hvs => ?_).congr fun {as bs} has hbs => ?_
      · obtain ⟨v, rest, hv, hrest, rfl⟩ := List.forall₂_cons_left_iff.1 hvs
        exact ⟨hv, hrest⟩
      · obtain ⟨a, as, -, -, rfl⟩ := List.forall₂_cons_left_iff.1 has
        obtain ⟨b, bs, -, -, rfl⟩ := List.forall₂_cons_left_iff.1 hbs
        rfl

/-- Values of sort keys that have their types are ordered. -/
theorem ordersOn_keysOrder (types : List ColumnType) (ds : List Direction) :
    OrdersOn (KeysOf types) (keysOrder ds) := by
  refine (ordersOn_keysOrder_of (types.map fun type v => type.holds v = true ∧ v.isNaN = false)
    (fun p hp => ?_) ds).mono fun vs hvs => ?_
  · obtain ⟨type, -, rfl⟩ := List.mem_map.1 hp
    exact Value.ordersOn type
  · rw [List.forall₂_map_left_iff]
    refine List.forall₂_iff_get.2 ?_
    obtain ⟨hlength, htyped⟩ := List.forall₂_iff_get.1 hvs.typed
    exact ⟨hlength, fun i hi hi' => ⟨htyped i hi hi', hvs.comparable _ (List.get_mem _ _)⟩⟩

/-! ## Written sort keys -/

/-- Two spellings of a column have the same places. -/
theorem positionsFrom_sameName {column column' : String} (h : Text.sameName column column' = true)
    (qualifier : Option String) (offset : Nat) (tables : List (String × List String)) :
    Scope.positionsFrom qualifier column offset tables =
      Scope.positionsFrom qualifier column' offset tables := by
  induction tables generalizing offset with
  | nil => rfl
  | cons table tables ih =>
    rcases table with ⟨table, columns⟩
    rw [Scope.positionsFrom, Scope.positionsFrom, Scope.columnIndex?_congr h, ih]

/-- A bare column that has a place has that of the same column with a table. -/
theorem resolve_bare {scope : Scope} {qualifier column name : String} {i j : Nat}
    (hname : Text.sameName column name = true) (hi : scope.resolve (some qualifier) column = .ok i)
    (hj : scope.resolve none name = .ok j) : i = j := by
  rw [Scope.resolve_eq_ok_iff, Scope.positions] at hi hj
  have hbare := positionsFrom_bare (hi ▸ List.mem_singleton_self i)
  rw [positionsFrom_sameName hname, hj] at hbare
  exact List.mem_singleton.1 hbare

/-- A bare column stands for itself, or for a selected column of this name with its table. -/
theorem sortExpr_column (items : List SelectItem) (name : String) :
    sortExpr items (.column name) = .column name ∨ ∃ table column,
      sortExpr items (.column name) = .qualified table column ∧ Text.sameName column name = true := by
  rw [sortExpr]
  generalize hfound : List.findSome? _ items = found
  cases found with
  | none => exact .inl rfl
  | some e =>
    obtain ⟨item, -, hitem⟩ := List.exists_of_findSome?_eq_some hfound
    split at hitem
    · next table column =>
      split at hitem
      · next hname =>
        obtain rfl := Option.some.inj hitem
        exact .inr ⟨table, column, rfl, hname⟩
      · cases hitem
    · cases hitem

/-- A sort key that has a value as it is written has the value of what it stands for. -/
theorem evaluate_written {f : Frame} {items : List SelectItem} {e : Expr} {v w : Value}
    (hv : f.evaluate e = .ok v) (hw : f.evaluate (sortExpr items e) = .ok w) : v = w := by
  have hsame (h : sortExpr items e = e) : v = w := by
    rw [h, hv] at hw
    exact Except.ok.inj hw
  cases e with
  | column name =>
    rcases sortExpr_column items name with h | ⟨table, column, h, hname⟩
    · exact hsame h
    · rw [h, Frame.evaluate] at hw
      rw [Frame.evaluate] at hv
      obtain ⟨i, hi, hvi⟩ := Frame.cell_eq_ok hw
      obtain ⟨j, hj, hvj⟩ := Frame.cell_eq_ok hv
      rw [resolve_bare hname hi hj, hvj] at hvi
      exact Option.some.inj hvi
  | _ => exact hsame rfl

/-! ## Stable sorting -/

section Stable

variable {α : Type} {R : α → α → Prop} {before : α → α → Bool}

/-- An item that stands behind all others is placed in front of those only that it must be before. -/
theorem placeBackwards_stable {x : α} {ys : List α} (hx : ∀ y ∈ ys, R y x)
    (hys : ys.Pairwise fun b a => before a b = true ∨ R a b) :
    (placeBackwards before x ys).Pairwise fun b a => before a b = true ∨ R a b := by
  induction ys with
  | nil => exact List.pairwise_singleton _ _
  | cons y ys ih =>
    obtain ⟨hy, hrest⟩ := List.pairwise_cons.1 hys
    rw [placeBackwards]
    split
    · next hbefore =>
      have hplaced := ih (fun z hz => hx z (List.mem_cons_of_mem _ hz)) hrest
      refine List.pairwise_cons.2 ⟨fun z hz => ?_, hplaced⟩
      rcases List.mem_cons.1 ((placeBackwards_perm _ x ys).mem_iff.1 hz) with rfl | hz
      · exact .inl hbefore
      · exact hy z hz
    · exact List.pairwise_cons.2 ⟨fun z hz => .inr (hx z hz), hys⟩

/-- Sorted items stand as before, or one must be before the other. -/
theorem sortBy_stable {xs : List α} (h : xs.Pairwise R) :
    (sortBy before xs).Pairwise fun a b => before a b = true ∨ R a b := by
  -- what is placed already comes before all that is not
  have hplaced (ys : List α) (hxs : xs.Pairwise R) (hall : ∀ y ∈ ys, ∀ x ∈ xs, R y x)
      (hys : ys.Pairwise fun b a => before a b = true ∨ R a b) :
      (xs.foldl (fun sorted x => placeBackwards before x sorted) ys).Pairwise
        fun b a => before a b = true ∨ R a b := by
    induction xs generalizing ys with
    | nil => exact hys
    | cons x xs ih =>
      obtain ⟨hx, hxs⟩ := List.pairwise_cons.1 hxs
      refine ih hxs _ hxs (fun y hy x' hx' => ?_)
        (placeBackwards_stable (fun y hy => hall y hy x List.mem_cons_self) hys)
      rcases List.mem_cons.1 ((placeBackwards_perm _ x ys).mem_iff.1 hy) with rfl | hy
      · exact hx x' hx'
      · exact hall y hy x' (List.mem_cons_of_mem _ hx')
  rw [sortBy, List.pairwise_reverse]
  exact hplaced [] h (fun y hy => absurd hy List.not_mem_nil) List.Pairwise.nil

/-- Sorting puts a list in order, and items that are not told apart stay in the order they had. -/
theorem sortBy_sorted_stable {p : α → Prop} {cmp : α → α → Ordering} (h : OrdersOn p cmp) {xs : List α}
    (hp : ∀ x ∈ xs, p x) (hR : xs.Pairwise R) :
    (sortBy (fun a b => cmp a b == .lt) xs).Pairwise fun a b =>
      cmp a b = .lt ∨ cmp a b = .eq ∧ R a b := by
  refine ((sortBy_sorted h hp).and (sortBy_stable hR)).imp fun {a b} hab => ?_
  obtain ⟨hsorted, hstable⟩ := hab
  cases hcase : cmp a b with
  | lt => exact .inl rfl
  | gt => exact absurd hcase hsorted
  | eq =>
    refine .inr ⟨rfl, hstable.resolve_left ?_⟩
    rw [hcase]
    decide

variable {evaluate : Row → Expr → Except EvalError Value} {s : Select} {row : α → Row} {xs : List α}
  {keys : α → List Value}

/-- Rows that come from items are sorted as the items are by the order of their keys. -/
theorem sortRows_of_ok
    (hkeys : ∀ x ∈ xs,
      s.order.mapM (fun item => evaluate (row x) (sortExpr s.items item.expr)) = .ok (keys x)) :
    sortRows evaluate s (xs.map row) = .ok ((if s.order.isEmpty then xs else
      sortBy (fun a b => keysOrder (s.order.map (·.direction)) (keys a) (keys b) == .lt) xs).map
        row) := by
  rw [sortRows]
  split
  · rfl
  · have hkeyed : (xs.map row).mapM (fun r => do return (← s.order.mapM fun (item : OrderItem) =>
        evaluate r (sortExpr s.items item.expr), r)) = .ok (xs.map fun x => (keys x, row x)) := by
      rw [List.mapM_map]
      exact mapM_of_ok fun x hx => (except_bind_of_ok (hkeys x hx)).trans rfl
    refine (except_bind_of_ok hkeyed).trans (congrArg Except.ok ?_)
    rw [sortBy_map, List.map_map]
    simp only [keysBefore_eq_keysOrder]
    rfl

variable (evaluate s row) in
/-- Rows that come from items in some order are sorted by keys that are ordered, and where these are the
same they stay in that order. -/
theorem sortRows_stable_of {p : α → Prop}
    (horders : OrdersOn p fun a b => keysOrder (s.order.map (·.direction)) (keys a) (keys b))
    (hp : ∀ x ∈ xs, p x) (hR : xs.Pairwise R)
    (hkeys : ∀ x ∈ xs,
      s.order.mapM (fun item => evaluate (row x) (sortExpr s.items item.expr)) = .ok (keys x)) :
    ∃ ys : List α, ys.Perm xs ∧
      ys.Pairwise (fun a b => keysOrder (s.order.map (·.direction)) (keys a) (keys b) = .lt ∨
        keysOrder (s.order.map (·.direction)) (keys a) (keys b) = .eq ∧ R a b) ∧
      sortRows evaluate s (xs.map row) = .ok (ys.map row) := by
  have hrows := sortRows_of_ok hkeys
  by_cases hempty : s.order = []
  · have heq (a b : α) : keysOrder (s.order.map (·.direction)) (keys a) (keys b) = .eq := by
      rw [hempty]
      rfl
    refine ⟨xs, List.Perm.refl xs, hR.imp fun {a b} hab => .inr ⟨heq a b, hab⟩, ?_⟩
    rw [hrows, hempty]
    rfl
  · refine ⟨_, sortBy_perm _ xs, sortBy_sorted_stable horders hp hR, ?_⟩
    rw [hrows, if_neg (by simpa using hempty)]

variable (evaluate s row) in
/-- Rows that come from items in some order are sorted by their keys, and where these are the same they
stay in that order. -/
theorem sortRows_stable {types : List ColumnType} (hR : xs.Pairwise R)
    (hkeys : ∀ x ∈ xs,
      s.order.mapM (fun item => evaluate (row x) (sortExpr s.items item.expr)) = .ok (keys x))
    (htypes : ∀ x ∈ xs, KeysOf types (keys x)) :
    ∃ ys : List α, ys.Perm xs ∧
      ys.Pairwise (fun a b => keysOrder (s.order.map (·.direction)) (keys a) (keys b) = .lt ∨
        keysOrder (s.order.map (·.direction)) (keys a) (keys b) = .eq ∧ R a b) ∧
      sortRows evaluate s (xs.map row) = .ok (ys.map row) :=
  sortRows_stable_of evaluate s row ((ordersOn_keysOrder types _).comap (f := keys)) htypes hR hkeys

end Stable

end EntityQuery
