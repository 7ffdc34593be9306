import Mathlib
import EntityQuery.Sql.Statement

/-!
# Parameters of a statement

A parameter carries its number. `Statement.parameters` lists the numbers that stand in a statement in
the order of its text.
-/

namespace EntityQuery.Sql

mutual

/-- The numbers of the parameters of an expression, from left to right. -/
def Expr.parameters : Expr → List Nat
  | .literal _ | .column _ | .qualified _ _ => []
  | .parameter n => [n]
  | .compare _ left right | .and left right | .or left right => left.parameters ++ right.parameters
  | .not e | .isNull _ e => e.parameters
  | .inList _ e items => e.parameters ++ Expr.listParameters items
  | .like _ e pattern _ => e.parameters ++ pattern.parameters

/-- The numbers of the parameters of some expressions, from left to right. -/
def Expr.listParameters : List Expr → List Nat
  | [] => []
  | e :: es => e.parameters ++ Expr.listParameters es

end

/-- The numbers of the parameters of an item. -/
def SelectItem.parameters : SelectItem → List Nat
  | .allColumns => []
  | .expr e => e.parameters

/-- The numbers of the parameters of a condition. -/
def filterParameters (filter : Option Expr) : List Nat := (filter.map Expr.parameters).getD []

/-- The numbers of the parameters of a statement, from left to right. -/
def Statement.parameters : Statement → List Nat
  | .select s =>
    s.items.flatMap SelectItem.parameters ++ filterParameters s.filter ++
      s.order.flatMap (·.expr.parameters)
  | .insert s => s.rows.flatMap Expr.listParameters
  | .update s => s.assignments.flatMap (·.2.parameters) ++ filterParameters s.filter
  | .delete s => filterParameters s.filter
  | .createTable _ => []

theorem listParameters_eq (es : List Expr) :
    Expr.listParameters es = es.flatMap Expr.parameters := by
  induction es with
  | nil => rw [Expr.listParameters, List.flatMap_nil]
  | cons e es ih => rw [Expr.listParameters, ih, List.flatMap_cons]

theorem listParameters_map (ns : List Nat) : Expr.listParameters (ns.map .parameter) = ns := by
  induction ns with
  | nil => rw [List.map_nil, Expr.listParameters]
  | cons n ns ih =>
    rw [List.map_cons, Expr.listParameters, Expr.parameters, ih]
    rfl

end EntityQuery.Sql
