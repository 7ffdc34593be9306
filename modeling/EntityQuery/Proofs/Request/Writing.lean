import EntityQuery.Proofs.Stateful
import EntityQuery.Request.Binding
import EntityQuery.Request.Predicate

/-!
# What writing a constraint leaves behind

`Predicate.write` is a chain of small writes that may fail. Where every column of a constraint
exists it cannot fail, and what it adds is a function of the constraint alone:

* `Constraint.text`, the SQL text;
* `Constraint.leaves`, the owners of the placeholders from left to right, numbered in that order;
* the tables of `Constraint.referencedFields`, each at its first mention.

Main statements: `write_of_mapped` for constraints whose columns exist, and `mapped_of_write`, by
which no other constraint is written to its end.
-/

namespace EntityQuery

/-! ## Leaves -/

/-- Where the value of a placeholder comes from. -/
inductive LeafSource where
  /-- a value that is part of the constraint -/
  | fixed (v : Value)
  /-- an accessor, which is read when the constraint is bound -/
  | accessor (a : Accessor)
  deriving DecidableEq

/-- The owner of a placeholder. -/
structure Leaf where
  /-- the field whose kind the value is coerced to -/
  field : Field
  /-- where the value comes from -/
  source : LeafSource
  deriving DecidableEq

/-- The pattern that a substring test binds. -/
def substringPattern (text : String) : String := "%" ++ escapeLike text ++ "%"

/-- The owner of an operand's placeholder, if the operand has one. -/
def Operand.leaves : Operand → List Leaf
  | .field _ => []
  | .value f v => [⟨f, .fixed v⟩]
  | .accessor f a => [⟨f, .accessor a⟩]

/-- The owners of a constraint's placeholders, from left to right. -/
def Constraint.leaves : Constraint → List Leaf
  | .compare _ left right => left.leaves ++ right.leaves
  | .and left right => left.leaves ++ right.leaves
  | .or left right => left.leaves ++ right.leaves
  | .inList _ f values => values.map fun v => ⟨f, .fixed v⟩
  | .isNull _ _ => []
  | .contains _ f text => [⟨f, .fixed (.string (substringPattern text))⟩]

/-- The placeholders of leaves, the first of which has the number `next`. -/
def numbered (next : Nat) (leaves : List Leaf) : List Placeholder :=
  (leaves.zipIdx next).map fun (leaf, i) => ⟨i, leaf.field⟩

@[simp] theorem numbered_nil (next : Nat) : numbered next [] = [] := rfl

@[simp] theorem numbered_cons (next : Nat) (leaf : Leaf) (leaves : List Leaf) :
    numbered next (leaf :: leaves) = ⟨next, leaf.field⟩ :: numbered (next + 1) leaves := by
  simp [numbered, List.zipIdx_cons]

theorem numbered_append (next : Nat) (as bs : List Leaf) :
    numbered next (as ++ bs) = numbered next as ++ numbered (next + as.length) bs := by
  simp [numbered, List.zipIdx_append]

@[simp] theorem length_numbered (next : Nat) (leaves : List Leaf) :
    (numbered next leaves).length = leaves.length := by
  simp [numbered]

/-- The numbers of placeholders follow each other without gap. -/
theorem index_numbered (next : Nat) (leaves : List Leaf) :
    (numbered next leaves).map (·.index) = List.range' next leaves.length := by
  induction leaves generalizing next with
  | nil => rfl
  | cons leaf leaves ih => simp [ih, List.range'_succ]

theorem Operand.length_leaves (o : Operand) : o.leaves.length = o.isParameter.toNat := by
  cases o <;> rfl

/-- A constraint has as many leaves as it counts placeholders. -/
theorem Constraint.length_leaves (c : Constraint) : c.leaves.length = c.parameterCount := by
  induction c with
  | compare op left right =>
    simp only [leaves, parameterCount, List.length_append, Operand.length_leaves]
  | and left right ihl ihr => simp [leaves, parameterCount, ihl, ihr]
  | or left right ihl ihr => simp [leaves, parameterCount, ihl, ihr]
  | inList negated f values => simp [leaves, parameterCount]
  | isNull negated f => rfl
  | contains negated f text => rfl

/-! ## Texts -/

/-- The column of a field with its table; the column is empty where there is none. -/
def Naming.qualified (naming : Naming) (f : Field) : String :=
  naming.tableName f.entity ++ "." ++ (naming.columnName f).getD ""

/-- An operand as text. -/
def Operand.text (naming : Naming) : Operand → String
  | .field f => naming.qualified f
  | _ => "?"

/-- A list of placeholders as text. -/
def questionMarksText (count : Nat) : String := ", ".intercalate (List.replicate count "?")

/-- A constraint as text. -/
def Constraint.text (naming : Naming) : Constraint → String
  | .compare op left right => left.text naming ++ (" " ++ op.symbol ++ " ") ++ right.text naming
  | .and left right => "(" ++ left.text naming ++ " AND " ++ right.text naming ++ ")"
  | .or left right => "(" ++ left.text naming ++ " OR " ++ right.text naming ++ ")"
  | .inList negated _ [] => if negated then "1 = 1" else "1 = 0"
  | .inList negated f (v :: vs) =>
    naming.qualified f ++ (if negated then " NOT IN (" else " IN (") ++
      questionMarksText (v :: vs).length ++ ")"
  | .isNull negated f =>
    naming.qualified f ++ (if negated then " IS NOT NULL" else " IS NULL")
  | .contains negated f _ =>
    naming.qualified f ++ (if negated then " NOT LIKE" else " LIKE") ++
      " ? ESCAPE '" ++ likeEscape.toString ++ "'"

/-! ## Writing -/

/-- Every field that appears as a column has one. -/
def Naming.Maps (naming : Naming) (fields : List Field) : Prop :=
  ∀ f ∈ fields, (naming.columnName f).isSome

theorem Naming.maps_append {naming : Naming} {fs gs : List Field} :
    naming.Maps (fs ++ gs) ↔ naming.Maps fs ∧ naming.Maps gs := List.forall_mem_append

namespace Predicate

/-- The predicate with more text, more placeholders and more tables behind its own. -/
def extend (p : Predicate) (text : String) (placeholders : List Placeholder)
    (tables : List String) : Predicate :=
  ⟨p.sql ++ text, p.placeholders ++ placeholders, tables.foldl mention p.tables⟩

theorem extend_extend (p : Predicate) (t t' : String) (ps ps' : List Placeholder)
    (ts ts' : List String) :
    (p.extend t ps ts).extend t' ps' ts' = p.extend (t ++ t') (ps ++ ps') (ts ++ ts') := by
  simp [extend, String.append_assoc]

theorem emit_apply (text : String) (p : Predicate) :
    emit text p = (.ok (), p.extend text [] []) := by
  simp only [extend, List.append_nil, List.foldl_nil]
  rfl

theorem placeholder_apply (f : Field) (next : Nat) (p : Predicate) :
    placeholder f next p = (.ok (next + 1), p.extend "" [⟨next, f⟩] []) := by
  simp only [extend, List.foldl_nil, String.append_empty]
  rfl

theorem column_of_some {naming : Naming} {f : Field} (h : (naming.columnName f).isSome)
    (p : Predicate) :
    column naming f p =
      (.ok (naming.qualified f), p.extend "" [] [naming.tableName f.entity]) := by
  obtain ⟨c, hc⟩ := Option.isSome_iff_exists.1 h
  simp only [extend, Naming.qualified, hc, column, List.append_nil, String.append_empty]
  rfl

theorem column_of_none {naming : Naming} {f : Field} (h : ¬ (naming.columnName f).isSome)
    (p : Predicate) : column naming f p = (.error (.unresolvedColumn f.fullName), p) := by
  have hc : naming.columnName f = none := by simpa using h
  rw [column, hc]
  rfl

/-- The tables of fields, as they are mentioned. -/
def tablesOf (naming : Naming) (fields : List Field) : List String :=
  fields.map fun f => naming.tableName f.entity

theorem operand_of_mapped {naming : Naming} {o : Operand} (h : naming.Maps o.columns) (next : Nat)
    (p : Predicate) :
    operand naming next o p =
      (.ok (next + o.leaves.length),
        p.extend (o.text naming) (numbered next o.leaves) (tablesOf naming o.columns)) := by
  cases o with
  | field f =>
    have hf := h f (List.mem_singleton_self f)
    rw [operand, bind_of_ok (column_of_some hf p), bind_of_ok (emit_apply _ _), extend_extend]
    simp [Operand.text, Operand.leaves, Operand.columns, tablesOf]
  | value f v =>
    rw [operand, bind_of_ok (emit_apply _ _), placeholder_apply, extend_extend]
    simp [Operand.text, Operand.leaves, Operand.columns, tablesOf]
  | accessor f a =>
    rw [operand, bind_of_ok (emit_apply _ _), placeholder_apply, extend_extend]
    simp [Operand.text, Operand.leaves, Operand.columns, tablesOf]

theorem questionMarks_apply (f : Field) (values : List Value) (next : Nat) (p : Predicate) :
    questionMarks f next values.length p =
      (.ok (next + values.length),
        p.extend (questionMarksText values.length)
          (numbered next (values.map fun v => ⟨f, .fixed v⟩)) []) := by
  induction values generalizing next p with
  | nil => simp [questionMarks, questionMarksText, extend]
  | cons v values ih =>
    cases values with
    | nil =>
      rw [List.length_singleton, questionMarks, bind_of_ok (emit_apply _ _), placeholder_apply,
        extend_extend]
      simp [questionMarksText]
    | cons w values =>
      rw [List.length_cons, List.length_cons, questionMarks, bind_of_ok (emit_apply _ _),
        bind_of_ok (placeholder_apply _ _ _), bind_of_ok (emit_apply _ _)]
      rw [← List.length_cons (a := w), ih]
      simp only [extend_extend]
      congr 2
      · simp; omega
      · simp [questionMarksText, List.replicate_succ]

theorem inList_of_mapped {naming : Naming} {f : Field} (h : (naming.columnName f).isSome)
    (negated : Bool) (values : List Value) (next : Nat) (p : Predicate) :
    inList naming negated f next values.length p =
      (.ok (next + values.length),
        p.extend ((Constraint.inList negated f values).text naming)
          (numbered next (Constraint.inList negated f values).leaves)
          [naming.tableName f.entity]) := by
  rw [inList, bind_of_ok (column_of_some h p)]
  cases values with
  | nil =>
    rw [List.length_nil, if_pos rfl, bind_of_ok (emit_apply _ _), extend_extend]
    simp [Constraint.text, Constraint.leaves]
  | cons v values =>
    rw [if_neg (by simp), bind_of_ok (emit_apply _ _), bind_of_ok (questionMarks_apply f _ _ _),
      bind_of_ok (emit_apply _ _), pure_apply]
    simp only [extend_extend]
    simp [Constraint.text, Constraint.leaves, String.append_assoc]

/-- A constraint whose columns exist is written to its end, and leaves its text, its placeholders
and its tables behind what was there. -/
theorem write_of_mapped {naming : Naming} {c : Constraint} (h : naming.Maps c.referencedFields)
    (next : Nat) (p : Predicate) :
    write naming next c p =
      (.ok (next + c.parameterCount),
        p.extend (c.text naming) (numbered next c.leaves)
          (tablesOf naming c.referencedFields)) := by
  -- a part is written behind what is there and under the next number, so both are general
  induction c generalizing next p with
  | compare op left right =>
    obtain ⟨hl, hr⟩ := Naming.maps_append.1 h
    rw [write, bind_of_ok (operand_of_mapped hl _ _), bind_of_ok (emit_apply _ _),
      operand_of_mapped hr]
    simp [extend_extend, Constraint.text, Constraint.leaves, Constraint.referencedFields,
      Constraint.parameterCount, numbered_append, tablesOf, Operand.length_leaves, Nat.add_assoc]
  | and left right ihl ihr | or left right ihl ihr =>
    obtain ⟨hl, hr⟩ := Naming.maps_append.1 h
    rw [write, bind_of_ok (emit_apply _ _), bind_of_ok (ihl hl _ _), bind_of_ok (emit_apply _ _),
      bind_of_ok (ihr hr _ _), bind_of_ok (emit_apply _ _), pure_apply]
    simp [extend_extend, Constraint.text, Constraint.leaves, Constraint.referencedFields,
      Constraint.parameterCount, numbered_append, tablesOf, Constraint.length_leaves,
      Nat.add_assoc]
  | inList negated f values =>
    rw [write, inList_of_mapped (h f (List.mem_singleton_self f))]
    rfl
  | isNull negated f =>
    rw [write, bind_of_ok (column_of_some (h f (List.mem_singleton_self f)) p),
      bind_of_ok (emit_apply _ _), pure_apply, extend_extend]
    simp [Constraint.text, Constraint.leaves, Constraint.referencedFields,
      Constraint.parameterCount, tablesOf]
  | contains negated f text =>
    rw [write, bind_of_ok (column_of_some (h f (List.mem_singleton_self f)) p),
      bind_of_ok (emit_apply _ _), placeholder_apply]
    simp [extend_extend, Constraint.text, Constraint.leaves, Constraint.referencedFields,
      Constraint.parameterCount, tablesOf]

theorem isSome_of_column {naming : Naming} {f : Field} {p p' : Predicate} {text : String}
    (h : column naming f p = (.ok text, p')) : (naming.columnName f).isSome := by
  by_cases hf : (naming.columnName f).isSome
  · exact hf
  · rw [column_of_none hf] at h
    cases h

theorem mapped_of_operand {naming : Naming} {o : Operand} {next m : Nat} {p p' : Predicate}
    (h : operand naming next o p = (.ok m, p')) : naming.Maps o.columns := by
  intro f hf
  cases o with
  | field g =>
    obtain rfl := List.mem_singleton.1 hf
    rw [operand] at h
    obtain ⟨text, p₁, hc, -⟩ := bind_eq_ok h
    exact isSome_of_column hc
  | value g v => cases hf
  | accessor g a => cases hf

/-- No other constraint is written to its end. -/
theorem mapped_of_write {naming : Naming} {c : Constraint} {next m : Nat} {p p' : Predicate}
    (h : write naming next c p = (.ok m, p')) : naming.Maps c.referencedFields := by
  induction c generalizing next m p p' with
  | compare op left right =>
    rw [write] at h
    obtain ⟨n₁, p₁, hl, h⟩ := bind_eq_ok h
    obtain ⟨-, p₂, -, hr⟩ := bind_eq_ok h
    exact Naming.maps_append.2 ⟨mapped_of_operand hl, mapped_of_operand hr⟩
  | and left right ihl ihr | or left right ihl ihr =>
    rw [write] at h
    obtain ⟨-, p₁, -, h⟩ := bind_eq_ok h
    obtain ⟨n₂, p₂, hl, h⟩ := bind_eq_ok h
    obtain ⟨-, p₃, -, h⟩ := bind_eq_ok h
    obtain ⟨n₄, p₄, hr, -⟩ := bind_eq_ok h
    exact Naming.maps_append.2 ⟨ihl hl, ihr hr⟩
  | inList negated g values =>
    rw [write, inList] at h
    obtain ⟨text, p₁, hc, -⟩ := bind_eq_ok h
    intro f hf
    obtain rfl := List.mem_singleton.1 hf
    exact isSome_of_column hc
  | isNull negated g | contains negated g text =>
    rw [write] at h
    obtain ⟨text, p₁, hc, -⟩ := bind_eq_ok h
    intro f hf
    obtain rfl := List.mem_singleton.1 hf
    exact isSome_of_column hc

/-- What is written to its end, is written as the constraint says. -/
theorem write_eq_ok {naming : Naming} {c : Constraint} {next m : Nat} {p p' : Predicate}
    (h : write naming next c p = (.ok m, p')) :
    m = next + c.parameterCount ∧
      p' = p.extend (c.text naming) (numbered next c.leaves)
        (tablesOf naming c.referencedFields) := by
  rw [write_of_mapped (mapped_of_write h)] at h
  cases h
  exact ⟨rfl, rfl⟩

/-- The predicate that holds a constraint's text, its placeholders and its tables. -/
def written (naming : Naming) (next : Nat) (c : Constraint) : Predicate :=
  ⟨c.text naming, numbered next c.leaves, (tablesOf naming c.referencedFields).foldl mention []⟩

/-- A constraint has a predicate if its columns exist, and then it is what is written. -/
theorem ofConstraint_eq_ok_iff {naming : Naming} {c : Constraint} {next : Nat} {p : Predicate} :
    ofConstraint naming next c = .ok p ↔
      naming.Maps c.referencedFields ∧ p = written naming next c := by
  constructor
  · intro h
    rw [ofConstraint] at h
    split at h
    · next m p' hw =>
      obtain rfl := Except.ok.inj h
      refine ⟨mapped_of_write hw, ?_⟩
      rw [(write_eq_ok hw).2]
      simp [extend, empty, written]
    · cases h
  · rintro ⟨h, rfl⟩
    have hw := write_of_mapped h next empty
    rw [ofConstraint]
    split
    · next m p' hw' =>
      obtain ⟨-, rfl⟩ := Prod.mk.inj (hw.symm.trans hw')
      simp [extend, empty, written]
    · next e p' hw' => cases hw.symm.trans hw'

end Predicate

end EntityQuery
