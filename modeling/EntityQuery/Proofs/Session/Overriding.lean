import EntityQuery.Proofs.Session.Assigning

/-!
# Rows with values of their own

A row of a bulk request has values for some of the fields that the request assigns. They take the place
of the sources of these fields, for this row.

* `exists_overrideValues_iff`: a row is taken if all its values are for fields that are assigned, and are
  accepted by the kinds of these fields;
* `Assignments.LastOf.overrideValues`: behind the sources that a builder was given, the values of the row
  are the last ones.
-/

namespace EntityQuery

/-! ## Rows that are taken -/

/-- The values of a row as sources. -/
def literalsOf (row : List (Field × Value)) : Assignments :=
  row.map fun cell => (cell.1, .literal cell.2)

theorem lastFor_literalsOf (f : Field) (row : List (Field × Value)) :
    lastFor f (literalsOf row) = (lastFor f row).map .literal :=
  lastFor_map f (fun _ v => Accessor.literal v) row

theorem checkedLiteral_eq_ok_iff {f : Field} {v : Value} {source : Accessor} :
    checkedLiteral f v = .ok source ↔
      source = .literal v ∧ v.isNull = false ∧ f.kind.accepts v = true := by
  rw [checkedLiteral]
  cases hnull : v.isNull with
  | true =>
    rw [if_pos rfl]
    constructor
    · intro h
      cases h
    · rintro ⟨-, h, -⟩
      cases h
  | false =>
    rw [if_neg Bool.false_ne_true]
    split
    · next haccepts =>
      refine ⟨fun h => ⟨(Except.ok.inj h).symm, rfl, haccepts⟩, ?_⟩
      rintro ⟨rfl, -⟩
      rfl
    · next haccepts =>
      refine ⟨fun h => ?_, fun h => absurd h.2.2 haccepts⟩
      cases h

/-- The values of a row are for these fields, and their kinds accept them. -/
def Taken (fields : List Field) (row : List (Field × Value)) : Prop :=
  ∀ cell ∈ row, cell.1 ∈ fields ∧ cell.2.isNull = false ∧ cell.1.kind.accepts cell.2 = true

instance (fields : List Field) (row : List (Field × Value)) : Decidable (Taken fields row) :=
  inferInstanceAs (Decidable (∀ cell ∈ row, _))

theorem taken_cons {fields : List Field} {cell : Field × Value} {row : List (Field × Value)} :
    Taken fields (cell :: row) ↔
      (cell.1 ∈ fields ∧ cell.2.isNull = false ∧ cell.1.kind.accepts cell.2 = true) ∧
        Taken fields row := List.forall_mem_cons

section Override

variable {values : Assignments}

/-- The first value of a row is taken, and then the others. -/
theorem overrideValues_cons {f : Field} {v : Value} {row : List (Field × Value)} {values' : Assignments} :
    overrideValues values ((f, v) :: row) = .ok values' ↔
      (f ∈ values.map Prod.fst ∧ v.isNull = false ∧ f.kind.accepts v = true) ∧
        overrideValues ((overrideValue f (.literal v) values).getD values) row = .ok values' := by
  have hany : values.any (·.1 == f) = true ↔ f ∈ values.map Prod.fst := by
    simp [List.any_eq_true, List.mem_map, beq_iff_eq]
  rw [overrideValues]
  by_cases hf : f ∈ values.map Prod.fst
  · rw [if_pos (hany.2 hf)]
    constructor
    · intro h
      obtain ⟨source, hsource, h⟩ := ok_of_bind h
      obtain ⟨rfl, haccepted⟩ := checkedLiteral_eq_ok_iff.1 hsource
      exact ⟨⟨hf, haccepted⟩, h⟩
    · rintro ⟨⟨-, haccepted⟩, h⟩
      exact (except_bind_of_ok (checkedLiteral_eq_ok_iff.2 ⟨rfl, haccepted⟩)).trans h
  · rw [if_neg (mt hany.1 hf)]
    refine ⟨fun h => ?_, fun h => absurd h.1.1 hf⟩
    cases h

/-- A row is taken if all its values are. -/
theorem exists_overrideValues_iff {row : List (Field × Value)} :
    (∃ values', overrideValues values row = .ok values') ↔ Taken (values.map Prod.fst) row := by
  induction row generalizing values with
  | nil => exact iff_of_true ⟨values, rfl⟩ fun _ h => absurd h List.not_mem_nil
  | cons cell row ih =>
    rcases cell with ⟨f, v⟩
    simp only [overrideValues_cons, exists_and_left, taken_cons]
    refine and_congr_right fun haccepted => ?_
    obtain ⟨values₁, hvalues₁, hfields, -⟩ := overrideValue_of_mem haccepted.1 (.literal v)
    rw [ih, hvalues₁, Option.getD_some, hfields]

/-- The values of a row are the last sources of their fields. -/
theorem Assignments.LastOf.overrideValues {sources values' : Assignments} {row : List (Field × Value)}
    (h : values.LastOf sources) (hrow : overrideValues values row = .ok values') :
    values'.LastOf (sources ++ literalsOf row) := by
  induction row generalizing values sources with
  | nil =>
    cases hrow
    exact (List.append_nil sources).symm ▸ h
  | cons cell row ih =>
    rcases cell with ⟨f, v⟩
    obtain ⟨⟨hf, -⟩, hrest⟩ := overrideValues_cons.1 hrow
    obtain ⟨values₁, hvalues₁, -⟩ := overrideValue_of_mem hf (.literal v)
    -- a builder would keep the value in the same way
    have hset := h.setSource (b := ⟨f.entity, .insert, values⟩) f (.literal v)
    rw [MutationBuilder.setSource] at hset
    rw [hvalues₁] at hset hrest
    have hlast := ih hset hrest
    rwa [List.append_assoc] at hlast

end Override

namespace Assignments.LastOf

variable {values sources : Assignments} (h : values.LastOf sources)
include h

/-- Whether a row is taken can be told from all sources that were given. -/
theorem exists_overrideValues_iff {row : List (Field × Value)} :
    (∃ values', EntityQuery.overrideValues values row = .ok values') ↔
      Taken (sources.map Prod.fst) row := by
  rw [EntityQuery.exists_overrideValues_iff]
  exact forall₂_congr fun _ _ => and_congr_left' h.mem_fields_iff

end Assignments.LastOf

/-! ## Builders -/

/-- Sets the sources of fields, one after the other. -/
def MutationBuilder.setSources (b : MutationBuilder) (sources : List (Field × Accessor)) :
    MutationBuilder := sources.foldl (fun b p => b.setSource p.1 p.2) b

/-- A builder of an insert keeps the last source of each field. -/
theorem MutationBuilder.insert_setSources (e : Entity) (sources : List (Field × Accessor)) :
    ∃ values, (insert e).setSources sources = ⟨e, .insert, values⟩ ∧
      Assignments.LastOf values sources := by
  induction sources using List.reverseRecOn with
  | nil => exact ⟨[], rfl, .nil⟩
  | append_singleton sources p ih =>
    obtain ⟨values, hset, hlast⟩ := ih
    refine ⟨_, ?_, hlast.setSource (b := ⟨e, .insert, values⟩) p.1 p.2⟩
    rw [setSources, List.foldl_append, List.foldl_cons, List.foldl_nil]
    exact congrArg (·.setSource p.1 p.2) hset

end EntityQuery
