import EntityQuery.Proofs.Request.Selecting

/-!
# What mutations compile to

A mutation assigns to the fields that have a column, so it is written as if it named no others
(`assignedOnes_columned`). Over one entity whose names are told apart, a mutation compiles, and its text
is parsed as its image:

* `compileInsert_ok`, `compileUpdate_ok` and `compileDelete_ok` are the compiled forms;
* `CompiledMutation.Reads` says which statement the text of a mutation is parsed as, with a parameter
  for each assignment and each placeholder of the condition.
-/

namespace EntityQuery

open Sql

/-! ## Assignments -/

/-- The assignments to fields that have a column. -/
def Naming.columned (naming : Naming) (values : Assignments) : Assignments :=
  values.filter fun p => (naming.columnName p.1).isSome

theorem Naming.maps_columned (naming : Naming) (values : Assignments) :
    naming.Maps ((naming.columned values).map Prod.fst) := by
  intro f hf
  obtain ⟨p, hp, rfl⟩ := List.mem_map.1 hf
  exact (List.mem_filter.1 hp).2

theorem Naming.columned_of_maps {naming : Naming} {values : Assignments}
    (h : naming.Maps (values.map Prod.fst)) : naming.columned values = values :=
  List.filter_eq_self.2 fun p hp => h p.1 (List.mem_map_of_mem hp)

theorem assignedOnes_columned (naming : Naming) (values : Assignments) :
    assignedOnes naming (naming.columned values) = assignedOnes naming values :=
  filterMap_filter_of_isSome (fun p : Field × Accessor => naming.columnName p.1) _ values

/-- The columns of mapped assignments. -/
theorem assignedOnes_of_maps {naming : Naming} {values : Assignments}
    (h : naming.Maps (values.map Prod.fst)) :
    assignedOnes naming values = values.map fun p => ⟨naming.columnText p.1, p.1, p.2⟩ := by
  induction values with
  | nil => rfl
  | cons p values ih =>
    obtain ⟨column, hcolumn⟩ := Option.isSome_iff_exists.1 (h p.1 List.mem_cons_self)
    have hrest := ih fun g hg => h g (List.mem_cons_of_mem _ hg)
    rw [List.map_cons, ← hrest]
    simp only [assignedOnes, List.filterMap_cons, hcolumn, Naming.columnText]
    rfl

/-- The columns of assignments are those of the mapped ones. -/
theorem assignedOnes_eq (naming : Naming) (values : Assignments) :
    assignedOnes naming values =
      (naming.columned values).map fun p => ⟨naming.columnText p.1, p.1, p.2⟩ := by
  rw [← assignedOnes_columned, assignedOnes_of_maps (naming.maps_columned values)]

/-- The fields with columns have their sources. -/
theorem sources_assignedOnes (naming : Naming) (values : Assignments) :
    (assignedOnes naming values).map (fun c => (c.field, c.source)) = naming.columned values := by
  rw [assignedOnes_eq, List.map_map]
  exact List.map_id _

theorem assignedColumns_ok {naming : Naming} {strict : Bool} {values : Assignments}
    (hstrict : strict = true → naming.Maps (values.map Prod.fst)) (hne : naming.columned values ≠ []) :
    assignedColumns naming strict values = .ok (assignedOnes naming values) := by
  have hcolumns := mapM_of_ok
    (f := fun value : Field × Accessor => do
      return (← resolveColumn naming strict value.1).map (AssignedColumn.mk · value.1 value.2))
    (g := fun value => (naming.columnName value.1).map (AssignedColumn.mk · value.1 value.2))
    fun value (hvalue : value ∈ values) => by
      have hresolve : resolveColumn naming strict value.1 = .ok (naming.columnName value.1) :=
        resolveColumn_ok fun h => hstrict h value.1 (List.mem_map_of_mem hvalue)
      simp only [hresolve]
      rfl
  have hall : (values.map fun value =>
      (naming.columnName value.1).map (AssignedColumn.mk · value.1 value.2)).filterMap id =
        assignedOnes naming values := List.filterMap_map
  have hsome : (assignedOnes naming values).isEmpty = false := by
    rw [assignedOnes_eq]
    simpa using hne
  refine (except_bind_of_ok hcolumns).trans ?_
  change (if (List.filterMap id _).isEmpty then _ else Except.ok (List.filterMap id _)) = _
  rw [hall, hsome]
  rfl

/-! ## Compiling -/

section Compile

variable {naming : Naming} {strict : Bool} {values : Assignments} {condition : Option Constraint}

theorem compileInsert_ok (hstrict : strict = true → naming.Maps (values.map Prod.fst))
    (hne : naming.columned values ≠ []) (e : Entity) :
    compileInsert naming strict e values = .ok (insertWritten naming e values) := by
  rw [compileInsert, assignedColumns_ok hstrict hne]
  rfl

theorem compileUpdate_ok (hstrict : strict = true → naming.Maps (values.map Prod.fst))
    (hne : naming.columned values ≠ []) (hcondition : naming.Maps (conditionFields condition))
    (e : Entity) :
    compileUpdate naming strict e values condition = .ok (updateWritten naming e values condition) := by
  have hpredicate : condition.mapM
      (Predicate.ofConstraint naming ((assignedOnes naming values).length + 1)) = .ok _ :=
    mapM_ofConstraint_eq_ok_iff.2 ⟨hcondition, rfl⟩
  obtain ⟨m, hm⟩ : ∃ m, compileUpdate naming strict e values condition = .ok m := by
    rw [compileUpdate, assignedColumns_ok hstrict hne]
    simp only [bind, Except.bind, hpredicate]
    exact ⟨_, rfl⟩
  rw [hm, (compileUpdate_eq_ok hm).2.2]

theorem compileDelete_ok (hcondition : naming.Maps (conditionFields condition)) (e : Entity) :
    compileDelete naming e condition = .ok (deleteWritten naming e condition) := by
  have hpredicate : condition.mapM (Predicate.ofConstraint naming 1) = .ok _ :=
    mapM_ofConstraint_eq_ok_iff.2 ⟨hcondition, rfl⟩
  obtain ⟨m, hm⟩ : ∃ m, compileDelete naming e condition = .ok m := by
    rw [compileDelete, hpredicate]
    exact ⟨_, rfl⟩
  rw [hm, (compileDelete_eq_ok hm).2]

end Compile

/-! ## Reading back -/

/-- The text of a compiled mutation is parsed as a statement, with a parameter for each assignment and
each placeholder of the condition. -/
structure CompiledMutation.Reads (m : CompiledMutation) (statement : Statement) : Prop where
  /-- the text is the statement -/
  parsed : parse m.sql = .ok ⟨statement, m.parameterCount⟩
  /-- every parameter has its value -/
  count : m.parameterCount = m.values.length + conditionCount m.constraint

section Reads

variable {naming : Naming} {e : Entity} {values : Assignments} {condition : Option Constraint}
  (hspells : naming.Spells e)
include hspells

theorem Naming.Spells.tableName_isName : IsName (naming.tableName e) :=
  (isName_of_tokenize hspells.table_word).1

/-- The columns of an entity's own fields can be read. -/
theorem Naming.Spells.readable_own {fields : List Field} (hown : ∀ f ∈ fields, f.entity = e) :
    naming.Readable fields := by
  intro f hf
  refine ⟨?_, fun c hc => (isName_of_tokenize (hspells.column_word f (hown f hf) c hc)).1⟩
  rw [hown f hf]
  exact hspells.tableName_isName

theorem reads_insert (hown : ∀ f ∈ values.map Prod.fst, f.entity = e)
    (hne : naming.columned values ≠ []) :
    (insertWritten naming e values).Reads (insertImage naming e values) := by
  have hones : assignedOnes naming values ≠ [] := by
    rw [assignedOnes_eq]
    simpa using hne
  have hcount := congrArg List.length (assignedPlaceholders_eq (assignedOnes naming values))
  rw [length_numbered, assignedLeaves, List.length_map, List.length_map] at hcount
  refine ⟨?_, ?_⟩
  · have hparse := parse_insertWritten hspells.tableName_isName hones (hspells.readable_own hown)
    rwa [← hcount] at hparse
  · exact hcount.trans (List.length_map _).symm

theorem reads_update (hown : ∀ f ∈ values.map Prod.fst ++ conditionFields condition, f.entity = e)
    (hne : naming.columned values ≠ []) (hcondition : naming.Maps (conditionFields condition)) :
    (updateWritten naming e values condition).Reads (updateImage naming e values condition) := by
  have hones : assignedOnes naming values ≠ [] := by
    rw [assignedOnes_eq]
    simpa using hne
  have hassigned := congrArg List.length (assignedPlaceholders_eq (assignedOnes naming values))
  rw [length_numbered, assignedLeaves, List.length_map, List.length_map] at hassigned
  have hcount : (updateWritten naming e values condition).parameterCount =
      (assignedOnes naming values).length + conditionCount condition := by
    rw [CompiledMutation.parameterCount, updateWritten, List.length_append, hassigned,
      length_numbered, length_conditionLeaves]
  refine ⟨?_, ?_⟩
  · rw [hcount]
    exact parse_updateWritten hspells.tableName_isName hones hcondition (hspells.readable_own hown)
  · rw [hcount]
    exact congrArg (· + _) (List.length_map _).symm

theorem reads_delete (hown : ∀ f ∈ conditionFields condition, f.entity = e)
    (hcondition : naming.Maps (conditionFields condition)) :
    (deleteWritten naming e condition).Reads (deleteImage naming e condition) := by
  have hcount : (deleteWritten naming e condition).parameterCount = conditionCount condition :=
    (length_numbered _ _).trans (length_conditionLeaves condition)
  refine ⟨?_, hcount.trans (Nat.zero_add _).symm⟩
  rw [hcount]
  exact parse_deleteWritten hspells.tableName_isName hcondition (hspells.readable_own hown)

end Reads

end EntityQuery
