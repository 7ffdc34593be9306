import EntityQuery.Proofs.Request.Writing
import EntityQuery.Request.Mutation

/-!
# What a compiled request is

A request that compiles leaves out the fields without column and keeps everything else. These lemmas
say what it is then, in terms of the names of the fields that are kept:

* `selectedColumns`, `assignedOnes` and `orderKeys` are the parts that are kept;
* `Selection.plan_eq_ok`, `compileInsert_eq_ok`, `compileUpdate_eq_ok` and `compileDelete_eq_ok`
  give text, placeholders and the rest;
* `Compiles.placeholders_eq`: the placeholders of a compiled request belong to its assignments and to
  its condition, numbered from 1.
-/

namespace EntityQuery

/-! ## Fields that are kept -/

/-- A resolved field has the column of the naming. -/
theorem resolveColumn_eq_ok {naming : Naming} {strict : Bool} {f : Field} {column : Option String}
    (h : resolveColumn naming strict f = .ok column) : column = naming.columnName f := by
  rw [resolveColumn] at h
  split at h
  · next hc => rw [hc, Except.ok.inj h]
  · next hc =>
    split at h
    · cases h
    · rw [hc, Except.ok.inj h]

/-- The selected fields that have a column. -/
def selectedColumns (naming : Naming) (fields : List (Field × ColumnHandle)) :
    List SelectedColumn :=
  fields.filterMap fun (f, handle) =>
    (naming.columnName f).map fun column => ⟨f, handle, naming.tableName f.entity, column⟩

/-- The assignments that have a column. -/
def assignedOnes (naming : Naming) (values : Assignments) : List AssignedColumn :=
  values.filterMap fun (f, source) => (naming.columnName f).map (⟨·, f, source⟩)

/-- The sort keys that have a column, with their columns. -/
def orderKeys (naming : Naming) (orders : List (Field × Direction)) : List (String × Direction) :=
  orders.filterMap fun (f, direction) => (naming.columnName f).map (·, direction)

/-- A sort key as text. -/
def orderText (key : String × Direction) : String := key.1 ++ " " ++ key.2.keyword

theorem columnsFrom_eq_ok {naming : Naming} {strict : Bool} {slots : Slots} {index : Nat}
    {fields : List (Field × ColumnHandle)} {columns : List SelectedColumn}
    (h : Selection.columnsFrom naming strict slots index fields = .ok columns) :
    columns = selectedColumns naming fields := by
  induction fields generalizing index columns with
  | nil => exact (Except.ok.inj h).symm
  | cons field rest ih =>
    rcases field with ⟨f, handle⟩
    rw [Selection.columnsFrom] at h
    obtain ⟨column, hcolumn, h⟩ := ok_of_bind h
    simp only [selectedColumns, List.filterMap_cons, ← resolveColumn_eq_ok hcolumn]
    cases column with
    | none => exact ih h
    | some column =>
      obtain ⟨-, -, h⟩ := ok_of_bind h
      obtain ⟨others, hothers, h⟩ := ok_of_bind h
      rw [← Except.ok.inj h, ih hothers]
      rfl

theorem assignedColumns_eq_ok {naming : Naming} {strict : Bool} {values : Assignments}
    {columns : List AssignedColumn} (h : assignedColumns naming strict values = .ok columns) :
    columns = assignedOnes naming values ∧ columns ≠ [] := by
  rw [assignedColumns] at h
  obtain ⟨resolved, hresolved, h⟩ := ok_of_bind h
  have hmap := eq_map_of_mapM (g := fun (f, source) => (naming.columnName f).map (⟨·, f, source⟩))
    (fun (f, source) _ o ho => by
      obtain ⟨column, hcolumn, ho⟩ := ok_of_bind ho
      rw [← Except.ok.inj ho, resolveColumn_eq_ok hcolumn]) hresolved
  dsimp only at h
  split at h
  · cases h
  · next hne =>
    obtain rfl := Except.ok.inj h
    refine ⟨?_, fun hnil => hne (by rw [hnil]; rfl)⟩
    rw [hmap, List.filterMap_map]
    rfl

theorem orderTexts_eq_ok {naming : Naming} {strict : Bool} {orders : List (Field × Direction)}
    {texts : List String} (h : Selection.orderTexts naming strict orders = .ok texts) :
    texts = (orderKeys naming orders).map orderText := by
  rw [Selection.orderTexts] at h
  obtain ⟨resolved, hresolved, h⟩ := ok_of_bind h
  have hmap := eq_map_of_mapM
    (g := fun (f, direction) => (naming.columnName f).map fun c => orderText (c, direction))
    (fun (f, direction) _ o ho => by
      obtain ⟨column, hcolumn, ho⟩ := ok_of_bind ho
      rw [← Except.ok.inj ho, resolveColumn_eq_ok hcolumn]
      rfl) hresolved
  rw [← Except.ok.inj h, hmap, List.filterMap_map, orderKeys, List.map_filterMap]
  congr 1
  funext ⟨f, direction⟩
  simp only [Function.comp_apply, id_eq, Option.map_map]
  rfl

/-! ## Conditions -/

/-- The owners of the placeholders of a condition. -/
def conditionLeaves (condition : Option Constraint) : List Leaf :=
  (condition.map Constraint.leaves).getD []

/-- The fields of a condition that appear as columns. -/
def conditionFields (condition : Option Constraint) : List Field :=
  (condition.map Constraint.referencedFields).getD []

/-- A condition as text. -/
def conditionText (naming : Naming) (condition : Option Constraint) : String :=
  Selection.clause " WHERE " (condition.map (·.text naming))

/-- A condition has a predicate if its columns exist, and then it is what is written. -/
theorem mapM_ofConstraint_eq_ok_iff {naming : Naming} {next : Nat} {condition : Option Constraint}
    {p : Option Predicate} :
    condition.mapM (Predicate.ofConstraint naming next) = .ok p ↔
      naming.Maps (conditionFields condition) ∧ p = condition.map (Predicate.written naming next) := by
  cases condition with
  | none =>
    constructor
    · intro h
      exact ⟨fun f hf => absurd hf List.not_mem_nil, (Except.ok.inj h).symm⟩
    · rintro ⟨-, rfl⟩
      rfl
  | some c =>
    constructor
    · intro h
      rw [Option.mapM_some] at h
      rcases hp : Predicate.ofConstraint naming next c with e | p'
      · rw [hp] at h
        cases h
      · obtain ⟨hmaps, rfl⟩ := Predicate.ofConstraint_eq_ok_iff.1 hp
        rw [hp] at h
        exact ⟨hmaps, (Except.ok.inj h).symm⟩
    · rintro ⟨hmaps, rfl⟩
      have h : Predicate.ofConstraint naming next c = .ok (.written naming next c) :=
        Predicate.ofConstraint_eq_ok_iff.2 ⟨hmaps, rfl⟩
      rw [Option.mapM_some, h]
      rfl

/-! ## Tables -/

theorem mem_mention {t table : String} {tables : List String} :
    t ∈ mention tables table ↔ t ∈ tables ∨ t = table := by
  rw [mention]
  split
  · next h =>
    constructor
    · exact Or.inl
    · rintro (ht | rfl)
      · exact ht
      · exact h
  · rw [List.mem_append, List.mem_singleton]

/-- Mentioning tables adds them and no others. -/
theorem mem_foldl_mention {t : String} {tables mentioned : List String} :
    t ∈ tables.foldl mention mentioned ↔ t ∈ mentioned ∨ t ∈ tables := by
  induction tables generalizing mentioned with
  | nil => simp
  | cons table tables ih =>
    rw [List.foldl_cons, ih, mem_mention, List.mem_cons, or_assoc]

theorem mention_of_mem {table : String} {tables : List String} (h : table ∈ tables) :
    mention tables table = tables := if_pos h

/-- Mentioning tables adds those that are new, each at its first mention. -/
theorem foldl_mention_eq (tables mentioned : List String) :
    tables.foldl mention mentioned =
      mentioned ++ (tables.filter fun t => !mentioned.contains t).eraseDups := by
  induction tables generalizing mentioned with
  | nil => simp
  | cons t tables ih =>
    rw [List.foldl_cons, ih, mention]
    by_cases ht : t ∈ mentioned
    -- a table that is there is dropped on both sides
    · rw [if_pos ht, List.filter_cons_of_neg (by simpa using ht)]
    · rw [if_neg ht, List.filter_cons_of_pos (by simpa using ht), List.eraseDups_cons,
        List.filter_filter, List.append_assoc, List.singleton_append]
      congr 4
      funext t'
      by_cases h : t' = t
      · subst h
        simp
      · simp [h]

/-- Mentioning what is already a list of mentions mentions the same. -/
theorem foldl_mention_foldl (acc us ts : List String) :
    (ts.foldl mention us).foldl mention acc = (us ++ ts).foldl mention acc := by
  induction ts generalizing us with
  | nil => rw [List.foldl_nil, List.append_nil]
  | cons t ts ih =>
    rw [List.foldl_cons, ih, List.foldl_append, List.foldl_append, List.foldl_cons]
    congr 1
    rw [mention]
    split
    · next h => exact (mention_of_mem (mem_foldl_mention.2 (Or.inr h))).symm
    · rw [List.foldl_append, List.foldl_cons, List.foldl_nil]

/-- The placeholders of a written condition. -/
theorem placeholders_written (naming : Naming) (next : Nat) (condition : Option Constraint) :
    ((condition.map (Predicate.written naming next)).map (·.placeholders)).getD [] =
      numbered next (conditionLeaves condition) := by
  cases condition <;> rfl

/-- The text of a written condition. -/
theorem sql_written (naming : Naming) (next : Nat) (condition : Option Constraint) :
    Selection.clause " WHERE " ((condition.map (Predicate.written naming next)).map (·.sql)) =
      conditionText naming condition := by
  cases condition <;> rfl

/-- The tables of a written condition, behind others. -/
theorem tables_written (naming : Naming) (next : Nat) (condition : Option Constraint)
    (tables : List String) :
    (tables ++ ((condition.map (Predicate.written naming next)).map (·.tables)).getD []).foldl
        mention [] =
      (tables ++ Predicate.tablesOf naming (conditionFields condition)).eraseDups := by
  have hmention : ((condition.map (Predicate.written naming next)).map (·.tables)).getD [] =
      (Predicate.tablesOf naming (conditionFields condition)).foldl mention [] := by
    cases condition <;> rfl
  have hall (ts : List String) : ts.foldl mention [] = ts.eraseDups := by
    rw [foldl_mention_eq, List.nil_append, List.filter_eq_self.2 (by simp)]
  rw [hmention, List.foldl_append, foldl_mention_foldl, List.nil_append, ← List.foldl_append, ← hall]

/-! ## Requests -/

/-- The tables that a selection reads: those of its columns, then those of its condition. -/
def Selection.tables (naming : Naming) (s : Selection) : List String :=
  ((selectedColumns naming s.fields).map (·.table) ++
    Predicate.tablesOf naming (conditionFields s.constraint)).eraseDups

/-- Whether a selection drops repeated rows. -/
def Selection.isDistinct (naming : Naming) (s : Selection) : Bool :=
  (selectedColumns naming s.fields).any fun c => s.distinct.contains c.field

/-- A selection in its compiled form. -/
def Selection.written (naming : Naming) (s : Selection) : CompiledSelect :=
  let columns := selectedColumns naming s.fields
  let keys := (orderKeys naming s.orders).map orderText
  { sql :=
      (if s.isDistinct naming then "SELECT DISTINCT " else "SELECT ") ++
      ", ".intercalate (columns.map fun c => c.table ++ "." ++ c.column) ++
      " FROM " ++ ", ".intercalate (s.tables naming) ++
      conditionText naming s.constraint ++
      clause " ORDER BY " (if keys.isEmpty then none else some (", ".intercalate keys)) ++
      clause " LIMIT " (s.top.map toString)
    columns := columns.map fun c => (c.field, c.handle)
    placeholders := numbered 1 (conditionLeaves s.constraint) }

/-- What is planned, is the written form of the selection. -/
theorem Selection.plan_eq_ok {naming : Naming} {strict : Bool} {slots : Slots} {s : Selection}
    {compiled : CompiledSelect} (h : s.plan naming strict slots = .ok compiled) :
    naming.Maps (conditionFields s.constraint) ∧ selectedColumns naming s.fields ≠ [] ∧
      compiled = s.written naming := by
  rw [Selection.plan] at h
  dsimp only at h
  split at h
  · cases h
  · obtain ⟨columns, hcolumns, h⟩ := ok_of_bind h
    obtain rfl := columnsFrom_eq_ok hcolumns
    split at h
    · cases h
    · next hne =>
      obtain ⟨p, hp, h⟩ := ok_of_bind h
      obtain ⟨hmaps, rfl⟩ := mapM_ofConstraint_eq_ok_iff.1 hp
      obtain ⟨texts, htexts, h⟩ := ok_of_bind h
      obtain rfl := orderTexts_eq_ok htexts
      refine ⟨hmaps, fun hnil => hne (by rw [hnil]; rfl), ?_⟩
      rw [← Except.ok.inj h, placeholders_written, sql_written, tables_written]
      rfl

/-- A selection that compiles is planned first. -/
theorem Selection.compile_eq_ok {naming : Naming} {strict : Bool} {slots slots' : Slots}
    {s : Selection} {compiled : CompiledSelect}
    (h : s.compile naming strict slots = (.ok compiled, slots')) :
    naming.Maps (conditionFields s.constraint) ∧ selectedColumns naming s.fields ≠ [] ∧
      compiled = s.written naming := by
  obtain ⟨compiled', slots₁, hplan, h⟩ := bind_eq_ok h
  obtain ⟨-, slots₂, -, h⟩ := bind_eq_ok h
  cases h
  have hplan : s.plan naming strict slots = .ok compiled := congrArg Prod.fst hplan
  exact Selection.plan_eq_ok hplan

/-- A compiled insert. -/
def insertWritten (naming : Naming) (e : Entity) (values : Assignments) : CompiledMutation :=
  let columns := assignedOnes naming values
  { sql := "INSERT INTO " ++ naming.tableName e ++
      " (" ++ ", ".intercalate (columns.map (·.column)) ++
      ") VALUES (" ++ ", ".intercalate (columns.map fun _ => "?") ++ ")"
    values := columns.map fun c => (c.field, c.source)
    constraint := none
    placeholders := assignedPlaceholders columns }

/-- A compiled update. -/
def updateWritten (naming : Naming) (e : Entity) (values : Assignments)
    (condition : Option Constraint) : CompiledMutation :=
  let columns := assignedOnes naming values
  { sql := "UPDATE " ++ naming.tableName e ++
      " SET " ++ ", ".intercalate (columns.map (·.column ++ " = ?")) ++
      conditionText naming condition
    values := columns.map fun c => (c.field, c.source)
    constraint := condition
    placeholders :=
      assignedPlaceholders columns ++ numbered (columns.length + 1) (conditionLeaves condition) }

/-- A compiled delete. -/
def deleteWritten (naming : Naming) (e : Entity) (condition : Option Constraint) :
    CompiledMutation :=
  { sql := "DELETE FROM " ++ naming.tableName e ++ conditionText naming condition
    values := []
    constraint := condition
    placeholders := numbered 1 (conditionLeaves condition) }

theorem compileInsert_eq_ok {naming : Naming} {strict : Bool} {e : Entity} {values : Assignments}
    {m : CompiledMutation} (h : compileInsert naming strict e values = .ok m) :
    assignedOnes naming values ≠ [] ∧ m = insertWritten naming e values := by
  obtain ⟨columns, hcolumns, h⟩ := ok_of_bind h
  obtain ⟨rfl, hne⟩ := assignedColumns_eq_ok hcolumns
  exact ⟨hne, (Except.ok.inj h).symm⟩

theorem compileUpdate_eq_ok {naming : Naming} {strict : Bool} {e : Entity} {values : Assignments}
    {condition : Option Constraint} {m : CompiledMutation}
    (h : compileUpdate naming strict e values condition = .ok m) :
    assignedOnes naming values ≠ [] ∧ naming.Maps (conditionFields condition) ∧
      m = updateWritten naming e values condition := by
  obtain ⟨columns, hcolumns, h⟩ := ok_of_bind h
  obtain ⟨rfl, hne⟩ := assignedColumns_eq_ok hcolumns
  obtain ⟨p, hp, h⟩ := ok_of_bind h
  obtain ⟨hmaps, rfl⟩ := mapM_ofConstraint_eq_ok_iff.1 hp
  refine ⟨hne, hmaps, ?_⟩
  rw [← Except.ok.inj h, updateWritten, placeholders_written, sql_written]

theorem compileDelete_eq_ok {naming : Naming} {e : Entity} {condition : Option Constraint}
    {m : CompiledMutation} (h : compileDelete naming e condition = .ok m) :
    naming.Maps (conditionFields condition) ∧ m = deleteWritten naming e condition := by
  obtain ⟨p, hp, h⟩ := ok_of_bind h
  obtain ⟨hmaps, rfl⟩ := mapM_ofConstraint_eq_ok_iff.1 hp
  refine ⟨hmaps, ?_⟩
  rw [← Except.ok.inj h, deleteWritten, placeholders_written, sql_written]

/-! ## Owners of placeholders -/

/-- The owners of the placeholders of assignments. -/
def assignedLeaves (values : Assignments) : List Leaf :=
  values.map fun (f, source) => ⟨f, .accessor source⟩

theorem assignedLeaves_cons (value : Field × Accessor) (values : Assignments) :
    assignedLeaves (value :: values) = ⟨value.1, .accessor value.2⟩ :: assignedLeaves values := rfl

/-- The placeholders of assignments belong to them, in order and numbered from 1. -/
theorem assignedPlaceholders_eq (columns : List AssignedColumn) :
    assignedPlaceholders columns =
      numbered 1 (assignedLeaves (columns.map fun c => (c.field, c.source))) := by
  have h (n : Nat) : (columns.zipIdx n).map (fun p => (⟨p.2 + 1, p.1.field⟩ : Placeholder)) =
      numbered (n + 1) (assignedLeaves (columns.map fun c => (c.field, c.source))) := by
    induction columns generalizing n with
    | nil => rfl
    | cons c columns ih =>
      rw [List.zipIdx_cons, List.map_cons, ih, List.map_cons, assignedLeaves_cons, numbered_cons]
  exact h 0

/-- The owners of a request's placeholders: those of its assignments, then those of its
condition. -/
def requestLeaves (values : Assignments) (condition : Option Constraint) : List Leaf :=
  assignedLeaves values ++ conditionLeaves condition

/-- The number of placeholders of a condition. -/
def conditionCount (condition : Option Constraint) : Nat :=
  (condition.map Constraint.parameterCount).getD 0

theorem length_conditionLeaves (condition : Option Constraint) :
    (conditionLeaves condition).length = conditionCount condition := by
  cases condition with
  | none => rfl
  | some c => exact c.length_leaves

theorem length_requestLeaves (values : Assignments) (condition : Option Constraint) :
    (requestLeaves values condition).length = values.length + conditionCount condition := by
  rw [requestLeaves, List.length_append, assignedLeaves, List.length_map, length_conditionLeaves]

/-- The requests that compile: assignments, condition and placeholders of the compiled form. -/
inductive Compiles (naming : Naming) (strict : Bool) :
    Assignments → Option Constraint → List Placeholder → Prop where
  /-- a select -/
  | select {s : Selection} {slots slots' : Slots} {compiled : CompiledSelect}
      (h : s.compile naming strict slots = (.ok compiled, slots')) :
      Compiles naming strict [] s.constraint compiled.placeholders
  /-- an insert -/
  | insert {e : Entity} {values : Assignments} {m : CompiledMutation}
      (h : compileInsert naming strict e values = .ok m) :
      Compiles naming strict m.values m.constraint m.placeholders
  /-- an update -/
  | update {e : Entity} {values : Assignments} {condition : Option Constraint}
      {m : CompiledMutation} (h : compileUpdate naming strict e values condition = .ok m) :
      Compiles naming strict m.values m.constraint m.placeholders
  /-- a delete -/
  | delete {e : Entity} {condition : Option Constraint} {m : CompiledMutation}
      (h : compileDelete naming e condition = .ok m) :
      Compiles naming strict m.values m.constraint m.placeholders

/-- The placeholders of a compiled request belong to its leaves, in order and numbered from 1. -/
theorem Compiles.placeholders_eq {naming : Naming} {strict : Bool} {values : Assignments}
    {condition : Option Constraint} {placeholders : List Placeholder}
    (h : Compiles naming strict values condition placeholders) :
    placeholders = numbered 1 (requestLeaves values condition) := by
  cases h with
  | select h =>
    rw [(Selection.compile_eq_ok h).2.2]
    rfl
  | insert h =>
    obtain ⟨-, rfl⟩ := compileInsert_eq_ok h
    refine (assignedPlaceholders_eq _).trans (congrArg (numbered 1) ?_)
    exact (List.append_nil _).symm
  | update h =>
    obtain ⟨-, -, rfl⟩ := compileUpdate_eq_ok h
    unfold updateWritten
    simp only [requestLeaves, assignedPlaceholders_eq, numbered_append, assignedLeaves,
      List.length_map, Nat.add_comm 1]
  | delete h =>
    obtain ⟨-, rfl⟩ := compileDelete_eq_ok h
    rfl

/-! ## Small names -/

/-- An entity with a number and a name. -/
def Entity.person : Entity :=
  ⟨0, "person", none, [⟨"id", .integer, true, none⟩, ⟨"name", .string, false, none⟩]⟩

/-- The number of a person. -/
def Field.personId : Field := ⟨.person, 0, by decide⟩

/-- The name of a person. -/
def Field.personName : Field := ⟨.person, 1, by decide⟩

/-- The entity's own name as table, and the field's own name as column. -/
def Naming.plain : Naming := ⟨(·.name), fun f => some f.name⟩

end EntityQuery
