import EntityQuery.Proofs.Request.Handles
import EntityQuery.Proofs.Request.ReadBack
import EntityQuery.Proofs.Storage.EntityTables

/-!
# What selections compile to

A selection that compiles leaves out the fields without column, so it is written like its trimmed form
(`Selection.written_trimmed`). Of a selection all of whose fields are mapped, among entities whose names
are told apart, everything can be said in terms of its fields:

* it compiles if its handles are free (`Selection.compile_ok`), and every field has its result column;
* it is read back as a query with one table for each entity (`Selection.Mapped.image_eq`).

A bare selection asks for mapped fields under a condition, and for nothing else.
-/

namespace EntityQuery

open Sql

/-! ## Entities -/

/-- Induction along the dropping of repetitions: behind an item, those that are the same are gone. -/
theorem induction_of_repetitions {α : Type} [BEq α] {p : List α → Prop} (nil : p [])
    (cons : ∀ x xs, p (xs.filter fun y => !y == x) → p (x :: xs)) (xs : List α) : p xs := by
  induction hn : xs.length using Nat.strongRecOn generalizing xs with
  | ind n ih =>
    cases xs with
    | nil => exact nil
    | cons x xs =>
      rw [List.length_cons] at hn
      have hle := List.length_filter_le (fun y => !y == x) xs
      exact cons x xs (ih _ (by omega) _ rfl)

theorem nodup_eraseDups {α : Type} [BEq α] [LawfulBEq α] (xs : List α) : xs.eraseDups.Nodup := by
  induction xs using induction_of_repetitions with
  | nil => exact List.nodup_nil
  | cons x xs ih =>
    rw [List.eraseDups_cons, List.nodup_cons, List.mem_eraseDups]
    refine ⟨?_, ih⟩
    simp

/-- Dropping repetitions commutes with a map that tells the items apart. -/
theorem eraseDups_map {α β : Type} [BEq α] [LawfulBEq α] [BEq β] [LawfulBEq β] {f : α → β}
    {xs : List α} (h : ∀ x ∈ xs, ∀ y ∈ xs, f x = f y → x = y) :
    (xs.map f).eraseDups = xs.eraseDups.map f := by
  induction xs using induction_of_repetitions with
  | nil => rfl
  | cons x xs ih =>
    have hfilter : (xs.map f).filter (fun b => !b == f x) =
        (xs.filter fun y => !y == x).map f := by
      rw [List.filter_map]
      congr 1
      refine List.filter_congr fun y hy => ?_
      have hiff : f y = f x ↔ y = x :=
        ⟨h y (List.mem_cons_of_mem _ hy) x List.mem_cons_self, congrArg f⟩
      rw [Function.comp_apply]
      by_cases hyx : y = x
      · rw [beq_iff_eq.2 hyx, beq_iff_eq.2 (hiff.2 hyx)]
      · rw [beq_eq_false_iff_ne.2 hyx, beq_eq_false_iff_ne.2 (mt hiff.1 hyx)]
    have hmem : ∀ y ∈ xs.filter fun y => !y == x, y ∈ x :: xs :=
      fun y hy => List.mem_cons_of_mem _ (List.mem_filter.1 hy).1
    rw [List.map_cons, List.eraseDups_cons, hfilter, List.eraseDups_cons, List.map_cons,
      ih fun y hy z hz => h y (hmem y hy) z (hmem z hz)]

/-- The fields that a selection reads: those it selects, then those of its condition. -/
def Selection.fieldsRead (s : Selection) : List Field :=
  s.fields.map Prod.fst ++ conditionFields s.constraint

/-- The entities of a selection in the order of their first mention. -/
def Selection.entities (s : Selection) : List Entity := (s.fieldsRead.map (·.entity)).eraseDups

theorem Selection.mem_entities {s : Selection} {f : Field} (h : f ∈ s.fieldsRead) :
    f.entity ∈ s.entities := List.mem_eraseDups.2 (List.mem_map_of_mem h)

theorem Naming.Tells.mono {naming : Naming} {es es' : List Entity} (h : naming.Tells es)
    (hsub : ∀ e ∈ es', e ∈ es) : naming.Tells es' where
  table_ascii e he := h.table_ascii e (hsub e he)
  table_word e he := h.table_word e (hsub e he)
  column_word f hf := h.column_word f (hsub _ hf)
  table_distinct e he e' he' := h.table_distinct e (hsub e he) e' (hsub e' he')
  column_distinct f g hf := h.column_distinct f g (hsub _ hf)

/-- Names that are told apart can be read. -/
theorem Naming.Tells.readable {naming : Naming} {es : List Entity} (h : naming.Tells es)
    {fields : List Field} (hfields : ∀ f ∈ fields, f.entity ∈ es) : naming.Readable fields := by
  intro f hf
  have he := hfields f hf
  refine ⟨(isName_of_tokenize (h.table_word _ he)).1, fun c hc => ?_⟩
  exact (isName_of_tokenize (h.column_word f he c hc)).1

/-! ## Compiling -/

theorem resolveColumn_ok {naming : Naming} {strict : Bool} {f : Field}
    (h : strict = true → (naming.columnName f).isSome) :
    resolveColumn naming strict f = .ok (naming.columnName f) := by
  rw [resolveColumn]
  cases hcolumn : naming.columnName f with
  | some column => rfl
  | none =>
    cases strict with
    | false => rfl
    | true =>
      rw [hcolumn] at h
      cases h rfl

theorem columnsFrom_ok {naming : Naming} {strict : Bool} {slots : Slots}
    {fields : List (Field × ColumnHandle)}
    (hstrict : strict = true → naming.Maps (fields.map Prod.fst))
    (hfree : ∀ c ∈ selectedColumns naming fields, slots.index? c.handle = none) (index : Nat) :
    Selection.columnsFrom naming strict slots index fields = .ok (selectedColumns naming fields) := by
  induction fields generalizing index with
  | nil => rfl
  | cons p fields ih =>
    rcases p with ⟨f, handle⟩
    have hresolve : resolveColumn naming strict f = .ok (naming.columnName f) :=
      resolveColumn_ok fun h => hstrict h f List.mem_cons_self
    have hrest := ih fun h g hg => hstrict h g (List.mem_cons_of_mem _ hg)
    rw [Selection.columnsFrom, hresolve]
    cases hcolumn : naming.columnName f with
    | none =>
      have hsame : selectedColumns naming ((f, handle) :: fields) = selectedColumns naming fields := by
        simp [selectedColumns, hcolumn]
      rw [hsame] at hfree ⊢
      exact hrest hfree index
    | some column =>
      have hcons : selectedColumns naming ((f, handle) :: fields) =
          ⟨f, handle, naming.tableName f.entity, column⟩ :: selectedColumns naming fields := by
        simp [selectedColumns, hcolumn]
      rw [hcons] at hfree ⊢
      have hcheck : slots.check handle index = .ok () := by
        rw [Slots.check, hfree _ List.mem_cons_self]
      simp only [bind, Except.bind, hcheck,
        hrest (fun c hc => hfree c (List.mem_cons_of_mem _ hc)) (index + 1)]
      rfl

theorem orderTexts_ok {naming : Naming} {strict : Bool} {orders : List (Field × Direction)}
    (hstrict : strict = true → naming.Maps (orders.map Prod.fst)) :
    Selection.orderTexts naming strict orders = .ok ((orderKeys naming orders).map orderText) := by
  have htexts := mapM_of_ok
    (f := fun key : Field × Direction => do
      return (← resolveColumn naming strict key.1).map (· ++ " " ++ key.2.keyword))
    (g := fun key => (naming.columnName key.1).map (· ++ " " ++ key.2.keyword))
    fun key (hkey : key ∈ orders) => by
      have hresolve : resolveColumn naming strict key.1 = .ok (naming.columnName key.1) :=
        resolveColumn_ok fun h => hstrict h key.1 (List.mem_map_of_mem hkey)
      simp only [hresolve]
      rfl
  obtain ⟨texts, hall⟩ : ∃ texts, Selection.orderTexts naming strict orders = .ok texts := by
    exact ⟨_, except_bind_of_ok htexts⟩
  rw [hall, orderTexts_eq_ok hall]

/-- A selection compiles if its condition is mapped, some selected field is, and the handles of those
that are have no column yet. -/
theorem Selection.compile_ok {naming : Naming} {strict : Bool} {slots : Slots} {s : Selection}
    (hstrict : strict = true → naming.Maps (s.fields.map Prod.fst) ∧ naming.Maps (s.orders.map Prod.fst))
    (hcondition : naming.Maps (conditionFields s.constraint))
    (hne : selectedColumns naming s.fields ≠ [])
    (hfree : slots.Free (s.written naming).columns) :
    s.compile naming strict slots =
      (.ok (s.written naming), (assignFrom 1 (s.written naming).columns slots).2) := by
  have hcolumns := columnsFrom_ok (fun h => (hstrict h).1)
    (fun c hc => hfree.unassigned (c.field, c.handle) (List.mem_map.2 ⟨c, hc, rfl⟩)) 1
  have hpredicate : s.constraint.mapM (Predicate.ofConstraint naming 1) =
      .ok (s.constraint.map (Predicate.written naming 1)) :=
    mapM_ofConstraint_eq_ok_iff.2 ⟨hcondition, rfl⟩
  have horders := orderTexts_ok fun h => (hstrict h).2
  obtain ⟨compiled, hplan⟩ : ∃ compiled, s.plan naming strict slots = .ok compiled := by
    have hfields : s.fields.isEmpty = false := by
      cases hs : s.fields with
      | nil =>
        rw [hs] at hne
        exact absurd rfl hne
      | cons p fields => rfl
    have hcolumns' : (selectedColumns naming s.fields).isEmpty = false := by simpa using hne
    unfold plan
    simp only [bind, Except.bind, hfields, hcolumns, hcolumns', hpredicate, horders]
    exact ⟨_, rfl⟩
  obtain ⟨-, -, rfl⟩ := plan_eq_ok hplan
  have hcompiled : (ExceptT.mk (return s.plan naming strict (← get)) :
      ExceptT QueryError (StateM Slots) CompiledSelect) slots = (.ok (s.written naming), slots) :=
    congrArg (·, slots) hplan
  obtain ⟨slots', hassign, -⟩ := assignFrom_of_free hfree 1
  rw [hassign]
  exact (bind_of_ok hcompiled).trans (bind_of_ok hassign)

/-! ## Fields without column -/

/-- The selection without the selected fields and sort keys that have no column. -/
def Selection.trimmed (naming : Naming) (s : Selection) : Selection :=
  { s with
    fields := s.fields.filter fun p => (naming.columnName p.1).isSome
    orders := s.orders.filter fun p => (naming.columnName p.1).isSome }

theorem filterMap_filter_of_isSome {α β γ : Type} (column : α → Option β) (g : α → β → γ)
    (xs : List α) :
    (xs.filter fun x => (column x).isSome).filterMap (fun x => (column x).map (g x)) =
      xs.filterMap fun x => (column x).map (g x) := by
  induction xs with
  | nil => rfl
  | cons x xs ih =>
    cases hcolumn : column x with
    | none => simpa [hcolumn] using ih
    | some b => simpa [hcolumn] using ih

theorem selectedColumns_trimmed (naming : Naming) (s : Selection) :
    selectedColumns naming (s.trimmed naming).fields = selectedColumns naming s.fields :=
  filterMap_filter_of_isSome (fun p : Field × ColumnHandle => naming.columnName p.1) _ s.fields

theorem orderKeys_trimmed (naming : Naming) (s : Selection) :
    orderKeys naming (s.trimmed naming).orders = orderKeys naming s.orders :=
  filterMap_filter_of_isSome (fun p : Field × Direction => naming.columnName p.1) _ s.orders

/-- A selection is written like its trimmed form. -/
theorem Selection.written_trimmed (naming : Naming) (s : Selection) :
    (s.trimmed naming).written naming = s.written naming := by
  have hfields := selectedColumns_trimmed naming s
  have horders := orderKeys_trimmed naming s
  simp only [written, isDistinct, tables, hfields, horders]
  rfl

/-! ## Mapped fields -/

/-- A selection of mapped fields, whose condition and sort keys are mapped too. -/
structure Selection.Mapped (naming : Naming) (s : Selection) : Prop where
  /-- a field is selected -/
  selects : s.fields ≠ []
  /-- every field has a column -/
  mapped : naming.Maps s.fieldsNamed

/-- The query of a bare selection: the columns of its fields, and one table for each entity. -/
def Selection.query (naming : Naming) (s : Selection) : Select where
  distinct := false
  items := (s.fields.map Prod.fst).map fun f => .expr (naming.image f)
  tables := s.entities.map naming.tableName
  filter := s.constraint.map (·.image naming 1)
  order := []
  limit := none

/-- A sort key as the statement has it, without its table. -/
def Naming.orderItem (naming : Naming) (key : Field × Direction) : OrderItem :=
  ⟨.column (naming.columnIdent key.1), key.2⟩

/-- The query of a selection. -/
def Selection.statement (naming : Naming) (s : Selection) : Select :=
  { s.query naming with
    distinct := s.isDistinct naming
    order := s.orders.map naming.orderItem
    limit := s.top }

/-- The columns of mapped fields. -/
theorem selectedColumns_of_maps {naming : Naming} {fields : List (Field × ColumnHandle)}
    (h : naming.Maps (fields.map Prod.fst)) :
    selectedColumns naming fields = fields.map fun p =>
      ⟨p.1, p.2, naming.tableName p.1.entity, naming.columnText p.1⟩ := by
  induction fields with
  | nil => rfl
  | cons p fields ih =>
    rcases p with ⟨f, handle⟩
    obtain ⟨column, hcolumn⟩ := Option.isSome_iff_exists.1 (h f List.mem_cons_self)
    have hrest := ih fun g hg => h g (List.mem_cons_of_mem _ hg)
    rw [List.map_cons, ← hrest]
    simp only [selectedColumns, List.filterMap_cons, hcolumn, Naming.columnText]
    rfl

/-- The sort keys of mapped fields. -/
theorem orderKeys_of_maps {naming : Naming} {orders : List (Field × Direction)}
    (h : naming.Maps (orders.map Prod.fst)) :
    orderKeys naming orders = orders.map fun p => (naming.columnText p.1, p.2) := by
  induction orders with
  | nil => rfl
  | cons p orders ih =>
    obtain ⟨column, hcolumn⟩ := Option.isSome_iff_exists.1 (h p.1 List.mem_cons_self)
    have hrest := ih fun g hg => h g (List.mem_cons_of_mem _ hg)
    rw [List.map_cons, ← hrest]
    simp only [orderKeys, List.filterMap_cons, hcolumn, Naming.columnText]
    rfl

namespace Selection.Mapped

variable {naming : Naming} {s : Selection} (h : s.Mapped naming)
include h

theorem mapped_read : naming.Maps s.fieldsRead := (Naming.maps_append.1 h.mapped).1

theorem mapped_orders : naming.Maps (s.orders.map Prod.fst) := (Naming.maps_append.1 h.mapped).2

theorem mapped_fields : naming.Maps (s.fields.map Prod.fst) := (Naming.maps_append.1 h.mapped_read).1

theorem mapped_condition : naming.Maps (conditionFields s.constraint) :=
  (Naming.maps_append.1 h.mapped_read).2

/-- Nothing is left out of it. -/
theorem trimmed_eq : s.trimmed naming = s := by
  have hfields : s.fields.filter (fun p => (naming.columnName p.1).isSome) = s.fields :=
    List.filter_eq_self.2 fun p hp => h.mapped_fields p.1 (List.mem_map_of_mem hp)
  have horders : s.orders.filter (fun p => (naming.columnName p.1).isSome) = s.orders :=
    List.filter_eq_self.2 fun p hp => h.mapped_orders p.1 (List.mem_map_of_mem hp)
  rw [trimmed, hfields, horders]

theorem selectedColumns_ne : selectedColumns naming s.fields ≠ [] := by
  rw [selectedColumns_of_maps h.mapped_fields]
  exact fun hnil => h.selects (List.map_eq_nil_iff.1 hnil)

/-- Every selected field has its result column. -/
theorem columns_written : (s.written naming).columns = s.fields := by
  change (selectedColumns naming s.fields).map (fun c => (c.field, c.handle)) = s.fields
  rw [selectedColumns_of_maps h.mapped_fields, List.map_map]
  exact List.map_id _

/-- The selection is written with the tables of its entities, in their order. -/
theorem tables_eq (htells : naming.Tells s.entities) :
    s.tables naming = s.entities.map naming.tableName := by
  have hnames : (selectedColumns naming s.fields).map (·.table) ++
      Predicate.tablesOf naming (conditionFields s.constraint) =
        (s.fieldsRead.map (·.entity)).map naming.tableName := by
    rw [selectedColumns_of_maps h.mapped_fields, fieldsRead, List.map_append, List.map_append,
      Predicate.tablesOf]
    simp only [List.map_map]
    rfl
  rw [tables, hnames, entities]
  -- different entities have different tables, so dropping repeated names drops repeated entities
  refine eraseDups_map fun e he e' he' hsame => ?_
  refine htells.table_distinct e (List.mem_eraseDups.2 he) e' (List.mem_eraseDups.2 he') ?_
  rw [hsame]
  exact Text.sameName_self _

/-- The selection is read back as its query. -/
theorem image_eq (htells : naming.Tells s.entities) :
    s.image naming = .select (s.statement naming) := by
  have hitems : (selectedColumns naming s.fields).map (·.image) =
      (s.fields.map Prod.fst).map fun f => .expr (naming.image f) := by
    rw [selectedColumns_of_maps h.mapped_fields, List.map_map, List.map_map]
    rfl
  have htables : (s.tables naming).map nameOf = s.entities.map naming.tableName := by
    rw [h.tables_eq htells, List.map_map]
    exact List.map_congr_left fun e he => (isName_of_tokenize (htells.table_word e he)).2
  have horders : (orderKeys naming s.orders).map orderImage = s.orders.map naming.orderItem := by
    rw [orderKeys_of_maps h.mapped_orders, List.map_map]
    rfl
  rw [image, hitems, htables, horders]
  rfl

/-- The text of the selection is parsed as its image. -/
theorem parse_sql (htells : naming.Tells s.entities)
    (horders : ∀ p ∈ s.orders, p.1.entity ∈ s.entities) (htop : ∀ n ∈ s.top, n < UInt64.size) :
    parse (s.written naming).sql = .ok ⟨s.image naming, conditionCount s.constraint⟩ := by
  have hreadable : naming.Readable s.fieldsNamed := by
    refine htells.readable fun f hf => ?_
    rcases List.mem_append.1 hf with hf | hf
    · exact mem_entities hf
    · obtain ⟨p, hp, rfl⟩ := List.mem_map.1 hf
      exact horders p hp
  exact parse_written h.selectedColumns_ne h.mapped_condition hreadable htop

end Selection.Mapped

/-- What is left of a selection that compiles is mapped. -/
theorem Selection.mapped_trimmed {naming : Naming} {s : Selection}
    (hcondition : naming.Maps (conditionFields s.constraint))
    (hne : selectedColumns naming s.fields ≠ []) : (s.trimmed naming).Mapped naming := by
  refine ⟨fun hnil => hne ?_, ?_⟩
  · rw [← selectedColumns_trimmed, hnil]
    rfl
  · refine Naming.maps_append.2 ⟨Naming.maps_append.2 ⟨?_, hcondition⟩, ?_⟩
    · intro f hf
      obtain ⟨p, hp, rfl⟩ := List.mem_map.1 hf
      exact (List.mem_filter.1 hp).2
    · intro f hf
      obtain ⟨p, hp, rfl⟩ := List.mem_map.1 hf
      exact (List.mem_filter.1 hp).2

/-! ## Bare selections -/

/-- A selection of mapped fields under a condition, and nothing else. -/
structure Selection.Bare (naming : Naming) (s : Selection) : Prop where
  /-- a field is selected -/
  selects : s.fields ≠ []
  /-- every field has a column -/
  mapped : naming.Maps s.fieldsRead
  /-- rows are not sorted -/
  unsorted : s.orders = []
  /-- rows are not limited -/
  unlimited : s.top = none
  /-- repeated rows stay -/
  repeats : s.distinct = []

namespace Selection.Bare

variable {naming : Naming} {s : Selection} (h : s.Bare naming)
include h

theorem toMapped : s.Mapped naming := by
  refine ⟨h.selects, Naming.maps_append.2 ⟨h.mapped, ?_⟩⟩
  rw [h.unsorted]
  exact fun f hf => absurd hf List.not_mem_nil

/-- A bare selection is read back as its query. -/
theorem image_eq (htells : naming.Tells s.entities) :
    s.image naming = .select (s.query naming) := by
  have hdistinct : s.isDistinct naming = false := by
    rw [isDistinct, h.repeats]
    simp
  rw [h.toMapped.image_eq htells, statement, hdistinct, h.unsorted, h.unlimited]
  rfl

/-- The text of a bare selection is parsed as its image. -/
theorem parse_sql (htells : naming.Tells s.entities) :
    parse (s.written naming).sql = .ok ⟨s.image naming, conditionCount s.constraint⟩ := by
  refine h.toMapped.parse_sql htells ?_ ?_
  · rw [h.unsorted]
    exact fun p hp => absurd hp List.not_mem_nil
  · rw [h.unlimited]
    exact fun n hn => nomatch hn

end Selection.Bare

end EntityQuery
