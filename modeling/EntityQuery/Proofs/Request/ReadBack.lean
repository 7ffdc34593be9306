import EntityQuery.Proofs.Request.Clauses

/-!
# Compiled requests are read back

What a request compiles to is text, and the parser turns this text into a statement. The statement is
the image of the request: the same columns in the same order, the same tables, the image of the
condition, the same sort keys and the same limit.

* `Selection.image`, `insertImage`, `updateImage` and `deleteImage` are the images.
* `ReadsBack` says that a text is parsed as a statement whose parameters are given placeholders.
* `compiled_reads_back`: every compiled request is read back as its image.
-/

namespace EntityQuery

open Sql Sql.Reader

/-! ## Images of requests -/

/-- A selected column as an item of a selection. -/
def SelectedColumn.image (c : SelectedColumn) : SelectItem :=
  .expr (.qualified (nameOf c.table) (nameOf c.column))

/-- The statement that a selection is written as. -/
def Selection.image (naming : Naming) (s : Selection) : Statement :=
  .select
    { distinct := s.isDistinct naming
      items := (selectedColumns naming s.fields).map (·.image)
      tables := (s.tables naming).map nameOf
      filter := s.constraint.map (·.image naming 1)
      order := (orderKeys naming s.orders).map orderImage
      limit := s.top }

/-- The statement that an insert is written as. -/
def insertImage (naming : Naming) (e : Entity) (values : Assignments) : Statement :=
  let columns := assignedOnes naming values
  .insert
    { table := nameOf (naming.tableName e)
      columns := some (columns.map (nameOf ·.column))
      rows := [(List.range' 1 columns.length).map .parameter] }

/-- The statement that an update is written as. -/
def updateImage (naming : Naming) (e : Entity) (values : Assignments)
    (condition : Option Constraint) : Statement :=
  let columns := assignedOnes naming values
  .update
    { table := nameOf (naming.tableName e)
      assignments := List.zipWith (fun c i => (nameOf c.column, .parameter (i + 1))) columns
        (List.range' 0 columns.length)
      filter := condition.map (·.image naming (columns.length + 1)) }

/-- The statement that a delete is written as. -/
def deleteImage (naming : Naming) (e : Entity) (condition : Option Constraint) : Statement :=
  .delete
    { table := nameOf (naming.tableName e)
      filter := condition.map (·.image naming 1) }

/-! ## Texts of requests -/

/-- A selected column as tokens. -/
def SelectedColumn.tokens (c : SelectedColumn) : List Token :=
  [.identifier (nameOf c.table), .symbol .dot, .identifier (nameOf c.column)]

/-- A name as tokens. -/
def nameTokens (name : String) : List Token := [.identifier (nameOf name)]

/-- An assignment as tokens. -/
def AssignedColumn.tokens (c : AssignedColumn) : List Token :=
  nameTokens c.column ++ [.symbol .equal, .symbol .placeholder]

/-- A selection as tokens. -/
def Selection.tokens (naming : Naming) (s : Selection) : List Token :=
  (.keyword .SELECT :: if s.isDistinct naming then [.keyword .DISTINCT] else []) ++
    commaTokens ((selectedColumns naming s.fields).map SelectedColumn.tokens) ++ [.keyword .FROM] ++
    commaTokens ((s.tables naming).map nameTokens) ++ conditionTokens naming s.constraint ++
    orderTokens (orderKeys naming s.orders) ++ limitTokens s.top

/-- An insert as tokens. -/
def insertTokens (naming : Naming) (e : Entity) (values : Assignments) : List Token :=
  let columns := assignedOnes naming values
  [.keyword .INSERT, .keyword .INTO] ++ nameTokens (naming.tableName e) ++ [.symbol .leftParen] ++
    commaTokens (columns.map (nameTokens ·.column)) ++
    [.symbol .rightParen, .keyword .VALUES, .symbol .leftParen] ++
    commaTokens (columns.map fun _ => [.symbol .placeholder]) ++ [.symbol .rightParen]

/-- An update as tokens. -/
def updateTokens (naming : Naming) (e : Entity) (values : Assignments)
    (condition : Option Constraint) : List Token :=
  [.keyword .UPDATE] ++ nameTokens (naming.tableName e) ++ [.keyword .SET] ++
    commaTokens ((assignedOnes naming values).map AssignedColumn.tokens) ++
    conditionTokens naming condition

/-- A delete as tokens. -/
def deleteTokens (naming : Naming) (e : Entity) (condition : Option Constraint) : List Token :=
  [.keyword .DELETE, .keyword .FROM] ++ nameTokens (naming.tableName e) ++
    conditionTokens naming condition

theorem spells_nameTokens {name : String} (h : IsName name) :
    Spells Stops name.toList (nameTokens name) :=
  spells_name h fun _ h _ _ hrest => (stops_head h hrest).1

/-- The words that a statement starts with, and a blank. -/
theorem spells_opening (k : Keyword) (ks : List Keyword) :
    Spells Anything (k.text.toList ++ (words ks ++ [' '])) (.keyword k :: ks.map .keyword) := by
  have hrest := spells_spaced ks
  rw [List.append_nil] at hrest
  refine (spells_keyword k).append hrest fun rest _ => ?_
  cases ks <;> exact .inr ⟨' ', _, rfl, .inl rfl⟩

/-- Every selected column is one that the naming gives to a selected field. -/
theorem mem_selectedColumns {naming : Naming} {fields : List (Field × ColumnHandle)}
    {c : SelectedColumn} (h : c ∈ selectedColumns naming fields) :
    (c.field, c.handle) ∈ fields ∧ c.table = naming.tableName c.field.entity ∧
      naming.columnName c.field = some c.column := by
  obtain ⟨⟨f, handle⟩, hmem, h⟩ := List.mem_filterMap.1 h
  obtain ⟨column, hcolumn, rfl⟩ := Option.map_eq_some_iff.1 h
  exact ⟨hmem, rfl, hcolumn⟩

theorem mem_assignedOnes {naming : Naming} {values : Assignments} {c : AssignedColumn}
    (h : c ∈ assignedOnes naming values) :
    (c.field, c.source) ∈ values ∧ naming.columnName c.field = some c.column := by
  obtain ⟨⟨f, source⟩, hmem, h⟩ := List.mem_filterMap.1 h
  obtain ⟨column, hcolumn, rfl⟩ := Option.map_eq_some_iff.1 h
  exact ⟨hmem, hcolumn⟩

theorem mem_orderKeys {naming : Naming} {orders : List (Field × Direction)}
    {key : String × Direction} (h : key ∈ orderKeys naming orders) :
    ∃ f, (f, key.2) ∈ orders ∧ naming.columnName f = some key.1 := by
  obtain ⟨⟨f, direction⟩, hmem, h⟩ := List.mem_filterMap.1 h
  obtain ⟨column, hcolumn, rfl⟩ := Option.map_eq_some_iff.1 h
  exact ⟨f, hmem, hcolumn⟩

/-- Every table of a selection is that of a selected field or of one in the condition. -/
theorem mem_tables {naming : Naming} {s : Selection} {t : String} (h : t ∈ s.tables naming) :
    ∃ f ∈ s.fields.map Prod.fst ++ conditionFields s.constraint, t = naming.tableName f.entity := by
  rcases List.mem_append.1 (List.mem_eraseDups.1 h) with h | h
  · obtain ⟨c, hc, rfl⟩ := List.mem_map.1 h
    obtain ⟨hmem, htable, -⟩ := mem_selectedColumns hc
    exact ⟨c.field, List.mem_append_left _ (List.mem_map_of_mem hmem), htable⟩
  · obtain ⟨f, hf, rfl⟩ := List.mem_map.1 h
    exact ⟨f, List.mem_append_right _ hf, rfl⟩

/-- The fields that a selection names. -/
def Selection.fieldsNamed (s : Selection) : List Field :=
  s.fields.map Prod.fst ++ conditionFields s.constraint ++ s.orders.map Prod.fst

/-- The text of a compiled selection is read as its tokens. -/
theorem Selection.spells_sql {naming : Naming} {s : Selection}
    (hmap : naming.Maps (conditionFields s.constraint)) (hname : naming.Readable s.fieldsNamed) :
    Spells Stops (s.written naming).sql.toList (s.tokens naming) := by
  obtain ⟨hname, horders⟩ := Naming.readable_append.1 hname
  obtain ⟨hfields, hcondition⟩ := Naming.readable_append.1 hname
  have hopening : Spells Anything
      (if s.isDistinct naming then "SELECT DISTINCT " else "SELECT ").toList
      (.keyword .SELECT :: if s.isDistinct naming then [.keyword .DISTINCT] else []) := by
    cases s.isDistinct naming with
    | true => exact spells_opening .SELECT [.DISTINCT]
    | false => exact spells_opening .SELECT []
  have hcolumns : Spells Stops (", ".intercalate ((selectedColumns naming s.fields).map fun c =>
      c.table ++ "." ++ c.column)).toList
      (commaTokens ((selectedColumns naming s.fields).map SelectedColumn.tokens)) := by
    refine spells_commas fun c hc => ?_
    obtain ⟨hmem, htable, hcolumn⟩ := mem_selectedColumns hc
    obtain ⟨hreadable, hreadables⟩ := hfields c.field (List.mem_map_of_mem hmem)
    exact spells_qualified (htable ▸ hreadable) (hreadables c.column hcolumn)
  have htables : Spells Stops (", ".intercalate (s.tables naming)).toList
      (commaTokens ((s.tables naming).map nameTokens)) := by
    rw [← List.map_id (s.tables naming), List.map_map]
    refine spells_commas fun t ht => spells_nameTokens ?_
    obtain ⟨f, hf, rfl⟩ := mem_tables ht
    exact (hname f hf).1
  have hkeys : ∀ key ∈ orderKeys naming s.orders, IsName key.1 := by
    intro key hkey
    obtain ⟨f, hf, hcolumn⟩ := mem_orderKeys hkey
    exact (horders f (List.mem_map_of_mem hf)).2 key.1 hcolumn
  have hfrom : Spells Anything " FROM ".toList [.keyword .FROM] := spells_spaced [.FROM]
  have hread := ((hopening.append_closed hcolumns).append_phrase hfrom rfl).append_closed htables
  have hwhere := spells_condition hmap hcondition
  have horder := spells_order hkeys
  have hlimit := spells_limit s.top
  simp only [written, String.toList_append, tokens]
  exact spells_clause (spells_clause (spells_clause hread hwhere.1 hwhere.2) horder.1 horder.2)
    hlimit.1 hlimit.2

/-- The text of a compiled insert is read as its tokens. -/
theorem spells_insert {naming : Naming} {e : Entity} {values : Assignments}
    (htable : IsName (naming.tableName e)) (hname : naming.Readable (values.map Prod.fst)) :
    Spells Stops (insertWritten naming e values).sql.toList (insertTokens naming e values) := by
  have hcolumns : Spells Stops
      (", ".intercalate ((assignedOnes naming values).map (·.column))).toList
      (commaTokens ((assignedOnes naming values).map (nameTokens ·.column))) := by
    refine spells_commas fun c hc => spells_nameTokens ?_
    obtain ⟨hmem, hcolumn⟩ := mem_assignedOnes hc
    exact (hname c.field (List.mem_map_of_mem hmem)).2 c.column hcolumn
  have hmarks : Spells Stops (", ".intercalate ((assignedOnes naming values).map fun _ => "?")).toList
      (commaTokens ((assignedOnes naming values).map fun _ => [.symbol .placeholder])) :=
    spells_commas fun _ _ => spells_placeholder.stops
  have hopen : Spells Anything " (".toList [.symbol .leftParen] :=
    spells_space.append_closed spells_leftParen
  have hvalues : Spells Anything ") VALUES (".toList
      [.symbol .rightParen, .keyword .VALUES, .symbol .leftParen] :=
    spells_rightParen.append_closed ((spells_spaced [.VALUES]).append_closed spells_leftParen)
  have hinto : Spells Anything "INSERT INTO ".toList [.keyword .INSERT, .keyword .INTO] :=
    spells_opening .INSERT [.INTO]
  have hclose : Spells Stops ")".toList [.symbol .rightParen] := spells_rightParen.stops
  unfold insertWritten insertTokens
  simp only [String.toList_append]
  exact ((((hinto.append_closed (spells_nameTokens htable)).append_phrase hopen rfl).append_closed
    hcolumns).append_phrase hvalues rfl).append_closed hmarks |>.append_phrase hclose rfl

/-- The text of a compiled update is read as its tokens. -/
theorem spells_update {naming : Naming} {e : Entity} {values : Assignments}
    {condition : Option Constraint} (htable : IsName (naming.tableName e))
    (hmap : naming.Maps (conditionFields condition))
    (hname : naming.Readable (values.map Prod.fst ++ conditionFields condition)) :
    Spells Stops (updateWritten naming e values condition).sql.toList
      (updateTokens naming e values condition) := by
  obtain ⟨hfields, hcondition⟩ := Naming.readable_append.1 hname
  have hcolumns : Spells Stops
      (", ".intercalate ((assignedOnes naming values).map (·.column ++ " = ?"))).toList
      (commaTokens ((assignedOnes naming values).map AssignedColumn.tokens)) := by
    refine spells_commas fun c hc => ?_
    obtain ⟨hmem, hcolumn⟩ := mem_assignedOnes hc
    have hcolumn := (hfields c.field (List.mem_map_of_mem hmem)).2 c.column hcolumn
    have hmark : Spells Stops " = ?".toList [.symbol .equal, .symbol .placeholder] :=
      (spells_comparison .equal).append_closed spells_placeholder.stops
    rw [String.toList_append]
    exact (spells_nameTokens hcolumn).append_phrase hmark rfl
  have hupdate : Spells Anything "UPDATE ".toList [.keyword .UPDATE] := spells_opening .UPDATE []
  have hset : Spells Anything " SET ".toList [.keyword .SET] := spells_spaced [.SET]
  have hread := ((hupdate.append_closed (spells_nameTokens htable)).append_phrase hset
    rfl).append_closed hcolumns
  have hwhere := spells_condition hmap hcondition
  simp only [updateWritten, String.toList_append, updateTokens]
  exact spells_clause hread hwhere.1 hwhere.2

/-- The text of a compiled delete is read as its tokens. -/
theorem spells_delete {naming : Naming} {e : Entity} {condition : Option Constraint}
    (htable : IsName (naming.tableName e)) (hmap : naming.Maps (conditionFields condition))
    (hname : naming.Readable (conditionFields condition)) :
    Spells Stops (deleteWritten naming e condition).sql.toList (deleteTokens naming e condition) := by
  have hwhere := spells_condition hmap hname
  have hfrom : Spells Anything "DELETE FROM ".toList [.keyword .DELETE, .keyword .FROM] :=
    spells_opening .DELETE [.FROM]
  simp only [deleteWritten, String.toList_append, deleteTokens]
  exact spells_clause (hfrom.append_closed (spells_nameTokens htable)) hwhere.1 hwhere.2

/-! ## Reading requests -/

theorem selectItem_reads (c : SelectedColumn) (rest : List Token) (k : Nat) :
    selectItem ⟨c.tokens ++ rest, k⟩ = .ok (c.image, ⟨rest, k⟩) := rfl

theorem name_reads (name : String) (rest : List Token) (k : Nat) :
    Reader.name ⟨nameTokens name ++ rest, k⟩ = .ok (nameOf name, ⟨rest, k⟩) := rfl

theorem assignment_reads (limit : Nat) (c : AssignedColumn) (rest : List Token) (k : Nat) :
    assignment limit ⟨c.tokens ++ rest, k⟩ =
      .ok ((nameOf c.column, .parameter (k + 1)), ⟨rest, k + 1⟩) := by
  have hvalue := operand_placeholder (expression limit) rest k
  have htokens : c.tokens ++ rest =
      nameTokens c.column ++ (.symbol .equal :: ([.symbol .placeholder] ++ rest)) := by
    simp [AssignedColumn.tokens]
  rw [htokens, assignment, bind_of_read (name_reads _ _ k), bind_of_read (expect_hit _),
    bind_of_read hvalue]
  rfl

/-- The tokens of a selection are read as its image. -/
theorem Selection.reads {naming : Naming} {s : Selection}
    (hne : selectedColumns naming s.fields ≠ []) (htop : ∀ n ∈ s.top, n < UInt64.size) :
    statement (s.tokens naming).length ⟨s.tokens naming, 0⟩ =
      .ok (s.image naming, ⟨[], conditionCount s.constraint⟩) := by
  have htokens : s.tokens naming = .keyword .SELECT ::
      ((if s.isDistinct naming then [.keyword .DISTINCT] else []) ++
        (commaTokens ((selectedColumns naming s.fields).map SelectedColumn.tokens) ++ .keyword .FROM ::
          (commaTokens ((s.tables naming).map nameTokens) ++ (conditionTokens naming s.constraint ++
            (orderTokens (orderKeys naming s.orders) ++ limitTokens s.top))))) := by
    simp [tokens]
  have hlength := congrArg List.length htokens
  simp only [List.length_cons, List.length_append] at hlength
  -- from here on it only matters that the limit is at least the length of each part
  generalize (s.tokens naming).length = limit at hlength ⊢
  have htables : s.tables naming ≠ [] := by
    obtain ⟨c, hc⟩ := List.exists_mem_of_ne_nil _ hne
    exact List.ne_nil_of_mem (List.mem_eraseDups.2 (List.mem_append_left _ (List.mem_map_of_mem hc)))
  have hrest := endsCondition_order (orderKeys naming s.orders) s.top
  have hdistinct (rest : List Token) : acceptWord .DISTINCT
      ⟨(if s.isDistinct naming then [.keyword .DISTINCT] else []) ++
        (commaTokens ((selectedColumns naming s.fields).map SelectedColumn.tokens) ++ rest), 0⟩ =
      .ok (s.isDistinct naming,
        ⟨commaTokens ((selectedColumns naming s.fields).map SelectedColumn.tokens) ++ rest, 0⟩) := by
    cases s.isDistinct naming with
    | true => exact acceptWord_hit .DISTINCT
    -- without it, the first token is that of a table name
    | false =>
      refine acceptWord_miss ?_
      obtain ⟨c, cs, hcs⟩ := List.exists_cons_of_ne_nil hne
      rw [hcs]
      cases cs <;> simp [commaTokens, List.intercalate, SelectedColumn.tokens]
  have hitems (rest : List Token) : commaList selectItem limit
      ⟨commaTokens ((selectedColumns naming s.fields).map SelectedColumn.tokens) ++
        .keyword .FROM :: rest, 0⟩ =
      .ok ((selectedColumns naming s.fields).map (·.image), ⟨.keyword .FROM :: rest, 0⟩) :=
    commaList_plain hne (by omega) (fun c _ => selectItem_reads c) (by simp) 0
  have hnames : commaList Reader.name limit ⟨commaTokens ((s.tables naming).map nameTokens) ++
        (conditionTokens naming s.constraint ++
          (orderTokens (orderKeys naming s.orders) ++ limitTokens s.top)), 0⟩ =
      .ok ((s.tables naming).map nameOf, ⟨conditionTokens naming s.constraint ++
        (orderTokens (orderKeys naming s.orders) ++ limitTokens s.top), 0⟩) :=
    commaList_plain htables (by omega) (fun t _ => name_reads t)
      (head_condition naming s.constraint hrest) 0
  have hcondition : (conditionTokens naming s.constraint).length ≤ limit := by omega
  have horder : (orderTokens (orderKeys naming s.orders)).length ≤ limit := by omega
  have hlast (k : Nat) : rowLimit ⟨limitTokens s.top, k⟩ = .ok (s.top, ⟨[], k⟩) := by
    have hend : ([] : List Token).head? ≠ some (.keyword .LIMIT) := by simp
    have hread := rowLimit_reads htop hend k
    rwa [List.append_nil] at hread
  rw [htokens]
  rw [statement_select, select, bind_of_read (hdistinct _), bind_of_read (hitems _),
    bind_of_read (expect_hit _), bind_of_read hnames, bind_of_read (filter_reads hcondition hrest 0),
    bind_of_read (ordering_reads horder (head_limit s.top) _), bind_of_read (hlast _),
    Nat.zero_add, Nat.zero_add]
  rfl

/-- The tokens of an insert are read as its image. -/
theorem insert_reads {naming : Naming} {e : Entity} {values : Assignments}
    (hne : assignedOnes naming values ≠ []) :
    statement (insertTokens naming e values).length ⟨insertTokens naming e values, 0⟩ =
      .ok (insertImage naming e values, ⟨[], (assignedOnes naming values).length⟩) := by
  have htokens : insertTokens naming e values = .keyword .INSERT :: .keyword .INTO ::
      (nameTokens (naming.tableName e) ++ .symbol .leftParen ::
        (commaTokens ((assignedOnes naming values).map (nameTokens ·.column)) ++
          .symbol .rightParen :: .keyword .VALUES :: .symbol .leftParen ::
          (commaTokens ((assignedOnes naming values).map fun _ => [.symbol .placeholder]) ++
            [.symbol .rightParen]))) := by
    simp [insertTokens]
  have hlength := congrArg List.length htokens
  simp only [List.length_cons, List.length_append] at hlength
  generalize (insertTokens naming e values).length = limit at hlength ⊢
  have hcolumns (rest : List Token) : commaList Reader.name limit
      ⟨commaTokens ((assignedOnes naming values).map (nameTokens ·.column)) ++
        .symbol .rightParen :: rest, 0⟩ =
      .ok ((assignedOnes naming values).map (nameOf ·.column), ⟨.symbol .rightParen :: rest, 0⟩) :=
    commaList_plain hne (by omega) (fun c _ => name_reads c.column) (by simp) 0
  have hmarks : (commaTokens ((assignedOnes naming values).map
      fun _ => [.symbol .placeholder])).length ≤ limit := by omega
  have hclose : [Token.symbol .rightParen].head? ≠ some (.symbol .comma) := by simp
  have hvalues := commaList_reads hne hmarks
    (fun _ _ rest k => operand_placeholder (expression limit) rest k) hclose 0
  rw [zipWith_parameter, Nat.mul_one, Nat.zero_add] at hvalues
  have hrow : valueRow limit ⟨.symbol .leftParen ::
      (commaTokens ((assignedOnes naming values).map fun _ => [.symbol .placeholder]) ++
        [.symbol .rightParen]), 0⟩ =
      .ok ((List.range' 1 (assignedOnes naming values).length).map .parameter,
        ⟨[], (assignedOnes naming values).length⟩) := by
    rw [valueRow, bind_of_read (expect_hit _), bind_of_read hvalues, bind_of_read (expect_hit _),
      Nat.zero_add]
    rfl
  have hlist (rest : List Token) : columnList limit ⟨.symbol .leftParen ::
      (commaTokens ((assignedOnes naming values).map (nameTokens ·.column)) ++
        .symbol .rightParen :: rest), 0⟩ =
      .ok (some ((assignedOnes naming values).map (nameOf ·.column)), ⟨rest, 0⟩) := by
    rw [columnList, bind_of_read (acceptSign_hit .leftParen)]
    simp only [if_true]
    rw [bind_of_read (hcolumns rest), bind_of_read (expect_hit _)]
    rfl
  rw [htokens, statement_insert, Reader.insert, bind_of_read (expect_hit _),
    bind_of_read (name_reads _ _ 0), bind_of_read (hlist _), bind_of_read (expect_hit _),
    bind_of_read (commaList_singleton hrow (by simp) limit)]
  rfl

/-- The tokens of an update are read as its image. -/
theorem update_reads {naming : Naming} {e : Entity} {values : Assignments}
    {condition : Option Constraint} (hne : assignedOnes naming values ≠ []) :
    statement (updateTokens naming e values condition).length
        ⟨updateTokens naming e values condition, 0⟩ =
      .ok (updateImage naming e values condition,
        ⟨[], (assignedOnes naming values).length + conditionCount condition⟩) := by
  have htokens : updateTokens naming e values condition = .keyword .UPDATE ::
      (nameTokens (naming.tableName e) ++ .keyword .SET ::
        (commaTokens ((assignedOnes naming values).map AssignedColumn.tokens) ++
          (conditionTokens naming condition ++ []))) := by
    simp [updateTokens]
  have hlength := congrArg List.length htokens
  simp only [List.length_cons, List.length_append] at hlength
  generalize (updateTokens naming e values condition).length = limit at hlength ⊢
  have hrest : EndsCondition ([] : List Token).head? := .inl rfl
  have hcount : (commaTokens ((assignedOnes naming values).map AssignedColumn.tokens)).length ≤ limit := by
    omega
  have hcolumns := commaList_reads hne hcount
    (fun c _ rest k => assignment_reads limit c rest k) (head_condition naming condition hrest) 0
  rw [Nat.mul_one, Nat.zero_add] at hcolumns
  have hcondition : (conditionTokens naming condition).length ≤ limit := by omega
  rw [htokens, statement_update, update, bind_of_read (name_reads _ _ 0),
    bind_of_read (expect_hit _), bind_of_read hcolumns,
    bind_of_read (filter_reads hcondition hrest _)]
  rfl

/-- The tokens of a delete are read as its image. -/
theorem delete_reads (naming : Naming) (e : Entity) (condition : Option Constraint) :
    statement (deleteTokens naming e condition).length ⟨deleteTokens naming e condition, 0⟩ =
      .ok (deleteImage naming e condition, ⟨[], conditionCount condition⟩) := by
  have htokens : deleteTokens naming e condition = .keyword .DELETE :: .keyword .FROM ::
      (nameTokens (naming.tableName e) ++ (conditionTokens naming condition ++ [])) := by
    simp [deleteTokens]
  have hlength := congrArg List.length htokens
  simp only [List.length_cons, List.length_append] at hlength
  generalize (deleteTokens naming e condition).length = limit at hlength ⊢
  have hrest : EndsCondition ([] : List Token).head? := .inl rfl
  have hcondition : (conditionTokens naming condition).length ≤ limit := by omega
  rw [htokens, statement_delete, delete, bind_of_read (expect_hit _),
    bind_of_read (name_reads _ _ 0), bind_of_read (filter_reads hcondition hrest 0), Nat.zero_add,
    Nat.zero_add]
  rfl

/-! ## Parsing requests -/

theorem Selection.parse_written {naming : Naming} {s : Selection}
    (hne : selectedColumns naming s.fields ≠ []) (hmap : naming.Maps (conditionFields s.constraint))
    (hname : naming.Readable s.fieldsNamed) (htop : ∀ n ∈ s.top, n < UInt64.size) :
    parse (s.written naming).sql = .ok ⟨s.image naming, conditionCount s.constraint⟩ :=
  parse_of_statement (s.spells_sql hmap hname).tokenize_eq (s.reads hne htop)

section Mutations

variable {naming : Naming} {e : Entity} {values : Assignments} {condition : Option Constraint}
  (htable : IsName (naming.tableName e))
include htable

theorem parse_insertWritten (hne : assignedOnes naming values ≠ [])
    (hname : naming.Readable (values.map Prod.fst)) :
    parse (insertWritten naming e values).sql =
      .ok ⟨insertImage naming e values, (assignedOnes naming values).length⟩ :=
  parse_of_statement (spells_insert htable hname).tokenize_eq (insert_reads hne)

theorem parse_updateWritten (hne : assignedOnes naming values ≠ [])
    (hmap : naming.Maps (conditionFields condition))
    (hname : naming.Readable (values.map Prod.fst ++ conditionFields condition)) :
    parse (updateWritten naming e values condition).sql =
      .ok ⟨updateImage naming e values condition,
        (assignedOnes naming values).length + conditionCount condition⟩ :=
  parse_of_statement (spells_update htable hmap hname).tokenize_eq (update_reads hne)

theorem parse_deleteWritten (hmap : naming.Maps (conditionFields condition))
    (hname : naming.Readable (conditionFields condition)) :
    parse (deleteWritten naming e condition).sql =
      .ok ⟨deleteImage naming e condition, conditionCount condition⟩ :=
  parse_of_statement (spells_delete htable hmap hname).tokenize_eq (delete_reads naming e condition)

end Mutations

/-! ## Parameters of images -/

theorem filterParameters_image (naming : Naming) (condition : Option Constraint) (next : Nat) :
    filterParameters (condition.map (·.image naming next)) =
      List.range' next (conditionCount condition) := by
  cases condition with
  | none => rfl
  | some c => exact c.parameters_image naming next

/-- Items and sort keys of a selection have no parameters. -/
theorem Selection.parameters_image (naming : Naming) (s : Selection) :
    (s.image naming).parameters = List.range' 1 (conditionCount s.constraint) := by
  have hitems (cs : List SelectedColumn) :
      (cs.map SelectedColumn.image).flatMap SelectItem.parameters = [] := by
    induction cs with
    | nil => rfl
    | cons c cs ih =>
      rw [List.map_cons, List.flatMap_cons, ih, SelectedColumn.image, SelectItem.parameters,
        Expr.parameters]
      rfl
  have horder (keys : List (String × Direction)) :
      (keys.map orderImage).flatMap (·.expr.parameters) = [] := by
    induction keys with
    | nil => rfl
    | cons key keys ih =>
      rw [List.map_cons, List.flatMap_cons, ih, orderImage, Expr.parameters]
      rfl
  rw [image, Statement.parameters, hitems, horder, filterParameters_image, List.append_nil]
  rfl

theorem parameters_insertImage (naming : Naming) (e : Entity) (values : Assignments) :
    (insertImage naming e values).parameters =
      List.range' 1 (assignedOnes naming values).length := by
  simp only [insertImage, Statement.parameters, List.flatMap_singleton, listParameters_map]

theorem parameters_updateImage (naming : Naming) (e : Entity) (values : Assignments)
    (condition : Option Constraint) :
    (updateImage naming e values condition).parameters =
      List.range' 1 ((assignedOnes naming values).length + conditionCount condition) := by
  have hassigned (cs : List AssignedColumn) (k : Nat) :
      (List.zipWith (fun c i => (nameOf c.column, Expr.parameter (i + 1))) cs
        (List.range' k cs.length)).flatMap (·.2.parameters) = List.range' (k + 1) cs.length := by
    induction cs generalizing k with
    | nil => rfl
    | cons c cs ih =>
      rw [List.length_cons, List.range'_succ, List.zipWith_cons_cons, List.flatMap_cons, ih,
        Expr.parameters, List.range'_succ]
      rfl
  have happend := List.range'_append_1 (s := 1) (m := (assignedOnes naming values).length)
    (n := conditionCount condition)
  rw [Nat.add_comm 1] at happend
  simp only [updateImage, Statement.parameters, hassigned, filterParameters_image, Nat.zero_add]
  exact happend

/-! ## Reading back -/

/-- The text is parsed as the statement. The parameters of the statement are the placeholders, one for
one and numbered from 1 in the order of the text. -/
structure ReadsBack (sql : String) (placeholders : List Placeholder) (image : Statement) : Prop where
  /-- the text is the statement, and as many parameters are counted as there are placeholders -/
  parsed : parse sql = .ok ⟨image, placeholders.length⟩
  /-- the placeholders are numbered in a row -/
  numbered : placeholders.map (·.index) = List.range' 1 placeholders.length
  /-- the parameters are the placeholders in the same order -/
  parameters : image.parameters = placeholders.map (·.index)

/-- A compiled text is read back if its tokens are read as the image. -/
theorem Compiles.readsBack {naming : Naming} {strict : Bool} {values : Assignments}
    {condition : Option Constraint} {placeholders : List Placeholder} {sql : String}
    {tokens : List Token} {image : Statement}
    (h : Compiles naming strict values condition placeholders)
    (hsql : Spells Stops sql.toList tokens)
    (hread : statement tokens.length ⟨tokens, 0⟩ =
      .ok (image, ⟨[], values.length + conditionCount condition⟩))
    (himage : image.parameters = List.range' 1 (values.length + conditionCount condition)) :
    ReadsBack sql placeholders image := by
  have hindices : placeholders.map (·.index) =
      List.range' 1 (values.length + conditionCount condition) := by
    rw [h.placeholders_eq, index_numbered, length_requestLeaves]
  have hlength : placeholders.length = values.length + conditionCount condition := by
    rw [h.placeholders_eq, length_numbered, length_requestLeaves]
  refine ⟨?_, ?_, ?_⟩
  · rw [hlength]
    exact parse_of_statement hsql.tokenize_eq hread
  · rw [hindices, hlength]
  · rw [hindices, himage]

/-- Compiled requests are read back.

Whatever a select, an insert, an update or a delete compiles to under a naming whose names are
identifiers, the parser accepts the text. The statement it returns is the image of the request, and its
parameters are the placeholders of the compiled form. -/
theorem compiled_reads_back (naming : Naming) (strict : Bool) :
    (∀ (s : Selection) (slots slots' : Slots) (compiled : CompiledSelect),
      s.compile naming strict slots = (.ok compiled, slots') → naming.Readable s.fieldsNamed →
      (∀ n ∈ s.top, n < UInt64.size) →
      ReadsBack compiled.sql compiled.placeholders (s.image naming)) ∧
    (∀ (e : Entity) (values : Assignments) (m : CompiledMutation),
      compileInsert naming strict e values = .ok m → IsName (naming.tableName e) →
      naming.Readable (values.map Prod.fst) →
      ReadsBack m.sql m.placeholders (insertImage naming e values)) ∧
    (∀ (e : Entity) (values : Assignments) (condition : Option Constraint) (m : CompiledMutation),
      compileUpdate naming strict e values condition = .ok m → IsName (naming.tableName e) →
      naming.Readable (values.map Prod.fst ++ conditionFields condition) →
      ReadsBack m.sql m.placeholders (updateImage naming e values condition)) ∧
    (∀ (e : Entity) (condition : Option Constraint) (m : CompiledMutation),
      compileDelete naming e condition = .ok m → IsName (naming.tableName e) →
      naming.Readable (conditionFields condition) →
      ReadsBack m.sql m.placeholders (deleteImage naming e condition)) := by
  refine ⟨?_, ?_, ?_, ?_⟩
  · intro s slots slots' compiled h hname htop
    have hcompiles := Compiles.select h
    obtain ⟨hmap, hne, rfl⟩ := Selection.compile_eq_ok h
    refine hcompiles.readsBack (Selection.spells_sql hmap hname) ?_ ?_
    · rw [List.length_nil, Nat.zero_add]
      exact Selection.reads hne htop
    · rw [List.length_nil, Nat.zero_add]
      exact s.parameters_image naming
  · intro e values m h htable hname
    have hcompiles := Compiles.insert h
    obtain ⟨hne, rfl⟩ := compileInsert_eq_ok h
    have hcount : (insertWritten naming e values).values.length + conditionCount none =
        (assignedOnes naming values).length := List.length_map _
    refine hcompiles.readsBack (spells_insert htable hname) ?_ ?_
    · exact hcount ▸ insert_reads hne
    · exact hcount ▸ parameters_insertImage naming e values
  · intro e values condition m h htable hname
    have hcompiles := Compiles.update h
    obtain ⟨hne, hmap, rfl⟩ := compileUpdate_eq_ok h
    have hcount : (updateWritten naming e values condition).values.length =
        (assignedOnes naming values).length := List.length_map _
    refine hcompiles.readsBack (spells_update htable hmap hname) ?_ ?_
    · rw [hcount]
      exact update_reads hne
    · rw [hcount]
      exact parameters_updateImage naming e values condition
  · intro e condition m h htable hname
    have hcompiles : Compiles naming strict m.values m.constraint m.placeholders := .delete h
    obtain ⟨hmap, rfl⟩ := compileDelete_eq_ok h
    have hcount : (deleteWritten naming e condition).values.length + conditionCount condition =
        conditionCount condition := Nat.zero_add _
    refine hcompiles.readsBack (spells_delete htable hmap hname) ?_ ?_
    · exact hcount.symm ▸ delete_reads naming e condition
    · exact hcount.symm ▸ filterParameters_image naming condition 1

/-- A condition with all forms of tests, and one request of each kind: a selection with it, an insert,
an update and a delete with it. -/
theorem compiled_reads_back_all_forms :
    let c : Constraint :=
      .and (.or (.compare .less (.value .personId (.long 7)) (.field .personId))
          (.inList true .personId []))
        (.or (.and (.isNull true .personName) (.contains true .personName "5%"))
          (.inList false .personId [.long 1, .long 2]))
    let s : Selection :=
      ⟨[(.personName, ⟨.personName, 0⟩), (.personId, ⟨.personId, 1⟩)], some c,
        [(.personId, .desc)], some 10, [.personId]⟩
    let values : Assignments := [(.personName, .literal (.string "Ada"))]
    ReadsBack (s.written .plain).sql [⟨1, .personId⟩, ⟨2, .personName⟩, ⟨3, .personId⟩, ⟨4, .personId⟩]
      (s.image .plain) ∧
    ReadsBack "INSERT INTO person (name) VALUES (?)" [⟨1, .personName⟩]
      (insertImage .plain .person values) ∧
    ReadsBack (updateWritten .plain .person values (some c)).sql
      [⟨1, .personName⟩, ⟨2, .personId⟩, ⟨3, .personName⟩, ⟨4, .personId⟩, ⟨5, .personId⟩]
      (updateImage .plain .person values (some c)) ∧
    ReadsBack (deleteWritten .plain .person (some c)).sql
      [⟨1, .personId⟩, ⟨2, .personName⟩, ⟨3, .personId⟩, ⟨4, .personId⟩]
      (deleteImage .plain .person (some c)) := by
  intro c s values
  have hperson : IsName "person" := (isName_of_word (by decide) rfl).1
  have hid : IsName "id" := (isName_of_word (by decide) rfl).1
  have hname : IsName "name" := (isName_of_word (by decide) rfl).1
  have hnames (fields : List Field) (h : ∀ f ∈ fields, f = .personId ∨ f = .personName) :
      Naming.plain.Readable fields := by
    intro f hf
    rcases h f hf with rfl | rfl
    · exact ⟨hperson, fun _ hcolumn => Option.some.inj hcolumn ▸ hid⟩
    · exact ⟨hperson, fun _ hcolumn => Option.some.inj hcolumn ▸ hname⟩
  have hselect : (s.compile .plain true #[⟨none, none⟩, ⟨none, none⟩]) =
      (.ok (s.written .plain), #[⟨some 1, none⟩, ⟨some 2, none⟩]) := rfl
  have hinsert : compileInsert .plain true .person values =
      .ok (insertWritten .plain .person values) := rfl
  have hupdate : compileUpdate .plain true .person values (some c) =
      .ok (updateWritten .plain .person values (some c)) := rfl
  have hdelete : compileDelete .plain .person (some c) =
      .ok (deleteWritten .plain .person (some c)) := rfl
  obtain ⟨hs, hi, hu, hd⟩ := compiled_reads_back .plain true
  exact ⟨hs s _ _ _ hselect (hnames _ (by decide)) (by decide),
    hi _ _ _ hinsert hperson (hnames _ (by decide)),
    hu _ _ _ _ hupdate hperson (hnames _ (by decide)),
    hd _ _ _ hdelete hperson (hnames _ (by decide))⟩

end EntityQuery
