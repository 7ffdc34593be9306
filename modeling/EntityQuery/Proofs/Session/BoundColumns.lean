import EntityQuery.Proofs.Execution.ResultWidths
import EntityQuery.Proofs.Session.Making

/-!
# The result columns of handles

A query binds its handles to result columns before it has ever run. Where it is compiled, the handles are
numbered in the order of the selection; where its text is given, each gets the first result column with the
name of its field's column. Either way the number is that of a column with the name
(`Session.points_of_buildQuery`), and these are the columns that the backend announces for the statement.

* `assignMatched_eq_ok`: once handles have got their numbers, they have them.
* `selectionNames_image`: a compiled selection announces its columns in order.
* `Session.of_mem_matchedColumns`: a column that is matched has the name.
* `SelectBuilder.resultName_eq`: an ordinary column is bound under its own name.
-/

namespace EntityQuery

open Sql

/-! ## Assigning numbers -/

namespace Slots

/-- No slot comes or goes, and no handle loses its result column. -/
structure Extends (slots slots' : Slots) : Prop where
  /-- there are as many slots -/
  size : slots'.size = slots.size
  /-- result columns stay -/
  index : ∀ h i, slots.index? h = some i → slots'.index? h = some i

variable {slots slots' slots'' : Slots}

theorem Extends.refl (slots : Slots) : slots.Extends slots := ⟨rfl, fun _ _ h => h⟩

theorem Extends.trans (h : slots.Extends slots') (h' : slots'.Extends slots'') :
    slots.Extends slots'' :=
  ⟨h'.size.trans h.size, fun handle i hi => h'.index handle i (h.index handle i hi)⟩

/-- A handle that is assigned a result column has this one, and no handle loses its own. -/
theorem assign_eq_ok {h : ColumnHandle} {index : Nat} (hbounded : h.slot < slots.size)
    (hassign : assign h index slots = (.ok (), slots')) :
    slots.Extends slots' ∧ slots'.index? h = some index := by
  rw [assign] at hassign
  split at hassign
  · next hnone =>
    cases hassign
    refine ⟨⟨Array.size_modify, fun handle i hi => ?_⟩, ?_⟩
    · rw [index?_modify_of_ne _ _]
      · exact hi
      · intro hslot
        rw [index?, hslot, ← index?, hi] at hnone
        cases hnone
    · rw [index?, Array.getElem?_modify, if_pos rfl, Array.getElem?_eq_getElem hbounded]
      rfl
  · next assigned hassigned =>
    obtain ⟨hcheck, rfl⟩ := Prod.mk.inj hassign
    refine ⟨.refl slots, ?_⟩
    rw [check, hassigned] at hcheck
    dsimp only at hcheck
    split at hcheck
    · next heq => rw [hassigned, heq]
    · cases hcheck

end Slots

/-- Once handles are assigned the numbers of their columns, each of them has its number. -/
theorem Session.assignMatched_eq_ok {columns : List (Nat × Field × ColumnHandle)} {slots slots' : Slots}
    (hbounded : ∀ c ∈ columns, c.2.2.slot < slots.size)
    (h : assignMatched columns slots = (.ok (), slots')) :
    slots.Extends slots' ∧ ∀ c ∈ columns, slots'.index? c.2.2 = some c.1 := by
  induction columns generalizing slots with
  | nil =>
    cases h
    exact ⟨.refl _, fun c hc => nomatch hc⟩
  | cons first columns ih =>
    obtain ⟨hfirst, hrest⟩ := List.forall_mem_cons.1 hbounded
    obtain ⟨_, middle, hassign, h⟩ := bind_eq_ok h
    obtain ⟨hmiddle, hindex⟩ := Slots.assign_eq_ok hfirst hassign
    obtain ⟨hlast, hindices⟩ := ih (fun c hc => hmiddle.size ▸ hrest c hc) h
    exact ⟨hmiddle.trans hlast, List.forall_mem_cons.2 ⟨hlast.index _ _ hindex, hindices⟩⟩

/-- Handles that get the numbers from `index` on are handles with numbers. -/
theorem Selection.assignFrom_eq (index : Nat) (columns : List (Field × ColumnHandle)) :
    assignFrom index columns =
      Session.assignMatched ((columns.zipIdx index).map fun p => (p.2, p.1)) := by
  induction columns generalizing index with
  | nil => rfl
  | cons p columns ih => exact congrArg (Slots.assign p.2 index >>= ·) (funext fun _ => ih (index + 1))

/-- The columns of a compiled selection are numbered in order. -/
theorem Selection.index?_of_compile {naming : Naming} {strict : Bool} {s : Selection} {slots slots' : Slots}
    {compiled : CompiledSelect} (hbounded : ∀ p ∈ s.fields, p.2.slot < slots.size)
    (h : s.compile naming strict slots = (.ok compiled, slots')) {k : Nat} {c : SelectedColumn}
    (hc : (selectedColumns naming s.fields)[k]? = some c) : slots'.index? c.handle = some (k + 1) := by
  obtain ⟨-, -, hcompiled⟩ := compile_eq_ok h
  obtain ⟨planned, slots₁, hplan, h⟩ := bind_eq_ok h
  obtain ⟨_, slots₂, hassign, h⟩ := bind_eq_ok h
  cases h
  obtain rfl : slots = slots₁ := congrArg Prod.snd hplan
  rw [hcompiled, assignFrom_eq] at hassign
  refine (Session.assignMatched_eq_ok (fun numbered hmem => ?_) hassign).2 (k + 1, c.field, c.handle) ?_
  · obtain ⟨p, hp, rfl⟩ := List.mem_map.1 hmem
    obtain ⟨c', hc', hsame⟩ := List.mem_map.1 (List.fst_mem_of_mem_zipIdx hp)
    rw [← hsame]
    exact hbounded _ (mem_selectedColumns hc').1
  · refine List.mem_map.2 ⟨((c.field, c.handle), k + 1), ?_, rfl⟩
    rw [List.mk_mem_zipIdx_iff_le_and_getElem?_sub, Nat.add_sub_cancel]
    refine ⟨Nat.le_add_left 1 k, ?_⟩
    rw [written, List.getElem?_map, hc]
    rfl

/-! ## Names of columns -/

/-- The selected columns of a compiled text are named by their identifiers, in order. -/
theorem selectionNames_image (all : List String) (before : Nat) (columns : List SelectedColumn) :
    selectionNames all before (columns.map (·.image)) = columns.map fun c => nameOf c.column := by
  induction columns generalizing before with
  | nil => rfl
  | cons c columns ih =>
    rw [List.map_cons, selectionNames, ih]
    rfl

/-- Among the result columns with these names, `i` is the number of one with the name `name`. -/
structure PointsAt (names : List String) (i : Nat) (name : String) : Prop where
  /-- the numbers start at 1 -/
  pos : 1 ≤ i
  /-- there are as many columns -/
  le : i ≤ names.length
  /-- the column has the name, up to case -/
  named : ∃ found, names[i - 1]? = some found ∧ Text.sameName found name = true

/-- A handle that is matched belongs to a field with a column, and its number is that of a result column of
this name. -/
theorem Session.of_mem_matchedColumns {σ : Type} {session : Session σ} {slots : Slots}
    {names : List String} {fields : List (Field × ColumnHandle)}
    {columns : List (Nat × Field × ColumnHandle)}
    (h : session.matchedColumns slots names fields = .ok columns) :
    ∀ c ∈ columns, c.2 ∈ fields ∧ ∃ column, session.naming.columnName c.2.1 = some column ∧
      PointsAt names c.1 column := by
  induction fields generalizing columns with
  | nil =>
    cases h
    exact fun c hc => nomatch hc
  | cons p fields ih =>
    rcases p with ⟨f, handle⟩
    rw [matchedColumns] at h
    split at h
    · next i hi =>
      obtain ⟨_, -, h⟩ := ok_of_bind h
      obtain ⟨others, hothers, h⟩ := ok_of_bind h
      cases h
      obtain ⟨column, hcolumn, hfound⟩ := Option.bind_eq_some_iff.1 hi
      obtain ⟨hlt, hname, -⟩ := List.findIdx?_eq_some_iff_getElem.1 hfound
      refine List.forall_mem_cons.2 ⟨⟨List.mem_cons_self, column, hcolumn, ?_⟩, fun c hc => ?_⟩
      · exact ⟨Nat.le_add_left 1 i, hlt, names[i], List.getElem?_eq_getElem hlt, hname⟩
      · obtain ⟨hmem, hpoints⟩ := ih hothers c hc
        exact ⟨List.mem_cons_of_mem _ hmem, hpoints⟩
    · split at h
      · cases h
      · intro c hc
        obtain ⟨hmem, hpoints⟩ := ih h c hc
        exact ⟨List.mem_cons_of_mem _ hmem, hpoints⟩

/-! ## Queries that are made -/

/-- The name of the result column that is bound to a column: the identifier that a compiled text has for the
column, and the column itself where the text is given. -/
def SelectBuilder.resultName (b : SelectBuilder) (column : String) : String :=
  match b.source with
  | .entity _ => nameOf column
  | .sql _ => column

/-- A column that is read as itself is bound under its own name. -/
theorem SelectBuilder.resultName_eq (b : SelectBuilder) {column : String}
    (h : tokenize column = [.identifier column]) : b.resultName column = column := by
  rw [resultName]
  split
  · exact nameOf_eq h
  · rfl

section Made

variable {session : Session Memory} (hbackend : session.backend = Memory.backend)
  {store made : Store Memory} {q : Query} {autoClose : Bool}
include hbackend

/-- A query of a text has matched its columns with those of the statement, and assigned their numbers. -/
theorem Session.writtenQuery_eq_ok {sql : String} {s : Selection}
    (h : session.writtenQuery sql s autoClose store = (.ok q, made)) :
    ∃ parsed names columns, parse q.sql = .ok parsed ∧
      store.backend.database.resultColumns parsed.statement = .ok names ∧
      session.matchedColumns store.slots names s.fields = .ok columns ∧
      assignMatched columns store.slots = (.ok (), made.slots) ∧ q.columns = columns.map (·.2) := by
  rw [writtenQuery] at h
  split at h
  · cases h
  · dsimp only at h
    obtain ⟨ref, prepared, hprepare, h⟩ := bind_eq_ok h
    obtain ⟨id, s₁, hid, h⟩ := bind_eq_ok h
    obtain ⟨names, s₂, hnames, h⟩ := bind_eq_ok h
    obtain ⟨current, s₃, hcurrent, h⟩ := bind_eq_ok h
    obtain ⟨columns, s₄, hmatched, h⟩ := bind_eq_ok h
    obtain ⟨u, s₅, hassign, h⟩ := bind_eq_ok h
    cases h
    obtain ⟨parsed, hparse, rfl, rfl⟩ := prepare_eq_ok hbackend hprepare
    -- the statement that is asked for its columns is the one that was prepared
    have hopened := (store.stands_preparing
      (p := ⟨parsed.statement, List.replicate parsed.parameters none, false⟩) rfl).opened
    rw [opened_eq, hopened] at hid
    obtain ⟨hsame, rfl⟩ := Prod.mk.inj hid
    cases hsame
    rw [adapt_apply, hbackend] at hnames
    obtain ⟨hasked, rfl⟩ := Prod.mk.inj hnames
    have hannounced : (Memory.onStatement ⟨store.backend.statements.size⟩
        (fun db p => (db.resultColumns p.statement, db, p)) (store.preparing ⟨parsed.statement,
          List.replicate parsed.parameters none, false⟩).backend).1 = .ok names :=
      ok_of_mapError hasked
    rw [Memory.onStatement, Store.preparing] at hannounced
    simp only [Array.getElem?_push_size] at hannounced
    obtain ⟨hresult, rfl⟩ := Prod.mk.inj hcurrent
    cases hresult
    obtain ⟨hcolumns, rfl⟩ := Prod.mk.inj hmatched
    obtain ⟨hassigned, rfl⟩ := Prod.mk.inj hassign
    exact ⟨parsed, names, columns, hparse, hannounced, hcolumns, Prod.ext hassigned rfl, rfl⟩

/-- The handles of a query of a text have columns with the names of theirs. -/
theorem Session.points_of_writtenQuery {sql : String} {s : Selection}
    (h : session.writtenQuery sql s autoClose store = (.ok q, made))
    (hbounded : ∀ p ∈ s.fields, p.2.slot < store.slots.size) :
    ∃ parsed names, parse q.sql = .ok parsed ∧
      store.backend.database.resultColumns parsed.statement = .ok names ∧
      ∀ p ∈ q.columns, ∃ i column, made.slots.index? p.2 = some i ∧
        session.naming.columnName p.1 = some column ∧ PointsAt names i column := by
  obtain ⟨parsed, names, columns, hparse, hnames, hmatched, hassigned, hcolumns⟩ :=
    writtenQuery_eq_ok hbackend h
  have hpoints := of_mem_matchedColumns hmatched
  obtain ⟨-, hindex⟩ := assignMatched_eq_ok (fun c hc => hbounded _ (hpoints c hc).1) hassigned
  refine ⟨parsed, names, hparse, hnames, fun p hp => ?_⟩
  obtain ⟨c, hc, rfl⟩ := List.mem_map.1 (hcolumns ▸ hp)
  obtain ⟨-, column, hcolumn, hpoint⟩ := hpoints c hc
  exact ⟨c.1, column, hindex c hc, hcolumn, hpoint⟩

/-- The handles of a compiled query have the columns that they are written as, in order. -/
theorem Session.points_of_compiledQuery {s : Selection}
    (h : session.compiledQuery s autoClose store = (.ok q, made))
    (hbounded : ∀ p ∈ s.fields, p.2.slot < store.slots.size)
    (hname : session.naming.Readable s.fieldsNamed) (htop : ∀ n ∈ s.top, n < UInt64.size) :
    ∃ parsed names, parse q.sql = .ok parsed ∧
      store.backend.database.resultColumns parsed.statement = .ok names ∧
      ∀ p ∈ q.columns, ∃ i column, made.slots.index? p.2 = some i ∧
        session.naming.columnName p.1 = some column ∧ PointsAt names i (nameOf column) := by
  obtain ⟨slots, prepared, hcompile, hprepare, rfl, rfl⟩ := compiledQuery_eq_ok hbackend h
  obtain ⟨hcondition, hne, -⟩ := Selection.compile_eq_ok hcompile
  have hparse := Selection.parse_written hne hcondition hname htop
  -- the tables of the statement exist, so its columns are announced
  rw [Database.prepare, hparse] at hprepare
  obtain ⟨_, hparsed, hprepare⟩ := ok_of_bind hprepare
  cases hparsed
  obtain ⟨tables, htables, -⟩ := ok_of_bind hprepare
  refine ⟨_, _, hparse, Database.resultColumns_of_tables htables, fun p hp => ?_⟩
  rw [Select.columnNames, selectionNames_image]
  obtain ⟨c, hc, rfl⟩ := List.mem_map.1 hp
  obtain ⟨k, hk⟩ := List.mem_iff_getElem?.1 hc
  obtain ⟨-, -, hcolumn⟩ := mem_selectedColumns hc
  refine ⟨k + 1, c.column, Selection.index?_of_compile hbounded hcompile hk, hcolumn, Nat.le_add_left 1 k, ?_,
    nameOf c.column, ?_, Text.sameName_self _⟩
  · rw [List.length_map]
    exact (List.getElem?_eq_some_iff.1 hk).1
  · rw [Nat.add_sub_cancel, List.getElem?_map, hk]
    rfl

/-- The handles of a query point at columns with the names of theirs, among those that its statement has. -/
theorem Session.points_of_buildQuery {b : SelectBuilder}
    (h : session.buildQuery b autoClose store = (.ok q, made))
    (hbounded : ∀ p ∈ b.selection.fields, p.2.slot < store.slots.size)
    (hnames : ∀ e, b.source = .entity e →
      session.naming.Readable b.selection.fieldsNamed ∧ ∀ n ∈ b.selection.top, n < UInt64.size) :
    ∃ parsed names, parse q.sql = .ok parsed ∧
      store.backend.database.resultColumns parsed.statement = .ok names ∧
      ∀ p ∈ q.columns, ∃ i column, made.slots.index? p.2 = some i ∧
        session.naming.columnName p.1 = some column ∧ PointsAt names i (b.resultName column) := by
  rw [buildQuery] at h
  unfold SelectBuilder.resultName
  cases hsource : b.source with
  | entity e =>
    rw [hsource] at h
    obtain ⟨hname, htop⟩ := hnames e hsource
    exact points_of_compiledQuery hbackend h hbounded hname htop
  | sql text =>
    rw [hsource] at h
    exact points_of_writtenQuery hbackend h hbounded

end Made

end EntityQuery
