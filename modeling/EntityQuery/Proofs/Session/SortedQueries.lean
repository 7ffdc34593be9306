import EntityQuery.Proofs.Execution.SortedRows
import EntityQuery.Proofs.Session.Making
import EntityQuery.Proofs.Session.SelectMeaning

/-!
# Queries with sort keys

The text of a query has its sort keys without their tables. So the rows of a query come in the order of
the keys as they are taken (`Naming.sortKeys`), and these need not be the fields that were asked for:

* `selected_rows_follow_sort_keys`: what an execution shows is part of the rows that satisfy the
  condition, sorted by the keys as they are taken. If every key is taken for its own field, the rows are
  sorted by their own columns.
* `sort_key_is_not_own`: a key that shares the name of its column with a selected field of another
  entity is taken for that one, and the rows are not sorted by the key.
-/

namespace EntityQuery

open Sql

variable {naming : Naming} {s : Selection} {db : Database} {rows : Entity → List Row}

/-- Running a selection of mapped fields gives part of the sorted rows. -/
theorem Selection.Mapped.select_sorted (h : s.Mapped naming) (htells : naming.Tells s.entities)
    (horders : ∀ key ∈ s.orders, key.1.entity ∈ s.entities)
    (hstores : ∀ e ∈ s.entities, db.Stores naming e (rows e)) {values : List Value} {r : ResultSet}
    (hselect : db.select values (s.statement naming) = .ok r) :
    ∃ shown : List Combination,
      shown.Sublist (naming.sorted (naming.sortKeys (s.fields.map Prod.fst) s.orders)
        (naming.kept rows s.entities values (s.constraint.map (·.image naming 1)))) ∧
      r.rows = shown.map fun c => (s.fields.map Prod.fst).map (naming.cell c) := by
  obtain ⟨tables, htables, hrows⟩ := Database.select_eq_ok hselect
  obtain rfl : s.entities.map (naming.tableOf rows) = tables :=
    Except.ok.inj ((tables_of_stores hstores).symm.trans htables)
  refine selectRows_sorted htells (fun e he => (hstores e he).width) (nodup_eraseDups _) ?_ ?_ hrows
  · exact fun f hf => ⟨h.mapped_fields f hf, mem_entities (List.mem_append_left _ hf)⟩
  · exact fun key hkey => ⟨h.mapped_orders _ (List.mem_map_of_mem hkey), horders key hkey⟩

/-- The rows that a query shows are in the order of its sort keys.

Under a naming that tells the entities of a selection apart, let a query of it be made, each sort key
with a column being of one of these entities. As long as the query is held, let it be executed where
these entities have rows of their column types. If it succeeds, it shows a part of those combinations
that satisfy its condition, sorted by the keys as they are taken. If every key is taken for its own
field, they are sorted by the keys themselves. -/
theorem selected_rows_follow_sort_keys (naming : Naming) (config : Config) {s : Selection}
    {store made : Store Memory} {q : Query} {autoClose : Bool}
    (htells : naming.Tells (s.trimmed naming).entities)
    (horders : ∀ key ∈ (s.trimmed naming).orders, key.1.entity ∈ (s.trimmed naming).entities)
    (htop : ∀ n ∈ s.top, n < UInt64.size)
    (hmade : Session.compiledQuery ⟨Memory.backend, naming, config⟩ s autoClose store =
      (.ok q, made)) :
    let t := s.trimmed naming
    let fields := t.fields.map Prod.fst
    let taken := naming.sortKeys fields t.orders
    q.Held naming t made ∧ store.SameData made ∧
      ∀ (now after : Store Memory) (rows : Entity → List Row) (id : CursorId), q.Held naming t now →
        (∀ e ∈ t.entities, now.backend.database.Stores naming e (rows e)) →
        naming.Typed rows t.entities →
        Session.execute ⟨Memory.backend, naming, config⟩ q now = (.ok id, after) →
        ∃ values shown, conditionHanded now.valueOf t.constraint = some values ∧
          let kept := naming.kept rows t.entities values (t.constraint.map (·.image naming 1))
          shown.Sublist (naming.sorted taken kept) ∧
          after.Shows id t.fields (shown.map fun c => fields.map (naming.cell c)) ∧
          (naming.Comparable taken kept → naming.SortedBy taken shown) ∧
          ((∀ key ∈ t.orders, naming.sortField fields key.1 = key.1) →
            naming.Comparable t.orders kept → naming.SortedBy t.orders shown) := by
  intro t fields taken
  obtain ⟨hmapped, hheld, hsame⟩ := Session.compiledQuery_held rfl hmade htells horders htop
  refine ⟨hheld, hsame, fun now after rows id hnow hstores htyped hrun => ?_⟩
  have hbackend : (⟨Memory.backend, naming, config⟩ : Session Memory).backend = Memory.backend := rfl
  obtain ⟨sid, hstands⟩ := hnow.stands
  rw [hmapped.image_eq htells, ← hnow.condition] at hstands
  have hcount := hnow.count
  rw [← hnow.condition] at hcount
  obtain ⟨values, r, bound, hvalues, hselect, houtline, rfl, rfl⟩ :=
    Session.execute_ok hbackend hstands hcount hrun
  rw [hnow.condition] at hvalues
  obtain ⟨shown, hshown, hrows⟩ := hmapped.select_sorted htells horders hstores hselect
  have hshows := bound.shows_opening q r
  have hcursors : bound.cursors = now.cursors := congrArg (·.cursors) houtline
  rw [hcursors, hnow.columns, hrows] at hshows
  -- what a key is taken for is a selected field or the field of the key
  have htaken : ∀ key ∈ taken, (naming.columnName key.1).isSome := by
    intro taken' htaken'
    obtain ⟨key, hkey, rfl⟩ := List.mem_map.1 htaken'
    rcases naming.sortField_mem fields key.1 with hfield | hself
    · exact hmapped.mapped_fields _ hfield
    · change (naming.columnName (naming.sortField fields key.1)).isSome = true
      rw [hself]
      exact hmapped.mapped_orders _ (List.mem_map_of_mem hkey)
  have hsorted : naming.Comparable taken (naming.kept rows t.entities values
      (t.constraint.map (·.image naming 1))) → naming.SortedBy taken shown := by
    intro hcomparable
    have hall := Naming.sortedBy_sorted htyped (fun c hc => (List.mem_filter.1 hc).1) htaken hcomparable
    exact hall.sublist hshown
  refine ⟨values, shown, hvalues, hshown, hshows, hsorted, fun hself => ?_⟩
  rw [show taken = t.orders from Naming.sortKeys_self hself] at hsorted
  exact hsorted

/-! ## A key with a column name of another entity -/

/-- Two persons, and a pet of each. -/
def Store.twoPets : Store Memory :=
  ⟨⟨⟨[⟨"PERSON", [⟨"id", .integer⟩, ⟨"name", .varchar⟩],
        [[.integer 1, .string "Bea"], [.integer 2, .string "Ada"]]⟩,
      ⟨"PET", [⟨"owner", .integer⟩, ⟨"name", .varchar⟩],
        [[.integer 1, .string "Ace"], [.integer 2, .string "Zoe"]]⟩], by decide⟩, #[], #[]⟩,
    #[], #[⟨none, none⟩, ⟨none, none⟩], #[], #[]⟩

/-- The rows of the two tables. -/
def petRows (e : Entity) : List Row :=
  if e = .person then [[.integer 1, .string "Bea"], [.integer 2, .string "Ada"]]
  else [[.integer 1, .string "Ace"], [.integer 2, .string "Zoe"]]

theorem stores_petRows :
    ∀ e ∈ [Entity.person, .pet], Store.twoPets.backend.database.Stores .plain e (petRows e) := by
  intro e he
  rcases List.mem_cons.1 he with rfl | he
  · exact ⟨by decide, by decide⟩
  · obtain rfl := List.mem_singleton.1 he
    exact ⟨by decide, by decide⟩

theorem typed_petRows : Naming.plain.Typed petRows [.person, .pet] := by
  intro e he
  rcases List.mem_cons.1 he with rfl | he
  · decide
  · obtain rfl := List.mem_singleton.1 he
    decide

/-- A field beside the owner of a pet, for all persons with their pets, by the name of the pet. -/
def Selection.byPet (f : Field) : Selection :=
  ⟨[(f, ⟨f, 0⟩), (.petOwner, ⟨.petOwner, 1⟩)],
    some (.compare .equal (.field .personId) (.field .petOwner)), [(.petName, .asc)], none, []⟩

/-- The query of persons with their pets. -/
def Query.byPet (f : Field) : Query :=
  ⟨((Selection.byPet f).written .plain).sql, ⟨0⟩, (Selection.byPet f).fields,
    (Selection.byPet f).constraint, 0, false⟩

/-- The store with this query. -/
def Store.petQuery (f : Field) : Store Memory :=
  ⟨⟨Store.twoPets.backend.database, #[⟨(Selection.byPet f).image .plain, [], false⟩], #[]⟩,
    #[], #[⟨some 1, none⟩, ⟨some 2, none⟩], #[some ⟨0⟩], #[]⟩

theorem compiledQuery_byPet {f : Field} (h : f = .personName ∨ f = .petName) :
    Session.compiledQuery ⟨Memory.backend, .plain, {}⟩ (.byPet f) false .twoPets =
      (.ok (.byPet f), .petQuery f) := by
  rcases h with rfl | rfl <;> cbv

/-- The query yields the two pets. -/
theorem execute_byPet {f : Field} (select : Select) (r : ResultSet)
    (himage : (Selection.byPet f).image .plain = .select select)
    (hselect : Store.twoPets.backend.database.select [] select = .ok r) :
    ∃ after, Session.execute ⟨Memory.backend, .plain, {}⟩ (.byPet f) (.petQuery f) =
        (.ok ⟨0⟩, after) ∧ after.Shows ⟨0⟩ (Selection.byPet f).fields r.rows := by
  have hstands : (Query.byPet f).statement.Stands ⟨0⟩ (.select select) 0 (.petQuery f) :=
    ⟨rfl, _, rfl, rfl, himage, rfl⟩
  have hbackend : (⟨Memory.backend, .plain, {}⟩ : Session Memory).backend = Memory.backend := rfl
  have hvalues : conditionHanded (Store.petQuery f).valueOf (Query.byPet f).constraint = some [] := rfl
  obtain ⟨bound, houtline, hrun⟩ := Session.execute_eq hbackend hstands rfl hvalues
  have hcursors : bound.cursors = #[] := congrArg (·.cursors) houtline
  have hshows := bound.shows_opening (.byPet f) r
  rw [hcursors] at hshows
  rw [show (Store.petQuery f).backend.database.select [] select = .ok r from hselect] at hrun
  exact ⟨_, hrun, hshows⟩

/-- The name of a pet is selected, and the rows are sorted by it. -/
theorem selected_rows_follow_sort_keys_pets :
    ∃ after shown, Session.execute ⟨Memory.backend, .plain, {}⟩ (.byPet .petName) (.petQuery .petName) =
        (.ok ⟨0⟩, after) ∧
      after.Shows ⟨0⟩ (Selection.byPet .petName).fields
        [[.string "Ace", .integer 1], [.string "Zoe", .integer 2]] ∧
      (shown.map fun c => [Field.petName, .petOwner].map (Naming.plain.cell c)) =
        [[.string "Ace", .integer 1], [.string "Zoe", .integer 2]] ∧
      Naming.plain.SortedBy [(.petName, .asc)] shown := by
  obtain ⟨after, hrun, hshows⟩ := execute_byPet (f := .petName)
    ⟨false, [.expr (.qualified "pet" "name"), .expr (.qualified "pet" "owner")],
      ["pet", "person"], some (.compare .equal (.qualified "person" "id") (.qualified "pet" "owner")),
      [⟨.column "name", .asc⟩], none⟩
    ⟨["name", "owner"], [[.string "Ace", .integer 1], [.string "Zoe", .integer 2]]⟩
    (by cbv) rfl
  have hentities : ∀ e ∈ ((Selection.byPet .petName).trimmed .plain).entities,
      e ∈ [Entity.person, .pet] := by decide
  obtain ⟨hheld, -, hall⟩ := selected_rows_follow_sort_keys .plain {}
    (Naming.plain_tells.mono hentities) (by decide) (fun n hn => by cases hn)
    (compiledQuery_byPet (.inr rfl))
  obtain ⟨values, shown, hvalues, hsublist, hshows', -, hown⟩ :=
    hall (.petQuery .petName) after petRows ⟨0⟩ hheld
      (fun e he => stores_petRows e (hentities e he)) (fun e he => typed_petRows e (hentities e he)) hrun
  refine ⟨after, shown, hrun, hshows, hshows'.rows_eq hshows, hown (by decide) ?_⟩
  obtain rfl := Option.some.inj hvalues
  have hcells : ∀ c ∈ combinations petRows ((Selection.byPet .petName).trimmed .plain).entities,
      (Naming.plain.cell c .petName).isNaN = false := by decide
  intro c hc key hkey
  obtain rfl := List.mem_singleton.1 hkey
  exact hcells c (List.mem_filter.1 hc).1

/-- So a query need not be sorted by the columns of its own sort keys. -/
theorem sort_key_is_not_own :
    ¬ ∀ (naming : Naming) (config : Config) (s : Selection) (store made after : Store Memory)
      (q : Query) (id : CursorId) (rows : Entity → List Row),
      let session : Session Memory := ⟨Memory.backend, naming, config⟩
      naming.Tells s.entities → (∀ key ∈ s.orders, key.1.entity ∈ s.entities) →
      (∀ e ∈ s.entities, made.backend.database.Stores naming e (rows e)) →
      naming.Typed rows s.entities →
      naming.Comparable s.orders (combinations rows s.entities) →
      session.compiledQuery s false store = (.ok q, made) →
      session.execute q made = (.ok id, after) →
      ∃ shown, (∀ c ∈ shown, c ∈ combinations rows s.entities) ∧
        after.Shows id s.fields (shown.map fun c => (s.fields.map Prod.fst).map (naming.cell c)) ∧
        naming.SortedBy s.orders shown := by
  intro h
  obtain ⟨after, hrun, hshows⟩ := execute_byPet (f := .personName)
    ⟨false, [.expr (.qualified "person" "name"), .expr (.qualified "pet" "owner")],
      ["person", "pet"], some (.compare .equal (.qualified "person" "id") (.qualified "pet" "owner")),
      [⟨.column "name", .asc⟩], none⟩
    ⟨["name", "owner"], [[.string "Ada", .integer 2], [.string "Bea", .integer 1]]⟩
    (by cbv) rfl
  have hentities : ∀ e ∈ (Selection.byPet .personName).entities, e ∈ [Entity.person, .pet] := by decide
  obtain ⟨shown, hmem, hshows', hsorted⟩ := h .plain {} (.byPet .personName) .twoPets
    (.petQuery .personName) after (.byPet .personName) ⟨0⟩ petRows (Naming.plain_tells.mono hentities)
    (by decide) (fun e he => stores_petRows e (hentities e he))
    (fun e he => typed_petRows e (hentities e he)) (by unfold Naming.Comparable; decide)
    (compiledQuery_byPet (.inl rfl)) hrun
  have hrows := hshows'.rows_eq hshows
  -- only one combination has the cells of each row
  have hada : ∀ c ∈ combinations petRows (Selection.byPet .personName).entities,
      [Field.personName, .petOwner].map (Naming.plain.cell c) = [.string "Ada", .integer 2] →
        Naming.plain.cell c .petName = .string "Zoe" := by decide
  have hbea : ∀ c ∈ combinations petRows (Selection.byPet .personName).entities,
      [Field.personName, .petOwner].map (Naming.plain.cell c) = [.string "Bea", .integer 1] →
        Naming.plain.cell c .petName = .string "Ace" := by decide
  obtain ⟨a, shown, rfl, ha, hrows⟩ := List.map_eq_cons_iff.1 hrows
  obtain ⟨b, shown, rfl, hb, -⟩ := List.map_eq_cons_iff.1 hrows
  have hle := (List.pairwise_cons.1 hsorted).1 b List.mem_cons_self
  have hzoe := hada a (hmem a List.mem_cons_self) ha
  have hace := hbea b (hmem b (List.mem_cons_of_mem _ List.mem_cons_self)) hb
  change (Direction.asc.apply ((Naming.plain.cell a .petName).order
    (Naming.plain.cell b .petName))).then .eq ≠ .gt at hle
  rw [hzoe, hace] at hle
  exact absurd hle (by decide)

end EntityQuery
