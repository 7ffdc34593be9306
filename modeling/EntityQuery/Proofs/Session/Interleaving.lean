import EntityQuery.Proofs.Session.Moving

/-!
# Several cursors of one query

A query that stays open can be executed again while cursors of earlier executions are still moving.
All of its cursors share the handles of its columns, and an execution attaches the handles to its own
cursor. So whatever is done in between, every cursor's record is the current row of the cursor that was
opened last (`record_reads_newest`), and a cursor on a row of its own may yield another's
(`record_is_not_own`).

`Session.interleave` runs any sequence of executions, moves, reads and closings, and keeps account of
the cursors on the way: `Opening` is what one of them was opened on, and how far it was moved. Each
action keeps the account right (`Tracks.perform`).
-/

namespace EntityQuery

/-! ## Accounts of cursors -/

/-- What is done with a query and the cursors that it has opened, which are counted from 0. -/
inductive CursorAction where
  /-- runs the query, which opens another cursor -/
  | execute
  /-- moves a cursor -/
  | next (cursor : Nat)
  /-- reads the record of a cursor -/
  | record (cursor : Nat)
  /-- closes a cursor -/
  | close (cursor : Nat)
  /-- gives a cursor up -/
  | drop (cursor : Nat)

/-- A cursor that was opened. -/
structure Opening where
  /-- its name -/
  id : CursorId
  /-- what its execution selected -/
  result : ResultSet
  /-- how many of its moves found a row -/
  moves : Nat

/-- The row that its last successful move came to. -/
def Opening.row? (o : Opening) : Option Row := (position? o.moves).bind (o.result.rows[·]?)

/-- What a cursor has before it. -/
def Store.resultOf (store : Store Memory) (id : CursorId) : ResultSet :=
  (((store.cursors[id.number]?).bind (·.rows)).bind (store.backend.rowSets[·.number]?)).elim ⟨[], []⟩
    fun rs => ⟨rs.columns, rs.rest⟩

/-- Does something with a query and its cursors, and keeps account of them. -/
def Session.perform (session : Session Memory) (q : Query) (state : List Opening × Store Memory) :
    CursorAction → List Opening × Store Memory
  | .execute =>
    match session.execute q state.2 with
    | (.ok id, after) => (state.1 ++ [⟨id, after.resultOf id, 0⟩], after)
    | (.error _, after) => (state.1, after)
  | .next i =>
    match state.1[i]? with
    | none => state
    | some o =>
      match session.next o.id state.2 with
      | (.ok true, after) => (state.1.set i { o with moves := o.moves + 1 }, after)
      | (_, after) => (state.1, after)
  | .record i =>
    match state.1[i]? with
    | none => state
    | some o => (state.1, (session.record o.id state.2).2)
  | .close i =>
    match state.1[i]? with
    | none => state
    | some o => (state.1, (session.closeCursor o.id state.2).2)
  | .drop i =>
    match state.1[i]? with
    | none => state
    | some o => (state.1, (session.dropCursor o.id state.2).2)

/-- Does all that is asked for, one after the other: the cursors opened on the way, the newest last, and
the store in the end. -/
def Session.interleave (session : Session Memory) (q : Query) (start : Store Memory)
    (actions : List CursorAction) : List Opening × Store Memory :=
  actions.foldl (session.perform q) ([], start)

/-! ## Right accounts -/

/-- The cursor and the row set of an opening, as far as it was moved. -/
structure Opening.At (o : Opening) (columns : List (Field × ColumnHandle)) (r : RowSetId) (c : Cursor)
    (rs : RowSet) : Prop where
  /-- the columns are those of the query -/
  columns : c.columns = columns
  /-- the moves stay among the rows -/
  bounded : o.moves ≤ o.result.rows.length
  /-- an open cursor is where its moves have brought it -/
  stands : c.phase = .closed ∨ c.rows = some r ∧ rs.closed = false ∧
    c.phase = (if o.moves = 0 then .unopened else .onRow) ∧ rs.columns = o.result.columns ∧
    rs.rest = o.result.rows.drop o.moves ∧ rs.current = o.row?

/-- The account of the cursors that a query with these columns has opened since `start`. -/
structure Tracks (start : Store Memory) (columns : List (Field × ColumnHandle))
    (opened : List Opening) (store : Store Memory) : Prop where
  /-- handles keep their result columns -/
  indices : ∀ h, store.slots.index? h = start.slots.index? h
  /-- handles with a result column are attached to the newest cursor -/
  attached : ∀ id, opened.getLast?.map (·.id) = some id → ∀ p ∈ columns,
    (start.slots.index? p.2).isSome → store.slots.cursor? p.2 = some id
  /-- each opening has a cursor -/
  cursors : store.cursors.size = start.cursors.size + opened.length
  /-- each opening has a row set -/
  rowSets : store.backend.rowSets.size = start.backend.rowSets.size + opened.length
  /-- the cursors and row sets are where they should be -/
  each : ∀ i o, opened[i]? = some o → o.id = ⟨start.cursors.size + i⟩ ∧
    ∃ c rs, store.cursors[start.cursors.size + i]? = some c ∧
      store.backend.rowSets[start.backend.rowSets.size + i]? = some rs ∧
      o.At columns ⟨start.backend.rowSets.size + i⟩ c rs

namespace Tracks

variable {start store store' : Store Memory} {columns : List (Field × ColumnHandle)}
  {opened : List Opening}

theorem start_nil (start : Store Memory) (columns : List (Field × ColumnHandle)) :
    Tracks start columns [] start :=
  ⟨fun _ => rfl, fun _ h => (nomatch h), rfl, rfl, fun _ _ h => (nomatch h)⟩

/-- The account stays right while no more than traces are left. -/
theorem of_outline (h : Tracks start columns opened store) (hsame : store'.outline = store.outline) :
    Tracks start columns opened store' := by
  have hcursors : store'.cursors = store.cursors := (congrArg (·.cursors) hsame :)
  have hslots : store'.slots = store.slots := (congrArg (·.slots) hsame :)
  have hsets : store'.backend.rowSets.map RowSet.unprobed = store.backend.rowSets.map RowSet.unprobed :=
    (congrArg (·.backend.rowSets) hsame :)
  have hsize : store'.backend.rowSets.size = store.backend.rowSets.size := by
    simpa using congrArg Array.size hsets
  refine ⟨hslots ▸ h.indices, hslots ▸ h.attached, hcursors ▸ h.cursors, hsize.trans h.rowSets, ?_⟩
  intro i o ho
  obtain ⟨hid, c, rs, hc, hrs, hat⟩ := h.each i o ho
  have hset := congrArg (·[start.backend.rowSets.size + i]?) hsets
  simp only [Array.getElem?_map, hrs, Option.map_some] at hset
  obtain ⟨rs', hrs', hprobe⟩ := Option.map_eq_some_iff.1 hset
  have hclosed : rs'.closed = rs.closed := (congrArg RowSet.closed hprobe :)
  have hcolumns : rs'.columns = rs.columns := (congrArg RowSet.columns hprobe :)
  have hrest : rs'.rest = rs.rest := (congrArg RowSet.rest hprobe :)
  have hcurrent : rs'.current = rs.current := (congrArg RowSet.current hprobe :)
  refine ⟨hid, c, rs', hcursors ▸ hc, hrs', hat.columns, hat.bounded, ?_⟩
  rw [hclosed, hcolumns, hrest, hcurrent]
  exact hat.stands

/-- The account stays right if one opening gets another cursor and another row set. -/
theorem update (h : Tracks start columns opened store) {i : Nat} {o : Opening}
    (ho : opened[i]? = some o) (o' : Opening) (hid : o'.id = o.id) {c : Cursor} {rs : RowSet}
    (hstore : store'.unstated =
      ((store.withCursor o.id c).withRows ⟨start.backend.rowSets.size + i⟩ rs).unstated)
    (hat : o'.At columns ⟨start.backend.rowSets.size + i⟩ c rs) :
    Tracks start columns (opened.set i o') store' := by
  obtain ⟨hplace, -⟩ := h.each i o ho
  have hlt : i < opened.length := (List.getElem?_eq_some_iff.1 ho).1
  have hslots : store'.slots = store.slots := (congrArg (·.slots) hstore :)
  have hcursors : store'.cursors = store.cursors.setIfInBounds (start.cursors.size + i) c := by
    rw [show store'.cursors = store.cursors.setIfInBounds o.id.number c from
      (congrArg (·.cursors) hstore :), hplace]
  have hsets : store'.backend.rowSets =
      store.backend.rowSets.setIfInBounds (start.backend.rowSets.size + i) rs :=
    (congrArg (·.backend.rowSets) hstore :)
  have hlast : (opened.set i o').map (·.id) = opened.map (·.id) := by
    rw [List.map_set, hid]
    refine List.ext_getElem? fun j => ?_
    rw [List.getElem?_set, List.getElem?_map]
    split
    · next hj =>
      subst hj
      rw [ho, List.length_map, if_pos hlt]
      rfl
    · rfl
  refine ⟨hslots ▸ h.indices, ?_, ?_, ?_, ?_⟩
  · rw [← List.getLast?_map, hlast, List.getLast?_map]
    exact hslots ▸ h.attached
  · rw [hcursors, Array.size_setIfInBounds, h.cursors, List.length_set]
  · rw [hsets, Array.size_setIfInBounds, h.rowSets, List.length_set]
  · intro j p hp
    rw [List.getElem?_set] at hp
    rw [hcursors, hsets, Array.getElem?_setIfInBounds, Array.getElem?_setIfInBounds]
    split at hp
    -- the opening that is exchanged
    · next hj =>
      subst hj
      obtain rfl := Option.some.inj hp
      refine ⟨hid.trans hplace, c, rs, ?_, ?_, hat⟩
      · simp [h.cursors, hlt]
      · simp [h.rowSets, hlt]
    -- the others have cursors and row sets of their own
    · next hj =>
      rw [if_neg (by omega), if_neg (by omega)]
      exact h.each j p hp

/-- A new cursor has its result before it. -/
theorem resultOf_opening (store : Store Memory) (q : Query) (r : ResultSet) :
    (store.opening q r).resultOf ⟨store.cursors.size⟩ = r := by
  simp [Store.resultOf, Store.opening, RowSet.ofResult]

/-- The account of one more cursor. -/
theorem opening {q : Query} (h : Tracks start q.columns opened store) (r : ResultSet) :
    Tracks start q.columns (opened ++ [⟨⟨store.cursors.size⟩, r, 0⟩]) (store.opening q r) := by
  refine ⟨fun handle => ?_, ?_, ?_, ?_, ?_⟩
  · exact (Slots.index?_attachAll _ _ _ _).trans (h.indices handle)
  · intro id hid p hp hindex
    rw [List.getLast?_concat] at hid
    obtain rfl := Option.some.inj hid
    refine Slots.cursor?_attachAll hp ?_
    rw [← h.indices, Slots.index?] at hindex
    refine Nat.lt_of_not_le fun hbound => ?_
    rw [Array.getElem?_eq_none hbound] at hindex
    cases hindex
  · rw [Store.opening, Array.size_push, h.cursors, List.length_append]
    rfl
  · rw [Store.opening, Array.size_push, h.rowSets, List.length_append]
    rfl
  · intro i o ho
    rw [List.getElem?_append] at ho
    rw [Store.opening, Array.getElem?_push, Array.getElem?_push, h.cursors, h.rowSets]
    split at ho
    -- the cursors that were there
    · next hlt =>
      rw [if_neg (by omega), if_neg (by omega)]
      exact h.each i o ho
    -- the new one
    · obtain ⟨hi, ho⟩ := List.getElem?_eq_some_iff.1 ho
      obtain rfl : i = opened.length := by
        rw [List.length_singleton] at hi
        omega
      simp only [Nat.sub_self, List.getElem_cons_zero] at ho
      subst ho
      rw [if_pos rfl, if_pos rfl]
      exact ⟨by rw [h.cursors], _, _, rfl, rfl, rfl, Nat.zero_le _,
        .inr ⟨rfl, rfl, rfl, rfl, rfl, rfl⟩⟩

end Tracks

/-! ## Actions -/

section Actions

variable {session : Session Memory} {start store : Store Memory} {q : Query} {opened : List Opening}

/-- The cursor of an opening is closed, or open on its row set. -/
theorem Tracks.openOn (h : Tracks start q.columns opened store) {i : Nat} {o : Opening}
    (ho : opened[i]? = some o) :
    ∃ c, store.cursors[o.id.number]? = some c ∧ c.columns = q.columns ∧
      o.moves ≤ o.result.rows.length ∧ (c.phase = .closed ∨
      ∃ rs, store.OpenOn o.id c ⟨start.backend.rowSets.size + i⟩ rs ∧
        c.phase = (if o.moves = 0 then .unopened else .onRow) ∧ rs.columns = o.result.columns ∧
        rs.rest = o.result.rows.drop o.moves ∧ rs.current = o.row?) := by
  obtain ⟨hid, c, rs, hc, hrs, hat⟩ := h.each i o ho
  have hcursor : store.cursors[o.id.number]? = some c := hid ▸ hc
  refine ⟨c, hcursor, hat.columns, hat.bounded, hat.stands.imp_right ?_⟩
  rintro ⟨hrows, hopen, hphase, hcolumns, hrest, hcurrent⟩
  refine ⟨rs, ⟨hcursor, hrows, hrs, ?_, hopen⟩, hphase, hcolumns, hrest, hcurrent⟩
  rw [hphase]
  split <;> simp

/-- Exchanging an item for itself changes nothing. -/
theorem set_of_getElem? {α : Type} {xs : List α} {i : Nat} {x : α} (h : xs[i]? = some x) :
    xs.set i x = xs := by
  obtain ⟨hlt, rfl⟩ := List.getElem?_eq_some_iff.1 h
  exact List.set_getElem_self hlt

/-- A move is counted if it has found a row. -/
theorem Session.perform_next {i : Nat} {o : Opening} (ho : opened[i]? = some o) :
    session.perform q (opened, store) (.next i) =
      (if (session.next o.id store).1.toOption = some true then
          opened.set i { o with moves := o.moves + 1 }
        else opened, (session.next o.id store).2) := by
  rw [perform]
  dsimp only
  rw [ho]
  dsimp only
  rcases session.next o.id store with ⟨e | _ | _, after⟩ <;> rfl

variable (hbackend : session.backend = Memory.backend)
include hbackend

/-- A move behind the last row finds none, whatever closing the cursor comes to. -/
theorem Session.next_end_ne {id : CursorId} {c : Cursor} {r : RowSetId} {rs : RowSet}
    (h : store.OpenOn id c r rs) (hrest : rs.rest = []) :
    (session.next id store).1.toOption ≠ some true := by
  rw [next_end hbackend h hrest, bind_apply]
  rcases session.closeCursor id (store.withRows r { rs with current := none }) with ⟨e | u, after⟩
  · exact fun htrue => (nomatch htrue)
  · exact fun htrue => (nomatch htrue)

/-- Running the query keeps the account right. -/
theorem Tracks.execute (h : Tracks start q.columns opened store) :
    Tracks start q.columns (session.perform q (opened, store) .execute).1
      (session.perform q (opened, store) .execute).2 := by
  obtain ⟨bound, houtline, ⟨e, hrun⟩ | ⟨r, hrun⟩⟩ := Session.execute_cases hbackend q store
  · rw [Session.perform, hrun]
    exact h.of_outline houtline
  · have hcursors : bound.cursors = store.cursors := (congrArg (·.cursors) houtline :)
    rw [Session.perform, hrun, ← hcursors]
    dsimp only
    rw [resultOf_opening]
    exact (h.of_outline houtline).opening r

/-- Closing keeps the account right. -/
theorem Tracks.closeCursor (h : Tracks start q.columns opened store) {i : Nat} {o : Opening}
    (ho : opened[i]? = some o) : Tracks start q.columns opened (session.closeCursor o.id store).2 := by
  obtain ⟨c, hc, hcolumns, hbounded, hclosed | ⟨rs, hopen, -⟩⟩ := h.openOn ho
  · rw [session.closeCursor_of_closed store (Session.closed_of_cursor hc hclosed)]
    exact h
  · have hupdate := h.update ho o rfl (Session.unstated_closeCursor hbackend hopen)
      ⟨hcolumns, hbounded, .inl rfl⟩
    rwa [set_of_getElem? ho] at hupdate

/-- A move keeps the account right. -/
theorem Tracks.next (h : Tracks start q.columns opened store) (i : Nat) :
    Tracks start q.columns (session.perform q (opened, store) (.next i)).1
      (session.perform q (opened, store) (.next i)).2 := by
  cases ho : opened[i]? with
  | none =>
    rw [Session.perform]
    dsimp only
    rw [ho]
    exact h
  | some o =>
    rw [Session.perform_next ho]
    obtain ⟨c, hc, hcolumns, hbounded, hclosed | ⟨rs, hopen, -, hnames, hrest, -⟩⟩ := h.openOn ho
    · rw [session.next_of_closed store (Session.closed_of_cursor hc hclosed)]
      exact h
    · cases hrows : rs.rest with
      | nil =>
        rw [if_neg (Session.next_end_ne hbackend hopen hrows)]
        have hupdate := h.update ho o rfl (Session.unstated_next_end hbackend hopen hrows)
          ⟨hcolumns, hbounded, .inl rfl⟩
        rwa [set_of_getElem? ho] at hupdate
      | cons row rest =>
        have hdrop : o.result.rows.drop o.moves = row :: rest := hrest.symm.trans hrows
        have hrow : o.result.rows[o.moves]? = some row := by
          rw [← List.head?_drop, hdrop]
          rfl
        have hbehind : o.result.rows.drop (o.moves + 1) = rest := by
          rw [← List.tail_drop, hdrop]
          rfl
        rw [Session.next_row hbackend hopen hrows]
        refine h.update ho { o with moves := o.moves + 1 } rfl rfl ⟨hcolumns, ?_, .inr ?_⟩
        · exact (List.getElem?_eq_some_iff.1 hrow).1
        · exact ⟨hopen.rows, hopen.unclosed, rfl, hnames, hbehind.symm, hrow.symm⟩

/-- Whatever is done keeps the account right. -/
theorem Tracks.perform (h : Tracks start q.columns opened store) (action : CursorAction) :
    Tracks start q.columns (session.perform q (opened, store) action).1
      (session.perform q (opened, store) action).2 := by
  cases action with
  | execute => exact h.execute hbackend
  | next i => exact h.next hbackend i
  | record i =>
    rw [Session.perform]
    dsimp only
    cases ho : opened[i]? with
    | none => exact h
    | some o =>
      obtain ⟨after, hread, hsame⟩ :=
        Session.recordFrom_eq hbackend .empty (Session.columns o.id store) store
      have hrecord : session.record o.id store = _ := hread
      dsimp only
      rw [hrecord]
      exact h.of_outline (Store.outline_of_unprobed hsame)
  | close i =>
    rw [Session.perform]
    dsimp only
    cases ho : opened[i]? with
    | none => exact h
    | some o => exact h.closeCursor hbackend ho
  | drop i =>
    rw [Session.perform]
    dsimp only
    cases ho : opened[i]? with
    | none => exact h
    | some o => exact h.closeCursor hbackend ho

/-- The account is right after any number of actions. -/
theorem Tracks.interleave (start : Store Memory) (q : Query) (actions : List CursorAction) :
    Tracks start q.columns (session.interleave q start actions).1
      (session.interleave q start actions).2 := by
  have hall (state : List Opening × Store Memory) (h : Tracks start q.columns state.1 state.2) :
      Tracks start q.columns (actions.foldl (session.perform q) state).1
        (actions.foldl (session.perform q) state).2 := by
    induction actions generalizing state with
    | nil => exact h
    | cons action actions ih => exact ih _ (h.perform hbackend action)
  exact hall ([], start) (.start_nil start q.columns)

end Actions

/-! ## Records -/

section Records

variable {start store : Store Memory} {q : Query} {opened : List Opening}
  (h : Tracks start q.columns opened store) {i : Nat} {o : Opening} (ho : opened[i]? = some o)
include h ho

/-- A cursor on a row has been moved to one. -/
theorem Tracks.isSome_row (hphase : Session.phase o.id store = .onRow) : o.row?.isSome := by
  obtain ⟨c, hc, -, hbounded, hstands⟩ := h.openOn ho
  have hc' : c.phase = .onRow := by
    rw [Session.phase, show Session.cursor? o.id store = some c from hc] at hphase
    exact hphase
  rcases hstands with hclosed | ⟨rs, -, hmoved, -⟩
  · rw [hc'] at hclosed
    cases hclosed
  · cases hmoves : o.moves with
    | zero =>
      rw [hc', hmoves] at hmoved
      cases hmoved
    | succ k =>
      have hlt : k < o.result.rows.length := by
        rw [hmoves] at hbounded
        exact hbounded
      rw [Opening.row?, hmoves]
      change (o.result.rows[k]?).isSome
      rw [List.getElem?_eq_getElem hlt]
      rfl

/-- A cursor reads its own current row. -/
theorem Tracks.readingAt_eq (index : Nat) (f : Field) :
    store.readingAt o.id index f = readRow o.result.columns
      (if Session.phase o.id store = .onRow then o.row? else none) index f := by
  obtain ⟨c, hc, -, -, hstands⟩ := h.openOn ho
  have hphase : Session.phase o.id store = c.phase := by
    rw [Session.phase, show Session.cursor? o.id store = some c from hc]
    rfl
  by_cases hrow : c.phase = .onRow
  · obtain ⟨row, hrow?⟩ := Option.isSome_iff_exists.1 (h.isSome_row ho (hphase.trans hrow))
    rcases hstands with hclosed | ⟨rs, hopen, -, hnames, -, hcurrent⟩
    · rw [hrow] at hclosed
      cases hclosed
    · rw [hphase, if_pos hrow, hrow?, ← hnames]
      exact hopen.readingAt_eq hrow (hcurrent.trans hrow?) index f
  · rw [hphase, if_neg hrow]
    exact Store.readingAt_of_phase hc hrow _ index f

/-- The cursors of a query have its columns. -/
theorem Tracks.columns_eq : Session.columns o.id store = q.columns := by
  obtain ⟨c, hc, hcolumns, -⟩ := h.openOn ho
  rw [Session.columns, show Session.cursor? o.id store = some c from hc]
  exact hcolumns

end Records

/-- Records look at no more of the slots than the result columns of the handles. -/
theorem Slots.recordOf_congr {slots slots' : Slots} (h : ∀ h, slots'.index? h = slots.index? h)
    (names : List String) (row : Option Row) (r : Record) (columns : List (Field × ColumnHandle)) :
    slots'.recordOf names row r columns = slots.recordOf names row r columns := by
  induction columns generalizing r with
  | nil => rfl
  | cons p columns ih =>
    rw [recordOf, recordOf, h p.2]
    simp only [ih]

/-- Every cursor reads the current row of the newest one.

Whatever sequence of executions, moves, reads and closings a query and its cursors go through, a
cursor on a row has one of its own. But the record of each cursor is the current row of the cursor that
was opened last, each cell as a value of the kind of its field; there is none if that cursor is not on a
row. -/
theorem record_reads_newest (naming : Naming) (config : Config) (q : Query) (start : Store Memory)
    (actions : List CursorAction) :
    let session : Session Memory := ⟨Memory.backend, naming, config⟩
    let opened := (session.interleave q start actions).1
    let store := (session.interleave q start actions).2
    (∀ o ∈ opened, Session.phase o.id store = .onRow → o.row?.isSome) ∧
      ∀ newest, opened.getLast? = some newest → ∀ o ∈ opened,
        (session.record o.id store).1 = start.slots.recordOf newest.result.columns
          (if Session.phase newest.id store = .onRow then newest.row? else none) .empty q.columns := by
  intro session opened store
  have h : Tracks start q.columns opened store := Tracks.interleave rfl start q actions
  constructor
  · intro o ho hphase
    obtain ⟨i, hi⟩ := List.getElem?_of_mem ho
    exact h.isSome_row hi hphase
  · intro newest hnewest o ho
    obtain ⟨i, hi⟩ := List.getElem?_of_mem ho
    rw [List.getLast?_eq_getElem?] at hnewest
    have hattached : ∀ p ∈ q.columns, (store.slots.index? p.2).isSome →
        store.slots.cursor? p.2 = some newest.id := by
      intro p hp hindex
      refine h.attached newest.id ?_ p hp (h.indices p.2 ▸ hindex)
      rw [List.getLast?_eq_getElem?, hnewest]
      rfl
    have hbackend : session.backend = Memory.backend := rfl
    obtain ⟨after, hread, -⟩ :=
      Session.recordFrom_eq hbackend .empty (Session.columns o.id store) store
    have hrecord : session.record o.id store = _ := hread
    rw [hrecord, h.columns_eq hi, Store.recordFrom_eq_recordOf hattached (h.readingAt_eq hnewest)]
    exact Slots.recordOf_congr h.indices _ _ _ _

/-! ## Two cursors -/

/-- Two persons in their table, and two handles without columns. -/
def Store.twoPeople : Store Memory :=
  ⟨⟨⟨[⟨"PERSON", [⟨"id", .integer⟩, ⟨"name", .varchar⟩],
      [[.integer 1, .string "Ada"], [.integer 2, .string "Bea"]]⟩], by decide⟩, #[], #[]⟩,
    #[], #[⟨none, none⟩, ⟨none, none⟩], #[], #[]⟩

/-- The number and the name of a person. -/
def SelectBuilder.people : SelectBuilder :=
  ⟨.entity .person,
    ⟨[(.personId, ⟨.personId, 0⟩), (.personName, ⟨.personName, 1⟩)], none, [], none, []⟩⟩

/-- The query of all persons. -/
def Query.people : Query :=
  ⟨"SELECT person.id, person.name FROM person", ⟨0⟩, SelectBuilder.people.selection.fields, none, 0,
    false⟩

/-- The store with the query of all persons. -/
def Store.peopleQuery : Store Memory :=
  ⟨⟨Store.twoPeople.backend.database,
      #[⟨.select ⟨false, [.expr (.qualified "person" "id"), .expr (.qualified "person" "name")],
        ["person"], none, [], none⟩, [], false⟩], #[]⟩,
    #[], #[⟨some 1, none⟩, ⟨some 2, none⟩], #[some ⟨0⟩], #[]⟩

/-- A cursor is opened and moved to Ada, and another one is opened and moved past her to Bea. -/
def overtaking : List CursorAction := [.execute, .next 0, .execute, .next 1, .next 1]

/-- The two cursors, and the store behind them. -/
def overtaken : List Opening × Store Memory :=
  Session.interleave ⟨Memory.backend, .plain, {}⟩ .people .peopleQuery overtaking

/-- The query is made by the builder. -/
theorem lastingQuery_people :
    Session.lastingQuery ⟨Memory.backend, .plain, {}⟩ .people .twoPeople =
      (.ok .people, .peopleQuery) := by
  cbv

/-- Both cursors are on rows of their own, and both read the row of the second. -/
theorem record_reads_newest_overtaking :
    overtaken.1.map (fun o => (Session.phase o.id overtaken.2, o.row?)) =
        [(.onRow, some [.integer 1, .string "Ada"]), (.onRow, some [.integer 2, .string "Bea"])] ∧
      ∀ o ∈ overtaken.1, (Session.record ⟨Memory.backend, .plain, {}⟩ o.id overtaken.2).1 =
        .ok ⟨[(.personId, .integer 2), (.personName, .string "Bea")]⟩ := by
  refine ⟨by cbv, fun o ho => ?_⟩
  have hnewest : overtaken.1.getLast? = some ⟨⟨1⟩, ⟨["id", "name"],
      [[.integer 1, .string "Ada"], [.integer 2, .string "Bea"]]⟩, 2⟩ := by cbv
  have hread := (record_reads_newest .plain {} .people .peopleQuery overtaking).2 _ hnewest o ho
  refine hread.trans ?_
  cbv

/-- So a cursor on a row of its own may read another's. -/
theorem record_is_not_own :
    ¬ ∀ (naming : Naming) (config : Config) (b : SelectBuilder) (store : Store Memory) (q : Query)
      (start : Store Memory) (actions : List CursorAction),
      let session : Session Memory := ⟨Memory.backend, naming, config⟩
      session.lastingQuery b store = (.ok q, start) →
      let ran := session.interleave q start actions
      ∀ o ∈ ran.1, Session.phase o.id ran.2 = .onRow →
        (session.record o.id ran.2).1 =
          start.slots.recordOf o.result.columns o.row? .empty q.columns := by
  intro h
  let first : Opening := ⟨⟨0⟩, ⟨["id", "name"],
    [[.integer 1, .string "Ada"], [.integer 2, .string "Bea"]]⟩, 1⟩
  have hfirst : overtaken.1.head? = some first := by cbv
  have hphase : Session.phase ⟨0⟩ overtaken.2 = .onRow := by cbv
  have hrecord : (Session.record ⟨Memory.backend, .plain, {}⟩ ⟨0⟩ overtaken.2).1 =
      .ok ⟨[(.personId, .integer 2), (.personName, .string "Bea")]⟩ := by cbv
  have hrow : Store.peopleQuery.slots.recordOf ["id", "name"] (some [.integer 1, .string "Ada"]) .empty
      Query.people.columns = .ok ⟨[(.personId, .integer 1), (.personName, .string "Ada")]⟩ := by cbv
  have hown := h .plain {} .people .twoPeople .people .peopleQuery overtaking lastingQuery_people first
    (List.mem_of_mem_head? hfirst) hphase
  have hsame := Except.ok.inj (hrecord.symm.trans (hown.trans hrow))
  exact absurd hsame (by decide)

end EntityQuery
