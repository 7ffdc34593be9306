import EntityQuery.Backend.Script
import EntityQuery.Proofs.Session.Interleaving
import EntityQuery.Proofs.Session.Lifecycle
import EntityQuery.Proofs.Session.RowSets

/-!
# Whole results

A query can be run to its end in one go: for the record of its only row, or for the records of all its
rows. Both work with a cursor of their own, and leave in many ways: behind the last row, with one row too
many, with a row that cannot be read, with a move that fails.

* `Store.Running` is the cursor while it is open, and `Store.Finished` is what is left of it in the end,
  in every case.
* `Session.next_running`, `Session.record_running` and `Session.closeCursor_running` are the single steps.
* `whole_results_are_exact`: both give what the row set yields, and both have closed it.
-/

namespace EntityQuery

variable {σ : Type}

/-! ## The cursor of a whole result -/

namespace Store

/-- A cursor of a query is open on its row set. -/
structure Running (q : Query) (i : Nat) (c : Cursor) (s : Store (Recorded σ)) : Prop where
  /-- cursors and statements agree with the calls that the backend got -/
  watched : ∃ moves, s.Watched moves
  /-- the cursor of the number -/
  cursor : s.cursors[i]? = some c
  /-- it is open -/
  opened : c.phase ≠ .closed
  /-- it is a cursor of the query -/
  own : c = { q.cursor ⟨i⟩ with phase := c.phase, rowId := c.rowId }
  /-- the statement of the query is open -/
  held : Session.open? q.statement s = some ⟨q.statement.number⟩
  /-- the handles of the query read from the cursor -/
  attached : ∀ p ∈ q.columns, (s.slots.index? p.2).isSome → s.slots.cursor? p.2 = some ⟨i⟩

/-- A cursor of a query is closed. Its row set has been closed once, and the statement of the query has
been if it is to close by itself. -/
structure Finished (q : Query) (i : Nat) (s : Store (Recorded σ)) : Prop where
  /-- the cursor is closed -/
  cursor : ∀ c, s.cursors[i]? = some c → c.phase = .closed
  /-- its row set is closed, by the last call to it and by no other -/
  rowSet : History .close True (s.backend.rowSets.calls i)
  /-- so is the statement, or it has not been closed -/
  statement : History .close (q.autoClose = true) (s.backend.statements.calls q.statement.number)
  /-- the statement is held no more if it was closed -/
  held : Session.open? q.statement s = if q.autoClose then none else some ⟨q.statement.number⟩

variable {q : Query} {i : Nat} {c : Cursor} {s t : Store (Recorded σ)}

namespace Running

variable (h : s.Running q i c)
include h

theorem rows_eq : c.rows = some ⟨i⟩ := congrArg Cursor.rows h.own

theorem columns_eq : c.columns = q.columns := congrArg Cursor.columns h.own

theorem statement_eq : c.statement = q.statement := congrArg Cursor.statement h.own

theorem autoClose_eq : c.autoClose = q.autoClose := congrArg Cursor.autoClose h.own

theorem sql_eq : c.sql = q.sql := congrArg Cursor.sql h.own

theorem unclosed : .close ∉ s.backend.rowSets.calls i := by
  obtain ⟨moves, hwatched⟩ := h.watched
  exact (hwatched.live.rowSets c (Array.mem_of_getElem? h.cursor) ⟨i⟩ h.rows_eq).2

/-- A running cursor runs on while the backend is quiet. -/
theorem quiet (hquiet : s.Quiet t) (hslots : t.slots = s.slots) : t.Running q i c := by
  obtain ⟨moves, hwatched⟩ := h.watched
  refine ⟨⟨moves, hwatched.quiet hquiet⟩, hquiet.cursors ▸ h.cursor, h.opened, h.own, ?_,
    hslots ▸ h.attached⟩
  rw [Session.open?, hquiet.statements]
  exact h.held

/-- A running cursor that moves runs on. -/
theorem moved (hmoves : s.Moves i c t) (hslots : t.slots = s.slots) : t.Running q i c.moved := by
  obtain ⟨moves, hwatched⟩ := h.watched
  have hlt := (Array.getElem?_eq_some_iff.1 h.cursor).1
  refine ⟨⟨moves ++ [i], hwatched.moved h.cursor h.opened hmoves⟩, ?_, nofun, ?_, ?_,
    hslots ▸ h.attached⟩
  · rw [hmoves.cursors]
    exact Array.getElem?_setIfInBounds_self_of_lt hlt
  · rw [Cursor.moved, h.own]
  · rw [Session.open?, hmoves.statements]
    exact h.held

end Running

/-- A closed cursor whose statement is given up if it is to close by itself has finished. -/
theorem Watched.finished {moves : List Nat} (h : s.Watched moves) (hc : s.cursors[i]? = some c)
    (hclosed : c.phase = .closed)
    (hheld : s.statements[q.statement.number]? =
      some (if q.autoClose then none else some ⟨q.statement.number⟩)) : s.Finished q i where
  cursor d hd := Option.some.inj (hc.symm.trans hd) ▸ hclosed
  rowSet := (h.cursors.follows i c hc).history.congr (iff_true_intro hclosed)
  statement := (h.statements.histories _ _ hheld).congr (by cases q.autoClose <;> simp)
  held := by
    rw [Session.open?, hheld]
    rfl

end Store

/-! ## Single steps -/

namespace Session

variable (session : Session σ) (late : Late) {q : Query} {i : Nat} {c : Cursor}
  {s : Store (Recorded σ)}

/-- Closing a running cursor finishes it. -/
theorem closeCursor_running (h : s.Running q i c) :
    ((session.recorded late).closeCursor ⟨i⟩ s).2.Finished q i := by
  obtain ⟨moves, hwatched⟩ := h.watched
  obtain ⟨t, hshuts, hlast⟩ := session.closeCursor_shuts late h.cursor h.opened h.rows_eq
  have hlt := (Array.getElem?_eq_some_iff.1 h.cursor).1
  have hshut := hwatched.shuts h.cursor h.opened hshuts
  have hcursor : t.cursors[i]? = some c.shut := by
    rw [hshuts.cursors]
    exact Array.getElem?_setIfInBounds_self_of_lt hlt
  have hheld : t.statements[q.statement.number]? = some (some ⟨q.statement.number⟩) := by
    rw [hshuts.statements]
    exact Option.join_eq_some_iff.1 h.held
  rw [hlast, h.autoClose_eq]
  by_cases hauto : q.autoClose = true
  · rw [if_pos hauto]
    have hreleases := session.closeStatement_releases late c.statement c.sql t
    refine (hshut.releases hreleases).finished (hreleases.cursors ▸ hcursor) rfl ?_
    rw [hreleases.statements, h.statement_eq, if_pos hauto]
    exact Array.getElem?_setIfInBounds_self_of_lt (Array.getElem?_eq_some_iff.1 hheld).1
  · rw [if_neg hauto]
    refine hshut.finished hcursor rfl ?_
    rw [if_neg hauto]
    exact hheld

/-- A running cursor can be closed if its row set can. -/
theorem closeCursor_running_ok (h : s.Running q i c)
    (hcloses : (session.recorded late).backend.Closable ⟨i⟩ ⟨q.statement.number⟩ s.backend) :
    (session.recorded late).closeCursor ⟨i⟩ s =
      (.ok (), ((session.recorded late).closeCursor ⟨i⟩ s).2) := by
  obtain ⟨hrows, hstatement⟩ := hcloses s.backend (.refl _)
  refine Prod.ext (closeCursor_ok h.cursor h.rows_eq h.opened hrows fun sid hsid => ?_) rfl
  rw [h.statement_eq, h.held] at hsid
  exact Option.some.inj hsid ▸ hstatement

/-- What a move of a running cursor comes to: it runs on, on a row, or it finishes. -/
theorem next_running (h : s.Running q i c)
    (hcloses : (session.recorded late).backend.Closable ⟨i⟩ ⟨q.statement.number⟩ s.backend) :
    let answer := (session.recorded late).backend.next ⟨i⟩ s.backend
    (answer.1 = .ok true → ∃ t, (session.recorded late).next ⟨i⟩ s = (.ok true, t) ∧
        t.Running q i c.moved ∧ t.backend = answer.2 ∧ t.slots = s.slots) ∧
      (answer.1 = .ok false → ∃ t, (session.recorded late).next ⟨i⟩ s = (.ok false, t) ∧
        t.Finished q i) ∧
      ∀ e, answer.1 = .error e →
        ∃ t, (session.recorded late).next ⟨i⟩ s = (.error (.execution q.sql e), t) ∧
          t.Finished q i := by
  intro answer
  let t : Store (Recorded σ) := { s with backend := answer.2 }
  have hquiet : s.Quiet t := ⟨Recorded.quiet_toRows _ h.unclosed nofun, rfl, rfl⟩
  have ht : t.Running q i c := h.quiet hquiet rfl
  have hnext : (session.recorded late).next ⟨i⟩ s = _ := next_of_open h.cursor h.rows_eq h.opened
  refine ⟨fun htrue => ?_, fun hfalse => ?_, fun e herror => ?_⟩
  · rw [show ((session.recorded late).backend.next ⟨i⟩ s.backend).1 = _ from htrue] at hnext
    exact ⟨_, hnext, ht.moved ⟨rfl, rfl, rfl⟩ rfl, rfl, rfl⟩
  · rw [show ((session.recorded late).backend.next ⟨i⟩ s.backend).1 = _ from hfalse] at hnext
    have hclose := session.closeCursor_running_ok late ht hcloses.next
    exact ⟨_, hnext.trans (bind_of_ok hclose), session.closeCursor_running late ht⟩
  · rw [show ((session.recorded late).backend.next ⟨i⟩ s.backend).1 = _ from herror] at hnext
    have hignored : Step.ignore ((session.recorded late).closeCursor ⟨i⟩) t =
        (.ok (), ((session.recorded late).closeCursor ⟨i⟩ t).2) := bind_of_ok (Step.attempt_apply _ _)
    rw [h.sql_eq] at hnext
    exact ⟨_, hnext.trans (bind_of_ok hignored), session.closeCursor_running late ht⟩

/-- Reading the row of a running cursor is reading the row of its row set. -/
theorem record_running (h : s.Running q i c) (hphase : c.phase = .onRow) :
    let read := (session.recorded late).backend.recordOf ⟨i⟩ s.slots .empty q.columns s.backend
    ∃ t, (session.recorded late).record ⟨i⟩ s = (read.1, t) ∧ t.Running q i c ∧ t.backend = read.2 ∧
      t.slots = s.slots := by
  intro read
  obtain ⟨moves, hwatched⟩ := h.watched
  have hattached := h.attached
  rw [← h.columns_eq] at hattached
  have hrecord : (session.recorded late).record ⟨i⟩ s = _ :=
    record_of_row h.cursor h.rows_eq hphase hattached
  have hquiet := (session.agreesOn_record late late hwatched.live ⟨i⟩ s (.refl s)).2
  rw [hrecord] at hquiet
  rw [h.columns_eq] at hrecord hquiet
  exact ⟨_, hrecord, h.quiet hquiet rfl, rfl, rfl⟩

/-- A row is found and read. The cursor runs on, and can still be closed. -/
theorem row_running (h : s.Running q i c)
    (hcloses : (session.recorded late).backend.Closable ⟨i⟩ ⟨q.statement.number⟩ s.backend)
    (hfound : ((session.recorded late).backend.next ⟨i⟩ s.backend).1 = .ok true) :
    let backend := (session.recorded late).backend
    let read := backend.recordOf ⟨i⟩ s.slots .empty q.columns (backend.next ⟨i⟩ s.backend).2
    ∃ t u, (session.recorded late).next ⟨i⟩ s = (.ok true, t) ∧
      (session.recorded late).record ⟨i⟩ t = (read.1, u) ∧ u.Running q i c.moved ∧
      u.backend = read.2 ∧ u.slots = s.slots ∧
      backend.Closable ⟨i⟩ ⟨q.statement.number⟩ u.backend := by
  intro backend read
  obtain ⟨t, hnext, ht, hbackend, hslots⟩ := (session.next_running late h hcloses).1 hfound
  obtain ⟨u, hrecord, hu, hafter, hslots'⟩ := session.record_running late ht rfl
  rw [hbackend, hslots] at hrecord hafter
  refine ⟨t, u, hnext, hrecord, hu, hafter, hslots'.trans hslots, ?_⟩
  rw [hafter]
  exact Backend.stable_recordOf Backend.stable_closable_get .empty q.columns _ hcloses.next

/-- A cursor that runs or has finished has finished when it is closed. -/
theorem closeCursor_finished (h : (∃ c, s.Running q i c) ∨ s.Finished q i) :
    ((session.recorded late).closeCursor ⟨i⟩ s).2.Finished q i := by
  rcases h with ⟨c, hrunning⟩ | hfinished
  · exact session.closeCursor_running late hrunning
  · rw [closeCursor_of_closed (session.recorded late) s hfinished.cursor]
    exact hfinished

/-! ## One row -/

/-- What is done for a unique result with the cursor. -/
def single {τ : Type} (session : Session τ) (q : Query) (id : CursorId) : Step τ Record := do
  unless ← session.next id do throw (.notFound q.sql)
  let r ← session.record id
  if ← session.next id then
    session.closeCursor id
    throw (.tooManyRows q.sql)
  return r

theorem queryUnique_eq {τ : Type} (session : Session τ) (q : Query) :
    session.queryUnique q = session.withCursor q (session.single q) := rfl

/-- The unique result: what the first move, the record of the row and the second move come to. -/
def verdict (sql : String) (first : Except BackendError Bool) (read : Except QueryError Record)
    (second : Except BackendError Bool) : Except QueryError Record :=
  match first, read, second with
  | .error e, _, _ => .error (.execution sql e)
  | .ok false, _, _ => .error (.notFound sql)
  | .ok true, .error e, _ => .error e
  | .ok true, .ok _, .error e => .error (.execution sql e)
  | .ok true, .ok _, .ok true => .error (.tooManyRows sql)
  | .ok true, .ok r, .ok false => .ok r

section Verdict

variable {sql : String} {first second : Except BackendError Bool} {read : Except QueryError Record}

/-- Nothing but the first move is reported as a missing row. -/
theorem verdict_eq_notFound (hread : ∀ e, read = .error e → e.isOfReading = true) :
    verdict sql first read second = .error (.notFound sql) ↔ first = .ok false := by
  rcases first with e | _ | _
  · exact ⟨nofun, nofun⟩
  · exact iff_of_true rfl rfl
  · refine ⟨fun h => ?_, nofun⟩
    rcases read with e | r
    · cases h
      cases hread _ rfl
    · rcases second with e | _ | _ <;> cases h

/-- Nothing but the second move is reported as one row too many. -/
theorem verdict_eq_tooManyRows (hread : ∀ e, read = .error e → e.isOfReading = true) :
    verdict sql first read second = .error (.tooManyRows sql) ↔
      first = .ok true ∧ (∃ r, read = .ok r) ∧ second = .ok true := by
  refine ⟨fun h => ?_, ?_⟩
  · rcases first with e | _ | _
    · cases h
    · cases h
    rcases read with e | r
    · cases h
      cases hread _ rfl
    · rcases second with e | _ | _
      · cases h
      · cases h
      · exact ⟨rfl, ⟨r, rfl⟩, rfl⟩
  · rintro ⟨rfl, ⟨r, rfl⟩, rfl⟩
    rfl

/-- A unique result is the record of the first row, and there is no second one. -/
theorem verdict_eq_ok {r : Record} :
    verdict sql first read second = .ok r ↔ first = .ok true ∧ read = .ok r ∧ second = .ok false := by
  refine ⟨fun h => ?_, ?_⟩
  · rcases first with e | _ | _
    · cases h
    · cases h
    rcases read with e | r'
    · cases h
    rcases second with e | _ | _ <;> cases h
    exact ⟨rfl, rfl, rfl⟩
  · rintro ⟨rfl, rfl, rfl⟩
    rfl

end Verdict

/-- The unique result is decided by the first move, the record of the row, and the second move. The cursor
runs on or has finished then. -/
theorem single_running (h : s.Running q i c)
    (hcloses : (session.recorded late).backend.Closable ⟨i⟩ ⟨q.statement.number⟩ s.backend) :
    let backend := (session.recorded late).backend
    let first := backend.next ⟨i⟩ s.backend
    let read := backend.recordOf ⟨i⟩ s.slots .empty q.columns first.2
    let second := backend.next ⟨i⟩ read.2
    let outcome := (session.recorded late).single q ⟨i⟩ s
    ((∃ c, outcome.2.Running q i c) ∨ outcome.2.Finished q i) ∧
      outcome.1 = verdict q.sql first.1 read.1 second.1 := by
  intro backend first read second outcome
  obtain ⟨hrow, hend, hfailed⟩ := session.next_running late h hcloses
  rcases hfirst : first.1 with e | _ | _
  · obtain ⟨t, hnext, ht⟩ := hfailed e hfirst
    have houtcome : outcome = _ := bind_of_error hnext
    rw [houtcome]
    exact ⟨.inr ht, rfl⟩
  · obtain ⟨t, hnext, ht⟩ := hend hfirst
    have houtcome : outcome = _ := bind_of_ok hnext
    rw [houtcome]
    exact ⟨.inr ht, rfl⟩
  · obtain ⟨t, u, hnext, hrecord, hu, hread, -, hcloses'⟩ := session.row_running late h hcloses hfirst
    have hread : u.backend = read.2 := hread
    have hrecord : (session.recorded late).record ⟨i⟩ t = (read.1, u) := hrecord
    have hbehind : outcome = _ := bind_of_ok hnext
    rcases hrecorded : read.1 with e | r
    · rw [hrecorded] at hrecord
      rw [hbehind.trans (bind_of_error hrecord)]
      exact ⟨.inl ⟨_, hu⟩, rfl⟩
    · rw [hrecorded] at hrecord
      have hbehind : outcome = _ := hbehind.trans (bind_of_ok hrecord)
      obtain ⟨hrow', hend', hfailed'⟩ := session.next_running late hu hcloses'
      rw [hread] at hrow' hend' hfailed'
      rcases hsecond : second.1 with e | _ | _
      · obtain ⟨v, hnext', hv⟩ := hfailed' e hsecond
        rw [hbehind.trans (bind_of_error hnext')]
        exact ⟨.inr hv, rfl⟩
      · obtain ⟨v, hnext', hv⟩ := hend' hsecond
        rw [hbehind.trans (bind_of_ok hnext')]
        exact ⟨.inr hv, rfl⟩
      · obtain ⟨v, hnext', hv, hbackend', -⟩ := hrow' hsecond
        have hclose := session.closeCursor_running_ok late hv (hbackend' ▸ hread ▸ hcloses'.next)
        rw [hbehind.trans ((bind_of_ok hnext').trans (bind_of_ok hclose))]
        exact ⟨.inr (session.closeCursor_running late hv), rfl⟩

/-! ## All rows -/

/-- Reading on, row by row, has read rows that the row set yields, and behind them there is none unless the
limit was reached. The cursor runs on or has finished then. -/
theorem recordsUpTo_running (limit : Nat) (h : s.Running q i c)
    (hcloses : (session.recorded late).backend.Closable ⟨i⟩ ⟨q.statement.number⟩ s.backend) :
    let backend := (session.recorded late).backend
    let outcome := (session.recorded late).recordsUpTo ⟨i⟩ limit s
    ((∃ c, outcome.2.Running q i c) ∨ outcome.2.Finished q i) ∧
      ∀ rs, outcome.1 = .ok rs → ∃ m, backend.Yields ⟨i⟩ s.slots q.columns s.backend rs m ∧
        (rs.length = limit ∨ (backend.next ⟨i⟩ m).1 = .ok false) := by
  intro backend outcome
  induction limit generalizing s c with
  | zero =>
    refine ⟨.inl ⟨c, h⟩, fun rs hrs => ?_⟩
    cases hrs
    exact ⟨s.backend, .nil _, .inl rfl⟩
  | succ limit ih =>
    obtain ⟨-, hend, hfailed⟩ := session.next_running late h hcloses
    rcases hanswer : (backend.next ⟨i⟩ s.backend).1 with e | _ | _
    · obtain ⟨t, hnext, ht⟩ := hfailed e hanswer
      rw [show outcome = _ from bind_of_error hnext]
      exact ⟨.inr ht, nofun⟩
    · obtain ⟨t, hnext, ht⟩ := hend hanswer
      rw [show outcome = _ from bind_of_ok hnext]
      refine ⟨.inr ht, fun rs hrs => ?_⟩
      cases hrs
      exact ⟨s.backend, .nil _, .inr hanswer⟩
    · obtain ⟨t, u, hnext, hrecord, hu, hread, hslots, hcloses'⟩ :=
        session.row_running late h hcloses hanswer
      have hbehind : outcome = _ := bind_of_ok hnext
      rcases hrecorded : backend.recordOf ⟨i⟩ s.slots .empty q.columns
        (backend.next ⟨i⟩ s.backend).2 with ⟨e | r, read⟩
      · rw [show backend.recordOf ⟨i⟩ s.slots .empty q.columns _ = _ from hrecorded] at hrecord
        rw [hbehind.trans (bind_of_error hrecord)]
        exact ⟨.inl ⟨_, hu⟩, nofun⟩
      · rw [show backend.recordOf ⟨i⟩ s.slots .empty q.columns _ = _ from hrecorded] at hrecord hread
        have hbehind : outcome = _ := hbehind.trans (bind_of_ok hrecord)
        obtain ⟨hsettled, hyields⟩ := ih hu hcloses'
        rcases hrest : (session.recorded late).recordsUpTo ⟨i⟩ limit u with ⟨e | rest, after⟩
        · rw [hrest] at hsettled
          rw [hbehind.trans (bind_of_error hrest)]
          exact ⟨hsettled, nofun⟩
        · rw [hrest] at hsettled hyields
          rw [hbehind.trans (bind_of_ok hrest)]
          refine ⟨hsettled, fun rs hrs => ?_⟩
          obtain ⟨m, hrows, hlast⟩ := hyields rest rfl
          rw [hslots, hread] at hrows
          cases hrs
          refine ⟨m, .cons (Prod.ext hanswer rfl) hrecorded hrows, ?_⟩
          exact hlast.imp_left (congrArg (· + 1))

/-- Rows that are all that a row set yields are read, if there are fewer than the limit. -/
theorem recordsUpTo_of_yields {slots : Slots} {before m : Recorded σ} {rs : List Record} {limit : Nat}
    (hyields : (session.recorded late).backend.Yields ⟨i⟩ slots q.columns before rs m)
    (hend : ((session.recorded late).backend.next ⟨i⟩ m).1 = .ok false) (hlimit : rs.length < limit)
    (h : s.Running q i c) (hbefore : s.backend = before) (hslots : s.slots = slots)
    (hcloses : (session.recorded late).backend.Closable ⟨i⟩ ⟨q.statement.number⟩ s.backend) :
    ((session.recorded late).recordsUpTo ⟨i⟩ limit s).1 = .ok rs := by
  obtain ⟨limit, rfl⟩ := Nat.exists_eq_succ_of_ne_zero (Nat.ne_zero_of_lt hlimit)
  induction hyields generalizing s c limit with
  | nil m =>
    obtain ⟨t, hnext, -⟩ := (session.next_running late h hcloses).2.1 (hbefore ▸ hend)
    exact congrArg Prod.fst (bind_of_ok hnext)
  | cons hnext hread hrest ih =>
    subst hbefore hslots
    obtain ⟨t, u, hmoved, hrecord, hu, hafter, hslots, hcloses'⟩ :=
      session.row_running late h hcloses (congrArg Prod.fst hnext)
    rw [hnext, hread] at hrecord hafter
    obtain ⟨limit, rfl⟩ := Nat.exists_eq_succ_of_ne_zero
      (Nat.ne_zero_of_lt (Nat.lt_of_succ_lt_succ hlimit))
    have hlater := ih hend hu hafter hslots hcloses' limit (Nat.lt_of_succ_lt_succ hlimit)
    have hrun : (session.recorded late).recordsUpTo ⟨i⟩ (limit + 2) s = _ :=
      (bind_of_ok hmoved).trans ((bind_of_ok hrecord).trans (bind_of_ok (Prod.ext hlater rfl)))
    rw [hrun]
    rfl

/-! ## Whole results -/

/-- A query that runs opens a running cursor, on a row set without calls. -/
theorem execute_running {moves : List Nat} {id : CursorId} {opened : Store (Recorded σ)}
    (hwatched : s.Watched moves) (hexecute : (session.recorded late).execute q s = (.ok id, opened)) :
    opened.Running q id.number (q.cursor ⟨id.number⟩) ∧ opened.backend.rowSets.calls id.number = [] := by
  obtain ⟨⟨sid, hheld⟩, hsize, hattached⟩ := execute_eq_ok hexecute
  have hcases := session.execute_opens late hwatched.live q
  rw [hexecute] at hcases
  rcases hcases with ⟨e, herror, -⟩ | ⟨-, t, hquiet, hopens⟩
  · cases herror
  have ht := hwatched.quiet hquiet
  obtain ⟨own, hrowSets⟩ := hopens.rowSets
  have hid : id.number = t.cursors.size := by
    rw [hopens.cursors, Array.size_push] at hsize
    exact (Nat.succ.inj hsize).symm
  have hrows : id.number = t.backend.rowSets.size := hid.trans ht.cursors.size.symm
  have hname := hwatched.statements.names _ _ (Option.join_eq_some_iff.1 hheld)
  refine ⟨⟨⟨moves, ht.opens hopens⟩, ?_, nofun, rfl, ?_, hattached⟩, ?_⟩
  · rw [hopens.cursors, ← hrows, hid]
    exact Array.getElem?_push_size
  · rw [open?, hopens.statements, hquiet.statements, ← hname]
    exact hheld
  · rw [hrowSets, Ledger.calls_push]
    exact Ledger.calls_of_size_le (Nat.le_of_eq hrows.symm)

end Session

/-- Whole results are exact, and they release what they have used. This holds for any backend that closes
the row set and the statement of a query when it is asked to.

Once a query has opened a row set, the unique result is not found if the first move finds no row, there
are too many rows if the first row can be read and a second move finds another one, and it is the first
row if that can be read and the second move finds the end. All records are the rows that are found and
read one after the other, until a move finds the end; here the row set has no more rows than it says. In
any case, also if a row cannot be read or a move fails, the row set has been closed once, and the statement
has been if it is to close by itself. -/
theorem whole_results_are_exact (session : Session σ) (late : Late) (q : Query) {moves : List Nat}
    {store opened : Store (Recorded σ)} {id : CursorId} (hwatched : store.Watched moves)
    (hexecute : (session.recorded late).execute q store = (.ok id, opened))
    (hcloses : (session.recorded late).backend.Closable ⟨id.number⟩ ⟨q.statement.number⟩
      opened.backend) :
    let backend := (session.recorded late).backend
    let rows : RowSetId := ⟨id.number⟩
    let first := backend.next rows opened.backend
    let read := backend.recordOf rows opened.slots .empty q.columns first.2
    let second := backend.next rows read.2
    let unique := (session.recorded late).queryUnique q store
    let all := (session.recorded late).queryRecords q store
    -- the row set is that of the cursor, and nothing has been done with it yet
    Session.cursor? id opened = some (q.cursor rows) ∧ opened.backend.rowSets.calls id.number = [] ∧
      (unique.1 = .error (.notFound q.sql) ↔ first.1 = .ok false) ∧
      (unique.1 = .error (.tooManyRows q.sql) ↔
        first.1 = .ok true ∧ (∃ r, read.1 = .ok r) ∧ second.1 = .ok true) ∧
      (∀ r, unique.1 = .ok r ↔ first.1 = .ok true ∧ read.1 = .ok r ∧ second.1 = .ok false) ∧
      (backend.Bounded rows opened.slots q.columns opened.backend →
        ∀ rs, all.1 = .ok rs ↔
          ∃ t, backend.Yields rows opened.slots q.columns opened.backend rs t ∧
            (backend.next rows t).1 = .ok false) ∧
      unique.2.Finished q id.number ∧ all.2.Finished q id.number := by
  intro backend rows first read second unique all
  obtain ⟨hrunning, hcalls⟩ := session.execute_running late hwatched hexecute
  have hunique : unique = _ := (congrFun (Session.queryUnique_eq _ q) store).trans
    (Session.withCursor_apply hexecute ((session.recorded late).single q))
  have hall : all = _ := Session.withCursor_apply hexecute (session.recorded late).records
  have hreads : ∀ e, read.1 = .error e → e.isOfReading = true :=
    fun e he => Backend.reads_recordOf .empty q.columns first.2 e read.2 (Prod.ext he rfl)
  have hleft : (session.recorded late).rowsLeft id opened = backend.rowsLeft rows opened.backend := by
    rw [Session.rowsLeft, Session.cursor?, hrunning.cursor]
    rfl
  obtain ⟨hsingle, hverdict⟩ := session.single_running late hrunning hcloses
  obtain ⟨hrecords, hyielded⟩ :=
    session.recordsUpTo_running late ((session.recorded late).rowsLeft id opened + 1) hrunning hcloses
  have hverdict : unique.1 = Session.verdict q.sql first.1 read.1 second.1 :=
    (congrArg Prod.fst hunique).trans hverdict
  refine ⟨hrunning.cursor, hcalls, ?_, ?_, fun r => ?_, fun hbounded rs => ⟨fun hrs => ?_, ?_⟩, ?_, ?_⟩
  · rw [hverdict]
    exact Session.verdict_eq_notFound hreads
  · rw [hverdict]
    exact Session.verdict_eq_tooManyRows hreads
  · rw [hverdict]
    exact Session.verdict_eq_ok
  · rw [hall] at hrs
    obtain ⟨t, hyields, hlast⟩ := hyielded rs hrs
    refine ⟨t, hyields, hlast.resolve_left fun hlimit => ?_⟩
    have hle := hbounded rs t hyields
    rw [hleft] at hlimit
    omega
  · rintro ⟨t, hyields, hend⟩
    have hle := hbounded rs t hyields
    rw [hall]
    exact session.recordsUpTo_of_yields late hyields hend (by rw [hleft]; omega) hrunning rfl rfl hcloses
  · rw [hunique]
    exact session.closeCursor_finished late hsingle
  · rw [hall]
    exact session.closeCursor_finished late hrecords

/-! ## A query with one row -/

namespace Scripted

variable {script : Script}

/-- Moving a row set leaves the script alone. -/
theorem stable_next (id : RowSetId) : Stable (fun s => s.script = script) (next id) := by
  intro s hs
  rw [next]
  split
  · exact hs
  · dsimp only
    split <;> exact hs

/-- So does reading it. -/
theorem stable_get (id : RowSetId) (getter : Getter) (index : Nat) :
    Stable (fun s => s.script = script) (Scripted.get id getter index) := by
  intro s hs
  rw [Scripted.get]
  split
  · exact hs
  · dsimp only
    split <;> exact hs

/-- A call that the script does not let fail. -/
theorem logged_ok (call : LoggedCall) (failure : Failures → Option String) {s : Scripted}
    (h : failure s.script.failures = none) :
    (logged call failure s).1 = .ok () ∧ (logged call failure s).2.script = s.script := by
  rw [logged]
  dsimp only
  rw [h]
  exact ⟨rfl, rfl⟩

end Scripted

/-- A session on a scripted backend. -/
def Session.scripted : Session Scripted := ⟨Scripted.backend, .plain, {}⟩

/-- Closed row sets that tell nothing. -/
def Late.silent : Late := ⟨false, fun _ => none⟩

/-- A query that gives its statement up behind its rows. -/
def Query.once : Query := { Query.people with autoClose := true }

/-- The only row. -/
def Record.ada : Record := ⟨[(.personId, .integer 1), (.personName, .string "Ada")]⟩

/-- A store without statements. Its backend has one row, and its handles have columns. -/
def Store.ada : Store (Recorded Scripted) :=
  Store.watched (.start ⟨[[.value (.integer 1), .value (.string "Ada")]], [], 0, {}⟩) #[]
    #[⟨some 1, none⟩, ⟨some 2, none⟩]

/-- The store with the statement of the query. -/
def Store.once : Store (Recorded Scripted) :=
  { Store.ada with
    backend := { Store.ada.backend with statements := #[(⟨0⟩, [])] }
    statements := #[some ⟨0⟩] }

/-- The store with its cursor. -/
def Store.onceOpened : Store (Recorded Scripted) :=
  ((Session.scripted.recorded .silent).execute .once .once).2

/-- The only row is the unique result, and the only record. -/
theorem whole_results_are_exact_once :
    let session := Session.scripted.recorded .silent
    (session.queryUnique .once .once).1 = .ok .ada ∧
      (session.queryRecords .once .once).1 = .ok [.ada] ∧
      (session.queryUnique .once .once).2.Finished .once 0 ∧
      (session.queryRecords .once .once).2.Finished .once 0 := by
  have hprepares : Store.ada.Prepares .once := ⟨rfl, ⟨⟨0⟩, rfl⟩, rfl, rfl⟩
  have hwatched : Store.once.Watched [] := (lifecycle_start _ _ _).watched.prepares hprepares
  have hexecute : (Session.scripted.recorded .silent).execute .once .once = (.ok ⟨0⟩, .onceOpened) :=
    rfl
  have hcloses : (Session.scripted.recorded .silent).backend.Closable ⟨0⟩ ⟨0⟩
      Store.onceOpened.backend := by
    refine Recorded.closable (I := fun s => s.script = Store.ada.backend.inner.script) rfl rfl
      (Scripted.stable_next _) (Scripted.stable_get _) (fun t ht => ?_) (fun t ht => ?_) rfl
    · exact (Scripted.logged_ok .closeRows (·.closeRows) (ht ▸ rfl)).imp_right (·.trans ht)
    · exact (Scripted.logged_ok .close (·.close) (ht ▸ rfl)).1
  obtain ⟨-, -, -, -, hunique, hall, hfinished, hfinished'⟩ :=
    whole_results_are_exact Session.scripted .silent .once hwatched hexecute hcloses
  have hyields : (Session.scripted.recorded .silent).backend.Yields ⟨0⟩ Store.onceOpened.slots
      Query.once.columns Store.onceOpened.backend [.ada] _ := .cons rfl rfl (.nil _)
  refine ⟨(hunique .ada).2 ⟨rfl, rfl, rfl⟩, (hall (fun rs t h => ?_) [.ada]).2 ⟨_, hyields, rfl⟩,
    hfinished, hfinished'⟩
  exact hyields.length_le rfl h

end EntityQuery
