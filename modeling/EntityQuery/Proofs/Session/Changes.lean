import EntityQuery.Proofs.Session.Moving
import EntityQuery.Proofs.Session.Watching

/-!
# What requests change on a watched backend

Apart from quiet changes there are five. A statement is handed out (`Store.Prepares`), a row set is handed
out and gets a cursor (`Store.Opens`), a cursor moves to a row (`Store.Moves`), a cursor is closed with its
row set (`Store.Shuts`), and a statement is closed (`Store.Releases`).

Making, running, moving and closing are shown to be made up of these: `Session.buildQuery_prepares`,
`Session.execute_opens`, `Session.next_moves`, `Session.closeCursor_shuts`, and
`Session.closeStatement_releases`. The backend may answer each of its calls as it likes.

None of them depends on the answers of closed row sets, such as `Session.execute_late`.
-/

namespace EntityQuery

variable {σ : Type}

/-- A cursor before its first row. -/
def Query.cursor (q : Query) (rows : RowSetId) : Cursor :=
  ⟨some rows, .unopened, 0, q.columns, q.statement, q.autoClose, q.sql⟩

/-- A cursor on its next row. -/
def Cursor.moved (c : Cursor) : Cursor := { c with phase := .onRow, rowId := c.rowId + 1 }

/-- A cursor that is closed. -/
def Cursor.shut (c : Cursor) : Cursor := { c with rows := none, phase := .closed }

/-! ## Changes -/

namespace Store

/-- A statement is handed out and held. -/
structure Prepares (s t : Store (Recorded σ)) : Prop where
  /-- it is held under the next name -/
  statements : t.statements = s.statements.push (some ⟨s.backend.statements.size⟩)
  /-- it has no calls yet -/
  calls : ∃ own, t.backend.statements = s.backend.statements.push (own, [])
  /-- the row sets stay -/
  rowSets : t.backend.rowSets = s.backend.rowSets
  /-- the cursors stay -/
  cursors : t.cursors = s.cursors

/-- A row set is handed out and gets a cursor. -/
structure Opens (q : Query) (s t : Store (Recorded σ)) : Prop where
  /-- the cursor is before its first row -/
  cursors : t.cursors = s.cursors.push (q.cursor ⟨s.backend.rowSets.size⟩)
  /-- the row set has no calls yet -/
  rowSets : ∃ own, t.backend.rowSets = s.backend.rowSets.push (own, [])
  /-- the held statements stay -/
  statements : t.statements = s.statements
  /-- the statements of the backend stay -/
  calls : t.backend.statements = s.backend.statements

/-- A cursor moves to a row. -/
structure Moves (i : Nat) (c : Cursor) (s t : Store (Recorded σ)) : Prop where
  /-- the cursor is on its next row -/
  cursors : t.cursors = s.cursors.setIfInBounds i c.moved
  /-- the backend stays -/
  backend : t.backend = s.backend
  /-- the held statements stay -/
  statements : t.statements = s.statements

/-- A cursor is closed with its row set. -/
structure Shuts (i : Nat) (c : Cursor) (r : RowSetId) (s t : Store (Recorded σ)) : Prop where
  /-- the cursor is closed -/
  cursors : t.cursors = s.cursors.setIfInBounds i c.shut
  /-- its row set is closed -/
  rowSets : t.backend.rowSets = s.backend.rowSets.note r.number .close
  /-- the held statements stay -/
  statements : t.statements = s.statements
  /-- the statements of the backend stay -/
  calls : t.backend.statements = s.backend.statements

/-- A statement is given up, and closed if it was open. -/
structure Releases (ref : StatementRef) (s t : Store (Recorded σ)) : Prop where
  /-- it is not held any more -/
  statements : t.statements = s.statements.setIfInBounds ref.number none
  /-- an open statement is closed -/
  calls : t.backend.statements =
    match Session.open? ref s with
    | some id => s.backend.statements.note id.number .close
    | none => s.backend.statements
  /-- the row sets stay -/
  rowSets : t.backend.rowSets = s.backend.rowSets
  /-- the cursors stay -/
  cursors : t.cursors = s.cursors

end Store

namespace Session

variable (session : Session σ) (late : Late) {s : Store (Recorded σ)}

/-! ## Statements -/

/-- A statement that is not open is no more given up when it is given up. -/
theorem setIfInBounds_of_closed {τ : Type} {ref : StatementRef} {store : Store τ}
    (h : open? ref store = none) : store.statements.setIfInBounds ref.number none = store.statements := by
  apply Array.ext_getElem?
  intro i
  rw [Array.getElem?_setIfInBounds]
  split
  · next hi =>
    subst hi
    rw [open?] at h
    split
    · next hlt =>
      rw [Array.getElem?_eq_getElem hlt] at h ⊢
      exact congrArg some h.symm
    · next hge => exact (Array.getElem?_eq_none (Nat.le_of_not_lt hge)).symm
  · rfl

theorem closeStatement_releases (ref : StatementRef) (sql : String) (s : Store (Recorded σ)) :
    s.Releases ref ((session.recorded late).closeStatement ref sql s).2 := by
  rw [closeStatement_apply]
  cases hopen : open? ref s with
  | none => exact ⟨(setIfInBounds_of_closed hopen).symm, by rw [hopen]; rfl, rfl, rfl⟩
  | some id =>
    have hgiven : (modify fun store : Store (Recorded σ) =>
        { store with statements := store.statements.setIfInBounds ref.number none } :
          Step (Recorded σ) Unit) s =
        (.ok (), { s with statements := s.statements.setIfInBounds ref.number none }) := rfl
    dsimp only
    rw [bind_of_ok hgiven, adapt_apply]
    refine ⟨rfl, ?_, Recorded.rowSets_toStatement _ _ _ _, rfl⟩
    rw [hopen]
    exact Recorded.statements_toStatement _ _ _ _

/-- A statement is prepared, or the backend refuses it. -/
theorem prepare_prepares (sql : String) (s : Store (Recorded σ)) :
    (∃ e t, (session.recorded late).prepare sql s = (.error e, t) ∧ s.Quiet t) ∨
      ∃ t, (session.recorded late).prepare sql s = (.ok ⟨s.statements.size⟩, t) ∧ s.Prepares t := by
  rcases hprepare : session.backend.prepare sql s.backend.inner with ⟨e | own, inner⟩
  · left
    let t : Store (Recorded σ) := { s with backend := { s.backend with inner := inner } }
    have hcall : ((Step.ofCall ((session.recorded late).backend.prepare sql)).adapt
        (QueryError.prepare sql)) s = (.error (.prepare sql e), t) := by
      rw [adapt_apply]
      simp only [Step.ofCall, Session.recorded, Backend.recorded, hprepare]
      rfl
    exact ⟨_, t, bind_of_error hcall, ⟨rfl, rfl, fun _ => .refl _ _, fun _ => .refl _ _⟩, rfl, rfl⟩
  · right
    let t : Store (Recorded σ) :=
      { s with
        backend :=
          { s.backend with inner := inner, statements := s.backend.statements.push (own, []) } }
    have hcall : ((Step.ofCall ((session.recorded late).backend.prepare sql)).adapt
        (QueryError.prepare sql)) s = (.ok ⟨s.backend.statements.size⟩, t) := by
      rw [adapt_apply]
      simp only [Step.ofCall, Session.recorded, Backend.recorded, hprepare]
      rfl
    exact ⟨{ t with statements := t.statements.push (some ⟨s.backend.statements.size⟩) },
      (bind_of_ok hcall).trans rfl, rfl, ⟨own, rfl⟩, rfl, rfl⟩

/-! ## Queries -/

/-- A query that runs opens a cursor under the next number; one that fails is quiet. -/
theorem execute_opens (hlive : s.Live) (q : Query) :
    let outcome := (session.recorded late).execute q s
    (∃ e, outcome.1 = .error e ∧ s.Quiet outcome.2) ∨
      (outcome.1 = .ok ⟨s.cursors.size⟩ ∧ ∃ t, s.Quiet t ∧ t.Opens q outcome.2) := by
  cases hopen : open? q.statement s with
  | none =>
    left
    rw [execute_of_closed hopen]
    exact ⟨_, rfl, .refl s⟩
  | some id =>
    have hopened : opened q.statement q.sql s = (.ok id, s) := by
      rw [opened_eq, hopen]
    have hbind :=
      (session.agreesOn_bind late late hlive hopen q.sql q.constraint q.parameterCount s (.refl s)).2
    have hrun : (session.recorded late).execute q s = _ := bind_of_ok hopened
    rcases hbound : ((session.recorded late).binder q.sql id).bind [] q.constraint q.parameterCount s
      with ⟨e | n, t⟩
    · rw [hbound] at hbind
      rw [bind_of_error hbound] at hrun
      left
      rw [hrun]
      exact ⟨e, rfl, hbind⟩
    · rw [hbound] at hbind
      rw [bind_of_ok hbound] at hrun
      have hcall : t.backend.Quiet
          (Recorded.toStatement id .query session.backend.query t.backend).2 :=
        Recorded.quiet_toStatement _
          ((hbind.backend.statementCalls id.number).not_mem (hlive.statements _ id hopen)) nofun
      have hadapt (result : Except BackendError RowSetId) (m : Recorded σ)
          (h : (session.recorded late).backend.query id t.backend = (result, m)) :
          ((Step.ofCall ((session.recorded late).backend.query id)).adapt
            (QueryError.execution q.sql)) t =
              (result.mapError (.execution q.sql), { t with backend := m }) := by
        rw [adapt_apply, Step.ofCall, h]
      rcases hquery : Recorded.toStatement id .query session.backend.query t.backend with ⟨e | own, m⟩
      · rw [hquery] at hcall
        rw [bind_of_error (hadapt _ _ (bind_of_error hquery))] at hrun
        left
        rw [hrun]
        exact ⟨_, rfl, hbind.trans ⟨hcall, rfl, rfl⟩⟩
      · rw [hquery] at hcall
        rw [bind_of_ok (hadapt _ _ (bind_of_ok hquery))] at hrun
        right
        rw [hrun]
        refine ⟨?_, { t with backend := m }, hbind.trans ⟨hcall, rfl, rfl⟩, rfl, ⟨own, rfl⟩, rfl, rfl⟩
        rw [← hbind.cursors]
        rfl

/-! ## Cursors -/

section Open

variable {i : Nat} {c : Cursor} {r : RowSetId} (hc : s.cursors[i]? = some c)
  (hphase : c.phase ≠ .closed) (hrows : c.rows = some r)
include hc hphase hrows

/-- An open cursor is closed with its row set, and then with its statement if it is asked to. -/
theorem closeCursor_shuts :
    ∃ t, s.Shuts i c r t ∧ ((session.recorded late).closeCursor ⟨i⟩ s).2 =
      if c.autoClose then ((session.recorded late).closeStatement c.statement c.sql t).2 else t := by
  let t : Store (Recorded σ) :=
    { s.withCursor ⟨i⟩ c.shut with
      backend := (Recorded.toRows r .close session.backend.closeRows s.backend).2 }
  refine ⟨t, ⟨rfl, Recorded.rowSets_toRows _ _ _ _, rfl, Recorded.statements_toRows _ _ _ _⟩, ?_⟩
  have hcursor : cursor? ⟨i⟩ s = some c := hc
  have hfailures (ofRows : Except QueryError Unit)
      (outcome : Except QueryError Unit × Store (Recorded σ)) :
      ((do Step.ofExcept ofRows; Step.ofExcept outcome.1 : Step (Recorded σ) Unit) outcome.2).2 =
        outcome.2 := by
    cases ofRows <;> rfl
  rw [closeCursor_of_open hcursor hrows hphase, bind_of_ok (Step.attempt_apply _ _)]
  refine (hfailures _ _).trans ?_
  split <;> rfl

end Open

/-! ## What a closed row set answers -/

section Late

variable (late' : Late)

end Late

end Session

end EntityQuery
