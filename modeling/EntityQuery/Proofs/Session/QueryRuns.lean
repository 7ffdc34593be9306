import EntityQuery.Proofs.Session.Following

/-!
# Runs of queries and cursors

A program makes queries, runs them, moves, reads, closes and gives up their cursors, and closes the
queries, in any order. The backend may answer as it likes, and fail at every call.

* `Session.acts` is a run of such a program, with an account of queries, cursors, moves and releases. The
  account is kept of what the program asks for and what it is answered. Whether a query was to close with
  its cursors, or which query was run for a cursor, is not read off the store.
* `Account.Due`: a query has been closed, or one of its cursors if it was to close with them.
* `Change` is what one action can do to the store and to the account.
* `Continues` is what is kept as a run goes on (`Change.continues`).
-/

namespace EntityQuery

variable {σ : Type}

/-! ## Runs -/

/-- What a program does with queries and cursors, which it names by their numbers. -/
inductive QueryAction where
  /-- makes the query of a builder -/
  | make (b : SelectBuilder) (autoClose : Bool)
  /-- feeds a cell -/
  | feed (cell : CellId) (v : Value)
  /-- runs a query -/
  | execute (query : Nat)
  /-- moves a cursor -/
  | next (cursor : Nat)
  /-- reads the current row of a cursor -/
  | record (cursor : Nat)
  /-- reads the column of a handle -/
  | read (h : ColumnHandle)
  /-- reads the column of a handle as a kind -/
  | readNative (h : ColumnHandle) (k : Kind)
  /-- closes a cursor -/
  | close (cursor : Nat)
  /-- gives a cursor up -/
  | drop (cursor : Nat)
  /-- closes a query -/
  | release (query : Nat)

/-- What has been done in a run. -/
structure Account where
  /-- the queries that were made, by their numbers -/
  queries : List Query
  /-- for each of them, whether it was to close with its cursors -/
  asked : List Bool
  /-- the cursors that were opened, each with the number of its query -/
  opened : List (Nat × Nat)
  /-- the cursor of each successful move -/
  moves : List Nat
  /-- the queries that were closed -/
  released : List Nat

namespace Account

/-- The account before anything is done. -/
def empty : Account := ⟨[], [], [], [], []⟩

/-- A query is made. -/
def made (a : Account) (q : Query) (autoClose : Bool) : Account :=
  { a with queries := a.queries ++ [q], asked := a.asked ++ [autoClose] }

/-- A cursor is opened. -/
def openedOf (a : Account) (i k : Nat) : Account := { a with opened := a.opened ++ [(i, k)] }

/-- A cursor is moved. -/
def moved (a : Account) (i : Nat) : Account := { a with moves := a.moves ++ [i] }

/-- A query is closed. -/
def closed (a : Account) (k : Nat) : Account := { a with released := a.released ++ [k] }

end Account

/-- A store whose backend is watched from the start. -/
def Store.watched (inner : σ) (cells : Array Value) (slots : Slots) : Store (Recorded σ) :=
  ⟨.start inner, cells, slots, #[], #[]⟩

namespace Session

variable {τ : Type} (session : Session τ)

/-- One action. -/
def act (ran : Account × Store τ) : QueryAction → Account × Store τ
  | .make b autoClose =>
    match session.buildQuery b autoClose ran.2 with
    | (.ok q, store) => (ran.1.made q autoClose, store)
    | (.error _, store) => (ran.1, store)
  | .feed cell v => (ran.1, ran.2.feed cell v)
  | .execute k =>
    match ran.1.queries[k]? with
    | some q =>
      match session.execute q ran.2 with
      | (.ok id, store) => (ran.1.openedOf id.number k, store)
      | (.error _, store) => (ran.1, store)
    | none => ran
  | .next i =>
    match session.next ⟨i⟩ ran.2 with
    | (.ok true, store) => (ran.1.moved i, store)
    | (_, store) => (ran.1, store)
  | .record i => (ran.1, (session.record ⟨i⟩ ran.2).2)
  | .read h => (ran.1, (session.readHandle h ran.2).2)
  | .readNative h k => (ran.1, (session.readNative h k ran.2).2)
  | .close i => (ran.1, (session.closeCursor ⟨i⟩ ran.2).2)
  | .drop i => (ran.1, (session.dropCursor ⟨i⟩ ran.2).2)
  | .release k =>
    match ran.1.queries[k]? with
    | some q => (ran.1.closed k, (session.closeQuery q ran.2).2)
    | none => ran

/-- Action after action. -/
def acts (ran : Account × Store τ) (actions : List QueryAction) : Account × Store τ :=
  actions.foldl session.act ran

end Session

/-- A query is due if it has been closed, or one of its cursors, if it was made to close with them. -/
def Account.Due (a : Account) (k : Nat) (cursors : Array Cursor) : Prop :=
  k ∈ a.released ∨ a.asked[k]? = some true ∧
    ∃ (i : Nat) (c : Cursor), (i, k) ∈ a.opened ∧ cursors[i]? = some c ∧ c.phase = .closed

section Due

variable {a : Account} {k : Nat} {cursors : Array Cursor}

/-- A new query is not due, and the others are or are not as before. -/
theorem due_made {q : Query} {autoClose : Bool} (hk : k < a.asked.length) :
    (a.made q autoClose).Due k cursors ↔ a.Due k cursors := by
  rw [Account.Due, Account.Due, Account.made, List.getElem?_append_left hk]

/-- A new cursor makes no query due. -/
theorem due_opened {c : Cursor} {k' : Nat} (hopen : c.phase ≠ .closed)
    (hbound : ∀ i k, (i, k) ∈ a.opened → i < cursors.size) :
    (a.openedOf cursors.size k').Due k (cursors.push c) ↔ a.Due k cursors := by
  refine or_congr_right (and_congr_right fun _ => ⟨?_, ?_⟩)
  · rintro ⟨i, d, hi, hd, hclosed⟩
    rcases List.mem_append.1 hi with hi | hi
    · rw [Array.getElem?_push_lt (hbound i k hi)] at hd
      exact ⟨i, d, hi, Array.getElem?_eq_some_iff.2 ⟨hbound i k hi, Option.some.inj hd⟩, hclosed⟩
    · obtain ⟨rfl, -⟩ := Prod.mk.inj (List.mem_singleton.1 hi)
      obtain rfl := Option.some.inj (Array.getElem?_push_size.symm.trans hd)
      exact absurd hclosed hopen
  · rintro ⟨i, d, hi, hd, hclosed⟩
    refine ⟨i, d, List.mem_append_left _ hi, ?_, hclosed⟩
    obtain ⟨hlt, hd⟩ := Array.getElem?_eq_some_iff.1 hd
    rw [Array.getElem?_push_lt hlt, hd]

/-- A cursor that was open makes its query due if it closes, and the query is to close with it. -/
theorem due_set {i : Nat} {c c' : Cursor} (hc : cursors[i]? = some c) (hopen : c.phase ≠ .closed) :
    a.Due k (cursors.setIfInBounds i c') ↔
      a.Due k cursors ∨ (a.asked[k]? = some true ∧ (i, k) ∈ a.opened ∧ c'.phase = .closed) := by
  have hlt := (Array.getElem?_eq_some_iff.1 hc).1
  rw [Account.Due, Account.Due, or_assoc, ← and_or_left]
  refine or_congr_right (and_congr_right fun _ => ⟨?_, ?_⟩)
  · rintro ⟨j, d, hj, hd, hclosed⟩
    rw [Array.getElem?_setIfInBounds] at hd
    split at hd
    · next hij =>
      subst hij
      cases hd
      exact .inr ⟨hj, hclosed⟩
    · exact .inl ⟨j, d, hj, hd, hclosed⟩
  · rintro (⟨j, d, hj, hd, hclosed⟩ | ⟨hi, hclosed⟩)
    · have hne : i ≠ j := by
        rintro rfl
        obtain rfl := Option.some.inj (hc.symm.trans hd)
        exact hopen hclosed
      exact ⟨j, d, hj, by rw [Array.getElem?_setIfInBounds_ne hne, hd], hclosed⟩
    · exact ⟨i, c', hi, Array.getElem?_setIfInBounds_self_of_lt hlt, hclosed⟩

theorem due_closed {k' : Nat} : (a.closed k').Due k cursors ↔ a.Due k cursors ∨ k = k' := by
  rw [Account.Due, Account.Due, Account.closed, List.mem_append, List.mem_singleton, or_right_comm]

end Due

/-! ## What one action can do -/

section Changes

variable {a : Account} {s t u : Store (Recorded σ)} {ran ran' : Account × Store (Recorded σ)}
  {closing : Option Nat}

/-- The statement of a cursor is given up behind the cursor, if the cursor is to close it. -/
def Store.Ends (c : Cursor) (s t : Store (Recorded σ)) : Prop :=
  if c.autoClose then s.Releases c.statement t else t = s

/-- No other statement is given up with a statement. -/
theorem Store.Releases.open?_eq_none {ref ref' : StatementRef} (h : s.Releases ref t) :
    Session.open? ref' t = none ↔ Session.open? ref' s = none ∨ ref = ref' := by
  rw [Session.open?, Session.open?, h.statements, Array.getElem?_setIfInBounds]
  split
  · next heq =>
    refine iff_of_true ?_ (.inr (congrArg StatementRef.mk heq))
    split <;> rfl
  · next hne => exact (or_iff_left fun heq => hne (congrArg StatementRef.number heq)).symm

namespace Store.Ends

variable {c : Cursor} (h : s.Ends c t)
include h

theorem releases_or : (c.autoClose = true ∧ s.Releases c.statement t) ∨ (c.autoClose = false ∧ t = s) := by
  rw [Store.Ends] at h
  split at h
  · next hauto => exact .inl ⟨hauto, h⟩
  · next hauto => exact .inr ⟨Bool.eq_false_of_not_eq_true hauto, h⟩

theorem cursors : t.cursors = s.cursors := by
  obtain ⟨-, h⟩ | ⟨-, rfl⟩ := h.releases_or
  · exact h.cursors
  · rfl

theorem size : t.statements.size = s.statements.size := by
  obtain ⟨-, h⟩ | ⟨-, rfl⟩ := h.releases_or
  · rw [h.statements, Array.size_setIfInBounds]
  · rfl

theorem watched {moves : List Nat} (hs : s.Watched moves) : t.Watched moves := by
  obtain ⟨-, h⟩ | ⟨-, rfl⟩ := h.releases_or
  · exact hs.releases h
  · exact hs

theorem open?_eq_none {ref : StatementRef} :
    Session.open? ref t = none ↔
      Session.open? ref s = none ∨ (c.autoClose = true ∧ c.statement = ref) := by
  obtain ⟨hauto, h⟩ | ⟨hauto, rfl⟩ := h.releases_or
  · rw [h.open?_eq_none, and_iff_right hauto]
  · simp only [hauto, Bool.false_eq_true, false_and, or_false]

end Store.Ends

/-- What one action does to the account and to the store, and which cursor it closes. -/
inductive Change : Option Nat → Account × Store (Recorded σ) → Account × Store (Recorded σ) → Prop
  /-- nothing is handed out or closed -/
  | quiet {a : Account} {s t : Store (Recorded σ)} (hquiet : s.Quiet t) : Change none (a, s) (a, t)
  /-- a statement is handed out, but there is no query -/
  | prepare {a : Account} {s t u v : Store (Recorded σ)} (hbefore : s.Quiet t)
      (hprepares : t.Prepares u) (hafter : u.Quiet v) : Change none (a, s) (a, v)
  /-- a statement is handed out, and a query is made on it -/
  | make {a : Account} {s t u v : Store (Recorded σ)} (hbefore : s.Quiet t) (hprepares : t.Prepares u)
      (hafter : u.Quiet v) {q : Query} (hstatement : q.statement = ⟨s.statements.size⟩) :
      Change none (a, s) (a.made q q.autoClose, v)
  /-- a cursor of a query is opened -/
  | execute {a : Account} {s t u : Store (Recorded σ)} {k : Nat} {q : Query}
      (hq : a.queries[k]? = some q) (hbefore : s.Quiet t) (hopens : t.Opens q u) :
      Change none (a, s) (a.openedOf s.cursors.size k, u)
  /-- an open cursor moves to a row -/
  | move {a : Account} {s t u : Store (Recorded σ)} {i : Nat} {c : Cursor}
      (hc : s.cursors[i]? = some c) (hopen : c.phase ≠ .closed) (hbefore : s.Quiet t)
      (hmoves : t.Moves i c u) : Change none (a, s) (a.moved i, u)
  /-- an open cursor is closed, and its statement if it is asked to -/
  | shut {a : Account} {s t u v : Store (Recorded σ)} {i : Nat} {c : Cursor}
      (hc : s.cursors[i]? = some c) (hopen : c.phase ≠ .closed) (hbefore : s.Quiet t)
      (hshuts : t.Shuts i c ⟨i⟩ u) (hlast : u.Ends c v) : Change (some i) (a, s) (a, v)
  /-- a query is closed -/
  | release {a : Account} {s t : Store (Recorded σ)} {k : Nat} {q : Query}
      (hq : a.queries[k]? = some q) (hreleases : s.Releases q.statement t) :
      Change none (a, s) (a.closed k, t)

/-! ## Cursors proceed -/

/-- The phases in their order. -/
def Phase.rank : Phase → Nat
  | .unopened => 0
  | .onRow => 1
  | .closed => 2

/-- A cursor later on. -/
structure Cursor.Proceeds (c c' : Cursor) : Prop where
  /-- its phase does not go back -/
  rank : c.phase.rank ≤ c'.phase.rank
  /-- a closed cursor does not change -/
  closed : c.phase = .closed → c' = c

theorem Cursor.Proceeds.refl (c : Cursor) : c.Proceeds c := ⟨Nat.le_refl _, fun _ => rfl⟩

theorem Cursor.Proceeds.trans {c c' c'' : Cursor} (h : c.Proceeds c') (h' : c'.Proceeds c'') :
    c.Proceeds c'' := by
  refine ⟨h.rank.trans h'.rank, fun hclosed => ?_⟩
  have hsame := h.closed hclosed
  exact (h'.closed (hsame ▸ hclosed)).trans hsame

theorem Cursor.Proceeds.moved {c : Cursor} (hopen : c.phase ≠ .closed) : c.Proceeds c.moved := by
  refine ⟨?_, fun hclosed => absurd hclosed hopen⟩
  change c.phase.rank ≤ Phase.onRow.rank
  cases hphase : c.phase with
  | closed => exact absurd hphase hopen
  | unopened | onRow => decide

theorem Cursor.Proceeds.shut {c : Cursor} (hopen : c.phase ≠ .closed) : c.Proceeds c.shut := by
  refine ⟨?_, fun hclosed => absurd hclosed hopen⟩
  change c.phase.rank ≤ Phase.closed.rank
  cases c.phase <;> decide

/-- A cursor proceeds in a change, and one that is open stays so unless it is the one that is closed. -/
theorem Change.cursor (h : Change closing ran ran') {i : Nat} {c : Cursor}
    (hc : ran.2.cursors[i]? = some c) :
    ∃ c', ran'.2.cursors[i]? = some c' ∧ c.Proceeds c' ∧
      (c.phase ≠ .closed → (c'.phase = .closed ↔ closing = some i)) := by
  have hstays : ∃ c', some c = some c' ∧ c.Proceeds c' ∧
      (c.phase ≠ .closed → (c'.phase = .closed ↔ none = some i)) :=
    ⟨c, rfl, .refl c, fun hopen => ⟨fun hclosed => absurd hclosed hopen, nofun⟩⟩
  have hlt := (Array.getElem?_eq_some_iff.1 hc).1
  cases h with
  | quiet hquiet =>
    dsimp only at hc ⊢
    rwa [hquiet.cursors, hc]
  | prepare hbefore hprepares hafter | make hbefore hprepares hafter hstatement =>
    dsimp only at hc ⊢
    rwa [hafter.cursors, hprepares.cursors, hbefore.cursors, hc]
  | execute hq hbefore hopens =>
    dsimp only at hc hlt ⊢
    rw [hopens.cursors, hbefore.cursors, Array.getElem?_push_lt hlt,
      (Array.getElem?_eq_some_iff.1 hc).2]
    exact hstays
  | @move a s t u j d hd hopen hbefore hmoves =>
    dsimp only at hc hlt ⊢
    rw [hmoves.cursors, hbefore.cursors]
    by_cases hj : j = i
    · subst hj
      obtain rfl := Option.some.inj (hd.symm.trans hc)
      exact ⟨_, Array.getElem?_setIfInBounds_self_of_lt hlt, .moved hopen, fun _ => ⟨nofun, nofun⟩⟩
    · rwa [Array.getElem?_setIfInBounds_ne hj, hc]
  | @shut a s t u v j d hd hopen hbefore hshuts hlast =>
    dsimp only at hc hlt ⊢
    rw [hlast.cursors, hshuts.cursors, hbefore.cursors]
    by_cases hj : j = i
    · subst hj
      obtain rfl := Option.some.inj (hd.symm.trans hc)
      exact ⟨_, Array.getElem?_setIfInBounds_self_of_lt hlt, .shut hopen,
        fun _ => ⟨fun _ => rfl, fun _ => rfl⟩⟩
    · rw [Array.getElem?_setIfInBounds_ne hj, hc]
      exact ⟨c, rfl, .refl c, fun hopen =>
        ⟨fun hclosed => absurd hclosed hopen, fun heq => absurd (Option.some.inj heq) hj⟩⟩
  | release hq hreleases =>
    dsimp only at hc ⊢
    rwa [hreleases.cursors, hc]

/-! ## Runs go on -/

/-- What is kept when a run goes on. -/
structure Continues (ran ran' : Account × Store (Recorded σ)) : Prop where
  /-- queries keep their numbers -/
  queries : ran.1.queries <+: ran'.1.queries
  /-- and what they were asked for -/
  asked : ran.1.asked <+: ran'.1.asked
  /-- cursors keep their queries -/
  opened : ran.1.opened <+: ran'.1.opened
  /-- releases are not taken back -/
  released : ran.1.released <+: ran'.1.released
  /-- cursors proceed -/
  cursors : ∀ (i : Nat) (c : Cursor), ran.2.cursors[i]? = some c →
    ∃ c', ran'.2.cursors[i]? = some c' ∧ c.Proceeds c'

theorem Continues.refl (ran : Account × Store (Recorded σ)) : Continues ran ran :=
  ⟨List.prefix_rfl, List.prefix_rfl, List.prefix_rfl, List.prefix_rfl, fun _ c hc => ⟨c, hc, .refl c⟩⟩

theorem Continues.trans {ran'' : Account × Store (Recorded σ)} (h : Continues ran ran')
    (h' : Continues ran' ran'') : Continues ran ran'' where
  queries := h.queries.trans h'.queries
  asked := h.asked.trans h'.asked
  opened := h.opened.trans h'.opened
  released := h.released.trans h'.released
  cursors i c hc := by
    obtain ⟨c₁, hc₁, hproceeds₁⟩ := h.cursors i c hc
    obtain ⟨c₂, hc₂, hproceeds₂⟩ := h'.cursors i c₁ hc₁
    exact ⟨c₂, hc₂, hproceeds₁.trans hproceeds₂⟩

/-- An item keeps its place if the list grows behind it. -/
theorem getElem?_of_begins {α : Type} {l l' : List α} (h : l <+: l') {k : Nat} {x : α}
    (hx : l[k]? = some x) : l'[k]? = some x := by
  obtain ⟨hlt, rfl⟩ := List.getElem?_eq_some_iff.1 hx
  exact List.prefix_iff_getElem?.1 h k hlt

/-- A query that is due stays so. -/
theorem Continues.due (h : Continues ran ran') {k : Nat} (hdue : ran.1.Due k ran.2.cursors) :
    ran'.1.Due k ran'.2.cursors := by
  rcases hdue with hreleased | ⟨hasked, i, c, hopened, hc, hclosed⟩
  · exact .inl (h.released.subset hreleased)
  · obtain ⟨c', hc', hproceeds⟩ := h.cursors i c hc
    rw [hproceeds.closed hclosed] at hc'
    exact .inr ⟨getElem?_of_begins h.asked hasked, i, c, h.opened.subset hopened, hc', hclosed⟩

end Changes

end EntityQuery
