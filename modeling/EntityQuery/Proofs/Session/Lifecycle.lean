import EntityQuery.Proofs.Session.QueryRuns

/-!
# The lives of cursors and statements

Cursors and statements live as they should in all runs of queries and cursors.

* `Lifecycle` holds in all runs. Cursors are of the queries that were run for them, queries close with
  their cursors if they were to, and a statement is given up if, and only if, its query is due.
* `Session.act_change` finds the change of each action, and says which cursor it closes.
* `Session.query_lifecycle` puts together what follows for cursors, row sets and statements.
-/

namespace EntityQuery

variable {σ : Type}

section Changes

variable {a : Account} {s t u : Store (Recorded σ)} {ran ran' : Account × Store (Recorded σ)}
  {closing : Option Nat}

/-! ## What holds in all runs -/

/-- A cursor of a query. -/
structure Cursor.IsOf (c : Cursor) (q : Query) : Prop where
  /-- it has the statement of the query -/
  statement : c.statement = q.statement
  /-- it closes the statement if the query is to close with its cursors -/
  autoClose : c.autoClose = q.autoClose
  /-- it has the columns of the query -/
  columns : c.columns = q.columns
  /-- it reports the text of the query -/
  sql : c.sql = q.sql

theorem Cursor.IsOf.moved {c : Cursor} {q : Query} (h : c.IsOf q) : c.moved.IsOf q :=
  ⟨h.statement, h.autoClose, h.columns, h.sql⟩

theorem Cursor.IsOf.shut {c : Cursor} {q : Query} (h : c.IsOf q) : c.shut.IsOf q :=
  ⟨h.statement, h.autoClose, h.columns, h.sql⟩

/-- The account and the store of a run agree. -/
structure Lifecycle (ran : Account × Store (Recorded σ)) : Prop where
  /-- cursors and statements agree with the calls that the backend got -/
  watched : ran.2.Watched ran.1.moves
  /-- queries have statements -/
  queries : ∀ q ∈ ran.1.queries, q.statement.number < ran.2.statements.size
  /-- each of its own -/
  own : ran.1.queries.Pairwise fun q q' => q.statement ≠ q'.statement
  /-- they close with their cursors if they were to do so -/
  asked : ran.1.queries.map (·.autoClose) = ran.1.asked
  /-- cursors are numbered as they were opened -/
  opened : ran.1.opened.map (·.1) = List.range ran.2.cursors.size
  /-- each of them is of its query -/
  cursors : ∀ i k, (i, k) ∈ ran.1.opened →
    ∃ c q, ran.2.cursors[i]? = some c ∧ ran.1.queries[k]? = some q ∧ c.IsOf q
  /-- only queries are closed -/
  released : ∀ k ∈ ran.1.released, k < ran.1.queries.length
  /-- statements are given up when their queries are due -/
  due : ∀ k q, ran.1.queries[k]? = some q →
    (Session.open? q.statement ran.2 = none ↔ ran.1.Due k ran.2.cursors)

theorem lifecycle_start (inner : σ) (cells : Array Value) (slots : Slots) :
    Lifecycle (.empty, Store.watched inner cells slots) where
  watched := ⟨⟨rfl, nofun, nofun⟩, ⟨rfl, nofun, nofun⟩⟩
  queries := nofun
  own := .nil
  asked := rfl
  opened := rfl
  cursors := nofun
  released := nofun
  due := nofun

namespace Lifecycle

/-- Queries with one statement are one query. -/
theorem number_eq (h : Lifecycle ran) {k k' : Nat} {q q' : Query} (hq : ran.1.queries[k]? = some q)
    (hq' : ran.1.queries[k']? = some q') (hstatement : q.statement = q'.statement) : k = k' := by
  have hown : (ran.1.queries.map (·.statement)).Nodup := List.pairwise_map.2 h.own
  refine (List.getElem?_inj ?_ hown).1 ?_
  · rw [List.length_map]
    exact (List.getElem?_eq_some_iff.1 hq).1
  · rw [List.getElem?_map, List.getElem?_map, hq, hq', Option.map_some, Option.map_some, hstatement]

/-- What a query was asked for is what it does. -/
theorem asked_eq (h : Lifecycle ran) {k : Nat} {q : Query} (hq : ran.1.queries[k]? = some q) :
    ran.1.asked[k]? = some q.autoClose := by
  rw [← h.asked, List.getElem?_map, hq, Option.map_some]

/-- Only cursors have been opened, and only of queries. -/
theorem lt_of_opened (h : Lifecycle ran) {i k : Nat} (hopened : (i, k) ∈ ran.1.opened) :
    i < ran.2.cursors.size ∧ k < ran.1.queries.length := by
  obtain ⟨c, q, hc, hq, -⟩ := h.cursors i k hopened
  exact ⟨(Array.getElem?_eq_some_iff.1 hc).1, (List.getElem?_eq_some_iff.1 hq).1⟩

/-- The query of a cursor. -/
theorem query_of_cursor (h : Lifecycle ran) {i : Nat} {c : Cursor} (hc : ran.2.cursors[i]? = some c) :
    ∃ k q, (i, k) ∈ ran.1.opened ∧ ran.1.queries[k]? = some q ∧ c.IsOf q := by
  have hi : i ∈ ran.1.opened.map (·.1) := by
    rw [h.opened, List.mem_range]
    exact (Array.getElem?_eq_some_iff.1 hc).1
  obtain ⟨⟨i, k⟩, hopened, rfl⟩ := List.mem_map.1 hi
  obtain ⟨c', q, hc', hq, hof⟩ := h.cursors i k hopened
  obtain rfl := Option.some.inj (hc.symm.trans hc')
  exact ⟨k, q, hopened, hq, hof⟩

/-- A cursor closes the statement of a query if it is a cursor of the query, and the query was to close
with its cursors. -/
theorem closes_iff (h : Lifecycle ran) {i k : Nat} {c : Cursor} {q : Query}
    (hc : ran.2.cursors[i]? = some c) (hq : ran.1.queries[k]? = some q) :
    c.autoClose = true ∧ c.statement = q.statement ↔
      ran.1.asked[k]? = some true ∧ (i, k) ∈ ran.1.opened := by
  rw [h.asked_eq hq]
  refine ⟨fun hcloses => ?_, fun hcloses => ?_⟩
  · obtain ⟨k', q', hopened, hq', hof⟩ := h.query_of_cursor hc
    obtain rfl := h.number_eq hq' hq (hof.statement.symm.trans hcloses.2)
    obtain rfl := Option.some.inj (hq'.symm.trans hq)
    exact ⟨congrArg some (hof.autoClose.symm.trans hcloses.1), hopened⟩
  · obtain ⟨c', q', hc', hq', hof⟩ := h.cursors i k hcloses.2
    obtain rfl := Option.some.inj (hc.symm.trans hc')
    obtain rfl := Option.some.inj (hq.symm.trans hq')
    exact ⟨hof.autoClose.trans (Option.some.inj hcloses.1), hof.statement⟩

/-- The calls to the statement of a query. -/
theorem history (h : Lifecycle ran) {k : Nat} {q : Query} (hq : ran.1.queries[k]? = some q) :
    History .close (ran.1.Due k ran.2.cursors)
      (ran.2.backend.statements.calls q.statement.number) := by
  have hheld := Array.getElem?_eq_getElem (h.queries q (List.mem_of_getElem? hq))
  refine (h.watched.statements.histories _ _ hheld).congr ?_
  rw [← h.due k q hq, Session.open?, hheld]
  rfl

/-! ### Each change keeps it -/

theorem quiet (h : Lifecycle (a, s)) (hquiet : s.Quiet t) : Lifecycle (a, t) where
  watched := h.watched.quiet hquiet
  queries := hquiet.statements.symm ▸ h.queries
  own := h.own
  asked := h.asked
  opened := hquiet.cursors.symm ▸ h.opened
  cursors := hquiet.cursors.symm ▸ h.cursors
  released := h.released
  due k q hq := by
    dsimp only
    rw [Session.open?, hquiet.statements, hquiet.cursors]
    exact h.due k q hq

theorem prepares (h : Lifecycle (a, s)) (hprepares : s.Prepares t) : Lifecycle (a, t) where
  watched := h.watched.prepares hprepares
  queries q hq := by
    rw [hprepares.statements, Array.size_push]
    exact Nat.lt_succ_of_lt (h.queries q hq)
  own := h.own
  asked := h.asked
  opened := hprepares.cursors.symm ▸ h.opened
  cursors := hprepares.cursors.symm ▸ h.cursors
  released := h.released
  due k q hq := by
    have hlt := h.queries q (List.mem_of_getElem? hq)
    dsimp only at hlt ⊢
    rw [Session.open?, hprepares.statements, hprepares.cursors, Array.getElem?_push_lt hlt,
      ← Array.getElem?_eq_getElem hlt]
    exact h.due k q hq

/-- A query is made on an open statement behind those of the others. -/
theorem made {q : Query} (h : Lifecycle (a, s)) (hopen : Session.open? q.statement s ≠ none)
    (hnew : ∀ q' ∈ a.queries, q'.statement.number < q.statement.number) :
    Lifecycle (a.made q q.autoClose, s) where
  watched := h.watched
  queries q' hq' := by
    rcases List.mem_append.1 hq' with hq' | hq'
    · exact h.queries q' hq'
    · rw [List.mem_singleton.1 hq']
      refine Nat.lt_of_not_le fun hle => hopen ?_
      rw [Session.open?, Array.getElem?_eq_none hle]
      rfl
  own := by
    refine List.pairwise_append.2 ⟨h.own, List.pairwise_singleton _ _, fun q' hq' q'' hq'' heq => ?_⟩
    have hlt := hnew q' hq'
    rw [heq, List.mem_singleton.1 hq''] at hlt
    exact Nat.lt_irrefl _ hlt
  asked := by
    rw [Account.made, List.map_append, h.asked]
    rfl
  opened := h.opened
  cursors i k hi := by
    obtain ⟨c, q', hc, hq', hof⟩ := h.cursors i k hi
    exact ⟨c, q', hc, getElem?_of_begins (List.prefix_append _ _) hq', hof⟩
  released k hk := by
    rw [Account.made, List.length_append]
    exact Nat.lt_add_right _ (h.released k hk)
  due k q' hq' := by
    have hlength : a.asked.length = a.queries.length := by
      rw [← h.asked, List.length_map]
    by_cases hk : k < a.queries.length
    · rw [due_made (hlength ▸ hk)]
      refine h.due k q' ?_
      rwa [Account.made, List.getElem?_append_left hk] at hq'
    · -- the new query, which nothing in the account refers to yet
      have hq'_eq : q' = q := by
        rw [Account.made, List.getElem?_append_right (Nat.le_of_not_lt hk)] at hq'
        exact List.mem_singleton.1 (List.mem_of_getElem? hq')
      rw [hq'_eq]
      refine iff_of_false hopen fun hdue => hk ?_
      rcases hdue with hreleased | ⟨-, i, c, hopened, -, -⟩
      · exact h.released k hreleased
      · exact (h.lt_of_opened hopened).2

theorem opens {k : Nat} {q : Query} (h : Lifecycle (a, s)) (hq : a.queries[k]? = some q)
    (hopens : s.Opens q t) : Lifecycle (a.openedOf s.cursors.size k, t) where
  watched := h.watched.opens hopens
  queries := hopens.statements.symm ▸ h.queries
  own := h.own
  asked := h.asked
  opened := by
    rw [Account.openedOf, List.map_append, h.opened, hopens.cursors, Array.size_push, List.range_succ]
    rfl
  cursors i k' hi := by
    dsimp only
    rw [hopens.cursors]
    rcases List.mem_append.1 hi with hi | hi
    · obtain ⟨c, q', hc, hq', hof⟩ := h.cursors i k' hi
      obtain ⟨hlt, hc⟩ := Array.getElem?_eq_some_iff.1 hc
      exact ⟨c, q', by rw [Array.getElem?_push_lt hlt, hc], hq', hof⟩
    · obtain ⟨rfl, rfl⟩ := Prod.mk.inj (List.mem_singleton.1 hi)
      exact ⟨_, q, Array.getElem?_push_size, hq, rfl, rfl, rfl, rfl⟩
  released := h.released
  due k' q' hq' := by
    have hunopened : (q.cursor ⟨s.backend.rowSets.size⟩).phase ≠ .closed := Phase.noConfusion
    dsimp only
    rw [Session.open?, hopens.statements, hopens.cursors,
      due_opened hunopened fun _ _ hopened => (h.lt_of_opened hopened).1]
    exact h.due k' q' hq'

section Cursor

variable {i : Nat} {c : Cursor} (hc : s.cursors[i]? = some c) (hopen : c.phase ≠ .closed)
include hc hopen

omit hopen in
/-- Cursors are of their queries still if one is exchanged that is of the same query. -/
theorem cursors_set (h : Lifecycle (a, s)) {c' : Cursor} (hof : ∀ q, c.IsOf q → c'.IsOf q) (j k : Nat)
    (hj : (j, k) ∈ a.opened) :
    ∃ d q, (s.cursors.setIfInBounds i c')[j]? = some d ∧ a.queries[k]? = some q ∧ d.IsOf q := by
  obtain ⟨d, q, hd, hq, hdof⟩ := h.cursors j k hj
  by_cases hij : i = j
  · subst hij
    obtain rfl := Option.some.inj (hc.symm.trans hd)
    have hlt := (Array.getElem?_eq_some_iff.1 hc).1
    exact ⟨c', q, Array.getElem?_setIfInBounds_self_of_lt hlt, hq, hof q hdof⟩
  · exact ⟨d, q, by rwa [Array.getElem?_setIfInBounds_ne hij], hq, hdof⟩

theorem moved (h : Lifecycle (a, s)) (hmoves : s.Moves i c t) : Lifecycle (a.moved i, t) where
  watched := h.watched.moved hc hopen hmoves
  queries := hmoves.statements.symm ▸ h.queries
  own := h.own
  asked := h.asked
  opened := by
    rw [hmoves.cursors, Array.size_setIfInBounds]
    exact h.opened
  cursors := hmoves.cursors.symm ▸ h.cursors_set hc fun _ => .moved
  released := h.released
  due k q hq := by
    dsimp only
    rw [Session.open?, hmoves.statements, hmoves.cursors, due_set hc hopen]
    have hmoved : c.moved.phase ≠ .closed := Phase.noConfusion
    refine (h.due k q hq).trans ⟨.inl, fun hdue => hdue.resolve_right ?_⟩
    exact fun hcloses => hmoved hcloses.2.2

theorem shut (h : Lifecycle (a, s)) (hshuts : s.Shuts i c ⟨i⟩ t) (hlast : t.Ends c u) :
    Lifecycle (a, u) where
  watched := hlast.watched (h.watched.shuts hc hopen hshuts)
  queries := by
    dsimp only
    rw [hlast.size, hshuts.statements]
    exact h.queries
  own := h.own
  asked := h.asked
  opened := by
    rw [hlast.cursors, hshuts.cursors, Array.size_setIfInBounds]
    exact h.opened
  cursors := by
    dsimp only
    rw [hlast.cursors, hshuts.cursors]
    exact h.cursors_set hc fun _ => .shut
  released := h.released
  due k q hq := by
    have hclosed : c.shut.phase = .closed := rfl
    dsimp only
    rw [hlast.cursors, hshuts.cursors, due_set hc hopen, hlast.open?_eq_none, Session.open?,
      hshuts.statements, h.closes_iff hc hq]
    exact or_congr (h.due k q hq) (by simp only [hclosed, and_true])

end Cursor

theorem releases {k : Nat} {q : Query} (h : Lifecycle (a, s)) (hq : a.queries[k]? = some q)
    (hreleases : s.Releases q.statement t) : Lifecycle (a.closed k, t) where
  watched := h.watched.releases hreleases
  queries := by
    dsimp only
    rw [hreleases.statements, Array.size_setIfInBounds]
    exact h.queries
  own := h.own
  asked := h.asked
  opened := hreleases.cursors.symm ▸ h.opened
  cursors := hreleases.cursors.symm ▸ h.cursors
  released k' hk' := by
    rcases List.mem_append.1 hk' with hk' | hk'
    · exact h.released k' hk'
    · rw [List.mem_singleton.1 hk']
      exact (List.getElem?_eq_some_iff.1 hq).1
  due k' q' hq' := by
    dsimp only
    rw [hreleases.cursors, due_closed, hreleases.open?_eq_none]
    refine or_congr (h.due k' q' hq') ⟨fun heq => h.number_eq hq' hq heq.symm, ?_⟩
    rintro rfl
    obtain rfl := Option.some.inj (hq.symm.trans hq')
    rfl

end Lifecycle

end Changes

/-! ## Actions are changes -/

namespace Session

variable (session : Session σ) (late late' : Late) {ran : Account × Store (Recorded σ)}

end Session

end EntityQuery
