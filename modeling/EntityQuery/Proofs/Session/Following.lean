import EntityQuery.Proofs.Session.Changes

/-!
# Cursors and statements follow their calls

On a watched backend, a cursor knows of the calls to its row set, and a held statement of those to it.

* `Cursor.Follows`: a cursor counts its moves, and it is closed if, and only if, its row set is.
* `StatementsFollow`: a statement is held as long as it is not closed.
* `Store.Watched` is both, for a whole store. It makes the store live (`Store.Watched.live`), and each of
  the changes keeps it.
-/

namespace EntityQuery

variable {σ : Type}

/-! ## Cursors and their row sets -/

/-- A cursor agrees with its moves, and with the calls to its row set. -/
structure Cursor.Follows (c : Cursor) (i : Nat) (moves : List Nat) (calls : List RowCall) : Prop where
  /-- it has its own row set, until it is closed -/
  rows : c.rows = if c.phase = .closed then none else some ⟨i⟩
  /-- it counts its moves -/
  rowId : c.rowId = moves.count i
  /-- it has left its first phase if it has moved -/
  phase : c.phase ≠ .closed → c.phase = if c.rowId = 0 then .unopened else .onRow
  /-- the row set is closed with it -/
  history : History .close (c.phase = .closed) calls

namespace Cursor.Follows

variable {c : Cursor} {i : Nat} {moves : List Nat} {calls calls' : List RowCall}

theorem rows_of_open (h : c.Follows i moves calls) (hopen : c.phase ≠ .closed) :
    c.rows = some ⟨i⟩ := h.rows.trans (if_neg hopen)

theorem rows_of_closed (h : c.Follows i moves calls) (hclosed : c.phase = .closed) :
    c.rows = none := h.rows.trans (if_pos hclosed)

theorem grows (h : c.Follows i moves calls) (hgrows : Grows .close calls calls') :
    c.Follows i moves calls' := ⟨h.rows, h.rowId, h.phase, h.history.grows hgrows⟩

/-- The moves of other cursors do not matter. -/
theorem append_ne (h : c.Follows i moves calls) {j : Nat} (hj : j ≠ i) :
    c.Follows i (moves ++ [j]) calls := by
  refine ⟨h.rows, ?_, h.phase, h.history⟩
  rw [List.count_append, List.count_singleton, if_neg (by simpa using hj)]
  exact h.rowId

theorem moved (h : c.Follows i moves calls) (hopen : c.phase ≠ .closed) :
    c.moved.Follows i (moves ++ [i]) calls := by
  refine ⟨h.rows_of_open hopen, ?_, fun _ => (if_neg (Nat.succ_ne_zero _)).symm, ?_⟩
  · rw [List.count_append, List.count_singleton_self, ← h.rowId]
    rfl
  · exact h.history.congr ⟨fun hclosed => absurd hclosed hopen, nofun⟩

theorem shut (h : c.Follows i moves calls) (hopen : c.phase ≠ .closed) :
    c.shut.Follows i moves (calls ++ [.close]) :=
  ⟨rfl, h.rowId, fun hne => absurd rfl hne, h.history.concat hopen rfl⟩

end Cursor.Follows

/-- Cursors agree with their moves, and with the row sets that the backend handed out. -/
structure CursorsFollow (moves : List Nat) (cursors : Array Cursor)
    (rowSets : Ledger RowSetId RowCall) : Prop where
  /-- there is a cursor for each row set -/
  size : rowSets.size = cursors.size
  /-- each cursor agrees with its row set -/
  follows : ∀ (i : Nat) (c : Cursor), cursors[i]? = some c → c.Follows i moves (rowSets.calls i)
  /-- only cursors have moved -/
  bound : ∀ i ∈ moves, i < cursors.size

namespace CursorsFollow

variable {moves : List Nat} {cursors : Array Cursor} {rowSets rowSets' : Ledger RowSetId RowCall}
  {i : Nat} {c : Cursor} (h : CursorsFollow moves cursors rowSets)
include h

theorem grows (hsize : rowSets'.size = rowSets.size)
    (hgrows : ∀ i, Grows .close (rowSets.calls i) (rowSets'.calls i)) :
    CursorsFollow moves cursors rowSets' :=
  ⟨hsize.trans h.size, fun i c hi => (h.follows i c hi).grows (hgrows i), h.bound⟩

/-- A cursor on a new row set. -/
theorem push (q : Query) (own : RowSetId) :
    CursorsFollow moves (cursors.push (q.cursor ⟨rowSets.size⟩)) (rowSets.push (own, [])) := by
  have hsize := h.size
  refine ⟨by rw [Array.size_push, Array.size_push, hsize], fun i c hi => ?_, fun i hi => ?_⟩
  · rw [Ledger.calls_push]
    rw [Array.getElem?_push] at hi
    split at hi
    · next hnew =>
      cases hi
      have hunmoved : moves.count i = 0 :=
        List.count_eq_zero.2 fun hmem => absurd (h.bound i hmem) (by omega)
      rw [Ledger.calls_of_size_le (by omega)]
      exact ⟨by rw [hnew, ← hsize]; rfl, hunmoved.symm, fun _ => rfl, history_nil nofun⟩
    · exact h.follows i c hi
  · rw [Array.size_push]
    exact Nat.lt_succ_of_lt (h.bound i hi)

variable (hc : cursors[i]? = some c) (hopen : c.phase ≠ .closed)
include hc hopen

theorem moved : CursorsFollow (moves ++ [i]) (cursors.setIfInBounds i c.moved) rowSets := by
  have hlt := (Array.getElem?_eq_some_iff.1 hc).1
  refine ⟨by rw [Array.size_setIfInBounds, h.size], fun j c' hj => ?_, fun j hj => ?_⟩
  · rw [Array.getElem?_setIfInBounds] at hj
    split at hj
    · next hi =>
      subst hi
      cases hj
      exact (h.follows i c hc).moved hopen
    · next hi => exact (h.follows j c' hj).append_ne hi
  · rw [Array.size_setIfInBounds]
    rcases List.mem_append.1 hj with hj | hj
    · exact h.bound j hj
    · exact List.mem_singleton.1 hj ▸ hlt

theorem shut : CursorsFollow moves (cursors.setIfInBounds i c.shut) (rowSets.note i .close) := by
  have hlt := (Array.getElem?_eq_some_iff.1 hc).1
  refine ⟨by rw [Ledger.size_note, Array.size_setIfInBounds, h.size], fun j c' hj => ?_,
    fun j hj => ?_⟩
  · rw [Ledger.calls_note]
    rw [Array.getElem?_setIfInBounds] at hj
    split at hj
    · next hi =>
      subst hi
      cases hj
      rw [if_pos ⟨rfl, h.size ▸ hlt⟩]
      exact (h.follows i c hc).shut hopen
    · next hi =>
      rw [if_neg fun heq => hi heq.1.symm]
      exact h.follows j c' hj
  · rw [Array.size_setIfInBounds]
    exact h.bound j hj

end CursorsFollow

/-! ## Held statements -/

/-- Held statements agree with those that the backend handed out. -/
structure StatementsFollow (held : Array (Option StatementId))
    (statements : Ledger StatementId StatementCall) : Prop where
  /-- there is a name for each statement -/
  size : statements.size = held.size
  /-- the name of a statement is that of the backend -/
  names : ∀ (k : Nat) (id : StatementId), held[k]? = some (some id) → id = ⟨k⟩
  /-- a statement that is not held any more is closed -/
  histories : ∀ (k : Nat) (o : Option StatementId), held[k]? = some o →
    History .close (o = none) (statements.calls k)

namespace StatementsFollow

variable {held : Array (Option StatementId)} {statements statements' : Ledger StatementId StatementCall}
  (h : StatementsFollow held statements)
include h

theorem grows (hsize : statements'.size = statements.size)
    (hgrows : ∀ k, Grows .close (statements.calls k) (statements'.calls k)) :
    StatementsFollow held statements' :=
  ⟨hsize.trans h.size, h.names, fun k o hk => (h.histories k o hk).grows (hgrows k)⟩

/-- A new statement. -/
theorem push (own : StatementId) :
    StatementsFollow (held.push (some ⟨statements.size⟩)) (statements.push (own, [])) := by
  have hsize := h.size
  refine ⟨by rw [Array.size_push, Array.size_push, hsize], fun k id hk => ?_, fun k o hk => ?_⟩
  · rw [Array.getElem?_push] at hk
    split at hk
    · next hnew =>
      cases hk
      rw [hnew, hsize]
    · exact h.names k id hk
  · rw [Ledger.calls_push]
    rw [Array.getElem?_push] at hk
    split at hk
    · next hnew =>
      cases hk
      rw [Ledger.calls_of_size_le (by omega)]
      exact history_nil nofun
    · exact h.histories k o hk

/-- A statement is given up, and closed if it was open. -/
theorem release (n : Nat) :
    StatementsFollow (held.setIfInBounds n none)
      (match (held[n]?).join with
        | some id => statements.note id.number .close
        | none => statements) := by
  refine ⟨?_, fun k id hk => ?_, fun k o hk => ?_⟩
  · rw [Array.size_setIfInBounds, ← h.size]
    split
    · exact Ledger.size_note _ _ _
    · rfl
  · rw [Array.getElem?_setIfInBounds] at hk
    split at hk
    · split at hk <;> cases hk
    · exact h.names k id hk
  · rw [Array.getElem?_setIfInBounds] at hk
    split at hk
    · next hn =>
      subst hn
      split at hk
      · next hlt =>
        cases hk
        have hold := Array.getElem?_eq_getElem hlt
        cases hheld : held[n] with
        | none =>
          rw [hold, hheld]
          exact h.histories n none (hheld ▸ hold)
        | some id =>
          rw [hheld] at hold
          obtain rfl := h.names n id hold
          rw [hold]
          change History .close (none = none) ((statements.note n .close).calls n)
          rw [Ledger.calls_note, if_pos ⟨rfl, h.size ▸ hlt⟩]
          exact (h.histories n _ hold).concat nofun rfl
      · cases hk
    · next hn =>
      have hsame : (match (held[n]?).join with
          | some id => statements.note id.number .close
          | none => statements).calls k = statements.calls k := by
        split
        · next id hid =>
          obtain rfl := h.names n id (Option.join_eq_some_iff.1 hid)
          rw [Ledger.calls_note, if_neg fun heq => hn heq.1.symm]
        · rfl
      rw [hsame]
      exact h.histories k o hk

end StatementsFollow

/-- Cursors and held statements agree with the calls that the backend got. -/
structure Store.Watched (moves : List Nat) (s : Store (Recorded σ)) : Prop where
  /-- the cursors do -/
  cursors : CursorsFollow moves s.cursors s.backend.rowSets
  /-- the held statements do -/
  statements : StatementsFollow s.statements s.backend.statements

namespace Store.Watched

variable {moves : List Nat} {s t : Store (Recorded σ)}

theorem live (h : s.Watched moves) : s.Live := by
  refine ⟨fun c hc rows hrows => ?_, fun ref id hopen => ?_⟩
  · obtain ⟨i, hi⟩ := Array.mem_iff_getElem?.1 hc
    have hfollows := h.cursors.follows i c hi
    have hopen : c.phase ≠ .closed := by
      intro hclosed
      rw [hfollows.rows_of_closed hclosed] at hrows
      cases hrows
    obtain rfl : ⟨i⟩ = rows := Option.some.inj ((hfollows.rows_of_open hopen).symm.trans hrows)
    exact ⟨h.cursors.size ▸ (Array.getElem?_eq_some_iff.1 hi).1, hfollows.history.unclosed hopen⟩
  · have hheld : s.statements[ref.number]? = some (some id) := Option.join_eq_some_iff.1 hopen
    obtain rfl := h.statements.names _ _ hheld
    exact (h.statements.histories _ _ hheld).unclosed nofun

theorem quiet (h : s.Watched moves) (hquiet : s.Quiet t) : t.Watched moves := by
  refine ⟨?_, ?_⟩
  · rw [hquiet.cursors]
    exact h.cursors.grows hquiet.backend.rowSets hquiet.backend.rowCalls
  · rw [hquiet.statements]
    exact h.statements.grows hquiet.backend.statements hquiet.backend.statementCalls

theorem prepares (h : s.Watched moves) (hprepares : s.Prepares t) : t.Watched moves := by
  obtain ⟨own, hcalls⟩ := hprepares.calls
  refine ⟨?_, ?_⟩
  · rw [hprepares.cursors, hprepares.rowSets]
    exact h.cursors
  · rw [hprepares.statements, hcalls]
    exact h.statements.push own

theorem opens (h : s.Watched moves) {q : Query} (hopens : s.Opens q t) : t.Watched moves := by
  obtain ⟨own, hrows⟩ := hopens.rowSets
  refine ⟨?_, ?_⟩
  · rw [hopens.cursors, hrows]
    exact h.cursors.push q own
  · rw [hopens.statements, hopens.calls]
    exact h.statements

theorem releases (h : s.Watched moves) {ref : StatementRef} (hreleases : s.Releases ref t) :
    t.Watched moves := by
  refine ⟨?_, ?_⟩
  · rw [hreleases.cursors, hreleases.rowSets]
    exact h.cursors
  · rw [hreleases.statements, hreleases.calls]
    exact h.statements.release ref.number

variable {i : Nat} {c : Cursor} (hc : s.cursors[i]? = some c) (hopen : c.phase ≠ .closed)
include hc hopen

theorem moved (h : s.Watched moves) (hmoves : s.Moves i c t) : t.Watched (moves ++ [i]) := by
  refine ⟨?_, ?_⟩
  · rw [hmoves.cursors, hmoves.backend]
    exact h.cursors.moved hc hopen
  · rw [hmoves.statements, hmoves.backend]
    exact h.statements

theorem shuts (h : s.Watched moves) (hshuts : s.Shuts i c ⟨i⟩ t) : t.Watched moves := by
  refine ⟨?_, ?_⟩
  · rw [hshuts.cursors, hshuts.rowSets]
    exact h.cursors.shut hc hopen
  · rw [hshuts.statements, hshuts.calls]
    exact h.statements

end Store.Watched

end EntityQuery
