import EntityQuery.Backend.Script
import EntityQuery.Proofs.Request.Compiling
import EntityQuery.Proofs.Session.Changes
import EntityQuery.Proofs.Session.Stable

/-!
# Mutations that run once

A builder makes its request, runs it, and closes its statement behind the run. Whatever the backend does,
a run closes nothing by itself (`Session.fresh_run`). So the statement is closed once if the run succeeds,
and not at all if it fails, be it in binding a value or in the mutation: the statement is left open then
(`runBuilder_closes_iff`), although nobody has a name for it any more.
-/

namespace EntityQuery

variable {σ : Type}

/-! ## A statement that has not been closed -/

namespace Recorded

variable {α : Type} {n : Nat}

/-- A statement of the backend is the last that was handed out, and has not been closed. -/
def Unclosed (n : Nat) (s : Recorded σ) : Prop :=
  s.statements.size = n + 1 ∧ (s.statements.calls n).count .close = 0

theorem stable_toStatement {id : StatementId} {call : StatementCall} (f : StatementId → Call σ α)
    (hcall : call ≠ .close) : Stable (Unclosed n) (toStatement id call f) := by
  intro s hs
  rw [Unclosed, statements_toStatement, Ledger.size_note, Ledger.calls_note]
  refine ⟨hs.1, ?_⟩
  split
  · rw [List.count_append, hs.2, List.count_singleton, if_neg (by simpa using hcall)]
  · exact hs.2

theorem stable_toRows (id : RowSetId) (call : RowCall) (f : RowSetId → Call σ α) :
    Stable (Unclosed n) (toRows id call f) := by
  intro s hs
  rw [Unclosed, statements_toRows]
  exact hs

end Recorded

/-- A statement is held open, is the last that the backend handed out, and has not been closed. -/
def Store.Fresh (ref : StatementRef) (n : Nat) (s : Store (Recorded σ)) : Prop :=
  Session.open? ref s = some ⟨n⟩ ∧ s.backend.Unclosed n

namespace Store

variable {s t : Store (Recorded σ)} {ref : StatementRef} {n : Nat}

/-- A statement is fresh when it was prepared. -/
theorem Prepares.fresh (h : s.Prepares t) :
    t.Fresh ⟨s.statements.size⟩ s.backend.statements.size := by
  obtain ⟨own, hcalls⟩ := h.calls
  refine ⟨?_, ?_, ?_⟩
  · rw [Session.open?, h.statements, Array.getElem?_push_size]
    rfl
  · rw [hcalls, Array.size_push]
  · rw [hcalls, Ledger.calls_push, Ledger.calls_of_size_le (Nat.le_refl _)]
    rfl

/-- A fresh statement that is given up is closed, for the first time. -/
theorem Fresh.release (h : s.Fresh ref n) (hreleases : s.Releases ref t) :
    t.backend.statements.size = n + 1 ∧ (t.backend.statements.calls n).count .close = 1 := by
  obtain ⟨hheld, hsize, hunclosed⟩ := h
  have hcalls := hreleases.calls
  rw [hheld] at hcalls
  rw [show t.backend.statements = s.backend.statements.note n .close from hcalls, Ledger.size_note,
    Ledger.calls_note, if_pos ⟨rfl, hsize ▸ Nat.lt_succ_self n⟩, List.count_append, hunclosed]
  exact ⟨hsize, rfl⟩

end Store

/-! ## One run -/

namespace Session

variable (session : Session σ) (late : Late)

/-- Making a request hands its statement out, or nothing. -/
theorem mutation_prepares (b : MutationBuilder) (s : Store (Recorded σ)) :
    (∃ e t, (session.recorded late).mutation b s = (.error e, t) ∧ s.Quiet t) ∨
      ∃ r t, (session.recorded late).mutation b s = (.ok r, t) ∧ r.statement = ⟨s.statements.size⟩ ∧
        s.Prepares t := by
  cases hcompile : b.compile session.naming session.config.strict with
  | error e =>
    have hcompiled : (Step.ofExcept (b.compile session.naming session.config.strict) :
        Step (Recorded σ) CompiledMutation) s = (.error e, s) := by
      rw [hcompile]
      rfl
    exact .inl ⟨e, s, bind_of_error hcompiled, .refl s⟩
  | ok compiled =>
    have hcompiled : (Step.ofExcept (b.compile session.naming session.config.strict) :
        Step (Recorded σ) CompiledMutation) s = (.ok compiled, s) := by
      rw [hcompile]
      rfl
    have hmade : (session.recorded late).mutation b s = _ := bind_of_ok hcompiled
    rw [hmade]
    rcases session.prepare_prepares late compiled.sql s with ⟨e, t, hprepare, hquiet⟩ | ⟨t, hprepare, ht⟩
    · exact .inl ⟨e, t, bind_of_error hprepare, hquiet⟩
    · exact .inr ⟨_, t, bind_of_ok hprepare, rfl, ht⟩

variable {r : MutationRequest} {s ran : Store (Recorded σ)} {n : Nat} (hfresh : s.Fresh r.statement n)
include hfresh

/-- A run closes nothing, whether it succeeds or fails. -/
theorem fresh_run {result : Except QueryError Nat}
    (hrun : (session.recorded late).run r s = (result, ran)) : ran.Fresh r.statement n := by
  have hstable : Stable (Store.HeldWith s.statements (Recorded.Unclosed n))
      ((session.recorded late).run r) :=
    (session.recorded late).stable_runWith (fun rows _ _ => Recorded.stable_toRows rows _ _)
      (fun _ _ _ => Recorded.stable_toStatement _ nofun)
      (fun _ => Recorded.stable_toStatement _ nofun) r _
  obtain ⟨hstatements, hunclosed⟩ := hstable s ⟨rfl, hfresh.2⟩
  rw [hrun] at hstatements hunclosed
  refine ⟨?_, hunclosed⟩
  rw [open?, hstatements]
  exact hfresh.1

/-- A run that succeeds is followed by the close of its statement. -/
theorem runOnce_closes {count : Nat} (hrun : (session.recorded late).run r s = (.ok count, ran)) :
    let after := ((session.recorded late).runOnce r s).2
    after.backend.statements.size = n + 1 ∧ (after.backend.statements.calls n).count .close = 1 := by
  have hreleases : ran.Releases r.statement ((session.recorded late).closeRequest r ran).2 :=
    session.closeStatement_releases late r.statement r.compiled.sql ran
  have hclosed := (session.fresh_run late hfresh hrun).release hreleases
  have hbehind : (session.recorded late).runOnce r s = _ := bind_of_ok hrun
  rw [hbehind]
  -- the error of a close is reported behind it
  rcases hclose : (session.recorded late).closeRequest r ran with ⟨e | u, after⟩
  · rw [hclose] at hclosed
    rw [bind_of_error hclose]
    exact hclosed
  · rw [hclose] at hclosed
    rw [bind_of_ok hclose]
    exact hclosed

end Session

/-- Whether the statement of a mutation that runs once is closed.

If the request cannot be made, nothing has been handed out. If it can, one statement has. It is closed
once exactly if the run succeeds. If the run fails, in binding a value or in the backend, its error is
reported, and the statement has not been closed at all and stays open. -/
theorem runBuilder_closes_iff (session : Session σ) (late : Late) (b : MutationBuilder)
    (store : Store (Recorded σ)) :
    let n := store.backend.statements.size
    let outcome := (session.recorded late).runBuilder b store
    let closings := (outcome.2.backend.statements.calls n).count .close
    (∀ e made, (session.recorded late).mutation b store = (.error e, made) →
      outcome = (.error e, made) ∧ made.backend.statements.size = n) ∧
    ∀ r made, (session.recorded late).mutation b store = (.ok r, made) →
      outcome.2.backend.statements.size = n + 1 ∧
      (closings = 1 ↔ ∃ count ran, (session.recorded late).run r made = (.ok count, ran)) ∧
      ∀ e ran, (session.recorded late).run r made = (.error e, ran) →
        outcome = (.error e, ran) ∧ closings = 0 ∧ Session.open? r.statement ran = some ⟨n⟩ := by
  intro n outcome closings
  have hmutation := session.mutation_prepares late b store
  refine ⟨fun e made hmade => ?_, fun r made hmade => ?_⟩
  · rw [hmade] at hmutation
    rcases hmutation with ⟨e', t, hrun, hquiet⟩ | ⟨r, t, hrun, -⟩
    · cases hrun
      exact ⟨bind_of_error hmade, hquiet.backend.statements⟩
    · cases hrun
  · rw [hmade] at hmutation
    have hfresh : made.Fresh r.statement n := by
      rcases hmutation with ⟨e, t, hrun, -⟩ | ⟨r', t, hrun, hr, hprepares⟩
      · cases hrun
      · cases hrun
        exact hr ▸ hprepares.fresh
    have houtcome : outcome = (session.recorded late).runOnce r made := bind_of_ok hmade
    rcases hrun : (session.recorded late).run r made with ⟨e | count, ran⟩
    · have hfailed : outcome = (.error e, ran) := houtcome.trans (bind_of_error hrun)
      have hran := session.fresh_run late hfresh hrun
      have hclosings : closings = 0 := by
        change (outcome.2.backend.statements.calls n).count .close = 0
        rw [hfailed]
        exact hran.2.2
      refine ⟨hfailed ▸ hran.2.1, ⟨fun hone => ?_, ?_⟩, ?_⟩
      · rw [hclosings] at hone
        cases hone
      · rintro ⟨count, ran', hok⟩
        cases hok
      · rintro e' ran' herror
        cases herror
        exact ⟨hfailed, hclosings, hran.1⟩
    · have hclosed := session.runOnce_closes late hfresh hrun
      rw [← houtcome] at hclosed
      refine ⟨hclosed.1, iff_of_true hclosed.2 ⟨count, ran, rfl⟩, ?_⟩
      rintro e ran' herror
      cases herror

/-! ## A mutation that the backend refuses -/

/-- A backend that refuses all mutations. -/
def Session.refusing : Session Scripted := ⟨Scripted.backend, .plain, {}⟩

/-- The store before anything is prepared. -/
def Store.refusing : Store (Recorded Scripted) :=
  Store.start (.start (.start ⟨[], [], 0, { mutate := some "boom" }⟩))

/-- An insert of one number. -/
def MutationBuilder.oneNumber : MutationBuilder :=
  ⟨.person, .insert, [(.personId, .literal (.integer 1))]⟩

/-- The statement gets its value and is run, and then it is forgotten. -/
theorem runBuilder_refused (late : Late) :
    ((Session.refusing.recorded late).runBuilder .oneNumber .refusing).2.backend.statements =
      #[(⟨0⟩, [.set 1 (.integer 1), .mutate])] := by
  rfl

/-- So not every statement that was prepared is closed. -/
theorem runBuilder_does_not_always_close :
    ¬ ∀ (session : Session Scripted) (late : Late) (b : MutationBuilder)
        (store made : Store (Recorded Scripted)) (r : MutationRequest),
      (session.recorded late).mutation b store = (.ok r, made) →
        (((session.recorded late).runBuilder b store).2.backend.statements.calls
          store.backend.statements.size).count .close = 1 := by
  intro h
  have hmade : ∃ r made, (Session.refusing.recorded ⟨false, fun _ => none⟩).mutation .oneNumber
      .refusing = (.ok r, made) := ⟨_, _, rfl⟩
  obtain ⟨r, made, hmade⟩ := hmade
  have hone := h .refusing ⟨false, fun _ => none⟩ .oneNumber .refusing made r hmade
  rw [Ledger.calls, runBuilder_refused] at hone
  exact absurd hone (by decide)

end EntityQuery
