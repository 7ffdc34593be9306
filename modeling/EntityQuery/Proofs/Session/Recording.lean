import EntityQuery.Proofs.Stateful
import EntityQuery.Session.Builder

/-!
# Backends that are watched

To say how a backend is used, each statement and each row set that it hands out gets a new name, and
the calls to it are written down behind this name.

* A `Ledger` has these accounts. `Recorded` is the state of a backend with its ledgers, and
  `Backend.recorded` the backend that keeps them. The probes `wasNull` and `columnName` leave no trace
  in a state. Once a row set is closed they may answer anything (`Late`), so a result that does not
  depend on these answers has not asked for them.
* `History` says that an object is closed by its last call and by no other, or not closed yet.
* `Recorded.Quiet` is what reading and binding do: some more calls, none of which closes anything, and
  none to an object that is closed.
* `AgreesOn` says that two steps do the same wherever something holds, and that it holds afterwards.
-/

namespace EntityQuery

/-! ## Steps that agree -/

section Agree

variable {ε τ α β : Type} {I : τ → Prop}

/-- Where `I` holds, the two steps do the same, and leave `I`. -/
def AgreesOn (I : τ → Prop) (x y : ExceptT ε (StateM τ) α) : Prop :=
  ∀ s, I s → x s = y s ∧ I (x s).2

theorem agreesOn_pure (a : α) : AgreesOn I (pure a : ExceptT ε (StateM τ) α) (pure a) :=
  fun _ h => ⟨rfl, h⟩

/-- Chains of steps that agree do so. -/
theorem AgreesOn.bind {x y : ExceptT ε (StateM τ) α} {f g : α → ExceptT ε (StateM τ) β}
    (hx : AgreesOn I x y) (hf : ∀ a, AgreesOn I (f a) (g a)) : AgreesOn I (x >>= f) (y >>= g) := by
  intro s hs
  obtain ⟨heq, hi⟩ := hx s hs
  rw [bind_apply, bind_apply, ← heq]
  rcases hr : x s with ⟨r, s'⟩
  rw [hr] at hi
  cases r with
  | ok a => exact hf a s' hi
  | error e => exact ⟨rfl, hi⟩

/-- A step that looks at the state first. -/
theorem agreesOn_get {f g : τ → ExceptT ε (StateM τ) α}
    (h : ∀ s, I s → f s s = g s s ∧ I (f s s).2) : AgreesOn I (get >>= f) (get >>= g) := h

theorem AgreesOn.adapt {ε' : Type} {x y : ExceptT ε (StateM τ) α} (h : AgreesOn I x y) (f : ε → ε') :
    AgreesOn I (x.adapt f) (y.adapt f) := by
  intro s hs
  obtain ⟨heq, hi⟩ := h s hs
  rw [adapt_apply, adapt_apply, heq]
  exact ⟨rfl, heq ▸ hi⟩

end Agree

/-! ## Histories -/

section History

variable {γ : Type} {close call : γ} {calls more : List γ}

/-- The calls to an object that is `closed` or not. -/
structure History (close : γ) (closed : Prop) (calls : List γ) : Prop where
  /-- it is closed by the last call, and by no other -/
  last : closed → ∃ before, calls = before ++ [close] ∧ close ∉ before
  /-- while it is open, no call has closed it -/
  unclosed : ¬ closed → close ∉ calls

/-- An object gets calls until it is closed. -/
structure Grows (close : γ) (before after : List γ) : Prop where
  /-- the calls are added behind the others, and none of them closes the object -/
  added : ∃ more, after = before ++ more ∧ close ∉ more
  /-- nothing is added behind a close -/
  ended : close ∈ before → after = before

theorem Grows.refl (close : γ) (calls : List γ) : Grows close calls calls :=
  ⟨⟨[], (List.append_nil calls).symm, List.not_mem_nil⟩, fun _ => rfl⟩

/-- An object without a close has none after it got more calls. -/
theorem Grows.not_mem {before after : List γ} (h : Grows close before after) (hopen : close ∉ before) :
    close ∉ after := by
  obtain ⟨more, rfl, hmore⟩ := h.added
  exact fun hmem => (List.mem_append.1 hmem).elim hopen hmore

theorem Grows.trans {a b c : List γ} (hab : Grows close a b) (hbc : Grows close b c) :
    Grows close a c := by
  obtain ⟨more, rfl, hmore⟩ := hab.added
  obtain ⟨rest, rfl, hrest⟩ := hbc.added
  refine ⟨⟨more ++ rest, List.append_assoc .., ?_⟩, fun hmem => ?_⟩
  · exact fun hmem => (List.mem_append.1 hmem).elim hmore hrest
  · have hfirst := hab.ended hmem
    rw [hbc.ended (hfirst.symm ▸ hmem), hfirst]

/-- A call that does not close an open object. -/
theorem Grows.concat (hopen : close ∉ calls) (hcall : call ≠ close) :
    Grows close calls (calls ++ [call]) :=
  ⟨⟨[call], rfl, by simpa using hcall.symm⟩, fun hmem => absurd hmem hopen⟩

theorem history_nil {p : Prop} (hp : ¬ p) : History close p [] :=
  ⟨fun h => absurd h hp, fun _ => List.not_mem_nil⟩

variable {p q : Prop}

theorem History.congr (h : History close p calls) (hpq : p ↔ q) : History close q calls :=
  propext hpq ▸ h

/-- A history stays one while calls are added. -/
theorem History.grows (h : History close p calls) (hgrows : Grows close calls more) :
    History close p more := by
  refine ⟨fun hp => ?_, fun hp => hgrows.not_mem (h.unclosed hp)⟩
  obtain ⟨before, hcalls, hbefore⟩ := h.last hp
  rw [hgrows.ended (by simp [hcalls])]
  exact ⟨before, hcalls, hbefore⟩

/-- An open object is closed. -/
theorem History.concat (h : History close p calls) (hp : ¬ p) (hq : q) :
    History close q (calls ++ [close]) :=
  ⟨fun _ => ⟨calls, rfl, h.unclosed hp⟩, fun h => absurd hq h⟩

end History

/-! ## Recording -/

/-- Objects by number: the backend's own name of each, and the calls to it, the first one first. -/
abbrev Ledger (ι κ : Type) := Array (ι × List κ)

namespace Ledger

variable {ι κ : Type} {close call : κ} {l : Ledger ι κ}

/-- The calls to an object. -/
def calls (l : Ledger ι κ) (i : Nat) : List κ := ((l[i]?).map (·.2)).getD []

/-- Writes a call down. -/
def note (l : Ledger ι κ) (i : Nat) (call : κ) : Ledger ι κ :=
  l.modify i fun (own, calls) => (own, calls ++ [call])

theorem size_note (l : Ledger ι κ) (i : Nat) (call : κ) : (l.note i call).size = l.size :=
  Array.size_modify

theorem calls_note (l : Ledger ι κ) (n : Nat) (call : κ) (i : Nat) :
    (l.note n call).calls i = if i = n ∧ i < l.size then l.calls i ++ [call] else l.calls i := by
  rw [calls, note, Array.getElem?_modify]
  by_cases hi : n = i
  · subst hi
    rw [if_pos rfl, calls]
    cases hl : l[n]? with
    | none =>
      have hle := Array.getElem?_eq_none_iff.1 hl
      rw [if_neg (by omega)]
      rfl
    | some p =>
      rw [if_pos ⟨rfl, (Array.getElem?_eq_some_iff.1 hl).1⟩]
      rfl
  · rw [if_neg hi, if_neg fun h => hi h.1.symm, calls]

/-- A call to nothing is not written down. -/
theorem note_of_none {n : Nat} (h : l[n]? = none) (call : κ) : l.note n call = l := by
  apply Array.ext_getElem?
  intro i
  rw [note, Array.getElem?_modify]
  split
  · next hi => rw [← hi, h]; rfl
  · rfl

/-- A new object has no calls yet. -/
theorem calls_push (l : Ledger ι κ) (own : ι) (i : Nat) : calls (l.push (own, [])) i = l.calls i := by
  rw [calls, calls, Array.getElem?_push]
  split
  · next h => rw [h, Array.getElem?_size]; rfl
  · rfl

theorem calls_of_size_le {i : Nat} (h : l.size ≤ i) : l.calls i = [] := by
  rw [calls, Array.getElem?_eq_none h]
  rfl

/-- A call to an open object that does not close it. -/
theorem grows_note {n : Nat} (hopen : close ∉ l.calls n) (hcall : call ≠ close) (i : Nat) :
    Grows close (l.calls i) ((l.note n call).calls i) := by
  rw [calls_note]
  split
  · next hi => exact .concat (hi.1 ▸ hopen) hcall
  · exact .refl _ _

end Ledger

/-- A call to a statement. -/
inductive StatementCall where
  | set (index : Nat) (setting : Setting)
  | resultColumns
  | query
  | mutate
  | close
  deriving DecidableEq

/-- A call to a row set. -/
inductive RowCall where
  | next
  | get (getter : Getter) (index : Nat)
  | close
  deriving DecidableEq

/-- The state of a backend that is watched. -/
structure Recorded (σ : Type) where
  /-- the state of the backend -/
  inner : σ
  /-- the statements -/
  statements : Ledger StatementId StatementCall
  /-- the row sets -/
  rowSets : Ledger RowSetId RowCall

/-- What the probes of a closed row set answer. -/
structure Late where
  /-- the answer to `wasNull` -/
  wasNull : Bool
  /-- the answer to `columnName` -/
  columnName : Nat → Option String

namespace Recorded

variable {σ α : Type}

/-- The state before anything is handed out. -/
def start (inner : σ) : Recorded σ := ⟨inner, #[], #[]⟩

/-- Hands a call on to a statement, and writes it down. -/
def toStatement (id : StatementId) (call : StatementCall) (f : StatementId → Call σ α) :
    Call (Recorded σ) α := fun s =>
  match s.statements[id.number]? with
  | none => (.error .closed, s)
  | some (own, _) =>
    let outcome := f own s.inner
    (outcome.1, { s with inner := outcome.2, statements := s.statements.note id.number call })

/-- Hands a call on to a row set, and writes it down. -/
def toRows (id : RowSetId) (call : RowCall) (f : RowSetId → Call σ α) : Call (Recorded σ) α := fun s =>
  match s.rowSets[id.number]? with
  | none => (.error .closed, s)
  | some (own, _) =>
    let outcome := f own s.inner
    (outcome.1, { s with inner := outcome.2, rowSets := s.rowSets.note id.number call })

/-- Probes a row set, as long as it is open. -/
def probe (s : Recorded σ) (id : RowSetId) (late : α) (f : RowSetId → σ → α) : α :=
  match s.rowSets[id.number]? with
  | none => late
  | some (own, calls) => if .close ∈ calls then late else f own s.inner

end Recorded

/-- The backend with accounts of the calls to all that it hands out. -/
def Backend.recorded {σ : Type} (b : Backend σ) (late : Late) : Backend (Recorded σ) where
  prepare sql s :=
    match b.prepare sql s.inner with
    | (.ok own, inner) => (.ok ⟨s.statements.size⟩,
        { s with inner := inner, statements := s.statements.push (own, []) })
    | (.error e, inner) => (.error e, { s with inner := inner })
  set id index setting := Recorded.toStatement id (.set index setting) (b.set · index setting)
  resultColumns id := Recorded.toStatement id .resultColumns b.resultColumns
  query id := do
    let own ← Recorded.toStatement id .query b.query
    fun s => (.ok ⟨s.rowSets.size⟩, { s with rowSets := s.rowSets.push (own, []) })
  mutate id := Recorded.toStatement id .mutate b.mutate
  close id := Recorded.toStatement id .close b.close
  next id := Recorded.toRows id .next b.next
  get id getter index := Recorded.toRows id (.get getter index) (b.get · getter index)
  wasNull id s := s.probe id late.wasNull b.wasNull
  columnName id index s := s.probe id (late.columnName index) (b.columnName · index)
  rowsLeft id s := ((s.rowSets[id.number]?).map fun (own, _) => b.rowsLeft own s.inner).getD 0
  closeRows id := Recorded.toRows id .close b.closeRows

/-- The session on the watched backend. -/
def Session.recorded {σ : Type} (session : Session σ) (late : Late) : Session (Recorded σ) :=
  ⟨session.backend.recorded late, session.naming, session.config⟩

namespace Recorded

variable {σ α : Type} {s t u : Recorded σ}

/-! ## What calls leave behind -/

theorem statements_toStatement (id : StatementId) (call : StatementCall)
    (f : StatementId → Call σ α) (s : Recorded σ) :
    (toStatement id call f s).2.statements = s.statements.note id.number call := by
  rw [toStatement]
  cases hs : s.statements[id.number]? with
  | none => exact (Ledger.note_of_none hs call).symm
  | some p => rfl

theorem rowSets_toStatement (id : StatementId) (call : StatementCall) (f : StatementId → Call σ α)
    (s : Recorded σ) : (toStatement id call f s).2.rowSets = s.rowSets := by
  rw [toStatement]
  cases s.statements[id.number]? <;> rfl

theorem rowSets_toRows (id : RowSetId) (call : RowCall) (f : RowSetId → Call σ α) (s : Recorded σ) :
    (toRows id call f s).2.rowSets = s.rowSets.note id.number call := by
  rw [toRows]
  cases hs : s.rowSets[id.number]? with
  | none => exact (Ledger.note_of_none hs call).symm
  | some p => rfl

theorem statements_toRows (id : RowSetId) (call : RowCall) (f : RowSetId → Call σ α) (s : Recorded σ) :
    (toRows id call f s).2.statements = s.statements := by
  rw [toRows]
  cases s.rowSets[id.number]? <;> rfl

/-! ## Quiet changes -/

/-- Nothing is handed out or closed, and what is closed gets no calls. -/
structure Quiet (s t : Recorded σ) : Prop where
  /-- no statement is handed out -/
  statements : t.statements.size = s.statements.size
  /-- no row set is handed out -/
  rowSets : t.rowSets.size = s.rowSets.size
  /-- statements get calls until they are closed -/
  statementCalls : ∀ i, Grows .close (s.statements.calls i) (t.statements.calls i)
  /-- so do row sets -/
  rowCalls : ∀ i, Grows .close (s.rowSets.calls i) (t.rowSets.calls i)

theorem Quiet.refl (s : Recorded σ) : s.Quiet s :=
  ⟨rfl, rfl, fun _ => .refl _ _, fun _ => .refl _ _⟩

theorem Quiet.trans (h : s.Quiet t) (h' : t.Quiet u) : s.Quiet u :=
  ⟨h'.statements.trans h.statements, h'.rowSets.trans h.rowSets,
    fun i => (h.statementCalls i).trans (h'.statementCalls i),
    fun i => (h.rowCalls i).trans (h'.rowCalls i)⟩

/-- A call to an open statement that does not close it. -/
theorem quiet_toStatement {id : StatementId} {call : StatementCall} (f : StatementId → Call σ α)
    (hopen : .close ∉ s.statements.calls id.number) (hcall : call ≠ .close) :
    s.Quiet (toStatement id call f s).2 := by
  have hstatements := statements_toStatement id call f s
  have hrows := rowSets_toStatement id call f s
  refine ⟨?_, congrArg Array.size hrows, fun i => ?_, fun i => ?_⟩
  · rw [hstatements, Ledger.size_note]
  · rw [hstatements]
    exact Ledger.grows_note hopen hcall i
  · rw [hrows]
    exact .refl _ _

/-- A call to an open row set that does not close it. -/
theorem quiet_toRows {id : RowSetId} {call : RowCall} (f : RowSetId → Call σ α)
    (hopen : .close ∉ s.rowSets.calls id.number) (hcall : call ≠ .close) :
    s.Quiet (toRows id call f s).2 := by
  have hstatements := statements_toRows id call f s
  have hrows := rowSets_toRows id call f s
  refine ⟨congrArg Array.size hstatements, ?_, fun i => ?_, fun i => ?_⟩
  · rw [hrows, Ledger.size_note]
  · rw [hstatements]
    exact .refl _ _
  · rw [hrows]
    exact Ledger.grows_note hopen hcall i

/-- An open row set answers its probes itself. -/
theorem probe_eq {id : RowSetId} (hlt : id.number < s.rowSets.size)
    (hopen : .close ∉ s.rowSets.calls id.number) (late late' : α) (f : RowSetId → σ → α) :
    s.probe id late f = s.probe id late' f := by
  obtain ⟨p, hp⟩ : ∃ p, s.rowSets[id.number]? = some p := ⟨_, Array.getElem?_eq_getElem hlt⟩
  rw [Ledger.calls, hp] at hopen
  have hcalls : RowCall.close ∉ p.2 := hopen
  simp only [probe, hp, if_neg hcalls]

end Recorded

end EntityQuery
