import EntityQuery.Proofs.Request.Lockstep
import EntityQuery.Proofs.Session.Assigning
import EntityQuery.Proofs.Session.Interleaving

/-!
# Two requests of one text

A prepared statement keeps its parameters from run to run, and a binding that fails half-way leaves new
values in front of old ones. Binding sets the parameters from the first one on, so a binding that comes
through has set all that a request ever sets. Two statements of one text are then the same, whatever was
set before, if those behind are unset in both.

* `Store.Filled`: what a statement is while its first parameters are set;
* `Session.bind_lockstep`: two statements with as many parameters are bound alike, whatever was set;
* `Store.visible` is the store without its statements, all that a run reads besides its own;
* `StatementRef.Clean`: a statement does what its text says, and nothing is set behind the parameters that
  its request sets;
* `StatementRef.Twins`: two clean statements of one text, where the same is to be seen. They run alike, as
  queries (`execute`), as mutations (`runWith`) and in bulk requests, and are twins again.
-/

namespace EntityQuery

open Sql

/-! ## Setting a parameter -/

/-- The value of a setting, if it is for one of `count` parameters. -/
def Setting.fitting (setting : Setting) (i count : Nat) : Except BackendError Value := do
  let v ← setting.value
  if i < count then return v else throw (.parameterRange (i + 1) count)

/-- A parameter is set, or refused for its value or its number, and then nothing changes. -/
theorem Memory.set_succ {m : Memory} {id : StatementId} {p : Prepared}
    (hp : m.statements[id.number]? = some p) (hopen : p.closed = false) (i : Nat) (setting : Setting) :
    Memory.set id (i + 1) setting m =
      match setting.fitting i p.parameters.length with
      | .error e => (.error e, m)
      | .ok v => (.ok (), { m with
          statements := m.statements.setIfInBounds id.number
            { p with parameters := p.parameters.set i (some v) } }) := by
  rw [set, onStatement, hp, Setting.fitting]
  cases hvalue : setting.value with
  | error e => simp only [bind, Except.bind, setIfInBounds_of_getElem? hp]
  | ok v =>
    by_cases hi : i < p.parameters.length
    · have hset : p.set (i + 1) v = .ok { p with parameters := p.parameters.set i (some v) } := by
        rw [Prepared.set, hopen, position?, Option.filter_some, decide_eq_true hi]
        simp only [Bool.false_eq_true, if_false, if_true]
      simp only [bind, Except.bind, hset, if_pos hi]
      rfl
    · have hset : p.set (i + 1) v = .error (.parameterRange (i + 1) p.parameters.length) := by
        rw [Prepared.set, hopen, position?, Option.filter_some, decide_eq_false hi]
        simp only [Bool.false_eq_true, if_false]
      simp only [bind, Except.bind, hset, if_neg hi, setIfInBounds_of_getElem? hp]
      rfl

/-! ## Statements whose first parameters are set -/

/-- Since `base`, the first parameters of a statement were set to these values, and nothing else has
happened but reading. -/
structure Store.Filled (base : Store Memory) (id : StatementId) (p : Prepared) (vs : List Value)
    (store : Store Memory) : Prop where
  /-- no more than traces are left -/
  outline : store.outline = base.outline
  /-- there are so many parameters -/
  fits : vs.length ≤ p.parameters.length
  /-- the others are as before -/
  prepared : store.backend.statements[id.number]? =
    some { p with parameters := vs.map some ++ p.parameters.drop vs.length }

namespace Store.Filled

variable {base store : Store Memory} {id : StatementId} {p : Prepared} {vs : List Value}

theorem start (hp : base.backend.statements[id.number]? = some p) : base.Filled id p [] base :=
  ⟨rfl, Nat.zero_le _, hp⟩

/-- There are as many parameters as before. -/
theorem length_parameters (h : base.Filled id p vs store) :
    (vs.map some ++ p.parameters.drop vs.length).length = p.parameters.length := by
  rw [List.length_append, List.length_map, List.length_drop, Nat.add_sub_cancel' h.fits]

/-- Reading leaves the parameters alone. -/
theorem unprobed (h : base.Filled id p vs store) {after : Store Memory}
    (hsame : after.unprobed = store.unprobed) : base.Filled id p vs after := by
  have hstatements : after.backend.statements = store.backend.statements :=
    (congrArg (fun store : Store Memory => store.backend.statements) hsame :)
  exact ⟨(outline_of_unprobed hsame).trans h.outline, h.fits, hstatements ▸ h.prepared⟩

/-- The next parameter is set, or refused. -/
theorem put (h : base.Filled id p vs store) (hopen : p.closed = false) (setting : Setting) :
    ∃ after, (Step.ofCall (Memory.set id (vs.length + 1) setting) :
        ExceptT BackendError (StateM (Store Memory)) Unit) store =
          ((setting.fitting vs.length p.parameters.length).map fun _ => (), after) ∧
      match setting.fitting vs.length p.parameters.length with
      | .ok v => base.Filled id p (vs ++ [v]) after
      | .error _ => base.Filled id p vs after := by
  have hlength := h.length_parameters
  have hset := Memory.set_succ h.prepared hopen vs.length setting
  dsimp only at hset
  rw [hlength] at hset
  have hkeeps := Step.keeps_ofCall (Memory.keeps_set id (vs.length + 1) setting) store
  have hcall : (Step.ofCall (Memory.set id (vs.length + 1) setting) :
      ExceptT BackendError (StateM (Store Memory)) Unit) store =
        ((Memory.set id (vs.length + 1) setting store.backend).1,
          { store with backend := (Memory.set id (vs.length + 1) setting store.backend).2 }) := rfl
  cases hfit : setting.fitting vs.length p.parameters.length with
  | error e =>
    rw [hfit] at hset
    rw [hcall, hset]
    exact ⟨store, rfl, h⟩
  | ok v =>
    have hlt : vs.length < p.parameters.length := by
      rw [Setting.fitting] at hfit
      obtain ⟨w, -, hfit⟩ := ok_of_bind hfit
      split at hfit
      · assumption
      · cases hfit
    have hparameters : (vs.map some ++ p.parameters.drop vs.length).set vs.length (some v) =
        (vs ++ [v]).map some ++ p.parameters.drop (vs ++ [v]).length := by
      rw [List.set_append_right _ _ (by simp), List.length_map, Nat.sub_self,
        List.drop_eq_getElem_cons hlt, List.set_cons_zero, List.map_append, List.append_assoc,
        List.length_append]
      rfl
    rw [hfit] at hset
    rw [hcall, hset] at hkeeps
    rw [hcall, hset]
    refine ⟨_, rfl, hkeeps.trans h.outline, ?_, ?_⟩
    · rw [List.length_append]
      exact hlt
    · rw [← hparameters]
      exact Array.getElem?_setIfInBounds_self_of_lt (Array.getElem?_eq_some_iff.1 h.prepared).1

end Store.Filled

/-! ## Two statements -/

section Two

variable {session : Session Memory} (hbackend : session.backend = Memory.backend)
  {store store' : Store Memory} {id id' : StatementId} {p p' : Prepared}
  (hp : store.backend.statements[id.number]? = some p)
  (hp' : store'.backend.statements[id'.number]? = some p')
  (hopen : p.closed = false) (hopen' : p'.closed = false)
  (hlength : p'.parameters.length = p.parameters.length) (hreading : store'.reading = store.reading)
include hbackend hp hp' hopen hopen' hlength hreading

omit hp hp' in
variable (sql : String) in
/-- Binders of two statements simulate each other, in stores in which the same is read. -/
theorem Session.simulates_binder :
    Binder.Simulates
      (fun k s s' => ∃ vs, k = vs.length + 1 ∧ store.Filled id p vs s ∧ store'.Filled id' p' vs s')
      (session.binder sql id) (session.binder sql id') := by
  refine ⟨rfl, rfl, ?_, ?_⟩
  · rintro a k s s' ⟨vs, rfl, hs, hs'⟩
    obtain ⟨t, hread, ht⟩ := readAccessor_eq hbackend a s
    obtain ⟨t', hread', ht'⟩ := readAccessor_eq hbackend a s'
    rw [Store.reading_of_outline hs.outline] at hread
    rw [Store.reading_of_outline hs'.outline, hreading] at hread'
    exact ⟨_, t, t', hread, hread', vs, rfl, hs.unprobed ht, hs'.unprobed ht'⟩
  · rintro setting k s s' ⟨vs, rfl, hs, hs'⟩
    obtain ⟨t, hput, ht⟩ := hs.put hopen setting
    obtain ⟨t', hput', ht'⟩ := hs'.put hopen' setting
    rw [hlength] at hput' ht'
    have hcall (id : StatementId) : (session.binder sql id).put (vs.length + 1) setting =
        Step.ofCall (Memory.set id (vs.length + 1) setting) := by rw [binder, hbackend]; rfl
    rw [hcall, hcall]
    refine ⟨t, t', ?_⟩
    cases hfit : setting.fitting vs.length p.parameters.length with
    | error e =>
      rw [hfit] at hput hput' ht ht'
      exact .inr ⟨e, hput, hput', vs, rfl, ht, ht'⟩
    | ok v =>
      rw [hfit] at hput hput' ht ht'
      exact .inl ⟨hput, hput', vs ++ [v], by rw [List.length_append]; rfl, ht, ht'⟩

/-- Two statements with as many parameters are bound alike. -/
theorem Session.bind_lockstep (sql : String) (values : Assignments) (condition : Option Constraint)
    (compiled : Nat) :
    ∃ r bound bound' vs, (session.binder sql id).bind values condition compiled store = (r, bound) ∧
      (session.binder sql id').bind values condition compiled store' = (r, bound') ∧
      store.Filled id p vs bound ∧ store'.Filled id' p' vs bound' ∧
      vs.length ≤ values.length + conditionCount condition ∧
      ∀ m, r = .ok m → vs.length = values.length + conditionCount condition := by
  obtain ⟨r, j, bound, bound', hbind, hbind', ⟨vs, hvs, hfilled, hfilled'⟩, hj, hok⟩ :=
    (simulates_binder hbackend hopen hopen' hlength hreading sql).bind values condition compiled
      ⟨[], rfl, .start hp, .start hp'⟩
  obtain rfl : j = vs.length := Nat.add_left_cancel (hvs.trans (Nat.add_comm _ 1))
  exact ⟨r, bound, bound', vs, hbind, hbind', hfilled, hfilled', hj, hok⟩

end Two

/-! ## What is seen -/

/-- The store without its statements and the traces of reading. -/
def Store.visible (store : Store Memory) : Store Memory :=
  { store.unprobed with
    backend := { store.unprobed.backend with statements := #[] }
    statements := #[]
    cursors := store.cursors.map fun c => { c with statement := ⟨0⟩ } }

namespace Store

variable {store store' : Store Memory}

/-- Reading does not look at statements. -/
theorem reading_visible (store : Store Memory) : store.visible.reading = store.reading := by
  have hat (id : CursorId) (index : Nat) (f : Field) :
      store.visible.readingAt id index f = store.unprobed.readingAt id index f := by
    have hcursor : Session.cursor? id store.visible =
        (store.cursors[id.number]?).map fun c => { c with statement := ⟨0⟩ } := Array.getElem?_map
    have hcursor' : Session.cursor? id store.unprobed = store.cursors[id.number]? := rfl
    rw [readingAt, readingAt, hcursor, hcursor']
    rcases store.cursors[id.number]? with _ | ⟨_ | rows, _ | _ | _⟩ <;> rfl
  rw [← reading_unprobed store]
  funext a
  cases a with
  | literal v | fed cell => rfl
  | column h =>
    rw [reading, reading, readingOf, readingOf]
    simp only [hat]
    rfl

theorem reading_of_visible (h : store'.visible = store.visible) : store'.reading = store.reading := by
  rw [← reading_visible store', h, reading_visible store]

theorem database_of_visible (h : store'.visible = store.visible) :
    store'.backend.database = store.backend.database :=
  (congrArg (fun store : Store Memory => store.backend.database) h :)

theorem visible_of_outline (h : store'.outline = store.outline) : store'.visible = store.visible := by
  have hstore (store : Store Memory) : store.visible = { store.outline with
      backend := { store.outline.backend with statements := #[] }
      statements := #[]
      cursors := store.outline.cursors.map fun c => { c with statement := ⟨0⟩ } } := rfl
  rw [hstore store', h, hstore store]

theorem visible_withDatabase (h : store'.visible = store.visible) (db : Database) :
    (store'.withDatabase db).visible = (store.withDatabase db).visible := by
  have hstore (store : Store Memory) : (store.withDatabase db).visible = store.visible.withDatabase db :=
    rfl
  rw [hstore, h, hstore]

theorem cursors_size_of_visible (h : store'.visible = store.visible) :
    store'.cursors.size = store.cursors.size := by
  have hcursors := congrArg (fun store : Store Memory => store.cursors.size) h
  simpa only [visible, Array.size_map] using hcursors

/-- Opening the same rows shows the same. -/
theorem visible_opening (h : store'.visible = store.visible) (q : Query) (ref : StatementRef)
    (r : ResultSet) :
    (store'.opening { q with statement := ref } r).visible = (store.opening q r).visible := by
  have hrows : store'.backend.rowSets.map RowSet.unprobed = store.backend.rowSets.map RowSet.unprobed :=
    (congrArg (fun store : Store Memory => store.backend.rowSets) h :)
  have hcursors : store'.cursors.map (fun c => { c with statement := ⟨0⟩ }) =
      store.cursors.map fun c => { c with statement := ⟨0⟩ } :=
    (congrArg (fun store : Store Memory => store.cursors) h :)
  have hslots : store'.slots = store.slots := (congrArg (fun store : Store Memory => store.slots) h :)
  have hcells : store'.cells = store.cells := (congrArg (fun store : Store Memory => store.cells) h :)
  have hsize : store'.backend.rowSets.size = store.backend.rowSets.size := by
    simpa only [Array.size_map] using congrArg Array.size hrows
  simp only [visible, opening, unprobed, Memory.unprobed, Array.map_push, hrows, hcursors, hslots, hcells,
    hsize, cursors_size_of_visible h, database_of_visible h]

end Store

/-! ## Clean statements -/

/-- No parameter behind the first `n` is set. -/
def Prepared.UnsetFrom (p : Prepared) (n : Nat) : Prop := ∀ v ∈ p.parameters.drop n, v = none

/-- The statement of a request, as long as it is open, does what the text says, and no parameter behind
the first `n` is set. -/
def StatementRef.Clean (ref : StatementRef) (sql : String) (n : Nat) (store : Store Memory) : Prop :=
  ∀ id, Session.open? ref store = some id → ∃ p parsed,
    store.backend.statements[id.number]? = some p ∧ parse sql = .ok parsed ∧
    p.statement = parsed.statement ∧ p.closed = false ∧ p.parameters.length = parsed.parameters ∧
    p.UnsetFrom n

/-- The statements, and the names that requests have for them. -/
def Store.held (store : Store Memory) : Array (Option StatementId) × Array Prepared :=
  (store.statements, store.backend.statements)

/-- What the runs of others do: the statement of a request stays as it is, or it is given up. -/
def StatementRef.Left (ref : StatementRef) (store after : Store Memory) : Prop :=
  ∀ id, Session.open? ref after = some id → Session.open? ref store = some id ∧
    after.backend.statements[id.number]? = store.backend.statements[id.number]?

section Clean

variable {ref : StatementRef} {sql : String} {n : Nat} {store after : Store Memory}
  {id : StatementId} {p : Prepared} {vs : List Value}

theorem StatementRef.Clean.left (h : ref.Clean sql n store) (hleft : ref.Left store after) :
    ref.Clean sql n after := by
  intro id hid
  obtain ⟨hopened, hsame⟩ := hleft id hid
  rw [hsame]
  exact h id hopened

theorem StatementRef.left_of_held (hheld : after.held = store.held) : ref.Left store after := by
  obtain ⟨hrefs, hstatements⟩ := Prod.mk.inj hheld
  intro id hid
  rw [Session.open?, hrefs] at hid
  exact ⟨hid, by rw [hstatements]⟩

/-- Feeding a cell leaves statements alone. -/
theorem StatementRef.left_feed (ref : StatementRef) (store : Store Memory) (cell : CellId) (v : Value) :
    ref.Left store (store.feed cell v) := left_of_held rfl

/-- Setting the first parameters does not set those behind the first `n`. -/
theorem Prepared.UnsetFrom.fill (h : p.UnsetFrom n) (hn : vs.length ≤ n) :
    ({ p with parameters := vs.map some ++ p.parameters.drop vs.length } : Prepared).UnsetFrom n := by
  have hdrop : (vs.map some ++ p.parameters.drop vs.length).drop n = p.parameters.drop n := by
    rw [List.drop_append, List.drop_eq_nil_of_le (by rwa [List.length_map]), List.nil_append,
      List.length_map, List.drop_drop, Nat.add_sub_cancel' hn]
  intro v hv
  exact h v (hdrop ▸ hv)

/-- Statements whose first `n` parameters are set alike, and no others, are bound alike. -/
theorem Prepared.UnsetFrom.fill_eq {p' : Prepared} (h : p.UnsetFrom n) (h' : p'.UnsetFrom n)
    (hstatement : p'.statement = p.statement) (hclosed : p'.closed = p.closed)
    (hlength : p'.parameters.length = p.parameters.length) (hn : vs.length = n) :
    ({ p' with parameters := vs.map some ++ p'.parameters.drop vs.length } : Prepared) =
      { p with parameters := vs.map some ++ p.parameters.drop vs.length } := by
  have hdrop : p'.parameters.drop n = p.parameters.drop n := by
    rw [List.eq_replicate_of_mem h, List.eq_replicate_of_mem h', List.length_drop, List.length_drop,
      hlength]
  rw [hn, hdrop, hstatement, hclosed]

/-- Setting the first parameters keeps a statement clean. -/
theorem StatementRef.Clean.filled (h : ref.Clean sql n store) (hopened : Session.open? ref store = some id)
    (hp : store.backend.statements[id.number]? = some p) (hfilled : store.Filled id p vs after)
    (hn : vs.length ≤ n) : ref.Clean sql n after := by
  obtain ⟨p₀, parsed, hp₀, hparse, hstatement, hopen, hlength, hunset⟩ := h id hopened
  obtain rfl := Option.some.inj (hp.symm.trans hp₀)
  intro id' hid'
  have hrefs : after.statements = store.statements := (congrArg (·.statements) hfilled.outline :)
  rw [Session.open?, hrefs] at hid'
  obtain rfl := Option.some.inj (hopened.symm.trans hid')
  exact ⟨_, parsed, hfilled.prepared, hparse, hstatement, hopen,
    hfilled.length_parameters.trans hlength, hunset.fill hn⟩

end Clean

/-! ## Two requests of one text -/

/-- Two statements of one text, both open and clean, in stores that look the same. -/
structure StatementRef.Twins (ref ref' : StatementRef) (sql : String) (n : Nat)
    (store store' : Store Memory) : Prop where
  /-- the first is clean -/
  clean : ref.Clean sql n store
  /-- the second is clean -/
  clean' : ref'.Clean sql n store'
  /-- the first is open -/
  opened : (Session.open? ref store).isSome
  /-- the second is open -/
  opened' : (Session.open? ref' store').isSome
  /-- the stores look the same -/
  visible : store'.visible = store.visible

namespace StatementRef.Twins

variable {ref ref' : StatementRef} {sql : String} {n : Nat} {store store' after after' : Store Memory}

theorem refl (hclean : ref.Clean sql n store) (hopened : (Session.open? ref store).isSome) :
    ref.Twins ref sql n store store := ⟨hclean, hclean, hopened, hopened, rfl⟩

/-- Whatever leaves statements alone, and shows the same, keeps twins. -/
theorem leave (h : ref.Twins ref' sql n store store') (hheld : after.held = store.held)
    (hheld' : after'.held = store'.held) (hvisible : after'.visible = after.visible) :
    ref.Twins ref' sql n after after' := by
  refine ⟨h.clean.left (left_of_held hheld), h.clean'.left (left_of_held hheld'), ?_, ?_, hvisible⟩
  · rw [Session.open?, (Prod.mk.inj hheld).1]
    exact h.opened
  · rw [Session.open?, (Prod.mk.inj hheld').1]
    exact h.opened'

variable {session : Session Memory} (hbackend : session.backend = Memory.backend)
include hbackend

/-- Twins are bound alike, and if that comes through, they are the same. -/
theorem bind {values : Assignments} {condition : Option Constraint}
    (h : ref.Twins ref' sql (values.length + conditionCount condition) store store') (compiled : Nat) :
    ∃ id id' r, ∃ bound bound' : Store Memory,
      Session.open? ref store = some id ∧ Session.open? ref' store' = some id' ∧
      (session.binder sql id).bind values condition compiled store = (r, bound) ∧
      (session.binder sql id').bind values condition compiled store' = (r, bound') ∧
      ref.Twins ref' sql (values.length + conditionCount condition) bound bound' ∧
      ∀ m, r = .ok m → ∃ p, bound.backend.statements[id.number]? = some p ∧
        bound'.backend.statements[id'.number]? = some p := by
  obtain ⟨id, hid⟩ := Option.isSome_iff_exists.1 h.opened
  obtain ⟨id', hid'⟩ := Option.isSome_iff_exists.1 h.opened'
  obtain ⟨p, parsed, hp, hparse, hstatement, hopen, hlength, hunset⟩ := h.clean id hid
  obtain ⟨p', parsed', hp', hparse', hstatement', hopen', hlength', hunset'⟩ := h.clean' id' hid'
  obtain rfl := Except.ok.inj (hparse.symm.trans hparse')
  obtain ⟨r, bound, bound', vs, hbind, hbind', hfilled, hfilled', hle, hok⟩ :=
    Session.bind_lockstep hbackend hp hp' hopen hopen' (hlength'.trans hlength.symm)
      (Store.reading_of_visible h.visible) sql values condition compiled
  refine ⟨id, id', r, bound, bound', hid, hid', hbind, hbind', ?_, fun m hm => ?_⟩
  · have hrefs : bound.statements = store.statements := (congrArg (·.statements) hfilled.outline :)
    have hrefs' : bound'.statements = store'.statements := (congrArg (·.statements) hfilled'.outline :)
    refine ⟨h.clean.filled hid hp hfilled hle, h.clean'.filled hid' hp' hfilled' hle, ?_, ?_, ?_⟩
    · rw [Session.open?, hrefs]
      exact h.opened
    · rw [Session.open?, hrefs']
      exact h.opened'
    · rw [Store.visible_of_outline hfilled'.outline, h.visible,
        Store.visible_of_outline hfilled.outline]
  · -- all that may be set is set now
    refine ⟨_, hfilled.prepared, ?_⟩
    rw [← hunset.fill_eq hunset' (hstatement'.trans hstatement.symm) (hopen'.trans hopen.symm)
      (hlength'.trans hlength.symm) (hok m hm)]
    exact hfilled'.prepared

/-- Twins run alike as queries. -/
theorem execute {q : Query} (h : q.statement.Twins ref' q.sql (conditionCount q.constraint) store store') :
    ∃ result after after', session.execute q store = (result, after) ∧
      session.execute { q with statement := ref' } store' = (result, after') ∧
      q.statement.Twins ref' q.sql (conditionCount q.constraint) after after' ∧
      ∀ id, result = .ok id → ∃ rows, after.Shows id q.columns rows ∧ after'.Shows id q.columns rows := by
  have hcount : ([] : Assignments).length + conditionCount q.constraint = conditionCount q.constraint :=
    Nat.zero_add _
  rw [← hcount] at h ⊢
  obtain ⟨id, id', r, bound, bound', hid, hid', hbind, hbind', htwins, hsame⟩ :=
    h.bind hbackend q.parameterCount
  cases r with
  | error e =>
    exact ⟨_, bound, bound', Session.execute_of_unbound hid hbind,
      Session.execute_of_unbound (q := { q with statement := ref' }) hid' hbind', htwins,
      fun _ hok => by cases hok⟩
  | ok m =>
    obtain ⟨p, hp, hp'⟩ := hsame m rfl
    have hrun := Session.execute_of_bind hbackend hid hbind
    have hrun' := Session.execute_of_bind hbackend (q := { q with statement := ref' }) hid' hbind'
    rw [Memory.selected, hp] at hrun
    rw [Memory.selected, hp', Store.database_of_visible htwins.visible,
      Store.cursors_size_of_visible htwins.visible] at hrun'
    dsimp only at hrun hrun'
    cases hselect : p.select bound.backend.database with
    | error e =>
      rw [hselect] at hrun hrun'
      exact ⟨_, bound, bound', hrun, hrun', htwins, fun _ hok => by cases hok⟩
    | ok rs =>
      rw [hselect] at hrun hrun'
      refine ⟨_, _, _, hrun, hrun', ?_, ?_⟩
      · exact htwins.leave rfl rfl (Store.visible_opening htwins.visible q ref' rs)
      · rintro cursor hok
        obtain rfl := Except.ok.inj hok
        refine ⟨rs.rows, bound.shows_opening q rs, ?_⟩
        rw [← Store.cursors_size_of_visible htwins.visible]
        exact bound'.shows_opening _ rs

/-- Twins run alike as mutations. -/
theorem runWith {r : MutationRequest} {values : Assignments}
    (h : r.statement.Twins ref' r.compiled.sql (values.length + conditionCount r.compiled.constraint)
      store store') :
    ∃ result after after', session.runWith r values store = (result, after) ∧
      session.runWith ⟨r.compiled, ref'⟩ values store' = (result, after') ∧
      r.statement.Twins ref' r.compiled.sql (values.length + conditionCount r.compiled.constraint)
        after after' := by
  obtain ⟨id, id', result, bound, bound', hid, hid', hbind, hbind', htwins, hsame⟩ :=
    h.bind hbackend r.compiled.parameterCount
  cases result with
  | error e =>
    exact ⟨_, bound, bound', Session.runWith_of_unbound hid hbind,
      Session.runWith_of_unbound (r := ⟨r.compiled, ref'⟩) hid' hbind', htwins⟩
  | ok m =>
    obtain ⟨p, hp, hp'⟩ := hsame m rfl
    have hrun := Session.runWith_of_bind hid hbackend hbind hp
    have hrun' := Session.runWith_of_bind (r := ⟨r.compiled, ref'⟩) hid' hbackend hbind' hp'
    rw [Store.database_of_visible htwins.visible] at hrun'
    exact ⟨_, _, _, hrun, hrun',
      htwins.leave rfl rfl (Store.visible_withDatabase htwins.visible _)⟩

end StatementRef.Twins

/-! ## Bulk requests of one text -/

section Bulk

variable {session : Session Memory} {r : MutationRequest} {ref' : StatementRef}
  {store store' : Store Memory}

/-- Two requests of one mutation, both open and clean, in stores that look the same. -/
abbrev MutationRequest.Twins (r : MutationRequest) (ref' : StatementRef) (store store' : Store Memory) :
    Prop :=
  r.statement.Twins ref' r.compiled.sql
    (r.compiled.values.length + conditionCount r.compiled.constraint) store store'

/-- Two runs of a step of bulk requests end alike. -/
def MutationRequest.Alike {α : Type} (r : MutationRequest) (ref' : StatementRef)
    (ran ran' : Except QueryError α × BulkRequest × Store Memory) : Prop :=
  ∃ result k after after', ran = (result, ⟨r, k⟩, after) ∧
    ran' = (result, ⟨⟨r.compiled, ref'⟩, k⟩, after') ∧ r.Twins ref' after after'

/-- Runs that end alike leave the same to be seen. -/
theorem MutationRequest.Alike.visible {α : Type} {ran ran' : Except QueryError α × BulkRequest × Store Memory}
    (h : r.Alike ref' ran ran') :
    ∃ result k after after', ran = (result, ⟨r, k⟩, after) ∧
      ran' = (result, ⟨⟨r.compiled, ref'⟩, k⟩, after') ∧ after'.visible = after.visible := by
  obtain ⟨result, k, after, after', hran, hran', htwins⟩ := h
  exact ⟨result, k, after, after', hran, hran', htwins.visible⟩

/-- Rows that are inserted alike are counted alike. -/
theorem MutationRequest.Alike.count {step : BulkRequest → Step Memory Nat} {k : Nat}
    {result : Except QueryError Nat} {after after' : Store Memory}
    (hstep : step ⟨r, k⟩ store = (result, after))
    (hstep' : step ⟨⟨r.compiled, ref'⟩, k⟩ store' = (result, after')) (h : r.Twins ref' after after') :
    r.Alike ref' (Session.countInserted step (⟨r, k⟩, store))
      (Session.countInserted step (⟨⟨r.compiled, ref'⟩, k⟩, store')) := by
  rw [Session.countInserted, Session.countInserted, hstep, hstep']
  cases result with
  | error e => exact ⟨_, k, after, after', rfl, rfl, h⟩
  | ok count => exact ⟨_, k + count, after, after', rfl, rfl, h⟩

variable (hbackend : session.backend = Memory.backend) (h : r.Twins ref' store store') (k : Nat)
include hbackend h

theorem MutationRequest.Twins.runBulk :
    r.Alike ref' (session.runBulk (⟨r, k⟩, store))
      (session.runBulk (⟨⟨r.compiled, ref'⟩, k⟩, store')) := by
  obtain ⟨result, after, after', hrun, hrun', htwins⟩ := StatementRef.Twins.runWith hbackend h
  exact .count hrun hrun' htwins

theorem MutationRequest.Twins.insertRow (row : List (Field × Value)) :
    r.Alike ref' (session.insertRow row (⟨r, k⟩, store))
      (session.insertRow row (⟨⟨r.compiled, ref'⟩, k⟩, store')) := by
  cases hvalues : overrideValues r.compiled.values row with
  | error e =>
    have hrefused (ref : StatementRef) (store : Store Memory) :
        session.insertRow row (⟨⟨r.compiled, ref⟩, k⟩, store) =
          (.error e, ⟨⟨r.compiled, ref⟩, k⟩, store) := Session.insertRow_of_refused hvalues
    exact ⟨_, k, store, store', hrefused r.statement store, hrefused ref' store', h⟩
  | ok values =>
    have htaken (ref : StatementRef) (store : Store Memory) :
        session.insertRow row (⟨⟨r.compiled, ref⟩, k⟩, store) =
          Session.countInserted (fun bulk => session.runWith bulk.request values)
            (⟨⟨r.compiled, ref⟩, k⟩, store) := Session.insertRow_of_taken hvalues
    have hlength := length_of_overrideValues hvalues
    rw [MutationRequest.Twins, ← hlength] at h
    obtain ⟨result, after, after', hrun, hrun', htwins⟩ := StatementRef.Twins.runWith hbackend h
    rw [hlength] at htwins
    rw [htaken r.statement store, htaken ref' store']
    exact .count hrun hrun' htwins

omit h in
/-- Rows are inserted alike, up to the first that fails. -/
theorem MutationRequest.Twins.insertRows (h : r.Twins ref' store store')
    (rows : List (List (Field × Value))) :
    r.Alike ref' (session.insertRows rows (⟨r, k⟩, store))
      (session.insertRows rows (⟨⟨r.compiled, ref'⟩, k⟩, store')) := by
  induction rows generalizing store store' k with
  | nil => exact ⟨.ok 0, k, store, store', rfl, rfl, h⟩
  | cons row rows ih =>
    obtain ⟨result, k₁, after, after', hrow, hrow', htwins⟩ :=
      MutationRequest.Twins.insertRow hbackend h k row
    cases result with
    | error e => exact ⟨_, k₁, after, after', bind_of_error hrow, bind_of_error hrow', htwins⟩
    | ok count =>
      obtain ⟨result, k₂, done, done', hrows, hrows', htwins⟩ := ih k₁ htwins
      cases result with
      | error e =>
        exact ⟨_, k₂, done, done', (bind_of_ok hrow).trans (bind_of_error hrows),
          (bind_of_ok hrow').trans (bind_of_error hrows'), htwins⟩
      | ok others =>
        exact ⟨_, k₂, done, done', (bind_of_ok hrow).trans (bind_of_ok hrows),
          (bind_of_ok hrow').trans (bind_of_ok hrows'), htwins⟩

end Bulk

end EntityQuery
