import EntityQuery.Proofs.Evaluation.Meaning
import EntityQuery.Proofs.Request.BindingOrder
import EntityQuery.Proofs.Session.Cells

/-!
# Binding sets parameters

On the backend in memory, binding a request sets the parameters of its prepared statement one after the
other. `Constraint.handed` and `Assignments.handed` are the values that a request hands over, if each
accessor can be read and each value goes into its field.

`Binder.Binds` says what a step of binding does: it sets a stretch of the parameters to its values if it
has them, fails otherwise, and leaves no more than traces in either case. Steps in a row set adjacent
stretches, so the same is true of a whole request (`Binder.bind_eq_ok`), which is bound only if it has all
its values (`Binder.isSome_of_bind`).
-/

namespace EntityQuery

/-! ## Values that are handed over -/

/-- What an accessor reads, if it can be read. -/
def Store.valueOf (store : Store Memory) (a : Accessor) : Option Value := (store.reading a).toOption

/-- The values that an operand hands over. -/
def Operand.handed (value : Accessor → Option Value) : Operand → Option (List Value)
  | .field _ => some []
  | .value f v => (coerced f v).map ([·])
  | .accessor f a => ((value a).bind (coerced f)).map ([·])

/-- The values that a constraint hands over, from left to right; none if one of them cannot be read or
does not go into its field. -/
def Constraint.handed (value : Accessor → Option Value) : Constraint → Option (List Value)
  | .compare _ left right => do return (← left.handed value) ++ (← right.handed value)
  | .and left right => do return (← left.handed value) ++ (← right.handed value)
  | .or left right => do return (← left.handed value) ++ (← right.handed value)
  | .inList _ f values => values.mapM (coerced f)
  | .isNull _ _ => some []
  | .contains _ _ text => some [.string (substringPattern text)]

/-- The values that a condition hands over. -/
def conditionHanded (value : Accessor → Option Value) (condition : Option Constraint) :
    Option (List Value) :=
  match condition with
  | none => some []
  | some c => c.handed value

/-- The values that assignments hand over. -/
def Assignments.handed (value : Accessor → Option Value) (values : Assignments) :
    Option (List Value) := values.mapM fun (f, a) => (value a).bind (coerced f)

/-- Values that are computed one by one stand next to each other. -/
theorem mapM_cons_append {α β : Type} (f : α → Option β) (x : α) (xs : List α) :
    (x :: xs).mapM f = do return (← (f x).map ([·])) ++ (← xs.mapM f) := by
  rw [List.mapM_cons]
  cases f x <;> rfl

/-- The values that a request hands over. -/
def requestHanded (value : Accessor → Option Value) (values : Assignments)
    (condition : Option Constraint) : Option (List Value) := do
  return (← values.handed value) ++ (← conditionHanded value condition)

section Handed

variable {value : Accessor → Option Value} {vs : List Value}

theorem Operand.length_handed {o : Operand} (h : o.handed value = some vs) :
    vs.length = o.isParameter.toNat := by
  cases o with
  | field f =>
    cases h
    rfl
  | value f v | accessor f a =>
    obtain ⟨w, -, rfl⟩ := Option.map_eq_some_iff.1 h
    rfl

/-- A constraint hands over as many values as it has placeholders. -/
theorem Constraint.length_handed {c : Constraint} (h : c.handed value = some vs) :
    vs.length = c.parameterCount := by
  induction c generalizing vs with
  | compare op left right =>
    obtain ⟨ls, rs, hl, hr, rfl⟩ := arguments_append h
    rw [List.length_append, Operand.length_handed hl, Operand.length_handed hr, parameterCount]
  | and left right ihl ihr | or left right ihl ihr =>
    obtain ⟨ls, rs, hl, hr, rfl⟩ := arguments_append h
    rw [List.length_append, ihl hl, ihr hr, parameterCount]
  | inList negated f values => exact length_of_mapM_some h
  | isNull negated f | contains negated f text =>
    cases h
    rfl

theorem length_conditionHanded {condition : Option Constraint}
    (h : conditionHanded value condition = some vs) : vs.length = conditionCount condition := by
  cases condition with
  | none =>
    cases h
    rfl
  | some c => exact Constraint.length_handed h

theorem length_requestHanded {values : Assignments} {condition : Option Constraint}
    (h : requestHanded value values condition = some vs) :
    vs.length = values.length + conditionCount condition := by
  obtain ⟨ls, rs, hl, hr, rfl⟩ := arguments_append h
  rw [List.length_append, length_of_mapM_some hl, length_conditionHanded hr]

end Handed

/-- Whether a request failed because an expression has no value. -/
def QueryError.isEvaluation : QueryError → Bool
  | .execution _ (.evaluation _) => true
  | _ => false

/-- A step that does not evaluate expressions. -/
abbrev EvaluatesNothing {τ α : Type} (x : ExceptT QueryError (StateM τ) α) : Prop :=
  FailsWith (fun e => e.isEvaluation = false) x

/-! ## Outlines -/

/-- A statement without the values of its parameters. -/
def Prepared.blank (p : Prepared) : Prepared := { p with parameters := p.parameters.map fun _ => none }

/-- The memory without the traces of reading and binding. -/
def Memory.outline (m : Memory) : Memory :=
  { m.unprobed with statements := m.statements.map Prepared.blank }

/-- The store without the traces of reading and binding. -/
def Store.outline (store : Store Memory) : Store Memory :=
  { store with backend := store.backend.outline }

namespace Store

variable {store store' : Store Memory}

theorem outline_of_unprobed (h : store'.unprobed = store.unprobed) :
    store'.outline = store.outline := by
  have hstore (store : Store Memory) : store.outline = { store.unprobed with
      backend := { store.unprobed.backend with
        statements := store.unprobed.backend.statements.map Prepared.blank } } := rfl
  rw [hstore store', h, hstore store]

theorem database_of_outline (h : store'.outline = store.outline) :
    store'.backend.database = store.backend.database :=
  (congrArg (fun store : Store Memory => store.backend.database) h :)

theorem reading_outline (store : Store Memory) : store.outline.reading = store.reading := by
  rw [← reading_unprobed store]
  funext a
  cases a <;> rfl

/-- Reading does not look at the traces of binding either. -/
theorem reading_of_outline (h : store'.outline = store.outline) : store'.reading = store.reading := by
  rw [← reading_outline store', h, reading_outline store]

end Store

/-! ## One parameter -/

section Calls

variable {σ α : Type} {P : BackendError → Prop} {call : Call σ α}

theorem Step.failsWith_ofCall (h : FailsWith P call) :
    FailsWith P (ofCall call : ExceptT BackendError (StateM (Store σ)) α) := by
  intro store e store' hcall
  obtain ⟨he, -⟩ := Prod.mk.inj hcall
  exact h store.backend e (call store.backend).2 (Prod.ext he rfl)

theorem Step.keeps_ofCall {call : Call Memory α} (h : Keeps Memory.outline call) :
    Keeps Store.outline (ofCall call) := by
  intro store
  change { store with backend := (call store.backend).2.outline } = store.outline
  rw [h]
  rfl

end Calls

/-- Only a stream may be without a value. -/
theorem Setting.value_error {setting : Setting} {e : BackendError} (h : setting.value = .error e) :
    e = .shortStream := by
  cases setting with
  | stream length data =>
    rw [value] at h
    split at h <;> cases h
    rfl
  | _ => cases h

/-- A statement with a parameter set is the same but for the values of its parameters. -/
theorem Prepared.set_eq_ok {p p' : Prepared} {index : Nat} {v : Value} (h : p.set index v = .ok p') :
    p'.blank = p.blank := by
  rw [Prepared.set] at h
  split at h
  · cases h
  · split at h
    · cases h
      simp [blank, List.map_const']
    · cases h

/-- Setting a parameter keeps the outline. -/
theorem Memory.keeps_set (id : StatementId) (index : Nat) (setting : Setting) :
    Keeps Memory.outline (Memory.set id index setting) := by
  intro m
  rw [Memory.set, onStatement]
  cases hp : m.statements[id.number]? with
  | none => rfl
  | some p =>
    rcases hset : (do p.set index (← setting.value)) with e | p'
    · simp only [hset, outline, unprobed, map_setIfInBounds_of_eq hp rfl]
    · obtain ⟨v, -, hv⟩ := ok_of_bind hset
      simp only [hset, outline, unprobed, map_setIfInBounds_of_eq hp (Prepared.set_eq_ok hv)]

/-- A parameter is refused for reasons of its own. -/
theorem Memory.set_failsWith (id : StatementId) (index : Nat) (setting : Setting) :
    FailsWith (fun e => ∀ cause, e ≠ .evaluation cause) (Memory.set id index setting) := by
  intro m e m' h cause
  rintro rfl
  rw [Memory.set, onStatement] at h
  cases hp : m.statements[id.number]? with
  | none =>
    rw [hp] at h
    cases h
  | some p =>
    rw [hp] at h
    rcases hset : (do p.set index (← setting.value)) with e | p'
    · simp only [hset] at h
      cases h
      cases hvalue : setting.value with
      | error e =>
        rw [hvalue, Setting.value_error hvalue] at hset
        cases hset
      | ok v =>
        rw [hvalue] at hset
        change p.set index v = _ at hset
        rw [Prepared.set] at hset
        split at hset
        · cases hset
        · split at hset <;> cases hset
    · simp only [hset] at h
      cases h

/-- Setting a parameter behind others. -/
theorem Memory.set_eq {m : Memory} {id : StatementId} {p : Prepared} {setting : Setting} {v : Value}
    {before behind : List (Option Value)} {old : Option Value}
    (hp : m.statements[id.number]? = some p) (hopen : p.closed = false)
    (hparameters : p.parameters = before ++ old :: behind) (hv : setting.value = .ok v) :
    ∃ m', Memory.set id (before.length + 1) setting m = (.ok (), m') ∧
      m'.statements[id.number]? = some { p with parameters := before ++ some v :: behind } := by
  have hlt : before.length < p.parameters.length := by
    rw [hparameters]
    simp
  have hset : p.parameters.set before.length (some v) = before ++ some v :: behind := by
    rw [hparameters]
    simp
  have hprepared : p.set (before.length + 1) v =
      .ok { p with parameters := before ++ some v :: behind } := by
    rw [Prepared.set, hopen, position?, Option.filter_some, decide_eq_true hlt]
    simp only [Bool.false_eq_true, if_false, if_true, hset]
  rw [set, onStatement, hp]
  simp only [bind, Except.bind, hv, hprepared]
  exact ⟨_, rfl, Array.getElem?_setIfInBounds_self_of_lt (Array.getElem?_eq_some_iff.1 hp).1⟩

/-- A blob mode does not change the value that is handed over. -/
theorem BlobMode.value_apply {mode : BlobMode} {setting : Setting} {v : Value}
    (h : setting.value = .ok v) : (mode.apply setting).value = .ok v := by
  cases mode with
  | native => exact h
  | lengthPrefixed =>
    cases setting with
    | bytes data =>
      cases h
      simp [apply, Setting.value]
    | _ => exact h

/-- What a field takes stands for a value. -/
theorem coerced_of_coerce {f : Field} {v : Value} {setting : Setting} (h : coerce f v = .ok setting) :
    ∃ w, setting.value = .ok w ∧ coerced f v = some w := by
  have hvalue : ∃ w, setting.value = .ok w := by
    cases setting with
    | stream length data =>
      unfold coerce at h
      grind
    | _ => exact ⟨_, rfl⟩
  obtain ⟨w, hw⟩ := hvalue
  refine ⟨w, hw, ?_⟩
  rw [coerced, h]
  change setting.value.toOption = _
  rw [hw]
  rfl

/-- What a field does not take has no value. -/
theorem coerced_of_coerce_error {f : Field} {v : Value} {e : QueryError} (h : coerce f v = .error e) :
    coerced f v = none := by
  rw [coerced, h]
  rfl

theorem coerce_evaluates (f : Field) (v : Value) :
    ∀ e, coerce f v = .error e → e.isEvaluation = false := by
  intro e h
  unfold coerce at h
  grind [QueryError.isEvaluation]

/-! ## Stretches of parameters -/

namespace Binder

/-- A step of binding, on stores that look like `base`. `vs` are the values that it hands over, if it
has them all. -/
structure Binds (id : StatementId) (base : Store Memory) (vs : Option (List Value))
    (step : Nat → Step Memory Nat) : Prop where
  /-- no more than traces are left -/
  keeps : ∀ next, Keeps Store.outline (step next)
  /-- nothing is evaluated -/
  evaluates : ∀ next, EvaluatesNothing (step next)
  /-- it does not come through without its values -/
  has : ∀ next store m store', store.outline = base.outline → step next store = (.ok m, store') →
    vs.isSome
  /-- with its values it comes through, and sets as many parameters as there are values, from the number
  it is given on -/
  fills : ∀ ws store p before old behind, vs = some ws → store.outline = base.outline →
    store.backend.statements[id.number]? = some p → p.closed = false →
    p.parameters = before ++ (old ++ behind) → old.length = ws.length →
    ∃ store', step (before.length + 1) store = (.ok (before.length + 1 + ws.length), store') ∧
      store'.backend.statements[id.number]? =
        some { p with parameters := before ++ (ws.map some ++ behind) }

section Steps

variable {id : StatementId} {base : Store Memory} {vs ls rs : Option (List Value)}

theorem binds_nil : Binds id base (some []) (fun next => pure next) where
  keeps _ := keeps_pure _
  evaluates _ := failsWith_pure _
  has _ _ _ _ _ _ := rfl
  fills := by
    intro ws store p before old behind hws _ hp _ hparameters hlength
    cases hws
    rw [List.eq_nil_of_length_eq_zero hlength, List.nil_append] at hparameters
    refine ⟨store, rfl, ?_⟩
    rw [hp, List.map_nil, List.nil_append, ← hparameters]

/-- Steps in a row set adjacent stretches. -/
theorem Binds.bind {x y : Nat → Step Memory Nat} (hx : Binds id base ls x)
    (hy : Binds id base rs y) :
    Binds id base (do return (← ls) ++ (← rs)) (fun next => x next >>= y) where
  keeps next := (hx.keeps next).bind hy.keeps
  evaluates next := (hx.evaluates next).bind hy.evaluates
  has := by
    intro next store m store' hstore h
    obtain ⟨n, store₁, h₁, h₂⟩ := bind_eq_ok h
    have hkeeps := hx.keeps next store
    rw [h₁] at hkeeps
    obtain ⟨l, rfl⟩ := Option.isSome_iff_exists.1 (hx.has next store n store₁ hstore h₁)
    obtain ⟨r, rfl⟩ :=
      Option.isSome_iff_exists.1 (hy.has n store₁ m store' (hkeeps.trans hstore) h₂)
    rfl
  fills := by
    intro ws store p before old behind hws hstore hp hopen hparameters hlength
    obtain ⟨l, r, rfl, rfl, rfl⟩ := arguments_append hws
    -- the first step takes what it needs, and leaves the rest of the stretch to the second
    rw [List.length_append] at hlength
    have hold : old.take l.length ++ (old.drop l.length ++ behind) = old ++ behind := by
      rw [← List.append_assoc, List.take_append_drop]
    obtain ⟨store₁, h₁, hp₁⟩ := hx.fills l store p before (old.take l.length)
      (old.drop l.length ++ behind) rfl hstore hp hopen (hold ▸ hparameters)
      (by rw [List.length_take]; omega)
    have hkeeps := hx.keeps (before.length + 1) store
    rw [h₁] at hkeeps
    obtain ⟨store₂, h₂, hp₂⟩ := hy.fills r store₁ _ (before ++ l.map some) (old.drop l.length)
      behind rfl (hkeeps.trans hstore) hp₁ hopen (List.append_assoc ..).symm
      (by rw [List.length_drop]; omega)
    rw [List.length_append, List.length_map, Nat.add_right_comm] at h₂
    refine ⟨store₂, (bind_of_ok h₁).trans (h₂.trans ?_), ?_⟩
    · rw [List.length_append, ← Nat.add_assoc]
    · rw [hp₂, List.map_append, List.append_assoc, List.append_assoc]

end Steps

section Session

variable {session : Session Memory} {sql : String} {id : StatementId} {base : Store Memory}
  (hbackend : session.backend = Memory.backend)
include hbackend

/-- Handing a setting over sets one parameter. -/
theorem binds_hand {setting : Setting} {v : Value} (hv : setting.value = .ok v) :
    Binds id base (some [v]) (fun next => do
      (session.binder sql id).hand next setting
      return next + 1) where
  keeps next := by
    have hput : Keeps Store.outline ((session.binder sql id).put next setting) := by
      rw [Session.binder, hbackend]
      exact Step.keeps_ofCall (Memory.keeps_set id next setting)
    exact (hput.adapt _).bind fun _ => keeps_pure _
  evaluates next := by
    have hput : FailsWith (fun e => ∀ cause, e ≠ .evaluation cause)
        ((session.binder sql id).put next setting) := by
      rw [Session.binder, hbackend]
      exact Step.failsWith_ofCall (Memory.set_failsWith id next setting)
    refine (hput.adapt fun e he => ?_).bind fun _ => failsWith_pure _
    cases e with
    | evaluation cause => exact absurd rfl (he cause)
    | _ => rfl
  has _ _ _ _ _ _ := rfl
  fills := by
    intro ws store p before old behind hws hstore hp hopen hparameters hlength
    cases hws
    obtain ⟨value, rfl⟩ := List.length_eq_one_iff.1 hlength
    obtain ⟨m, hset, hm⟩ := Memory.set_eq hp hopen hparameters hv
    have hput : (session.binder sql id).hand (before.length + 1) setting store =
        (.ok (), { store with backend := m }) := by
      rw [hand, adapt_apply, Session.binder, hbackend]
      change ((Memory.set id (before.length + 1) setting store.backend).1.mapError _,
        { store with backend := (Memory.set id (before.length + 1) setting store.backend).2 }) = _
      rw [hset]
      rfl
    exact ⟨_, bind_of_ok hput, hm⟩

variable (sql base) in
/-- A value is set if it goes into its field. -/
theorem binds_set (f : Field) (v : Value) :
    Binds id base ((coerced f v).map ([·])) (fun next => (session.binder sql id).set next f v) := by
  cases hcoerce : coerce f v with
  | error e =>
    have hset (next : Nat) (store : Store Memory) :
        (session.binder sql id).set next f v store = (.error e, store) := set_unfit hcoerce
    rw [coerced_of_coerce_error hcoerce]
    refine ⟨fun next store => ?_, fun next store e' store' h => ?_, fun next store m store' _ h => ?_,
      fun ws _ _ _ _ _ h => nomatch h⟩
    · rw [hset]
    · cases (hset next store).symm.trans h
      exact coerce_evaluates f v e hcoerce
    · cases (hset next store).symm.trans h
  | ok setting =>
    obtain ⟨w, hw, hcoerced⟩ := coerced_of_coerce hcoerce
    have hset : (fun next => (session.binder sql id).set next f v) = fun next => do
        (session.binder sql id).hand next ((session.binder sql id).blobMode.apply setting)
        return next + 1 := by
      funext next
      rw [set, hcoerce]
      rfl
    rw [hcoerced, hset]
    exact binds_hand hbackend (BlobMode.value_apply hw)

/-- A value is read first, and then it is set if it goes into its field. -/
theorem binds_read (f : Field) (a : Accessor) :
    Binds id base (((base.valueOf a).bind (coerced f)).map ([·]))
      (fun next => session.readAccessor a >>= (session.binder sql id).set next f) where
  keeps next := by
    have hread : Keeps Store.outline (session.readAccessor a) := by
      intro store
      obtain ⟨store', h, hsame⟩ := Session.readAccessor_eq hbackend a store
      rw [h]
      exact Store.outline_of_unprobed hsame
    exact hread.bind fun v => (binds_set sql base hbackend f v).keeps next
  evaluates next := by
    have hread : EvaluatesNothing (session.readAccessor a) := by
      intro store e store' h
      have he := session.reads_readAccessor a store e store' h
      cases e <;> first | rfl | cases he
    exact hread.bind fun v => (binds_set sql base hbackend f v).evaluates next
  has := by
    intro next store m store' hstore h
    obtain ⟨v, store₁, h₁, h₂⟩ := bind_eq_ok h
    obtain ⟨store₂, hread, hsame⟩ := Session.readAccessor_eq hbackend a store
    obtain ⟨hv, rfl⟩ := Prod.mk.inj (hread.symm.trans h₁)
    rw [Store.valueOf, ← Store.reading_of_outline hstore, hv]
    exact (binds_set sql base hbackend f v).has next store₂ m store'
      ((Store.outline_of_unprobed hsame).trans hstore) h₂
  fills := by
    intro ws store p before old behind hws hstore hp hopen hparameters hlength
    obtain ⟨store₁, hread, hsame⟩ := Session.readAccessor_eq hbackend a store
    obtain ⟨w, hw, rfl⟩ := Option.map_eq_some_iff.1 hws
    obtain ⟨v, hv, hw⟩ := Option.bind_eq_some_iff.1 hw
    have hvalue : store.reading a = .ok v := by
      rw [Store.reading_of_outline hstore]
      exact toOption_eq_some_iff.1 hv
    have hstatements := congrArg (fun store : Store Memory => store.backend.statements) hsame
    rw [hvalue] at hread
    obtain ⟨store₂, hset, hp₂⟩ := (binds_set sql base hbackend f v).fills [w] store₁ p before old behind
      (by rw [hw]; rfl) ((Store.outline_of_unprobed hsame).trans hstore) (hstatements.symm ▸ hp) hopen
      hparameters hlength
    exact ⟨store₂, (bind_of_ok hread).trans hset, hp₂⟩

theorem binds_operand (o : Operand) :
    Binds id base (o.handed base.valueOf)
      (fun next => (session.binder sql id).bindOperand next o) := by
  cases o with
  | field f => exact binds_nil
  | value f v => exact binds_set sql base hbackend f v
  | accessor f a => exact binds_read hbackend f a

theorem binds_list (f : Field) (values : List Value) :
    Binds id base (values.mapM (coerced f))
      (fun next => (session.binder sql id).bindList f next values) := by
  induction values with
  | nil => exact binds_nil
  | cons v values ih =>
    rw [mapM_cons_append]
    exact (binds_set sql base hbackend f v).bind ih

/-- Binding a constraint sets its stretch of parameters. -/
theorem binds_constraint (c : Constraint) :
    Binds id base (c.handed base.valueOf)
      (fun next => (session.binder sql id).bindConstraint next c) := by
  induction c with
  | compare op left right => exact (binds_operand hbackend left).bind (binds_operand hbackend right)
  | and left right ihl ihr | or left right ihl ihr => exact ihl.bind ihr
  | inList negated f values => exact binds_list hbackend f values
  | isNull negated f => exact binds_nil
  | contains negated f text => exact binds_hand hbackend rfl

theorem binds_condition (condition : Option Constraint) :
    Binds id base (conditionHanded base.valueOf condition)
      ((session.binder sql id).bindCondition condition) := by
  cases condition with
  | none => exact binds_nil
  | some c => exact binds_constraint hbackend c

theorem binds_values (values : Assignments) :
    Binds id base (values.handed base.valueOf)
      (fun next => (session.binder sql id).bindValues next values) := by
  induction values with
  | nil => exact binds_nil
  | cons value values ih =>
    rcases value with ⟨f, a⟩
    have hread : Binds id base _ (fun next => session.readAccessor a >>=
      (session.binder sql id).set next f) := binds_read hbackend f a
    have hboth := hread.bind ih
    simp only [bind_assoc] at hboth
    rw [Assignments.handed, mapM_cons_append]
    exact hboth

variable (sql base) in
theorem binds_request (values : Assignments) (condition : Option Constraint) :
    Binds id base (requestHanded base.valueOf values condition) (fun next =>
      (session.binder sql id).bindValues next values >>=
        (session.binder sql id).bindCondition condition) :=
  (binds_values hbackend values).bind (binds_condition hbackend condition)

/-! ## Requests -/

variable (values : Assignments) (condition : Option Constraint) (compiled : Nat)

variable (sql id) in
/-- Binding leaves no more than traces. -/
theorem keeps_bind : Keeps Store.outline ((session.binder sql id).bind values condition compiled) := by
  intro store
  rw [bind_eq]
  exact ((binds_request sql store hbackend values condition).keeps 1).bind (fun _ _ => rfl) store

/-- Binding does not evaluate anything. -/
theorem evaluatesNothing_bind :
    EvaluatesNothing ((session.binder sql id).bind values condition compiled) := by
  intro store
  rw [bind_eq]
  refine ((binds_request sql store hbackend values condition).evaluates 1).bind (fun next => ?_) store
  intro store' e store'' h
  have he : counted compiled next = .error e := congrArg Prod.fst h
  rw [counted] at he
  split at he <;> cases he
  rfl

variable {values condition compiled} {store : Store Memory}

/-- A request that comes through has its values. -/
theorem isSome_of_bind {n : Nat} {store' : Store Memory}
    (h : (session.binder sql id).bind values condition compiled store = (.ok n, store')) :
    (requestHanded store.valueOf values condition).isSome := by
  rw [bind_eq] at h
  obtain ⟨m, store₁, h, -⟩ := bind_eq_ok h
  exact (binds_request sql store hbackend values condition).has 1 store m store₁ rfl h

variable (sql values) in
/-- A request with all its values sets all parameters of its statement. -/
theorem bind_eq_ok {p : Prepared} {vs : List Value}
    (hp : store.backend.statements[id.number]? = some p) (hopen : p.closed = false)
    (hlength : p.parameters.length = values.length + conditionCount condition)
    (hvalues : requestHanded store.valueOf values condition = some vs) :
    ∃ n store', (session.binder sql id).bind values condition
        (values.length + conditionCount condition) store = (.ok n, store') ∧
      store'.outline = store.outline ∧
      store'.backend.statements[id.number]? = some { p with parameters := vs.map some } := by
  have hcount := length_requestHanded hvalues
  obtain ⟨store', hfill, hp'⟩ := (binds_request sql store hbackend values condition).fills vs store
    p [] p.parameters [] hvalues rfl hp hopen (by simp) (hlength.trans hcount.symm)
  rw [List.append_nil] at hp'
  simp only [List.length_nil, Nat.zero_add] at hfill
  have hbind : (session.binder sql id).bind values condition
      (values.length + conditionCount condition) store = _ :=
    bind_of_count hfill fun m hm => by rw [← Except.ok.inj hm, hcount]
  have hkeeps : Keeps Store.outline ((session.binder sql id).bind values condition
    (values.length + conditionCount condition)) := keeps_bind sql id hbackend values condition _
  have hkeeps := hkeeps store
  rw [hbind] at hkeeps
  exact ⟨_, store', hbind, hkeeps, hp'⟩

end Session

end Binder

end EntityQuery
