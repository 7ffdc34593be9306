import EntityQuery.Proofs.Request.Compiling
import EntityQuery.Proofs.Session.Reading
import EntityQuery.Session.Query

/-!
# Binding follows writing

Writing a request numbers its placeholders, binding it hands values over under numbers. The two walk
through the request on their own; here they are shown to meet at every leaf.

* `Binder.Walk` says what binding a list of leaves does: which calls reach the sink, with which
  result, and in which state all ends. A leaf fails if it cannot be read, if its value does not go
  into its field, or if the sink refuses it; the walk ends there.
* `Binder.logged` is a binder whose sink also keeps a list of the calls it gets.
* `bindConstraint_hands` and `bind_hands`: binding is the walk through the leaves, and the calls of
  the walk are those that the sink gets.
-/

namespace EntityQuery

variable {τ σ : Type}

/-- The calls that a sink gets: numbers with settings. -/
abbrev CallLog := List (Nat × Setting)

/-- Every substring test is on a field of texts. -/
def Constraint.TestsTexts : Constraint → Prop
  | .and left right => left.TestsTexts ∧ right.TestsTexts
  | .or left right => left.TestsTexts ∧ right.TestsTexts
  | .contains _ f _ => f.kind = .string
  | _ => True

namespace Binder

/-- The value of a leaf. -/
def readLeaf (b : Binder τ) (leaf : Leaf) : ExceptT QueryError (StateM τ) Value :=
  match leaf.source with
  | .fixed v => pure v
  | .accessor a => b.read a

/-- Binding leaves one after the other, the first under the number `next`: the calls on the way, the
result, and the state in the end. -/
inductive Walk (b : Binder τ) :
    Nat → List Leaf → τ → CallLog → Except QueryError Nat → τ → Prop where
  /-- no leaf is left -/
  | done {next : Nat} {s : τ} : Walk b next [] s [] (.ok next) s
  /-- the leaf cannot be read -/
  | unread {next : Nat} {leaf : Leaf} {rest : List Leaf} {s s' : τ} {e : QueryError}
      (hread : b.readLeaf leaf s = (.error e, s')) :
      Walk b next (leaf :: rest) s [] (.error e) s'
  /-- the value is absent, of another kind, or out of range -/
  | unfit {next : Nat} {leaf : Leaf} {rest : List Leaf} {s s' : τ} {v : Value} {e : QueryError}
      (hread : b.readLeaf leaf s = (.ok v, s')) (hcoerce : coerce leaf.field v = .error e) :
      Walk b next (leaf :: rest) s [] (.error e) s'
  /-- the sink refuses the value -/
  | refused {next : Nat} {leaf : Leaf} {rest : List Leaf} {s s₁ s' : τ} {v : Value}
      {setting : Setting} {e : BackendError}
      (hread : b.readLeaf leaf s = (.ok v, s₁)) (hcoerce : coerce leaf.field v = .ok setting)
      (hput : b.put next (b.blobMode.apply setting) s₁ = (.error e, s')) :
      Walk b next (leaf :: rest) s [(next, b.blobMode.apply setting)] (.error (.execution b.sql e))
        s'
  /-- the sink takes the value, and the next leaf follows -/
  | bound {next : Nat} {leaf : Leaf} {rest : List Leaf} {s s₁ s₂ s' : τ} {v : Value}
      {setting : Setting} {calls : CallLog} {r : Except QueryError Nat}
      (hread : b.readLeaf leaf s = (.ok v, s₁)) (hcoerce : coerce leaf.field v = .ok setting)
      (hput : b.put next (b.blobMode.apply setting) s₁ = (.ok (), s₂))
      (hrest : Walk b (next + 1) rest s₂ calls r s') :
      Walk b next (leaf :: rest) s ((next, b.blobMode.apply setting) :: calls) r s'

/-- Why a walk ends at a leaf with an error: the leaf cannot be read, its value does not go into its
field, or the sink refuses it under the number `index`. -/
inductive LeafFault (b : Binder τ) (index : Nat) (leaf : Leaf) (e : QueryError) : Nat → Prop where
  /-- the leaf cannot be read, and the sink is not called for it -/
  | unread {s s' : τ} (hread : b.readLeaf leaf s = (.error e, s')) : LeafFault b index leaf e 0
  /-- the value does not go into the field, and the sink is not called for it -/
  | unfit {s s' : τ} {v : Value} (hread : b.readLeaf leaf s = (.ok v, s'))
      (hcoerce : coerce leaf.field v = .error e) : LeafFault b index leaf e 0
  /-- the sink is called for the leaf and refuses its value -/
  | refused {s s' : τ} {v : Value} {setting : Setting} {cause : BackendError}
      (hcoerce : coerce leaf.field v = .ok setting)
      (hput : b.put index (b.blobMode.apply setting) s = (.error cause, s'))
      (he : e = .execution b.sql cause) : LeafFault b index leaf e 1

namespace Walk

variable {b : Binder τ} {next m : Nat} {as bs leaves : List Leaf} {s s₁ s' : τ}
  {calls calls' : CallLog} {r : Except QueryError Nat} {e : QueryError}

/-- A walk that comes through goes on with the leaves behind. -/
theorem append (h : Walk b next as s calls (.ok m) s₁) (h' : Walk b m bs s₁ calls' r s') :
    Walk b next (as ++ bs) s (calls ++ calls') r s' := by
  generalize hr : Except.ok m = r₁ at h
  induction h with
  | done =>
    cases hr
    exact h'
  | unread hread => cases hr
  | unfit hread hcoerce => cases hr
  | refused hread hcoerce hput => cases hr
  | bound hread hcoerce hput hrest ih => exact bound hread hcoerce hput (ih h' hr)

/-- A walk that fails does not see the leaves behind. -/
theorem append_of_error (h : Walk b next as s calls (.error e) s') :
    Walk b next (as ++ bs) s calls (.error e) s' := by
  generalize hr : Except.error e = r₁ at h
  induction h with
  | done => cases hr
  | unread hread =>
    cases hr
    exact unread hread
  | unfit hread hcoerce =>
    cases hr
    exact unfit hread hcoerce
  | refused hread hcoerce hput =>
    cases hr
    exact refused hread hcoerce hput
  | bound hread hcoerce hput hrest ih => exact bound hread hcoerce hput (ih hr)

/-- The calls carry the numbers from `next` on, in order. -/
theorem index_calls (h : Walk b next leaves s calls r s') :
    calls.map Prod.fst = List.range' next calls.length := by
  induction h with
  | done => rfl
  | unread hread => rfl
  | unfit hread hcoerce => rfl
  | refused hread hcoerce hput => rfl
  | bound hread hcoerce hput hrest ih =>
    rw [List.map_cons, ih, List.length_cons, List.range'_succ]

/-- A walk that comes through has called the sink once for each leaf. -/
theorem of_ok (h : Walk b next leaves s calls (.ok m) s') :
    m = next + leaves.length ∧ calls.length = leaves.length := by
  generalize hr : Except.ok m = r at h
  induction h with
  | done =>
    cases hr
    exact ⟨rfl, rfl⟩
  | unread hread => cases hr
  | unfit hread hcoerce => cases hr
  | refused hread hcoerce hput => cases hr
  | bound hread hcoerce hput hrest ih =>
    obtain ⟨hm, hlen⟩ := ih hr
    simp only [List.length_cons]
    omega

/-- The call at a position hands over the value of the leaf at that position. -/
theorem leaf_of_call (h : Walk b next leaves s calls r s') {k : Nat} {call : Nat × Setting}
    (hk : calls[k]? = some call) :
    ∃ leaf v setting, leaves[k]? = some leaf ∧ (∃ t t', b.readLeaf leaf t = (.ok v, t')) ∧
      coerce leaf.field v = .ok setting ∧ call = (next + k, b.blobMode.apply setting) := by
  induction h generalizing k with
  | done => cases hk
  | unread hread => cases hk
  | unfit hread hcoerce => cases hk
  | refused hread hcoerce hput =>
    cases k with
    | zero => exact ⟨_, _, _, rfl, ⟨_, _, hread⟩, hcoerce, (Option.some.inj hk).symm⟩
    | succ k => cases hk
  | bound hread hcoerce hput hrest ih =>
    cases k with
    | zero => exact ⟨_, _, _, rfl, ⟨_, _, hread⟩, hcoerce, (Option.some.inj hk).symm⟩
    | succ k =>
      obtain ⟨leaf, v, setting, hleaf, hv, hc, rfl⟩ := ih hk
      exact ⟨leaf, v, setting, hleaf, hv, hc, by rw [Nat.add_right_comm, Nat.add_assoc]⟩

/-- A walk that fails, fails at one leaf and with the error of that leaf. The sink has been called
for all leaves before, and for none behind. -/
theorem leaf_of_error (h : Walk b next leaves s calls (.error e) s') :
    ∃ k leaf more, leaves[k]? = some leaf ∧ LeafFault b (next + k) leaf e more ∧
      calls.length = k + more := by
  generalize hr : Except.error e = r at h
  induction h with
  | done => cases hr
  | unread hread =>
    cases hr
    exact ⟨0, _, 0, rfl, .unread hread, rfl⟩
  | unfit hread hcoerce =>
    cases hr
    exact ⟨0, _, 0, rfl, .unfit hread hcoerce, rfl⟩
  | refused hread hcoerce hput =>
    cases hr
    exact ⟨0, _, 1, rfl, .refused hcoerce hput rfl, rfl⟩
  | @bound next leaf rest s s₁ s₂ s' v setting calls r hread hcoerce hput hrest ih =>
    obtain ⟨k, leaf, more, hleaf, hfault, hlen⟩ := ih hr
    refine ⟨k + 1, leaf, more, hleaf, ?_, ?_⟩
    · rw [show next + (k + 1) = next + 1 + k by omega]
      exact hfault
    · rw [List.length_cons, hlen]
      omega

end Walk

/-- What a walk through leaves amounts to, seen from outside: the calls are numbered in a row, each
hands over the value of the leaf at its place, and they stop at the first leaf that fails. -/
structure Follows (b : Binder τ) (next : Nat) (leaves : List Leaf) (s : τ) (calls : CallLog)
    (r : Except QueryError Nat) (s' : τ) : Prop where
  /-- the steps -/
  walk : Walk b next leaves s calls r s'
  /-- the numbers of the calls follow each other -/
  numbers : calls.map Prod.fst = List.range' next calls.length
  /-- a call hands over the coerced value of its leaf -/
  values : ∀ {k : Nat} {call : Nat × Setting}, calls[k]? = some call →
    ∃ leaf v setting, leaves[k]? = some leaf ∧ (∃ t t', b.readLeaf leaf t = (.ok v, t')) ∧
      coerce leaf.field v = .ok setting ∧ call = (next + k, b.blobMode.apply setting)
  /-- where no leaf fails, there is a call for each -/
  all_bound : ∀ {m : Nat}, r = .ok m →
    m = next + leaves.length ∧ calls.length = leaves.length
  /-- the first leaf that fails is the last that is seen, and the error is its own -/
  first_fault : ∀ {e : QueryError}, r = .error e →
    ∃ k leaf more, leaves[k]? = some leaf ∧ LeafFault b (next + k) leaf e more ∧
      calls.length = k + more

theorem Walk.follows {b : Binder τ} {next : Nat} {leaves : List Leaf} {s s' : τ} {calls : CallLog}
    {r : Except QueryError Nat} (h : Walk b next leaves s calls r s') :
    Follows b next leaves s calls r s' where
  walk := h
  numbers := h.index_calls
  values := h.leaf_of_call
  all_bound hr := (hr ▸ h).of_ok
  first_fault hr := (hr ▸ h).leaf_of_error

/-- The binder whose sink also keeps a list of its calls: each call is added first, and answered
then as before. -/
def logged (b : Binder τ) : Binder (CallLog × τ) where
  sql := b.sql
  blobMode := b.blobMode
  read a := fun (log, s) => ((b.read a s).1, log, (b.read a s).2)
  put index setting := fun (log, s) =>
    ((b.put index setting s).1, log ++ [(index, setting)], (b.put index setting s).2)

/-- A step of a binder, and the same step of its logged twin, hand over the leaves one after the
other: from every state both do what the walk says, and the log grows by the calls of the walk. -/
def Hands (b : Binder τ) (leaves : List Leaf) (step : Nat → ExceptT QueryError (StateM τ) Nat)
    (twin : Nat → ExceptT QueryError (StateM (CallLog × τ)) Nat) : Prop :=
  ∀ (next : Nat) (log : CallLog) (s : τ), ∃ calls r s',
    b.Walk next leaves s calls r s' ∧ step next s = (r, s') ∧
      twin next (log, s) = (r, log ++ calls, s')

variable {b : Binder τ}

theorem hands_nil : b.Hands [] (fun next => pure next) (fun next => pure next) := by
  intro next log s
  refine ⟨[], .ok next, s, .done, rfl, ?_⟩
  rw [List.append_nil]
  rfl

/-- Steps in a row hand over their leaves in a row. -/
theorem Hands.bind {as bs : List Leaf} {x y : Nat → ExceptT QueryError (StateM τ) Nat}
    {x' y' : Nat → ExceptT QueryError (StateM (CallLog × τ)) Nat} (hx : b.Hands as x x')
    (hy : b.Hands bs y y') :
    b.Hands (as ++ bs) (fun next => x next >>= y) (fun next => x' next >>= y') := by
  intro next log s
  obtain ⟨calls, r, s₁, hwalk, hrun, hrun'⟩ := hx next log s
  cases r with
  | error e =>
    exact ⟨calls, .error e, s₁, hwalk.append_of_error, bind_of_error hrun, bind_of_error hrun'⟩
  | ok m =>
    obtain ⟨calls', r, s₂, hwalk₂, hrun₂, hrun₂'⟩ := hy m (log ++ calls) s₁
    refine ⟨calls ++ calls', r, s₂, hwalk.append hwalk₂, ?_, ?_⟩
    · exact (bind_of_ok hrun).trans hrun₂
    · exact (bind_of_ok hrun').trans (by rw [hrun₂', List.append_assoc])

/-! ## One leaf -/

section Set

variable {next : Nat} {f : Field} {v : Value} {setting : Setting} {s s' : τ}

theorem set_unfit {e : QueryError} (hcoerce : coerce f v = .error e) :
    b.set next f v s = (.error e, s) := by
  rw [set, hcoerce]
  rfl

theorem set_refused {e : BackendError} (hcoerce : coerce f v = .ok setting)
    (hput : b.put next (b.blobMode.apply setting) s = (.error e, s')) :
    b.set next f v s = (.error (.execution b.sql e), s') := by
  have hhand : b.hand next (b.blobMode.apply setting) s = (.error (.execution b.sql e), s') := by
    rw [hand, adapt_apply, hput]
    rfl
  have hfit : (ExceptT.mk (pure (.ok setting)) : ExceptT QueryError (StateM τ) Setting) s =
      (.ok setting, s) := rfl
  rw [set, hcoerce]
  exact (bind_of_ok hfit).trans (bind_of_error hhand)

theorem set_taken (hcoerce : coerce f v = .ok setting)
    (hput : b.put next (b.blobMode.apply setting) s = (.ok (), s')) :
    b.set next f v s = (.ok (next + 1), s') := by
  have hhand : b.hand next (b.blobMode.apply setting) s = (.ok (), s') := by
    rw [hand, adapt_apply, hput]
    rfl
  have hfit : (ExceptT.mk (pure (.ok setting)) : ExceptT QueryError (StateM τ) Setting) s =
      (.ok setting, s) := rfl
  rw [set, hcoerce]
  exact (bind_of_ok hfit).trans (bind_of_ok hhand)

end Set

theorem readLeaf_logged {leaf : Leaf} {log : CallLog} {s s' : τ} {r : Except QueryError Value}
    (h : b.readLeaf leaf s = (r, s')) : b.logged.readLeaf leaf (log, s) = (r, log, s') := by
  rcases leaf with ⟨f, v | a⟩
  · cases h
    rfl
  · change ((b.read a s).1, log, (b.read a s).2) = _
    rw [show b.read a s = (r, s') from h]

theorem put_logged {index : Nat} {setting : Setting} {log : CallLog} {s s' : τ}
    {r : Except BackendError Unit} (h : b.put index setting s = (r, s')) :
    b.logged.put index setting (log, s) = (r, log ++ [(index, setting)], s') := by
  change ((b.put index setting s).1, _, (b.put index setting s).2) = _
  rw [h]

/-- Reading a leaf and handing its value over. -/
theorem hands_leaf (leaf : Leaf) :
    b.Hands [leaf] (fun next => b.readLeaf leaf >>= b.set next leaf.field)
      (fun next => b.logged.readLeaf leaf >>= b.logged.set next leaf.field) := by
  intro next log s
  -- one case for each way in which a walk meets a leaf
  rcases hread : b.readLeaf leaf s with ⟨e | v, s₁⟩
  · refine ⟨[], .error e, s₁, .unread hread, bind_of_error hread, ?_⟩
    rw [List.append_nil]
    exact bind_of_error (readLeaf_logged hread)
  · rcases hcoerce : coerce leaf.field v with e | setting
    · refine ⟨[], .error e, s₁, .unfit hread hcoerce, ?_, ?_⟩
      · exact (bind_of_ok hread).trans (set_unfit hcoerce)
      · rw [List.append_nil]
        exact (bind_of_ok (readLeaf_logged hread)).trans (set_unfit hcoerce)
    · rcases hput : b.put next (b.blobMode.apply setting) s₁ with ⟨e | u, s₂⟩
      · refine ⟨_, _, s₂, .refused hread hcoerce hput, ?_, ?_⟩
        · exact (bind_of_ok hread).trans (set_refused hcoerce hput)
        · exact (bind_of_ok (readLeaf_logged hread)).trans (set_refused hcoerce (put_logged hput))
      · refine ⟨_, _, s₂, .bound hread hcoerce hput .done, ?_, ?_⟩
        · exact (bind_of_ok hread).trans (set_taken hcoerce hput)
        · exact (bind_of_ok (readLeaf_logged hread)).trans (set_taken hcoerce (put_logged hput))

/-! ## Operands, lists and constraints -/

theorem hands_operand (o : Operand) :
    b.Hands o.leaves (b.bindOperand · o) (b.logged.bindOperand · o) := by
  cases o with
  | field f => exact hands_nil
  | value f v => exact hands_leaf ⟨f, .fixed v⟩
  | accessor f a => exact hands_leaf ⟨f, .accessor a⟩

theorem hands_list (f : Field) (values : List Value) :
    b.Hands (values.map fun v => ⟨f, .fixed v⟩) (b.bindList f · values)
      (b.logged.bindList f · values) := by
  induction values with
  | nil => exact hands_nil
  | cons v values ih => exact (hands_leaf ⟨f, .fixed v⟩).bind ih

theorem hands_values (values : Assignments) :
    b.Hands (assignedLeaves values) (b.bindValues · values) (b.logged.bindValues · values) := by
  induction values with
  | nil => exact hands_nil
  | cons value values ih =>
    have h := (hands_leaf ⟨value.1, .accessor value.2⟩).bind ih
    simp only [bind_assoc] at h
    exact h

theorem coerce_string {f : Field} (h : f.kind = .string) (text : String) :
    coerce f (.string text) = .ok (.string text) := by
  unfold coerce
  rw [h]

/-- A value that does not go into a field is no matter of numbers. -/
theorem coerce_ne_bindCount (f : Field) (v : Value) (compiled bound : Nat) :
    coerce f v ≠ .error (.bindCount compiled bound) := by
  intro h
  unfold coerce at h
  grind

/-- On a field of texts, a substring test binds its pattern as any text is bound. -/
theorem bindConstraint_contains {f : Field} (h : f.kind = .string) (b : Binder τ) (next : Nat)
    (negated : Bool) (text : String) :
    b.bindConstraint next (.contains negated f text) =
      b.set next f (.string (substringPattern text)) := by
  rw [set, coerce_string h]
  cases hb : b.blobMode <;> simp only [BlobMode.apply] <;> rfl

/-- Binding a constraint hands its leaves over from left to right. -/
theorem hands_constraint {c : Constraint} (h : c.TestsTexts) :
    b.Hands c.leaves (b.bindConstraint · c) (b.logged.bindConstraint · c) := by
  induction c with
  | compare op left right => exact (hands_operand left).bind (hands_operand right)
  | and left right ihl ihr => exact (ihl h.1).bind (ihr h.2)
  | or left right ihl ihr => exact (ihl h.1).bind (ihr h.2)
  | inList negated f values => exact hands_list f values
  | isNull negated f => exact hands_nil
  | contains negated f text =>
    simp only [bindConstraint_contains h]
    exact hands_leaf ⟨f, .fixed (.string (substringPattern text))⟩

/-! ## Requests -/

/-- Binds a condition, if there is one; the next number. -/
def bindCondition (b : Binder τ) (condition : Option Constraint) (next : Nat) :
    ExceptT QueryError (StateM τ) Nat :=
  match condition with
  | some c => b.bindConstraint next c
  | none => pure next

theorem hands_condition {condition : Option Constraint} (h : ∀ c ∈ condition, c.TestsTexts) :
    b.Hands (conditionLeaves condition) (b.bindCondition condition)
      (b.logged.bindCondition condition) := by
  cases condition with
  | none => exact hands_nil
  | some c => exact hands_constraint (h c rfl)

/-- The check at the end of a binding: the number of values, if it is the number of placeholders. -/
def counted (compiled next : Nat) : Except QueryError Nat :=
  if next - 1 = compiled then .ok compiled else .error (.bindCount compiled (next - 1))

theorem bind_eq (values : Assignments) (condition : Option Constraint) (compiled : Nat) :
    b.bind values condition compiled =
      (b.bindValues 1 values >>= b.bindCondition condition) >>= fun next =>
        ExceptT.mk (pure (counted compiled next)) := by
  have hcheck (next : Nat) :
      (if next - 1 ≠ compiled then throw (.bindCount compiled (next - 1)) else pure (next - 1) :
        ExceptT QueryError (StateM τ) Nat) = ExceptT.mk (pure (counted compiled next)) := by
    rw [counted]
    by_cases h : next - 1 = compiled
    · rw [if_neg (not_not_intro h), if_pos h, h]
      rfl
    · rw [if_pos h, if_neg h]
      rfl
  simp only [← hcheck, bind_assoc]
  cases condition with
  | none => rfl
  | some c => rfl

theorem bind_of_count {values : Assignments} {condition : Option Constraint} {compiled : Nat}
    {s s' : τ} {r : Except QueryError Nat}
    (h : (b.bindValues 1 values >>= b.bindCondition condition) s = (r, s'))
    (hr : ∀ m, r = .ok m → m = 1 + compiled) :
    b.bind values condition compiled s = (r.map (· - 1), s') := by
  rw [bind_eq]
  cases r with
  | error e => exact bind_of_error h
  | ok m =>
    obtain rfl := hr m rfl
    rw [bind_of_ok h, counted, if_pos (Nat.add_sub_cancel_left 1 compiled)]
    exact congrArg (fun n => (Except.ok n, s')) (Nat.add_sub_cancel_left 1 compiled).symm

end Binder

namespace Binder

/-- Binding a request is the walk through its leaves, and its own check at the end lets every count
pass that is the number of the leaves. -/
theorem bind_hands (b : Binder τ) (values : Assignments) {condition : Option Constraint}
    (h : ∀ c ∈ condition, c.TestsTexts) (log : CallLog) (s : τ) :
    ∃ calls r s', b.Walk 1 (requestLeaves values condition) s calls r s' ∧
      b.bind values condition (requestLeaves values condition).length s = (r.map (· - 1), s') ∧
      b.logged.bind values condition (requestLeaves values condition).length (log, s) =
        (r.map (· - 1), log ++ calls, s') := by
  have hhands : b.Hands (requestLeaves values condition)
      (fun next => b.bindValues next values >>= b.bindCondition condition)
      (fun next => b.logged.bindValues next values >>= b.logged.bindCondition condition) :=
    (hands_values values).bind (hands_condition h)
  obtain ⟨calls, r, s', hwalk, hrun, hrun'⟩ := hhands 1 log s
  have hcount (m : Nat) (hm : r = .ok m) : m = 1 + (requestLeaves values condition).length :=
    (hm ▸ hwalk).of_ok.1
  exact ⟨calls, r, s', hwalk, bind_of_count hrun hcount, bind_of_count hrun' hcount⟩

/-- On a session, a request whose placeholders are its leaves never misses its count. -/
theorem bind_ne_bindCount (session : Session σ) (sql : String) (id : StatementId)
    {values : Assignments} {condition : Option Constraint} (h : ∀ c ∈ condition, c.TestsTexts)
    (store : Store σ) (compiled bound : Nat) :
    ((session.binder sql id).bind values condition (requestLeaves values condition).length
      store).1 ≠ .error (.bindCount compiled bound) := by
  obtain ⟨calls, r, store', hwalk, hrun, -⟩ :=
    bind_hands (session.binder sql id) values h [] store
  rw [hrun]
  intro hr
  -- it would be the error of a leaf, and no leaf fails in this way
  cases r with
  | ok m => cases hr
  | error e =>
    cases hr
    obtain ⟨k, leaf, more, -, hfault, -⟩ := hwalk.leaf_of_error
    cases hfault with
    | @unread s s' hread =>
      rcases leaf with ⟨f, v | a⟩
      · cases hread
      · cases session.reads_readAccessor a _ _ _ hread
    | unfit hread hcoerce => exact coerce_ne_bindCount _ _ _ _ hcoerce
    | refused hcoerce hput he => cases he

end Binder

/-! ## Writing and binding together -/

/-- Binding follows writing.

A constraint that is written from the number `next` on leaves the placeholders of its leaves,
numbered in a row. Binding it from the same number walks through the same leaves in the same order:
call for call the sink gets the coerced value of the leaf that owns the placeholder of that number,
up to the first leaf that fails. So a compiled request has as many placeholders as values are bound
if none fails, and its count is never missed. -/
theorem binding_follows_writing {c : Constraint} (hc : c.TestsTexts) (next : Nat) :
    (∀ (naming : Naming) (p p' : Predicate) (m : Nat),
      Predicate.write naming next c p = (.ok m, p') →
        m = next + c.parameterCount ∧
        p'.placeholders = p.placeholders ++ numbered next c.leaves ∧
        (numbered next c.leaves).map (·.index) = List.range' next c.parameterCount) ∧
    (∀ {τ : Type} (b : Binder τ) (log : CallLog) (s : τ), ∃ calls r s',
      b.Follows next c.leaves s calls r s' ∧
      b.bindConstraint next c s = (r, s') ∧
      b.logged.bindConstraint next c (log, s) = (r, log ++ calls, s')) ∧
    (∀ (naming : Naming) (strict : Bool) (values : Assignments) (condition : Option Constraint)
      (placeholders : List Placeholder), Compiles naming strict values condition placeholders →
      (∀ c ∈ condition, c.TestsTexts) →
        placeholders = numbered 1 (requestLeaves values condition) ∧
        (∀ {τ : Type} (b : Binder τ) (log : CallLog) (s : τ), ∃ calls r s',
          b.Follows 1 (requestLeaves values condition) s calls r s' ∧
          b.bind values condition placeholders.length s = (r.map (· - 1), s') ∧
          b.logged.bind values condition placeholders.length (log, s) =
            (r.map (· - 1), log ++ calls, s')) ∧
        ∀ {σ : Type} (session : Session σ) (sql : String) (id : StatementId) (store : Store σ)
          (compiled bound : Nat),
          ((session.binder sql id).bind values condition placeholders.length store).1 ≠
            .error (.bindCount compiled bound)) := by
  refine ⟨?_, ?_, ?_⟩
  · intro naming p p' m h
    obtain ⟨hm, rfl⟩ := Predicate.write_eq_ok h
    refine ⟨hm, rfl, ?_⟩
    rw [index_numbered, c.length_leaves]
  · intro τ b log s
    obtain ⟨calls, r, s', hwalk, hrun, hrun'⟩ := Binder.hands_constraint (b := b) hc next log s
    exact ⟨calls, r, s', hwalk.follows, hrun, hrun'⟩
  · intro naming strict values condition placeholders hcompiles hcondition
    obtain rfl := hcompiles.placeholders_eq
    rw [length_numbered]
    refine ⟨rfl, ?_, ?_⟩
    · intro τ b log s
      obtain ⟨calls, r, s', hwalk, hrun, hrun'⟩ :=
        Binder.bind_hands b values hcondition log s
      exact ⟨calls, r, s', hwalk.follows, hrun, hrun'⟩
    · intro σ session sql id store compiled bound
      exact Binder.bind_ne_bindCount session sql id hcondition store compiled bound

/-- A literal on the left, an empty list, and a pattern that the sink refuses under the number 4;
the same constraint behind one assignment. -/
theorem binding_follows_writing_refused :
    let c : Constraint :=
      .and (.compare .less (.value .personId (.long 7)) (.field .personId))
        (.or (.inList true .personId []) (.contains false .personName "5%"))
    let b : Binder (List Value) :=
      ⟨"", .native, fun _ => pure .null, fun i setting values =>
        if i = 4 then (.error .shortStream, values) else collectValue i setting values⟩
    c.TestsTexts ∧
      b.Follows 3 c.leaves [] [(3, .integer 7), (4, .string "%5\\%%")]
        (.error (.execution "" .shortStream)) [.null, .null, .integer 7] ∧
      ∃ placeholders, Compiles .plain true [(.personId, .literal (.integer 1))] (some c) placeholders ∧
        placeholders.map (·.index) = [1, 2, 3] := by
  intro c b
  have hc : c.TestsTexts := ⟨trivial, trivial, rfl⟩
  have hupdate : compileUpdate .plain true .person [(.personId, .literal (.integer 1))] (some c) =
      .ok (updateWritten .plain .person [(.personId, .literal (.integer 1))] (some c)) := by rfl
  have hcompiles : Compiles .plain true [(.personId, .literal (.integer 1))] (some c)
      (updateWritten .plain .person [(.personId, .literal (.integer 1))] (some c)).placeholders :=
    .update hupdate
  refine ⟨hc, ?_, _, hcompiles, ?_⟩
  · obtain ⟨calls, r, s', h, -, hrun⟩ := (binding_follows_writing hc 3).2.1 b [] []
    have heval : b.logged.bindConstraint 3 c ([], []) = (.error (.execution "" .shortStream),
        [(3, .integer 7), (4, .string "%5\\%%")], [.null, .null, .integer 7]) := by rfl
    cases heval.symm.trans hrun
    exact h
  · obtain ⟨hplaceholders, -⟩ := (binding_follows_writing hc 3).2.2 _ _ _ _ _ hcompiles
      (fun c' hc' => Option.some.inj hc' ▸ hc)
    rw [hplaceholders]
    rfl

end EntityQuery
