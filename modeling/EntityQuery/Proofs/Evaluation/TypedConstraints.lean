import EntityQuery.Proofs.Evaluation.Meaning
import EntityQuery.Proofs.Execution.Ordering
import EntityQuery.Storage.ColumnType

/-!
# Constraints of matching types

A constraint may compare anything with anything, and then fail when it is evaluated. The constructors with
native values, and comparisons of fields of one kind, leave only one way to fail: a NaN does not compare,
not even with a double.

* `Constraint.Typed` are the constraints over one entity that are built in this way.
* `Constraint.meetsNaN` says that some comparison in the constraint has a NaN on one side, and nothing
  absent on the other.
* `Constraint.Typed.meaning_isSome`: a typed constraint that meets no NaN has a meaning, so its expression
  has a value.
* `Constraint.Typed.fails_image`: one that meets a NaN fails, with an error about doubles.
-/

namespace EntityQuery

open Sql

/-! ## Typed constraints -/

/-- The constraint is over one entity, and compares only what has the same kind. -/
inductive Constraint.Typed (e : Entity) : Constraint → Prop
  /-- a field compared to a value of its kind -/
  | compareNative (op : Comparison) (f : Field) (v : f.kind.Native) (hf : f.entity = e) :
      Typed e (.compareNative op f v)
  /-- fields of one kind compared -/
  | compareFields (op : Comparison) (f g : Field) (hf : f.entity = e) (hg : g.entity = e)
      (hkind : f.kind = g.kind) : Typed e (.compareFields op f g)
  /-- a field among values of its kind -/
  | inNative (negated : Bool) (f : Field) (values : List f.kind.Native) (hf : f.entity = e) :
      Typed e (.inNative negated f values)
  /-- a null test -/
  | isNull (negated : Bool) (f : Field) (hf : f.entity = e) : Typed e (.isNull negated f)
  /-- a substring test of a text -/
  | contains (negated : Bool) (f : Field) (text : String) (hf : f.entity = e)
      (hkind : f.kind = .string) : Typed e (.contains negated f text)
  /-- conjunction -/
  | and {left right : Constraint} (hl : Typed e left) (hr : Typed e right) : Typed e (.and left right)
  /-- disjunction -/
  | or {left right : Constraint} (hl : Typed e left) (hr : Typed e right) : Typed e (.or left right)

/-- Both values are there, and one of them is a NaN. -/
def Value.meetsNaN (a b : Value) : Bool := !a.isNull && !b.isNull && (a.isNaN || b.isNaN)

/-- The value meets a NaN before it is found among the others. -/
def Value.searchMeetsNaN (v : Value) : List Value → Bool
  | [] => false
  | w :: ws => v.meetsNaN w || (v.compare? w != some .eq && v.searchMeetsNaN ws)

/-- Some comparison with the cells of fields has a NaN on one side. -/
def Constraint.meetsNaN (cell : Field → Value) : Constraint → Bool
  | .compare _ (.field f) (.field g) => (cell f).meetsNaN (cell g)
  | .compare _ (.field f) (.value _ v) => (cell f).meetsNaN v
  | .compare _ _ _ => false
  | .and left right => left.meetsNaN cell || right.meetsNaN cell
  | .or left right => left.meetsNaN cell || right.meetsNaN cell
  | .inList _ f values => !(cell f).isNull && (cell f).searchMeetsNaN values
  | .isNull _ _ => false
  | .contains _ _ _ => false

/-! ## Native values -/

/-- A native value goes into its field as it is. -/
theorem coerced_native {f : Field} (v : f.kind.Native) : coerced f v.value = some v.value := by
  unfold coerced coerce
  generalize f.kind = kind at v
  cases kind <;> rfl

theorem mapM_coerced_native {f : Field} (values : List f.kind.Native) :
    (values.map Kind.Native.value).mapM (coerced f) = some (values.map Kind.Native.value) := by
  induction values with
  | nil => rfl
  | cons v values ih =>
    rw [List.map_cons, List.mapM_cons, coerced_native, ih]
    rfl

/-- A native value is in the stored form of its kind. -/
theorem holds_native {k : Kind} (v : k.Native) : (ColumnType.ofKind k).holds v.value = true := by
  cases k <;> rfl

/-! ## Comparing values of one type -/

section Compare

variable {type : ColumnType} {a b : Value} (ha : type.holds a = true) (hb : type.holds b = true)
include ha hb

/-- Values of one type compare unless one of them is a NaN. -/
theorem compare?_isSome_of_holds (hnull : a.isNull = false) (hnull' : b.isNull = false)
    (hnan : a.meetsNaN b = false) : ∃ o, a.compare? b = some o := by
  rw [← Option.isSome_iff_exists, Option.isSome_iff_ne_none]
  rw [Value.meetsNaN, hnull, hnull'] at hnan
  cases type <;> cases a <;> cases b <;>
    simp_all [ColumnType.holds, Value.compare?, Value.integral?, Value.numeric?, Value.isNaN,
      Value.isNull, Double.compare?_eq_none_iff]

/-- Values of one type that meet a NaN are doubles, and do not compare. -/
theorem compareValues_nan (op : Comparison) (hnan : a.meetsNaN b = true) :
    compareValues op a b = .error (.incomparable "double" "double") := by
  rw [Value.meetsNaN] at hnan
  cases type <;> cases a <;> cases b <;>
    simp_all [ColumnType.holds, Value.isNaN, Value.isNull, compareValues, Value.compare?,
      Value.integral?, Value.numeric?, Value.typeName]
  rw [Double.compare?_eq_none_iff.2 hnan]

/-- A comparison of values of one type that meet no NaN has a truth. -/
theorem truth_of_holds (op : Comparison) (hnan : a.meetsNaN b = false) :
    ∃ t, op.truth a b = some t := by
  rw [Comparison.truth]
  split
  · exact ⟨_, rfl⟩
  · next hnull =>
    rw [Bool.or_eq_true, not_or, Bool.not_eq_true, Bool.not_eq_true] at hnull
    obtain ⟨o, ho⟩ := compare?_isSome_of_holds ha hb hnull.1 hnull.2 hnan
    exact ⟨_, congrArg _ ho⟩

end Compare

/-- A value is searched for among values of its type without meeting a NaN. -/
theorem isOneOf_of_holds {type : ColumnType} {v : Value} {ws : List Value}
    (hv : type.holds v = true) (hws : ∀ w ∈ ws, type.holds w = true ∧ w.isNull = false)
    (hnull : v.isNull = false) (hnan : v.searchMeetsNaN ws = false) :
    ∃ found, isOneOf v ws = some found := by
  induction ws with
  | nil => exact ⟨false, rfl⟩
  | cons w ws ih =>
    obtain ⟨hw, hpresent⟩ := hws w List.mem_cons_self
    rw [Value.searchMeetsNaN, Bool.or_eq_false_iff] at hnan
    obtain ⟨o, ho⟩ := compare?_isSome_of_holds hv hw hnull hpresent hnan.1
    rw [isOneOf, ho]
    rw [ho] at hnan
    cases o with
    | eq => exact ⟨true, rfl⟩
    | lt | gt => exact ih (fun x hx => hws x (List.mem_cons_of_mem _ hx)) hnan.2

/-! ## Meaning -/

section Typed

variable {e : Entity} {c : Constraint} {cell : Field → Value}

/-- The values that a typed constraint hands over are there. -/
theorem Constraint.Typed.arguments_isSome (hc : c.Typed e) (fed : Array Value) :
    ∃ vs, c.arguments fed = some vs := by
  induction hc with
  | compareNative op f v hf =>
    refine ⟨[v.value], ?_⟩
    rw [Constraint.compareNative, compareValue, arguments, Operand.arguments, Operand.arguments, coerced_native]
    rfl
  | compareFields op f g hf hg hkind => exact ⟨[], rfl⟩
  | inNative negated f values hf => exact ⟨_, mapM_coerced_native values⟩
  | isNull negated f hf => exact ⟨[], rfl⟩
  | contains negated f text hf hkind => exact ⟨_, rfl⟩
  | and hl hr ihl ihr | or hl hr ihl ihr =>
    obtain ⟨ls, hls⟩ := ihl
    obtain ⟨rs, hrs⟩ := ihr
    refine ⟨ls ++ rs, ?_⟩
    rw [arguments, hls, hrs]
    rfl

/-- A typed constraint is over its entity. -/
theorem Constraint.Typed.entity_eq (hc : c.Typed e) : ∀ f ∈ c.referencedFields, f.entity = e := by
  induction hc with
  | compareFields op f g hf hg hkind =>
    intro h hh
    rcases List.mem_cons.1 hh with rfl | hh
    · exact hf
    · exact List.mem_singleton.1 hh ▸ hg
  | compareNative op f v hf | inNative negated f values hf | isNull negated f hf
    | contains negated f text hf hkind => exact fun g hg => List.mem_singleton.1 hg ▸ hf
  | and hl hr ihl ihr | or hl hr ihl ihr => exact List.forall_mem_append.2 ⟨ihl, ihr⟩

/-- Among cells in stored form, a typed constraint that meets no NaN has a meaning. -/
theorem Constraint.Typed.meaning_isSome (hc : c.Typed e)
    (hcells : ∀ f ∈ c.referencedFields, (ColumnType.ofKind f.kind).holds (cell f) = true)
    (hnan : c.meetsNaN cell = false) (fed : Array Value) : ∃ t, c.meaning cell fed = some t := by
  induction hc with
  | compareNative op f v hf =>
    have hcell := hcells f (List.mem_singleton_self f)
    obtain ⟨t, ht⟩ := truth_of_holds hcell (holds_native v) op hnan
    refine ⟨t, ?_⟩
    rw [Constraint.compareNative, compareValue, meaning, Operand.meaning, Operand.meaning, coerced_native]
    exact ht
  | compareFields op f g hf hg hkind =>
    have hf' := hcells f List.mem_cons_self
    have hg' := hcells g (List.mem_cons_of_mem _ List.mem_cons_self)
    exact truth_of_holds hf' (hkind ▸ hg') op hnan
  | inNative negated f values hf =>
    have hcell := hcells f (List.mem_singleton_self f)
    rw [Constraint.inNative, meaning, mapM_coerced_native]
    change ∃ t, membership negated (cell f) (values.map Kind.Native.value) = some t
    rw [membership]
    split
    · exact ⟨_, rfl⟩
    · split
      · exact ⟨_, rfl⟩
      · next hnull =>
        have hnull := eq_false_of_ne_true hnull
        rw [Constraint.inNative, meetsNaN, hnull] at hnan
        have hvalues : ∀ w ∈ values.map Kind.Native.value,
            (ColumnType.ofKind f.kind).holds w = true ∧ w.isNull = false := by
          intro w hw
          obtain ⟨v, -, rfl⟩ := List.mem_map.1 hw
          exact ⟨holds_native v, Kind.isNull_native v⟩
        obtain ⟨found, hfound⟩ := isOneOf_of_holds hcell hvalues hnull hnan
        exact ⟨_, congrArg _ hfound⟩
  | isNull negated f hf => exact ⟨_, rfl⟩
  | contains negated f text hf hkind =>
    have hcell := hcells f (List.mem_singleton_self f)
    rw [meaning]
    generalize cell f = v at hcell
    rw [hkind] at hcell
    cases v with
    | null | string s => exact ⟨_, rfl⟩
    | _ => cases hcell
  | and hl hr ihl ihr | or hl hr ihl ihr =>
    obtain ⟨hcl, hcr⟩ := List.forall_mem_append.1 hcells
    obtain ⟨hnl, hnr⟩ := Bool.or_eq_false_iff.1 hnan
    obtain ⟨t, ht⟩ := ihl hcl hnl
    obtain ⟨u, hu⟩ := ihr hcr hnr
    rw [meaning, ht, hu]
    exact ⟨_, rfl⟩

end Typed

/-! ## Failing -/

namespace Frame

variable {f : Frame} {naming : Naming} {cell : Field → Value} {fed : Array Value}
  {pre vs post : List Value}

/-- An expression that depends on the number of its first parameter fails, wherever these values are its
parameters. -/
def Fails (f : Frame) (vs : List Value) (e : Nat → Expr) (cause : EvalError) : Prop :=
  ∀ pre post, f.parameters = pre ++ (vs ++ post) → f.evaluate (e (pre.length + 1)) = .error cause

/-- A search that meets a NaN fails. -/
theorem isAmong_nan {type : ColumnType} {v : Value} (hv : type.holds v = true)
    (hws : ∀ w ∈ vs, type.holds w = true ∧ w.isNull = false) (hnull : v.isNull = false)
    (hparameters : f.parameters = pre ++ (vs ++ post)) (hnan : v.searchMeetsNaN vs = true) :
    f.isAmong v (.boolean false) ((List.range' (pre.length + 1) vs.length).map .parameter) =
      .error (.incomparable "double" "double") := by
  induction vs generalizing pre with
  | nil => cases hnan
  | cons w ws ih =>
    obtain ⟨hw, hpresent⟩ := hws w List.mem_cons_self
    have hitem : f.evaluate (.parameter (pre.length + 1)) = .ok w :=
      hasValue_parameter f w pre (ws ++ post) hparameters
    rw [List.length_cons, List.range'_succ, List.map_cons]
    cases hfirst : v.meetsNaN w with
    | true =>
      rw [isAmong, hitem]
      simp only [bind, Except.bind, compareValues_nan hv hw _ hfirst]
    | false =>
      obtain ⟨o, ho⟩ := compare?_isSome_of_holds hv hw hnull hpresent hfirst
      rw [Value.searchMeetsNaN, hfirst, ho, Bool.false_or, Bool.and_eq_true] at hnan
      have hother : Comparison.equal.accepts o = false := by
        cases o with
        | eq => cases hnan.1
        | lt | gt => rfl
      have hequal : compareValues .equal v w = .ok (.boolean false) := by
        rw [compareValues, hnull, hpresent, ho]
        exact congrArg (fun b => Except.ok (Value.boolean b)) hother
      have hparameters' : f.parameters = (pre ++ [w]) ++ (ws ++ post) := by
        rw [hparameters]
        simp
      have hrest := ih (fun x hx => hws x (List.mem_cons_of_mem _ hx)) hparameters' hnan.2
      rw [List.length_append, List.length_singleton] at hrest
      rw [isAmong_cons hitem hequal]
      exact hrest

/-- Where one of two expressions fails behind values, so does what is done with both. -/
theorem Fails.either {ls rs : List Value} {l r : Nat → Expr} {cause : EvalError}
    (h : f.Fails ls l cause ∨ (∃ a, f.HasValue ls l a) ∧ f.Fails rs r cause)
    (hparameters : f.parameters = pre ++ ((ls ++ rs) ++ post))
    (op : Value → Value → Except EvalError Value) :
    (do op (← f.evaluate (l (pre.length + 1))) (← f.evaluate (r (pre.length + 1 + ls.length)))) =
      .error cause := by
  rw [List.append_assoc] at hparameters
  rcases h with hl | ⟨⟨a, ha⟩, hr⟩
  · rw [hl pre _ hparameters]
    rfl
  · have hleft := ha pre _ hparameters
    rw [← List.append_assoc] at hparameters
    have hright := hr _ post hparameters
    rw [List.length_append, Nat.add_right_comm] at hright
    rw [hleft, hright]
    rfl

end Frame

/-- Among cells in stored form, the expression of a typed constraint that meets a NaN fails. -/
theorem Constraint.Typed.fails_image {e : Entity} {c : Constraint} (hc : c.Typed e) {f : Frame}
    {naming : Naming} {cell : Field → Value} {fed : Array Value} {vs : List Value}
    (hcells : ∀ g ∈ c.referencedFields, f.evaluate (naming.image g) = .ok (cell g) ∧
      (ColumnType.ofKind g.kind).holds (cell g) = true)
    (harguments : c.arguments fed = some vs) (hnan : c.meetsNaN cell = true) :
    f.Fails vs (fun next => c.image naming next) (.incomparable "double" "double") := by
  induction hc generalizing vs with
  | compareNative op g v hg =>
    obtain ⟨hcell, hholds⟩ := hcells g (List.mem_singleton_self g)
    intro pre post hparameters
    rw [Constraint.compareNative, compareValue, arguments, Operand.arguments, Operand.arguments,
      coerced_native] at harguments
    cases harguments
    have hvalue : f.evaluate (.parameter (pre.length + 1)) = .ok v.value :=
      Frame.hasValue_parameter f v.value pre post hparameters
    change f.evaluate (.compare op (naming.image g) (.parameter (pre.length + 1))) = _
    rw [Frame.evaluate, hcell, hvalue]
    exact compareValues_nan hholds (holds_native v) op hnan
  | compareFields op g h hg hh hkind =>
    obtain ⟨hcell, hholds⟩ := hcells g List.mem_cons_self
    obtain ⟨hcell', hholds'⟩ := hcells h (List.mem_cons_of_mem _ List.mem_cons_self)
    intro pre post hparameters
    change f.evaluate (.compare op (naming.image g) (naming.image h)) = _
    rw [Frame.evaluate, hcell, hcell']
    exact compareValues_nan hholds (hkind ▸ hholds') op hnan
  | inNative negated g values hg =>
    obtain ⟨hcell, hholds⟩ := hcells g (List.mem_singleton_self g)
    obtain rfl := Option.some.inj ((mapM_coerced_native values).symm.trans harguments)
    intro pre post hparameters
    rw [Constraint.inNative, meetsNaN, Bool.and_eq_true, Bool.not_eq_true'] at hnan
    have hvalues : ∀ w ∈ values.map Kind.Native.value,
        (ColumnType.ofKind g.kind).holds w = true ∧ w.isNull = false := by
      intro w hw
      obtain ⟨v, -, rfl⟩ := List.mem_map.1 hw
      exact ⟨holds_native v, Kind.isNull_native v⟩
    have hamong := Frame.isAmong_nan hholds hvalues hnan.1 hparameters hnan.2
    cases values with
    | nil => cases hnan.2
    | cons v values =>
      change f.evaluate (.inList negated (naming.image g) ((List.range' (pre.length + 1)
        ((v :: values).map Kind.Native.value).length).map .parameter)) = _
      rw [Frame.evaluate, hcell]
      simp only [bind, Except.bind, hnan.1, Bool.false_eq_true, if_false, hamong]
  | isNull negated g hg => cases hnan
  | contains negated g text hg hkind => cases hnan
  | @and left right hl hr ihl ihr | @or left right hl hr ihl ihr =>
    obtain ⟨ls, rs, hls, hrs, rfl⟩ := arguments_append harguments
    obtain ⟨hcl, hcr⟩ := List.forall_mem_append.1 hcells
    -- both sides are always computed, so the right one counts as soon as the left one has a value
    have hpart : f.Fails ls (fun next => left.image naming next) (.incomparable "double" "double") ∨
        (∃ a, f.HasValue ls (fun next => left.image naming next) a) ∧
          f.Fails rs (fun next => right.image naming next) (.incomparable "double" "double") := by
      rw [meetsNaN] at hnan
      cases hleft : left.meetsNaN cell with
      | true => exact .inl (ihl hcl hls hleft)
      | false =>
        obtain ⟨t, ht⟩ := hl.meaning_isSome (fun g hg => (hcl g hg).2) hleft fed
        rw [hleft, Bool.false_or] at hnan
        exact .inr ⟨⟨_, Frame.hasValue_image (fun g hg => (hcl g hg).1) hls ht⟩, ihr hcr hrs hnan⟩
    intro pre post hparameters
    have hboth := Frame.Fails.either hpart hparameters
    rw [length_arguments hls] at hboth
    exact hboth _

end EntityQuery
