import EntityQuery.Evaluation.Expr
import EntityQuery.Proofs.Evaluation.Substring
import EntityQuery.Proofs.Request.Image

/-!
# What constraints mean

A constraint speaks about the cells of its fields. `Constraint.meaning` says directly whether it is
true of them, without the detour over text, parameters and expressions:

* a comparison is unknown if a side is absent, and compares the values otherwise;
* conjunction and disjunction are those of three-valued logic;
* an absent value is unknown to be among others, but nothing is among none;
* a substring test finds the text, and is unknown of an absent value.

There is no meaning where values do not compare or a text is looked for in something else.
`Frame.hasValue_image` shows that the expression that a constraint is written as has its meaning as
value, if its parameters are `Constraint.arguments`.
-/

namespace EntityQuery

open Sql

/-! ## Truth values -/

/-- The truth values. -/
inductive Truth where
  | yes | no | unknown
  deriving DecidableEq

namespace Truth

/-- The truth value that is known. -/
def ofBool : Bool → Truth
  | true => .yes
  | false => .no

/-- Conjunction. -/
def and : Truth → Truth → Truth
  | .no, _ | _, .no => .no
  | .yes, .yes => .yes
  | _, _ => .unknown

/-- Disjunction. -/
def or : Truth → Truth → Truth
  | .yes, _ | _, .yes => .yes
  | .no, .no => .no
  | _, _ => .unknown

/-- A truth value as a value. -/
def value : Truth → Value
  | .yes => .boolean true
  | .no => .boolean false
  | .unknown => .null

@[simp] theorem value_ofBool (b : Bool) : (ofBool b).value = .boolean b := by
  cases b <;> rfl

theorem andValues_value (t u : Truth) : andValues t.value u.value = .ok (t.and u).value := by
  cases t <;> cases u <;> rfl

theorem orValues_value (t u : Truth) : orValues t.value u.value = .ok (t.or u).value := by
  cases t <;> cases u <;> rfl

end Truth

/-! ## Comparison and membership -/

/-- The truth of a comparison; none where the values do not compare. -/
def Comparison.truth (op : Comparison) (a b : Value) : Option Truth :=
  if a.isNull || b.isNull then some .unknown
  else (a.compare? b).map fun o => .ofBool (op.accepts o)

/-- Whether a value is one of the others, as far as the first that it is. -/
def isOneOf (v : Value) : List Value → Option Bool
  | [] => some false
  | w :: ws =>
    match v.compare? w with
    | none => none
    | some .eq => some true
    | some _ => isOneOf v ws

/-- The truth of membership, or of its negation. -/
def membership (negated : Bool) (v : Value) (ws : List Value) : Option Truth :=
  if ws.isEmpty then some (.ofBool negated)
  else if v.isNull then some .unknown
  else (isOneOf v ws).map fun found => .ofBool (found != negated)

/-- The truth of a substring test, or of its negation. -/
def containment (negated : Bool) (text : String) : Value → Option Truth
  | .null => some .unknown
  | .string s => some (.ofBool (decide (text.toList <:+: s.toList) != negated))
  | _ => none

theorem compareValues_eq_ok {op : Comparison} {a b : Value} {t : Truth} (h : op.truth a b = some t) :
    compareValues op a b = .ok t.value := by
  rw [Comparison.truth] at h
  rw [compareValues]
  split at h
  · next hnull =>
    cases h
    rw [if_pos hnull]
    rfl
  · next hnull =>
    obtain ⟨o, ho, rfl⟩ := Option.map_eq_some_iff.1 h
    rw [if_neg hnull, ho, Truth.value_ofBool]

theorem likeValues_eq_ok {negated : Bool} {text : String} {v : Value} {t : Truth}
    (h : containment negated text v = some t) :
    likeValues negated (some likeEscape) v (.string (substringPattern text)) = .ok t.value := by
  cases v with
  | null =>
    cases h
    rfl
  | string s =>
    cases h
    rw [likeValues, likeEscape, isLike_substringPattern, Truth.value_ofBool]
  | _ => cases h

/-! ## Values that are handed over -/

/-- The value as a field takes it, if it takes it. -/
def coerced (f : Field) (v : Value) : Option Value :=
  (coerce f v).toOption.bind (·.value.toOption)

/-- The value of a literal or of a fed cell. -/
def Accessor.given (fed : Array Value) : Accessor → Option Value
  | .literal v => some v
  | .fed cell => some (fed[cell.number]?.getD .null)
  | .column _ => none

/-- The values that an operand hands over. -/
def Operand.arguments (fed : Array Value) : Operand → Option (List Value)
  | .field _ => some []
  | .value f v => (coerced f v).map ([·])
  | .accessor f a => ((a.given fed).bind (coerced f)).map ([·])

/-- The values that a constraint hands over, from left to right; none if one of them does not go
into its field. -/
def Constraint.arguments (fed : Array Value) : Constraint → Option (List Value)
  | .compare _ left right => do return (← left.arguments fed) ++ (← right.arguments fed)
  | .and left right => do return (← left.arguments fed) ++ (← right.arguments fed)
  | .or left right => do return (← left.arguments fed) ++ (← right.arguments fed)
  | .inList _ f values => values.mapM (coerced f)
  | .isNull _ _ => some []
  | .contains _ _ text => some [.string (substringPattern text)]

/-! ## Meaning -/

/-- The value of an operand. -/
def Operand.meaning (cell : Field → Value) (fed : Array Value) : Operand → Option Value
  | .field f => some (cell f)
  | .value f v => coerced f v
  | .accessor f a => (a.given fed).bind (coerced f)

/-- The truth of a constraint of the cells of fields. -/
def Constraint.meaning (cell : Field → Value) (fed : Array Value) : Constraint → Option Truth
  | .compare op left right => do op.truth (← left.meaning cell fed) (← right.meaning cell fed)
  | .and left right => do return (← left.meaning cell fed).and (← right.meaning cell fed)
  | .or left right => do return (← left.meaning cell fed).or (← right.meaning cell fed)
  | .inList negated f values => do membership negated (cell f) (← values.mapM (coerced f))
  | .isNull negated f => some (.ofBool ((cell f).isNull != negated))
  | .contains negated f text => containment negated text (cell f)

/-- What a field takes is never absent. -/
theorem coerced_ne_null {f : Field} {v w : Value} (h : coerced f v = some w) : w.isNull = false := by
  obtain ⟨setting, hsetting, hvalue⟩ := Option.bind_eq_some_iff.1 h
  cases setting with
  | stream length data =>
    rw [Setting.value] at hvalue
    split at hvalue <;> cases hvalue
    rfl
  | _ =>
    cases hvalue
    rfl

theorem Operand.length_arguments {fed : Array Value} {o : Operand} {vs : List Value}
    (h : o.arguments fed = some vs) : vs.length = o.isParameter.toNat := by
  cases o with
  | field f =>
    cases h
    rfl
  | value f v | accessor f a =>
    obtain ⟨w, -, rfl⟩ := Option.map_eq_some_iff.1 h
    rfl

/-- As many values are computed as there are items. -/
theorem length_of_mapM_some {α β : Type} {f : α → Option β} {xs : List α} {ys : List β}
    (h : xs.mapM f = some ys) : ys.length = xs.length := by
  induction xs generalizing ys with
  | nil =>
    cases h
    rfl
  | cons x xs ih =>
    rw [List.mapM_cons] at h
    obtain ⟨y, -, h⟩ := Option.bind_eq_some_iff.1 h
    obtain ⟨rest, hrest, h⟩ := Option.bind_eq_some_iff.1 h
    cases h
    rw [List.length_cons, ih hrest, List.length_cons]

/-- The values of two parts in a row. -/
theorem arguments_append {x y : Option (List Value)} {vs : List Value}
    (h : (do return (← x) ++ (← y)) = some vs) :
    ∃ ls rs, x = some ls ∧ y = some rs ∧ vs = ls ++ rs := by
  obtain ⟨ls, hl, h⟩ := Option.bind_eq_some_iff.1 h
  obtain ⟨rs, hr, h⟩ := Option.bind_eq_some_iff.1 h
  cases h
  exact ⟨ls, rs, hl, hr, rfl⟩

/-- A constraint hands over as many values as it has placeholders. -/
theorem Constraint.length_arguments {fed : Array Value} {c : Constraint} {vs : List Value}
    (h : c.arguments fed = some vs) : vs.length = c.parameterCount := by
  induction c generalizing vs with
  | compare op left right =>
    obtain ⟨ls, rs, hl, hr, rfl⟩ := arguments_append h
    rw [List.length_append, Operand.length_arguments hl, Operand.length_arguments hr,
      parameterCount]
  | and left right ihl ihr | or left right ihl ihr =>
    obtain ⟨ls, rs, hl, hr, rfl⟩ := arguments_append h
    rw [List.length_append, ihl hl, ihr hr, parameterCount]
  | inList negated f values => exact length_of_mapM_some h
  | isNull negated f | contains negated f text =>
    cases h
    rfl

/-! ## The value of the expression -/

namespace Frame

variable {f : Frame} {naming : Naming} {cell : Field → Value} {fed : Array Value}
  {pre vs post : List Value}

/-- An expression that depends on the number of its first parameter has a value, wherever these values
are its parameters. -/
def HasValue (f : Frame) (vs : List Value) (e : Nat → Expr) (v : Value) : Prop :=
  ∀ pre post, f.parameters = pre ++ (vs ++ post) → f.evaluate (e (pre.length + 1)) = .ok v

/-- Two expressions whose parameters stand next to each other. -/
theorem HasValue.both {ls rs : List Value} {l r : Nat → Expr} {a b : Value}
    (hl : f.HasValue ls l a) (hr : f.HasValue rs r b)
    (hparameters : f.parameters = pre ++ ((ls ++ rs) ++ post)) :
    f.evaluate (l (pre.length + 1)) = .ok a ∧
      f.evaluate (r (pre.length + 1 + ls.length)) = .ok b := by
  rw [List.append_assoc] at hparameters
  have hleft := hl pre _ hparameters
  rw [← List.append_assoc] at hparameters
  have hright := hr _ post hparameters
  rw [List.length_append, Nat.add_right_comm] at hright
  exact ⟨hleft, hright⟩

theorem hasValue_parameter (f : Frame) (v : Value) : f.HasValue [v] .parameter v := by
  intro pre post hparameters
  have hv : f.parameters[pre.length]? = some v := by
    rw [hparameters]
    simp
  rw [evaluate, parameter, hv]

theorem hasValue_operand {o : Operand} {v : Value}
    (hcells : ∀ g ∈ o.columns, f.evaluate (naming.image g) = .ok (cell g))
    (harguments : o.arguments fed = some vs) (hmeaning : o.meaning cell fed = some v) :
    f.HasValue vs (o.image naming) v := by
  cases o with
  | field g =>
    cases hmeaning
    exact fun _ _ _ => hcells g (List.mem_singleton_self g)
  | value g w =>
    rw [Operand.arguments, show coerced g w = some v from hmeaning] at harguments
    cases harguments
    exact hasValue_parameter f v
  | accessor g a =>
    rw [Operand.arguments, show (a.given fed).bind (coerced g) = some v from hmeaning] at harguments
    cases harguments
    exact hasValue_parameter f v

/-- An item that is found ends the search. -/
theorem isAmong_cons {v w : Value} {b : Bool} {item : Expr} {items : List Expr}
    (hitem : f.evaluate item = .ok w) (hequal : compareValues .equal v w = .ok (.boolean b)) :
    f.isAmong v (.boolean false) (item :: items) =
      if b then .ok (.boolean true) else f.isAmong v (.boolean false) items := by
  have hfound : orValues (.boolean false) (.boolean b) = .ok (.boolean b) := by
    cases b <;> rfl
  rw [isAmong, hitem]
  simp only [bind, Except.bind, hequal, hfound]
  cases b <;> rfl

/-- Membership among parameters is membership among their values. -/
theorem isAmong_parameters {v : Value} (hv : v.isNull = false) {found : Bool}
    (hvs : ∀ w ∈ vs, w.isNull = false) (hparameters : f.parameters = pre ++ (vs ++ post))
    (hfound : isOneOf v vs = some found) :
    f.isAmong v (.boolean false) ((List.range' (pre.length + 1) vs.length).map .parameter) =
      .ok (.boolean found) := by
  induction vs generalizing pre with
  | nil =>
    cases hfound
    rw [List.length_nil, List.range'_zero, List.map_nil, isAmong]
  | cons w ws ih =>
    have hw := hvs w List.mem_cons_self
    have hitem : f.evaluate (.parameter (pre.length + 1)) = .ok w :=
      hasValue_parameter f w pre (ws ++ post) hparameters
    have hparameters' : f.parameters = (pre ++ [w]) ++ (ws ++ post) := by
      rw [hparameters]
      simp
    have hrest := fun h => ih (fun x hx => hvs x (List.mem_cons_of_mem _ hx)) hparameters' h
    rw [List.length_append, List.length_singleton] at hrest
    have hequal (o : Ordering) (ho : v.compare? w = some o) :
        compareValues .equal v w = .ok (.boolean (o == .eq)) := by
      rw [compareValues, hv, hw, ho]
      rfl
    rw [List.length_cons, List.range'_succ, List.map_cons]
    rw [isOneOf] at hfound
    split at hfound
    · cases hfound
    · next ho =>
      cases hfound
      rw [isAmong_cons hitem (hequal _ ho)]
      rfl
    · next o hne ho =>
      have hother : (o == .eq) = false := by
        cases o with
        | eq => exact absurd rfl hne
        | lt | gt => rfl
      rw [isAmong_cons hitem (hequal o ho), hother]
      exact hrest hfound

/-- The values of a list are those that its field takes. -/
theorem coerced_of_mapM {g : Field} {values : List Value} (h : values.mapM (coerced g) = some vs) :
    ∀ w ∈ vs, w.isNull = false := by
  induction values generalizing vs with
  | nil =>
    cases h
    exact fun w hw => absurd hw List.not_mem_nil
  | cons v values ih =>
    rw [List.mapM_cons] at h
    obtain ⟨w, hw, h⟩ := Option.bind_eq_some_iff.1 h
    obtain ⟨rest, hrest, h⟩ := Option.bind_eq_some_iff.1 h
    cases h
    intro x hx
    rcases List.mem_cons.1 hx with rfl | hx
    · exact coerced_ne_null hw
    · exact ih hrest x hx

/-- Membership of a cell among the values of a list. -/
theorem hasValue_inList {g : Field} {negated : Bool} {values : List Value} {t : Truth}
    (hcell : f.evaluate (naming.image g) = .ok (cell g))
    (harguments : values.mapM (coerced g) = some vs)
    (hmeaning : membership negated (cell g) vs = some t) :
    f.HasValue vs (fun next => (Constraint.inList negated g values).image naming next) t.value := by
  intro pre post hparameters
  dsimp only
  have hlength := length_of_mapM_some harguments
  rw [membership] at hmeaning
  cases values with
  | nil =>
    -- Nothing is in an empty list, and what is written is a comparison of two constants.
    cases harguments
    cases hmeaning
    rw [Constraint.image, evaluate, constant, constant, evaluate, evaluate]
    cases negated <;> rfl
  | cons v values =>
    have hne : vs.isEmpty = false := by
      cases vs with
      | nil => cases hlength
      | cons _ _ => rfl
    rw [hne] at hmeaning
    simp only [Bool.false_eq_true, if_false] at hmeaning
    rw [Constraint.image, evaluate, hcell]
    split at hmeaning
    · next hnull =>
      cases hmeaning
      simp only [bind, Except.bind, hnull, if_true]
      rfl
    · next hnull =>
      obtain ⟨found, hfound, rfl⟩ := Option.map_eq_some_iff.1 hmeaning
      have hamong := isAmong_parameters (eq_false_of_ne_true hnull) (coerced_of_mapM harguments)
        hparameters hfound
      rw [hlength] at hamong
      simp only [bind, Except.bind, hnull, hamong]
      rw [Truth.value_ofBool]
      rfl

/-- The expression of a constraint has its meaning as value. -/
theorem hasValue_image {c : Constraint} {t : Truth}
    (hcells : ∀ g ∈ c.referencedFields, f.evaluate (naming.image g) = .ok (cell g))
    (harguments : c.arguments fed = some vs) (hmeaning : c.meaning cell fed = some t) :
    f.HasValue vs (fun next => c.image naming next) t.value := by
  -- The right part of a constraint finds its values behind those of the left part, so the induction is
  -- over all stretches of the parameters.
  induction c generalizing vs t with
  | compare op left right =>
    obtain ⟨ls, rs, hl, hr, rfl⟩ := arguments_append harguments
    obtain ⟨a, ha, hmeaning⟩ := Option.bind_eq_some_iff.1 hmeaning
    obtain ⟨b, hb, hmeaning⟩ := Option.bind_eq_some_iff.1 hmeaning
    obtain ⟨hcl, hcr⟩ := List.forall_mem_append.1 hcells
    intro pre post hparameters
    dsimp only
    obtain ⟨hleft, hright⟩ :=
      (hasValue_operand hcl hl ha).both (hasValue_operand hcr hr hb) hparameters
    rw [Operand.length_arguments hl] at hright
    rw [Constraint.image, evaluate, hleft, hright]
    exact compareValues_eq_ok hmeaning
  | and left right ihl ihr =>
    obtain ⟨ls, rs, hl, hr, rfl⟩ := arguments_append harguments
    obtain ⟨a, ha, hmeaning⟩ := Option.bind_eq_some_iff.1 hmeaning
    obtain ⟨b, hb, hmeaning⟩ := Option.bind_eq_some_iff.1 hmeaning
    obtain ⟨hcl, hcr⟩ := List.forall_mem_append.1 hcells
    cases hmeaning
    intro pre post hparameters
    dsimp only
    obtain ⟨hleft, hright⟩ := (ihl hcl hl ha).both (ihr hcr hr hb) hparameters
    rw [Constraint.length_arguments hl] at hright
    rw [Constraint.image, evaluate, hleft, hright]
    exact Truth.andValues_value a b
  | or left right ihl ihr =>
    obtain ⟨ls, rs, hl, hr, rfl⟩ := arguments_append harguments
    obtain ⟨a, ha, hmeaning⟩ := Option.bind_eq_some_iff.1 hmeaning
    obtain ⟨b, hb, hmeaning⟩ := Option.bind_eq_some_iff.1 hmeaning
    obtain ⟨hcl, hcr⟩ := List.forall_mem_append.1 hcells
    cases hmeaning
    intro pre post hparameters
    dsimp only
    obtain ⟨hleft, hright⟩ := (ihl hcl hl ha).both (ihr hcr hr hb) hparameters
    rw [Constraint.length_arguments hl] at hright
    rw [Constraint.image, evaluate, hleft, hright]
    exact Truth.orValues_value a b
  | inList negated g values =>
    obtain ⟨ws, hws, hmeaning⟩ := Option.bind_eq_some_iff.1 hmeaning
    obtain rfl := Option.some.inj (hws.symm.trans harguments)
    exact hasValue_inList (hcells g (List.mem_singleton_self g)) harguments hmeaning
  | isNull negated g =>
    cases hmeaning
    intro pre post hparameters
    dsimp only
    rw [Constraint.image, evaluate, hcells g (List.mem_singleton_self g), Truth.value_ofBool]
    rfl
  | contains negated g text =>
    cases harguments
    intro pre post hparameters
    dsimp only
    have hpattern : f.evaluate (.parameter (pre.length + 1)) =
        .ok (.string (substringPattern text)) := hasValue_parameter f _ pre post hparameters
    rw [Constraint.image, evaluate, hcells g (List.mem_singleton_self g), hpattern]
    exact likeValues_eq_ok hmeaning

/-- A row satisfies the expression of a constraint exactly if the constraint is true. -/
theorem satisfies_image {c : Constraint} {t : Truth}
    (hcells : ∀ g ∈ c.referencedFields, f.evaluate (naming.image g) = .ok (cell g))
    (harguments : c.arguments fed = some f.parameters) (hmeaning : c.meaning cell fed = some t) :
    f.satisfies (c.image naming 1) = .ok (t == .yes) := by
  have hparameters : f.parameters = [] ++ (f.parameters ++ []) := by simp
  have hvalue : f.evaluate (c.image naming 1) = .ok t.value :=
    hasValue_image hcells harguments hmeaning [] [] hparameters
  rw [satisfies, hvalue]
  cases t <;> rfl

/-- Where a condition has an answer, the answer is whether it is true. -/
theorem isTrue_of_satisfiesAll {condition : Option Sql.Expr} {answer : Bool}
    (h : f.satisfiesAll condition = .ok answer) :
    (condition.all fun e => (f.evaluate e).toOption == some (.boolean true)) = answer := by
  cases condition with
  | none => exact Except.ok.inj h
  | some e =>
    obtain ⟨v, hv, h⟩ := ok_of_bind h
    rw [Option.all_some, hv]
    cases v with
    | null => cases h; rfl
    | boolean b => cases h; cases answer <;> rfl
    | _ => cases h

end Frame

end EntityQuery
