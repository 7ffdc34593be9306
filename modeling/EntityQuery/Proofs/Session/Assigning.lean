import EntityQuery.Proofs.Session.EntityRequests

/-!
# Values that a builder is given

A builder takes values in three ways: a native value of the kind of a field, any value, which is checked
against this kind, and a fed cell, which is read when the request is run. Whichever way, it keeps the
last source of each field (`Assignments.LastOf`), so what goes into the columns is the last value that
each field was given, as the kind of the field stores it (`Kind.widened`):

* `Assignments.LastOf.columned`: the fields without column do not matter;
* `Assignments.lastFor_assigned`: a field is assigned what its last source reads as;
* `MutationBuilder.assignAll_ok`: a builder takes all values that are accepted by the kinds of their
  fields;
* `AssignCall.assigned_of_lastOf`: the cells that are assigned in the end.
-/

namespace EntityQuery

/-! ## The last value of a field -/

section LastFor

variable {α β : Type} {f : Field} {cells : List (Field × α)}

theorem lastFor_append (f : Field) (cells behind : List (Field × α)) :
    lastFor f (cells ++ behind) = (lastFor f behind).or (lastFor f cells) := by
  rw [lastFor, List.reverse_append, List.lookup_append]
  rfl

theorem lastFor_concat (f g : Field) (cells : List (Field × α)) (v : α) :
    lastFor f (cells ++ [(g, v)]) = if f = g then some v else lastFor f cells := by
  have hlast : lastFor f [(g, v)] = if f = g then some v else none := by
    rw [lastFor, List.reverse_singleton, List.lookup_cons]
    by_cases hfg : f = g
    · rw [if_pos hfg, beq_iff_eq.2 hfg]
    · rw [if_neg hfg, beq_eq_false_iff_ne.2 hfg]
      rfl
  rw [lastFor_append, hlast]
  split <;> rfl

theorem mem_of_lastFor {v : α} (h : lastFor f cells = some v) : (f, v) ∈ cells := by
  obtain ⟨before, behind, hsplit, -⟩ := List.lookup_eq_some_iff.1 h
  have hmem : (f, v) ∈ cells.reverse := hsplit ▸ List.mem_append_right _ List.mem_cons_self
  exact List.mem_reverse.1 hmem

/-- A field that has a value has a last one. -/
theorem isSome_lastFor (h : f ∈ cells.map Prod.fst) : (lastFor f cells).isSome := by
  obtain ⟨⟨f, v⟩, hcell, rfl⟩ := List.mem_map.1 h
  refine Option.isSome_iff_ne_none.2 fun hnone => ?_
  have hother := List.lookup_eq_none_iff.1 hnone (f, v) (List.mem_reverse.2 hcell)
  simp at hother

/-- If each field occurs once, its last value is its only one. -/
theorem lastFor_eq_some_iff (hnodup : (cells.map Prod.fst).Nodup) {v : α} :
    lastFor f cells = some v ↔ (f, v) ∈ cells := by
  refine ⟨mem_of_lastFor, fun hmem => ?_⟩
  obtain ⟨before, behind, rfl⟩ := List.append_of_mem hmem
  rw [List.map_append, List.map_cons] at hnodup
  obtain ⟨-, hbehind, -⟩ := List.nodup_append.1 hnodup
  obtain ⟨hfresh, -⟩ := List.nodup_cons.1 hbehind
  refine List.lookup_eq_some_iff.2 ⟨behind.reverse, before.reverse, by simp, fun p hp => ?_⟩
  have hfield := List.mem_map_of_mem (f := Prod.fst) (List.mem_reverse.1 hp)
  rw [bne_iff_ne]
  rintro rfl
  exact hfresh hfield

/-- A function of the values is a function of the last one. -/
theorem lastFor_map (f : Field) (g : Field → α → β) (cells : List (Field × α)) :
    lastFor f (cells.map fun cell => (cell.1, g cell.1 cell.2)) = (lastFor f cells).map (g f) := by
  rw [lastFor, lastFor, ← List.map_reverse]
  induction cells.reverse with
  | nil => rfl
  | cons cell cells ih =>
    rcases cell with ⟨f', v⟩
    rw [List.map_cons, List.lookup_cons, List.lookup_cons]
    by_cases hf : f = f'
    · subst hf
      simp
    · rw [beq_eq_false_iff_ne.2 hf]
      exact ih

/-- The last value of a field is not that of another. -/
theorem lastFor_filter {p : Field → Bool} (hf : p f = true) (cells : List (Field × α)) :
    lastFor f (cells.filter fun cell => p cell.1) = lastFor f cells := by
  rw [lastFor, lastFor, ← List.filter_reverse]
  induction cells.reverse with
  | nil => rfl
  | cons cell cells ih =>
    rcases cell with ⟨g, v⟩
    rw [List.filter_cons, List.lookup_cons]
    by_cases hg : f = g
    · subst hg
      rw [if_pos hf, List.lookup_cons, beq_self_eq_true]
    · rw [beq_eq_false_iff_ne.2 hg]
      split
      · rw [List.lookup_cons, beq_eq_false_iff_ne.2 hg]
        exact ih
      · exact ih

/-- A field without a value has no last one. -/
theorem lastFor_eq_none {cells : List (Field × α)} (h : f ∉ cells.map Prod.fst) :
    lastFor f cells = none := by
  cases hlast : lastFor f cells with
  | none => rfl
  | some v => exact absurd (List.mem_map_of_mem (f := Prod.fst) (mem_of_lastFor hlast)) h

end LastFor

/-! ## The last source of a field -/

section Override

variable {f : Field} {values : Assignments}

/-- A field that is assigned gets another source in its place. -/
theorem overrideValue_of_mem (hf : f ∈ values.map Prod.fst) (source : Accessor) :
    ∃ values', overrideValue f source values = some values' ∧
      values'.map Prod.fst = values.map Prod.fst ∧
      ((values.map Prod.fst).Nodup → ∀ p, p ∈ values' ↔ p = (f, source) ∨ p.1 ≠ f ∧ p ∈ values) := by
  induction values with
  | nil => cases hf
  | cons assignment values ih =>
    rcases assignment with ⟨g, old⟩
    rw [overrideValue]
    by_cases hg : g = f
    · subst hg
      refine ⟨(g, source) :: values, if_pos rfl, rfl, fun hnodup p => ?_⟩
      obtain ⟨hfresh, -⟩ := List.nodup_cons.1 hnodup
      rw [List.mem_cons, List.mem_cons]
      refine or_congr_right ⟨fun hp => ⟨?_, .inr hp⟩, fun ⟨hne, hp⟩ => hp.resolve_left ?_⟩
      · have hfield := List.mem_map_of_mem (f := Prod.fst) hp
        rintro rfl
        exact hfresh hfield
      · rintro rfl
        exact hne rfl
    · have hrest : f ∈ values.map Prod.fst :=
        (List.mem_cons.1 hf).resolve_left fun h => hg h.symm
      obtain ⟨values', hvalues', hfields, hmem⟩ := ih hrest
      refine ⟨(g, old) :: values', ?_, congrArg (g :: ·) hfields, fun hnodup p => ?_⟩
      · rw [if_neg hg, hvalues']
        rfl
      · rw [List.mem_cons, List.mem_cons, hmem (List.nodup_cons.1 hnodup).2]
        constructor
        · rintro (rfl | rfl | ⟨hne, hp⟩)
          · exact .inr ⟨hg, .inl rfl⟩
          · exact .inl rfl
          · exact .inr ⟨hne, .inr hp⟩
        · rintro (rfl | ⟨hne, rfl | hp⟩)
          · exact .inr (.inl rfl)
          · exact .inl rfl
          · exact .inr (.inr ⟨hne, hp⟩)

theorem overrideValue_of_not_mem (hf : f ∉ values.map Prod.fst) (source : Accessor) :
    overrideValue f source values = none := by
  induction values with
  | nil => rfl
  | cons assignment values ih =>
    rcases assignment with ⟨g, old⟩
    rw [List.map_cons, List.mem_cons, not_or] at hf
    rw [overrideValue, if_neg fun hg => hf.1 hg.symm, ih hf.2]
    rfl

/-- A row overrides values, but not the fields that are assigned. -/
theorem overrideValues_fields {row : List (Field × Value)} {values' : Assignments}
    (h : overrideValues values row = .ok values') : values'.map Prod.fst = values.map Prod.fst := by
  induction row generalizing values with
  | nil =>
    cases h
    rfl
  | cons cell row ih =>
    rw [overrideValues] at h
    split at h
    · next hany =>
      obtain ⟨source, -, h⟩ := ok_of_bind h
      obtain ⟨assignment, hmem, hfield⟩ := List.any_eq_true.1 hany
      obtain ⟨values₁, hvalues₁, hfields, -⟩ :=
        overrideValue_of_mem (List.mem_map.2 ⟨assignment, hmem, beq_iff_eq.1 hfield⟩) source
      rw [hvalues₁] at h
      exact (ih h).trans hfields
    · cases h

theorem length_of_overrideValues {row : List (Field × Value)} {values' : Assignments}
    (h : overrideValues values row = .ok values') : values'.length = values.length := by
  simpa only [List.length_map] using congrArg List.length (overrideValues_fields h)

end Override

theorem lastFor_columned {naming : Naming} {f : Field} (hmapped : (naming.columnName f).isSome)
    (values : Assignments) : lastFor f (naming.columned values) = lastFor f values :=
  lastFor_filter (p := fun f => (naming.columnName f).isSome) hmapped values

/-- The assignments hold the last of some sources for each field, and each field once. -/
structure Assignments.LastOf (values : Assignments) (sources : List (Field × Accessor)) : Prop where
  /-- no field is assigned twice -/
  nodup : (values.map Prod.fst).Nodup
  /-- a field is assigned its last source -/
  mem_iff : ∀ p, p ∈ values ↔ lastFor p.1 sources = some p.2

namespace Assignments.LastOf

variable {sources : List (Field × Accessor)}

theorem nil : Assignments.LastOf [] [] := ⟨List.nodup_nil, fun _ => ⟨nofun, nofun⟩⟩

/-- Setting a source makes it the last one. -/
theorem setSource {b : MutationBuilder} (h : Assignments.LastOf b.values sources) (f : Field)
    (source : Accessor) :
    Assignments.LastOf (b.setSource f source).values (sources ++ [(f, source)]) := by
  have hstep {values : Assignments} (hnodup : (values.map Prod.fst).Nodup)
      (hmem : ∀ p, p ∈ values ↔ p = (f, source) ∨ p.1 ≠ f ∧ p ∈ b.values) :
      values.LastOf (sources ++ [(f, source)]) := by
    refine ⟨hnodup, fun ⟨g, old⟩ => ?_⟩
    rw [hmem, lastFor_concat, h.mem_iff]
    by_cases hg : g = f
    · subst hg
      simp [eq_comm]
    · simp [hg]
  rw [MutationBuilder.setSource]
  by_cases hf : f ∈ b.values.map Prod.fst
  · obtain ⟨values', hvalues', hfields, hmem⟩ := overrideValue_of_mem hf source
    rw [hvalues']
    exact hstep (hfields ▸ h.nodup) (hmem h.nodup)
  · rw [overrideValue_of_not_mem hf]
    refine hstep ?_ fun p => ?_
    · change ((b.values ++ [(f, source)]).map Prod.fst).Nodup
      rw [List.map_append, List.nodup_append]
      refine ⟨h.nodup, List.pairwise_singleton _ _, fun g hg g' hg' hsame => hf ?_⟩
      obtain rfl := List.mem_singleton.1 hg'
      exact hsame ▸ hg
    · change p ∈ b.values ++ [(f, source)] ↔ _
      rw [List.mem_append, List.mem_singleton, or_comm]
      refine or_congr_right ⟨fun hp => ⟨?_, hp⟩, And.right⟩
      have hfield := List.mem_map_of_mem (f := Prod.fst) hp
      rintro rfl
      exact hf hfield

variable {values : Assignments} (h : values.LastOf sources)
include h

theorem lastFor_eq (f : Field) : lastFor f values = lastFor f sources := by
  refine Option.ext fun a => ?_
  rw [lastFor_eq_some_iff h.nodup]
  exact h.mem_iff (f, a)

theorem mem_fields_iff {f : Field} : f ∈ values.map Prod.fst ↔ f ∈ sources.map Prod.fst := by
  constructor
  · intro hf
    obtain ⟨p, hp, rfl⟩ := List.mem_map.1 hf
    exact List.mem_map_of_mem (f := Prod.fst) (mem_of_lastFor ((h.mem_iff p).1 hp))
  · intro hf
    obtain ⟨a, ha⟩ := Option.isSome_iff_exists.1 (isSome_lastFor hf)
    exact List.mem_map_of_mem (f := Prod.fst) ((h.mem_iff (f, a)).2 ha)

/-- Leaving out the fields without column leaves the last sources of the others. -/
theorem columned (naming : Naming) :
    Assignments.LastOf (naming.columned values) (naming.columned sources) where
  nodup := h.nodup.sublist (List.filter_sublist.map _)
  mem_iff := by
    intro ⟨f, a⟩
    rw [Naming.columned, List.mem_filter, h.mem_iff]
    by_cases hmapped : (naming.columnName f).isSome
    · rw [lastFor_columned hmapped]
      exact and_iff_left hmapped
    · refine iff_of_false (fun h => hmapped h.2) fun hlast => hmapped ?_
      exact (List.mem_filter.1 (mem_of_lastFor hlast)).2

end Assignments.LastOf

/-! ## Calls of a builder -/

/-- A call that gives a value to a field. -/
inductive AssignCall where
  /-- gives a value of the kind of the field -/
  | native (f : Field) (v : f.kind.Native)
  /-- gives a value that must be of the kind of the field -/
  | value (f : Field) (v : Value)
  /-- gives what a cell holds when the request is run -/
  | fed (f : Field) (cell : CellId)

namespace AssignCall

/-- The field that gets the value. -/
def field : AssignCall → Field
  | .native f _ => f
  | .value f _ => f
  | .fed f _ => f

/-- Where the value comes from. -/
def source : AssignCall → Accessor
  | .native _ v => .literal v.value
  | .value _ v => .literal v
  | .fed _ cell => .fed cell

/-- The value that is given. -/
def given (store : Store Memory) : AssignCall → Value
  | .native _ v => v.value
  | .value _ v => v
  | .fed _ cell => store.cell cell

/-- Calls the builder. -/
def perform (b : MutationBuilder) : AssignCall → Except QueryError MutationBuilder
  | .native f v => .ok (b.setNative f v)
  | .value f v => b.setValue f v
  | .fed f cell => .ok (b.setSource f (.fed cell))

/-- The value is there, and the kind of the field accepts it. -/
def Accepted (store : Store Memory) (call : AssignCall) : Prop :=
  (call.given store).isNull = false ∧ call.field.kind.accepts (call.given store) = true

instance (store : Store Memory) (call : AssignCall) : Decidable (call.Accepted store) :=
  inferInstanceAs (Decidable (_ ∧ _))

end AssignCall

/-- Calls the builder again and again. -/
def MutationBuilder.assignAll (b : MutationBuilder) (calls : List AssignCall) :
    Except QueryError MutationBuilder := calls.foldlM AssignCall.perform b

section Calls

variable {store : Store Memory}

theorem AssignCall.perform_ok {call : AssignCall} (h : call.Accepted store) (b : MutationBuilder) :
    call.perform b = .ok (b.setSource call.field call.source) := by
  cases call with
  | native f v | fed f cell => rfl
  | value f v =>
    obtain ⟨hnull, haccepts⟩ : v.isNull = false ∧ f.kind.accepts v = true := h
    have hchecked : checkedLiteral f v = .ok (.literal v) := by
      rw [checkedLiteral, if_neg (Bool.eq_false_iff.1 hnull), if_pos haccepts]
    rw [perform, MutationBuilder.setValue, hchecked]
    rfl

/-- A builder takes all values that are accepted, and keeps the last source of each field. -/
theorem MutationBuilder.assignAll_ok {b : MutationBuilder} {sources : List (Field × Accessor)}
    (hb : Assignments.LastOf b.values sources) {calls : List AssignCall}
    (hcalls : ∀ call ∈ calls, call.Accepted store) :
    ∃ values, b.assignAll calls = .ok ⟨b.entity, b.kind, values⟩ ∧
      Assignments.LastOf values (sources ++ calls.map fun call => (call.field, call.source)) := by
  induction calls generalizing b sources with
  | nil => exact ⟨b.values, rfl, by simpa using hb⟩
  | cons call calls ih =>
    have hcall := AssignCall.perform_ok (hcalls call List.mem_cons_self) b
    obtain ⟨values, hvalues, hlast⟩ := ih (hb.setSource call.field call.source)
      fun call' hcall' => hcalls call' (List.mem_cons_of_mem _ hcall')
    rw [List.append_assoc] at hlast
    refine ⟨values, ?_, hlast⟩
    rw [assignAll, List.foldlM_cons, hcall]
    exact hvalues

/-! ## Assigned cells -/

/-- The stored form of a value that a kind accepts: an integer in a long field is a long, and
everything else stays as it is. -/
def Kind.widened : Kind → Value → Value
  | .long, .integer i => .long i.toInt64
  | _, v => v

theorem coerced_of_accepts {f : Field} {v : Value} (hnull : v.isNull = false)
    (haccepts : f.kind.accepts v = true) : coerced f v = some (f.kind.widened v) := by
  unfold coerced coerce
  generalize f.kind = kind at haccepts ⊢
  cases kind <;> cases v <;> first | rfl | contradiction

/-- Values that can all be handed over are assigned. -/
theorem Assignments.assigned_of_forall (value : Accessor → Option Value) (values : Assignments)
    {g : Field → Accessor → Value}
    (h : ∀ p ∈ values, (value p.2).bind (coerced p.1) = some (g p.1 p.2)) :
    values.assigned value = some (values.map fun p => (p.1, g p.1 p.2)) := by
  induction values with
  | nil => rfl
  | cons p values ih =>
    have hrest := ih fun q hq => h q (List.mem_cons_of_mem _ hq)
    rw [assigned_cons, h p List.mem_cons_self, hrest]
    rfl

/-- A field is assigned what its last source reads as. -/
theorem Assignments.lastFor_assigned {value : Accessor → Option Value} {values : Assignments}
    {cells : List (Field × Value)} (h : values.assigned value = some cells) (f : Field) :
    lastFor f cells = (lastFor f values).bind fun a => (value a).bind (coerced f) := by
  have hall := isSome_assigned_iff.1 (Option.isSome_of_mem h)
  have hgiven : ∀ p ∈ values, (value p.2).bind (coerced p.1) =
      some (((value p.2).bind (coerced p.1)).getD .null) := by
    intro p hp
    obtain ⟨v, hv⟩ := Option.isSome_iff_exists.1 (hall p hp)
    rw [hv]
    rfl
  have hassigned := assigned_of_forall value values
    (g := fun f a => ((value a).bind (coerced f)).getD .null) hgiven
  obtain rfl := Option.some.inj (h.symm.trans hassigned)
  rw [lastFor_map f (fun f a => ((value a).bind (coerced f)).getD .null) values]
  cases hsource : lastFor f values with
  | none => rfl
  | some a => exact (hgiven (f, a) (mem_of_lastFor hsource)).symm

theorem AssignCall.valueOf_source (call : AssignCall) :
    store.valueOf call.source = some (call.given store) := by
  cases call <;> rfl

/-- The cells that are assigned are the last values that were given, as their fields store them. -/
theorem AssignCall.assigned_of_lastOf (naming : Naming) {values : Assignments}
    {calls : List AssignCall} (hcalls : ∀ call ∈ calls, call.Accepted store)
    (hlast : Assignments.LastOf values (calls.map fun call => (call.field, call.source))) :
    ∃ cells, Assignments.assigned store.valueOf (naming.columned values) = some cells ∧
      ∀ f, (naming.columnName f).isSome → lastFor f cells =
        (lastFor f (calls.map fun call => (call.field, call.given store))).map f.kind.widened := by
  have hassigned := Assignments.assigned_of_forall store.valueOf (naming.columned values)
    (g := fun f a => f.kind.widened ((store.valueOf a).getD .null)) fun ⟨f, a⟩ hp => by
      have hmem := mem_of_lastFor ((hlast.mem_iff (f, a)).1 (List.mem_filter.1 hp).1)
      obtain ⟨call, hcall, heq⟩ := List.mem_map.1 hmem
      obtain ⟨rfl, rfl⟩ := Prod.mk.inj heq
      obtain ⟨hnull, haccepts⟩ := hcalls call hcall
      simp only [call.valueOf_source]
      exact coerced_of_accepts hnull haccepts
  refine ⟨_, hassigned, fun f hmapped => ?_⟩
  -- leaving out the fields without column does not change the source of one with a column
  have hsource := ((hlast.columned naming).lastFor_eq f).trans (lastFor_columned hmapped _)
  have hgiven : calls.map (fun call => (call.field, call.given store)) =
      (calls.map fun call => (call.field, call.source)).map fun p =>
        (p.1, (store.valueOf p.2).getD .null) := by
    rw [List.map_map]
    refine List.map_congr_left fun call _ => ?_
    simp only [Function.comp_apply, call.valueOf_source]
    rfl
  have hcells := lastFor_map f (fun f a => f.kind.widened ((store.valueOf a).getD .null))
    (naming.columned values)
  have hvalues := lastFor_map f (fun _ a => (store.valueOf a).getD .null)
    (calls.map fun call => (call.field, call.source))
  rw [hcells, hgiven, hvalues, hsource, Option.map_map]
  rfl

end Calls

end EntityQuery
