import EntityQuery.Proofs.Request.Handles
import EntityQuery.Proofs.Request.Selecting

/-!
# Result columns of a selection that is refused

A selection is checked as a whole before its handles get their result columns. What is not checked is
whether two of its fields share a handle: that is noticed while the columns are handed out, by which
time the handles before the second field have theirs.

* `Slots.Repeat`: the first field whose handle was listed before;
* `Selection.assignFrom_of_repeat`: the handles before it keep the columns they were given;
* `Selection.compile_numbers`: what the slots are once a selection is compiled or refused;
* `Selection.refused_compile_numbers`: not every refused selection leaves its handles alone.
-/

namespace EntityQuery

/-- The first field of a list whose handle has the slot of an earlier one. -/
structure Slots.Repeat (columns : List (Field × ColumnHandle)) (j : Nat)
    (before : List (Field × ColumnHandle)) (p : Field × ColumnHandle) : Prop where
  /-- the field is listed behind the others -/
  listed : before ++ [p] <+: columns
  /-- those have slots of their own -/
  nodup : (before.map (·.2.slot)).Nodup
  /-- one of them has its slot -/
  earlier : (before.map (·.2.slot))[j]? = some p.2.slot

namespace Selection

variable {naming : Naming} {strict : Bool} {slots : Slots} {s : Selection}

/-! ## Repeated handles -/

/-- Handles that do not all have slots of their own have a first one that repeats a slot. -/
theorem exists_repeat {columns : List (Field × ColumnHandle)}
    (h : ¬(columns.map (·.2.slot)).Nodup) : ∃ j before p, Slots.Repeat columns j before p := by
  induction columns using List.reverseRecOn with
  | nil => exact absurd List.nodup_nil h
  | append_singleton columns p ih =>
    by_cases hnodup : (columns.map (·.2.slot)).Nodup
    · have hmem : p.2.slot ∈ columns.map (·.2.slot) := by
        by_contra hnew
        refine h ?_
        rw [List.map_append, List.map_singleton]
        exact List.nodup_append.2 ⟨hnodup, List.pairwise_singleton _ _, fun a ha b hb hab =>
          hnew (List.mem_singleton.1 hb ▸ hab ▸ ha)⟩
      obtain ⟨j, hj⟩ := List.getElem?_of_mem hmem
      exact ⟨j, columns, p, List.prefix_rfl, hnodup, hj⟩
    · obtain ⟨j, before, q, hrepeat⟩ := ih hnodup
      exact ⟨j, before, q, hrepeat.listed.trans (List.prefix_append _ _), hrepeat.nodup,
        hrepeat.earlier⟩

theorem assignFrom_append (index : Nat) (xs ys : List (Field × ColumnHandle)) :
    assignFrom index (xs ++ ys) =
      assignFrom index xs >>= fun _ => assignFrom (index + xs.length) ys := by
  induction xs generalizing index with
  | nil => rfl
  | cons x xs ih =>
    have hlength : index + (x :: xs).length = index + 1 + xs.length := by
      rw [List.length_cons, Nat.add_right_comm, Nat.add_assoc]
    rw [List.cons_append, hlength, assignFrom, assignFrom, bind_assoc]
    exact congrArg (Slots.assign x.2 index >>= ·) (funext fun _ => ih (index + 1))

/-- Assigning stops at a repeated handle; those before it have got their columns. -/
theorem assignFrom_of_repeat {index j : Nat} {columns before : List (Field × ColumnHandle)}
    {p : Field × ColumnHandle} (hbounded : ∀ q ∈ columns, q.2.slot < slots.size)
    (h : slots.Admits index columns) (hrepeat : Slots.Repeat columns j before p) :
    ∃ slots', slots.Numbered index before slots' ∧
      assignFrom index columns slots =
        (.error (.accessorRebound p.2.field.fullName (index + j) (index + before.length)), slots') := by
  obtain ⟨rest, rfl⟩ := hrepeat.listed
  rw [List.append_assoc] at h hbounded ⊢
  have hadmits : slots.Admits index before :=
    fun i q hq => h i q (List.getElem?_append_left (List.getElem?_eq_some_iff.1 hq).1 ▸ hq)
  obtain ⟨slots', hassign, hnumbered⟩ := assignFrom_of_admits
    (fun q hq => hbounded q (List.mem_append_left _ hq)) hadmits hrepeat.nodup
  -- the repeated handle already has the column of the one that it repeats
  have hearlier := hrepeat.earlier
  rw [List.getElem?_map] at hearlier
  obtain ⟨q, hq, hslot⟩ := Option.map_eq_some_iff.1 hearlier
  have hindex : slots'.index? p.2 = some (index + j) := by
    rw [← hnumbered.own j q hq, Slots.index?, Slots.index?, hslot]
  have hne : index + j ≠ index + before.length :=
    Nat.ne_of_lt (Nat.add_lt_add_left (List.getElem?_eq_some_iff.1 hq).1 index)
  have hrefused : Slots.assign p.2 (index + before.length) slots' =
      (.error (.accessorRebound p.2.field.fullName (index + j) (index + before.length)), slots') := by
    simp only [Slots.assign, Slots.check, hindex, if_neg hne]
  rw [assignFrom_append]
  exact ⟨slots', hnumbered, (bind_of_ok hassign).trans (bind_of_error hrefused)⟩

/-! ## Checked handles -/

/-- Handles that pass the check may have their columns. -/
theorem admits_of_columnsFrom {index : Nat} {fields : List (Field × ColumnHandle)}
    {columns : List SelectedColumn} (h : columnsFrom naming strict slots index fields = .ok columns) :
    slots.Admits index (columns.map fun c => (c.field, c.handle)) := by
  induction fields generalizing index columns with
  | nil =>
    cases h
    exact fun i p hp => nomatch hp
  | cons field rest ih =>
    rcases field with ⟨f, handle⟩
    rw [columnsFrom] at h
    obtain ⟨column, -, h⟩ := ok_of_bind h
    cases column with
    | none => exact ih h
    | some column =>
      obtain ⟨_, hcheck, h⟩ := ok_of_bind h
      obtain ⟨others, hothers, h⟩ := ok_of_bind h
      obtain rfl := Except.ok.inj h
      intro i p hp n hn
      cases i with
      | zero =>
        cases hp
        simp only [Slots.check, hn] at hcheck
        split at hcheck
        · next heq => exact heq
        · cases hcheck
      | succ i => rw [ih hothers i p hp n hn, Nat.add_right_comm, Nat.add_assoc]

/-- A planned selection has handles that may have their columns. -/
theorem admits_of_plan {compiled : CompiledSelect} (h : s.plan naming strict slots = .ok compiled) :
    slots.Admits 1 compiled.columns := by
  rw [plan] at h
  dsimp only at h
  split at h
  · cases h
  · obtain ⟨columns, hcolumns, h⟩ := ok_of_bind h
    split at h
    · cases h
    · obtain ⟨_, -, h⟩ := ok_of_bind h
      obtain ⟨_, -, h⟩ := ok_of_bind h
      rw [← Except.ok.inj h]
      exact admits_of_columnsFrom hcolumns

/-- A planned selection has the columns of the fields that are not skipped. -/
theorem columns_of_plan {compiled : CompiledSelect} (h : s.plan naming strict slots = .ok compiled) :
    compiled.columns = (s.trimmed naming).fields := by
  obtain ⟨hcondition, hne, rfl⟩ := plan_eq_ok h
  rw [← (mapped_trimmed hcondition hne).columns_written, written_trimmed]

/-- A handle that may have two different columns has none yet. -/
theorem index?_of_repeat {index j : Nat} {columns before : List (Field × ColumnHandle)}
    {p : Field × ColumnHandle} (h : slots.Admits index columns)
    (hrepeat : Slots.Repeat columns j before p) : slots.index? p.2 = none := by
  obtain ⟨rest, rfl⟩ := hrepeat.listed
  rw [List.append_assoc] at h
  obtain ⟨q, hq, hslot⟩ := Option.map_eq_some_iff.1 (List.getElem?_map ▸ hrepeat.earlier)
  have hj := (List.getElem?_eq_some_iff.1 hq).1
  have hsame : slots.index? q.2 = slots.index? p.2 := by rw [Slots.index?, hslot, Slots.index?]
  cases hindex : slots.index? p.2 with
  | none => rfl
  | some n =>
    have hfirst := h j q (List.getElem?_append_left hj ▸ hq) n (hsame.trans hindex)
    have hsecond := h before.length p (by simp) n hindex
    omega

/-! ## Compiling -/

/-- A selection that cannot be planned is refused, and no slot changes. -/
theorem compile_of_plan_error {e : QueryError} (h : s.plan naming strict slots = .error e) :
    s.compile naming strict slots = (.error e, slots) :=
  bind_of_error (congrArg (·, slots) h)

/-- The handles of a planned selection get their columns. -/
theorem compile_of_plan {compiled : CompiledSelect} (h : s.plan naming strict slots = .ok compiled) :
    s.compile naming strict slots =
      (assignFrom 1 compiled.columns >>= fun _ => pure compiled) slots :=
  bind_of_ok (congrArg (·, slots) h)

/-- Compiling a selection gives the fields that are not skipped their columns in order. A selection
that is refused leaves its handles alone just if it was refused before any handle got its column;
otherwise two fields share a handle that had none, and those before the second keep theirs. -/
theorem compile_numbers (hbounded : ∀ p ∈ s.fields, p.2.slot < slots.size) :
    match s.compile naming strict slots with
    | (.ok compiled, slots') =>
      compiled.columns = (s.trimmed naming).fields ∧ slots.Numbered 1 compiled.columns slots'
    | (.error e, slots') =>
      (slots' = slots ↔ s.plan naming strict slots = .error e) ∧
        (slots' ≠ slots → ∃ j before p, Slots.Repeat (s.trimmed naming).fields j before p ∧
          slots.index? p.2 = none ∧
          e = .accessorRebound p.2.field.fullName (1 + j) (1 + before.length) ∧
          slots.Numbered 1 before slots') := by
  cases hplan : s.plan naming strict slots with
  | error e =>
    rw [compile_of_plan_error hplan]
    exact ⟨iff_of_true rfl rfl, fun hne => absurd rfl hne⟩
  | ok compiled =>
    have hadmits := admits_of_plan hplan
    have hcolumns := columns_of_plan hplan
    have hslots : ∀ p ∈ compiled.columns, p.2.slot < slots.size :=
      fun p hp => hbounded p (List.mem_of_mem_filter (hcolumns ▸ hp))
    rw [compile_of_plan hplan]
    by_cases hnodup : (compiled.columns.map (·.2.slot)).Nodup
    · obtain ⟨slots', hassign, hnumbered⟩ := assignFrom_of_admits hslots hadmits hnodup
      rw [bind_of_ok hassign]
      exact ⟨hcolumns, hnumbered⟩
    · obtain ⟨j, before, p, hrepeat⟩ := exists_repeat hnodup
      obtain ⟨slots', hnumbered, hassign⟩ := assignFrom_of_repeat hslots hadmits hrepeat
      have hfree := index?_of_repeat hadmits hrepeat
      rw [bind_of_error hassign]
      -- the repeated handle had no column, and now has that of the field that it repeats
      have hchanged : slots' ≠ slots := by
        obtain ⟨q, hq, hslot⟩ := Option.map_eq_some_iff.1 (List.getElem?_map ▸ hrepeat.earlier)
        have hindex := hnumbered.own j q hq
        rintro rfl
        rw [Slots.index?, hslot, ← Slots.index?, hfree] at hindex
        cases hindex
      refine ⟨iff_of_false hchanged fun h => (by cases h), fun _ => ?_⟩
      exact ⟨j, before, p, hcolumns ▸ hrepeat, hfree, rfl, hnumbered⟩

/-- Two fields of a person that share one handle. -/
def shared : Selection :=
  { fields := [(.personId, ⟨.personId, 0⟩), (.personName, ⟨.personId, 0⟩)]
    constraint := none
    orders := []
    top := none
    distinct := [] }

theorem compile_shared : shared.compile .plain false #[⟨none, none⟩] =
    (.error (.accessorRebound "person.id" 1 2), #[⟨some 1, none⟩]) := by cbv

/-- Two fields that share a free handle are refused, and the handle keeps the first column. -/
theorem compile_numbers_shared :
    (∀ p ∈ shared.fields, p.2.slot < (#[⟨none, none⟩] : Slots).size) ∧
      shared.compile .plain false #[⟨none, none⟩] =
        (.error (.accessorRebound "person.id" 1 2), #[⟨some 1, none⟩]) ∧
      ∃ j before p, Slots.Repeat (shared.trimmed .plain).fields j before p ∧
        Slots.Numbered #[⟨none, none⟩] 1 before #[⟨some 1, none⟩] := by
  have hbounded : ∀ p ∈ shared.fields, p.2.slot < (#[⟨none, none⟩] : Slots).size := by decide
  have h := @compile_numbers .plain false #[⟨none, none⟩] shared hbounded
  rw [compile_shared] at h
  obtain ⟨j, before, p, hrepeat, -, -, hnumbered⟩ := h.2 (by decide)
  exact ⟨hbounded, compile_shared, j, before, p, hrepeat, hnumbered⟩

/-- So not every selection that is refused leaves its handles alone. -/
theorem refused_compile_numbers :
    ¬ ∀ (naming : Naming) (strict : Bool) (s : Selection) (slots slots' : Slots) (e : QueryError),
      s.compile naming strict slots = (.error e, slots') →
        ∀ p ∈ s.fields, slots'.index? p.2 = slots.index? p.2 := by
  intro h
  have hsame := h .plain false shared _ _ _ compile_shared (.personId, ⟨.personId, 0⟩) List.mem_cons_self
  exact absurd hsame (by decide)

end Selection

end EntityQuery
