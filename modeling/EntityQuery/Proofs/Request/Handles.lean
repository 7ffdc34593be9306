import EntityQuery.Proofs.Stateful
import EntityQuery.Session.Builder

/-!
# Handles of result columns

A handle gets its result column when a selection is compiled, and the cursor that it reads whenever the
query is run. This is what happens to the slots on the way:

* a builder hands out free handles that no cursor is attached to (`SelectBuilder.free_selectFields`,
  `SelectBuilder.fresh_selectFields`);
* handles with slots of their own get the numbers of their columns in order
  (`Selection.assignFrom_of_admits`), and all that is read through other handles stays as it is
  (`Slots.Numbered`, `Slots.Untouched`);
* running a query attaches all of its handles to the new cursor (`Slots.cursor?_attachAll`).
-/

namespace EntityQuery

namespace Slots

/-- The handles have slots of their own, and none of them has a result column yet. -/
structure Free (slots : Slots) (fields : List (Field × ColumnHandle)) : Prop where
  /-- the slots exist -/
  bounded : ∀ p ∈ fields, p.2.slot < slots.size
  /-- no slot is shared -/
  nodup : (fields.map (·.2.slot)).Nodup
  /-- no result column is assigned -/
  unassigned : ∀ p ∈ fields, slots.index? p.2 = none

theorem Free.sublist {slots : Slots} {fields fields' : List (Field × ColumnHandle)}
    (h : slots.Free fields) (hsub : fields'.Sublist fields) : slots.Free fields' where
  bounded p hp := h.bounded p (hsub.subset hp)
  nodup := h.nodup.sublist (hsub.map _)
  unassigned p hp := h.unassigned p (hsub.subset hp)

/-- No cursor is attached to the handles. -/
def Fresh (slots : Slots) (fields : List (Field × ColumnHandle)) : Prop :=
  ∀ p ∈ fields, slots.cursor? p.2 = none

/-- Nothing has changed for a handle that a cursor is attached to, and no cursor was attached. -/
def Untouched (slots slots' : Slots) : Prop :=
  ∀ h, slots'.cursor? h = slots.cursor? h ∧
    ((slots.cursor? h).isSome → slots'.index? h = slots.index? h)

variable {slots slots' slots'' : Slots}

theorem Untouched.refl (slots : Slots) : slots.Untouched slots := fun _ => ⟨rfl, fun _ => rfl⟩

theorem Untouched.trans (h : slots.Untouched slots') (h' : slots'.Untouched slots'') :
    slots.Untouched slots'' := by
  intro handle
  obtain ⟨hcursor, hindex⟩ := h handle
  obtain ⟨hcursor', hindex'⟩ := h' handle
  exact ⟨hcursor'.trans hcursor, fun hsome => (hindex' (hcursor ▸ hsome)).trans (hindex hsome)⟩

/-! ## Assigning result columns -/

/-- Assigning a result column does not touch the handles of other slots. -/
theorem index?_modify_of_ne {h : ColumnHandle} {i : Nat} (hne : i ≠ h.slot) (g : Slot → Slot) :
    Slots.index? (slots.modify i g) h = slots.index? h := by
  rw [index?, index?, Array.getElem?_modify, if_neg hne]

/-- Assigning a result column attaches no cursor. -/
theorem cursor?_modify_index (i : Nat) (index : Option Nat) (h : ColumnHandle) :
    Slots.cursor? (slots.modify i fun slot => { slot with index := index }) h = slots.cursor? h := by
  rw [cursor?, cursor?, Array.getElem?_modify]
  split
  · cases slots[h.slot]? <;> rfl
  · rfl

theorem untouched_assign {h : ColumnHandle} (hfresh : slots.cursor? h = none) (index : Nat) :
    slots.Untouched (assign h index slots).2 := by
  rw [assign]
  split
  · intro h'
    refine ⟨cursor?_modify_index _ _ h', fun hsome => index?_modify_of_ne ?_ _⟩
    rintro hslot
    rw [cursor?, ← hslot, ← cursor?, hfresh] at hsome
    cases hsome
  · exact Untouched.refl slots

theorem untouched_push : slots.Untouched (slots.push ⟨none, none⟩) := by
  intro h
  rw [cursor?, index?, cursor?, index?, Array.getElem?_push]
  split
  · next hslot =>
    have hnone : slots[h.slot]? = none := Array.getElem?_eq_none (Nat.le_of_eq hslot.symm)
    rw [hnone]
    exact ⟨rfl, fun hsome => nomatch hsome⟩
  · exact ⟨rfl, fun _ => rfl⟩

end Slots

/-- Assigning result columns changes nothing for handles that a cursor is attached to. -/
theorem Selection.untouched_assignFrom {slots : Slots} {fields : List (Field × ColumnHandle)}
    (h : slots.Fresh fields) (index : Nat) : slots.Untouched (assignFrom index fields slots).2 := by
  induction fields generalizing slots index with
  | nil => exact Slots.Untouched.refl slots
  | cons p fields ih =>
    have hassign := Slots.untouched_assign (h p List.mem_cons_self) index
    change slots.Untouched ((Slots.assign p.2 index >>= fun _ => assignFrom (index + 1) fields) slots).2
    rw [bind_apply]
    rcases hr : Slots.assign p.2 index slots with ⟨e | u, slots₁⟩
    · rw [hr] at hassign
      exact hassign
    · rw [hr] at hassign
      refine hassign.trans (ih (fun q hq => ?_) (index + 1))
      exact (hassign q.2).1.trans (h q (List.mem_cons_of_mem _ hq))

namespace Slots

/-- The handles may have the result columns from `index` on: each has its own column or none yet. -/
def Admits (slots : Slots) (index : Nat) (columns : List (Field × ColumnHandle)) : Prop :=
  ∀ i p, columns[i]? = some p → ∀ n, slots.index? p.2 = some n → n = index + i

/-- The slots once the handles have the result columns from `index` on. -/
structure Numbered (slots : Slots) (index : Nat) (columns : List (Field × ColumnHandle))
    (slots' : Slots) : Prop where
  /-- no slot came or went -/
  size : slots'.size = slots.size
  /-- each handle has its column -/
  own : ∀ i p, columns[i]? = some p → slots'.index? p.2 = some (index + i)
  /-- what has another slot keeps its column -/
  others : ∀ handle, (∀ p ∈ columns, p.2.slot ≠ handle.slot) →
    slots'.index? handle = slots.index? handle
  /-- no cursor is attached or detached -/
  cursor : ∀ handle, slots'.cursor? handle = slots.cursor? handle

variable {slots slots' slots'' : Slots}

theorem Numbered.nil (slots : Slots) (index : Nat) : slots.Numbered index [] slots where
  size := rfl
  own _ _ hp := nomatch hp
  others _ _ := rfl
  cursor _ := rfl

/-- Handles of other slots get their columns behind the first. -/
theorem Numbered.cons {index : Nat} {p : Field × ColumnHandle}
    {columns : List (Field × ColumnHandle)} (h : slots.Numbered index [p] slots')
    (hrest : slots'.Numbered (index + 1) columns slots'')
    (hne : ∀ q ∈ columns, q.2.slot ≠ p.2.slot) : slots.Numbered index (p :: columns) slots'' where
  size := hrest.size.trans h.size
  own i q hq := by
    cases i with
    | zero =>
      cases hq
      rw [hrest.others p.2 hne]
      exact h.own 0 p rfl
    | succ i => rw [hrest.own i q hq, Nat.add_right_comm, Nat.add_assoc]
  others handle hhandle := by
    rw [hrest.others handle fun q hq => hhandle q (List.mem_cons_of_mem _ hq)]
    exact h.others handle fun q hq => hhandle q (List.mem_singleton.1 hq ▸ List.mem_cons_self)
  cursor handle := (hrest.cursor handle).trans (h.cursor handle)

/-- A handle that may have the result column has it afterwards. -/
theorem assign_of_admits {index : Nat} {p : Field × ColumnHandle} (hbounded : p.2.slot < slots.size)
    (h : slots.Admits index [p]) :
    ∃ slots', assign p.2 index slots = (.ok (), slots') ∧ slots.Numbered index [p] slots' := by
  cases hindex : slots.index? p.2 with
  | none =>
    refine ⟨_, by rw [assign, hindex], Array.size_modify, ?_, fun handle hhandle => ?_,
      cursor?_modify_index _ _⟩
    · intro i q hq
      obtain ⟨hi, rfl⟩ := List.getElem?_eq_some_iff.1 hq
      obtain rfl : i = 0 := Nat.lt_one_iff.1 hi
      change Slots.index? _ p.2 = _
      rw [index?, Array.getElem?_modify, if_pos rfl, Array.getElem?_eq_getElem hbounded]
      rfl
    · exact index?_modify_of_ne (hhandle p List.mem_cons_self) _
  | some n =>
    obtain rfl : n = index := h 0 p rfl n hindex
    refine ⟨slots, ?_, rfl, fun i q hq => ?_, fun _ _ => rfl, fun _ => rfl⟩
    · rw [assign, hindex, check, hindex]
      simp only [if_pos]
    · obtain ⟨hi, rfl⟩ := List.getElem?_eq_some_iff.1 hq
      obtain rfl : i = 0 := Nat.lt_one_iff.1 hi
      exact hindex

end Slots

/-- Handles with slots of their own all get the result columns that they may have. -/
theorem Selection.assignFrom_of_admits {slots : Slots} {index : Nat}
    {columns : List (Field × ColumnHandle)} (hbounded : ∀ p ∈ columns, p.2.slot < slots.size)
    (h : slots.Admits index columns) (hnodup : (columns.map (·.2.slot)).Nodup) :
    ∃ slots', assignFrom index columns slots = (.ok (), slots') ∧
      slots.Numbered index columns slots' := by
  induction columns generalizing slots index with
  | nil => exact ⟨slots, rfl, .nil slots index⟩
  | cons p columns ih =>
    obtain ⟨hslot, hnodup⟩ := List.nodup_cons.1 hnodup
    have hne : ∀ q ∈ columns, q.2.slot ≠ p.2.slot :=
      fun q hq heq => hslot (List.mem_map.2 ⟨q, hq, heq⟩)
    have hfirst : slots.Admits index [p] := by
      intro i q hq
      obtain ⟨hi, rfl⟩ := List.getElem?_eq_some_iff.1 hq
      obtain rfl : i = 0 := Nat.lt_one_iff.1 hi
      exact h 0 p rfl
    obtain ⟨slots₁, hassign, hnumbered⟩ :=
      Slots.assign_of_admits (hbounded p List.mem_cons_self) hfirst
    -- the others may still have their columns, for their slots are not that of the first
    have hrest : slots₁.Admits (index + 1) columns := by
      intro i q hq n hn
      have hother : ∀ r ∈ [p], r.2.slot ≠ q.2.slot :=
        fun r hr => List.mem_singleton.1 hr ▸ (hne q (List.mem_of_getElem? hq)).symm
      rw [hnumbered.others q.2 hother] at hn
      rw [h (i + 1) q hq n hn, Nat.add_right_comm, Nat.add_assoc]
    obtain ⟨slots', hassigned, hnumbered'⟩ :=
      ih (fun q hq => hnumbered.size.symm ▸ hbounded q (List.mem_cons_of_mem _ hq)) hrest hnodup
    exact ⟨slots', (bind_of_ok hassign).trans hassigned, hnumbered.cons hnumbered' hne⟩

/-- Free handles may have any result columns. -/
theorem Slots.Free.admits {slots : Slots} {fields : List (Field × ColumnHandle)}
    (h : slots.Free fields) (index : Nat) : slots.Admits index fields := by
  intro i p hp n hn
  rw [h.unassigned p (List.mem_of_getElem? hp)] at hn
  cases hn

/-- Free handles all get their result columns, and no other handle does. -/
theorem Selection.assignFrom_of_free {slots : Slots} {fields : List (Field × ColumnHandle)}
    (h : slots.Free fields) (index : Nat) :
    ∃ slots', assignFrom index fields slots = (.ok (), slots') ∧
      slots.Numbered index fields slots' :=
  assignFrom_of_admits h.bounded (h.admits index) h.nodup

/-! ## Attaching cursors -/

namespace Slots

/-- Lets handles read the rows of a cursor. -/
def attachAll (slots : Slots) (id : CursorId) (columns : List (Field × ColumnHandle)) : Slots :=
  columns.foldl (fun slots (_, h) => slots.attach id h) slots

theorem index?_attachAll (slots : Slots) (id : CursorId) (columns : List (Field × ColumnHandle))
    (h : ColumnHandle) : (slots.attachAll id columns).index? h = slots.index? h := by
  induction columns generalizing slots with
  | nil => rfl
  | cons p columns ih =>
    refine (ih (slots.attach id p.2)).trans ?_
    rw [index?, index?, attach, Array.getElem?_modify]
    split
    · cases slots[h.slot]? <;> rfl
    · rfl

/-- A cursor stays attached while more handles are attached to it. -/
theorem cursor?_attachAll_of_attached {slots : Slots} {id : CursorId} {h : ColumnHandle}
    (hattached : slots.cursor? h = some id) (columns : List (Field × ColumnHandle)) :
    (slots.attachAll id columns).cursor? h = some id := by
  induction columns generalizing slots with
  | nil => exact hattached
  | cons p columns ih =>
    have hstill : (slots.attach id p.2).cursor? h = some id := by
      rw [cursor?] at hattached ⊢
      obtain ⟨slot, hslot, hcursor⟩ := Option.bind_eq_some_iff.1 hattached
      rw [attach, Array.getElem?_modify]
      split
      · rw [hslot]
        rfl
      · rw [hslot]
        exact hcursor
    exact ih hstill

/-- All handles of a query are attached to its new cursor. -/
theorem cursor?_attachAll {slots : Slots} {id : CursorId} {columns : List (Field × ColumnHandle)}
    {p : Field × ColumnHandle} (hp : p ∈ columns) (hbound : p.2.slot < slots.size) :
    (slots.attachAll id columns).cursor? p.2 = some id := by
  induction columns generalizing slots with
  | nil => cases hp
  | cons q columns ih =>
    rcases List.mem_cons.1 hp with rfl | hp
    · have hattached : (slots.attach id p.2).cursor? p.2 = some id := by
        rw [cursor?, attach, Array.getElem?_modify, if_pos rfl, Array.getElem?_eq_getElem hbound]
        rfl
      exact cursor?_attachAll_of_attached hattached columns
    · have hbound' : p.2.slot < (slots.attach id q.2).size := by
        rw [attach, Array.size_modify]
        exact hbound
      exact ih hp hbound'

end Slots

/-! ## Handles of a builder -/

namespace SelectBuilder

variable {b : SelectBuilder} {slots : Slots}

/-- The handles of a builder stay free while it selects another field. -/
theorem free_retrieve (h : slots.Free b.selection.fields) (f : Field) :
    (b.retrieve f slots).2.2.Free (b.retrieve f slots).2.1.selection.fields := by
  rw [retrieve]
  split
  -- a field that is selected already keeps its handle
  · exact h
  -- another gets a slot behind all others
  · have hsize : (slots.push ⟨none, none⟩).size = slots.size + 1 := Array.size_push _
    refine ⟨?_, ?_, ?_⟩
    · intro p hp
      rcases List.mem_append.1 hp with hp | hp
      · exact hsize ▸ Nat.lt_succ_of_lt (h.bounded p hp)
      · rw [List.mem_singleton.1 hp]
        exact hsize ▸ Nat.lt_succ_self _
    · have hmap : (b.selection.fields ++ [(f, (⟨f, slots.size⟩ : ColumnHandle))]).map (·.2.slot) =
          b.selection.fields.map (·.2.slot) ++ [slots.size] := List.map_append
      refine (congrArg List.Nodup hmap).mpr ?_
      rw [List.nodup_append]
      refine ⟨h.nodup, List.pairwise_singleton _ _, fun a ha c hc hac => ?_⟩
      obtain ⟨p, hp, rfl⟩ := List.mem_map.1 ha
      have hslot := h.bounded p hp
      rw [hac, List.mem_singleton.1 hc] at hslot
      exact Nat.lt_irrefl _ hslot
    · intro p hp
      rcases List.mem_append.1 hp with hp | hp
      · have hne : p.2.slot ≠ slots.size := Nat.ne_of_lt (h.bounded p hp)
        have hsame : (slots.push ⟨none, none⟩)[p.2.slot]? = slots[p.2.slot]? := by
          rw [Array.getElem?_push, if_neg hne]
        have hnone := h.unassigned p hp
        rw [Slots.index?] at hnone ⊢
        exact hsame ▸ hnone
      · rw [List.mem_singleton.1 hp]
        change ((slots.push ⟨none, none⟩)[slots.size]?).bind (·.index) = none
        rw [Array.getElem?_push_size]
        rfl

/-- A builder has free handles, whatever it selects. -/
theorem free_selectFields (h : slots.Free b.selection.fields) (fs : List Field) :
    (b.selectFields slots fs).2.Free (b.selectFields slots fs).1.selection.fields := by
  induction fs generalizing b slots with
  | nil => exact h
  | cons f fs ih => exact ih (free_retrieve h f)

/-- Selecting another field attaches no cursor, and changes nothing that is read. -/
theorem fresh_retrieve (h : slots.Fresh b.selection.fields) (f : Field) :
    (b.retrieve f slots).2.2.Fresh (b.retrieve f slots).2.1.selection.fields ∧
      slots.Untouched (b.retrieve f slots).2.2 := by
  rw [retrieve]
  split
  · exact ⟨h, .refl slots⟩
  · refine ⟨fun p hp => ?_, Slots.untouched_push⟩
    rcases List.mem_append.1 hp with hp | hp
    · exact (Slots.untouched_push p.2).1.trans (h p hp)
    · rw [List.mem_singleton.1 hp]
      change ((slots.push ⟨none, none⟩)[slots.size]?).bind (·.cursor) = none
      rw [Array.getElem?_push_size]
      rfl

/-- A builder's handles have no cursor, and selecting changes nothing that is read. -/
theorem fresh_selectFields (h : slots.Fresh b.selection.fields) (fs : List Field) :
    (b.selectFields slots fs).2.Fresh (b.selectFields slots fs).1.selection.fields ∧
      slots.Untouched (b.selectFields slots fs).2 := by
  induction fs generalizing b slots with
  | nil => exact ⟨h, .refl slots⟩
  | cons f fs ih =>
    obtain ⟨hfresh, huntouched⟩ := fresh_retrieve h f
    obtain ⟨hfresh', huntouched'⟩ := ih hfresh
    exact ⟨hfresh', huntouched.trans huntouched'⟩

/-- Selecting fields that are not selected yet adds each of them with a handle of its own. -/
theorem selection_selectFields {fs : List Field}
    (hnew : (b.selection.fields.map Prod.fst ++ fs).Nodup)
    (hhandles : ∀ p ∈ b.selection.fields, p.2.field = p.1) :
    ∃ fields, (b.selectFields slots fs).1 = ⟨b.source, { b.selection with fields := fields }⟩ ∧
      fields.map Prod.fst = b.selection.fields.map Prod.fst ++ fs ∧ ∀ p ∈ fields, p.2.field = p.1 := by
  induction fs generalizing b slots with
  | nil => exact ⟨b.selection.fields, rfl, (List.append_nil _).symm, hhandles⟩
  | cons f fs ih =>
    have hnone : b.selection.fields.find? (·.1 == f) = none := by
      rw [List.find?_eq_none]
      intro p hp heq
      obtain ⟨-, -, hdisjoint⟩ := List.nodup_append.1 hnew
      exact hdisjoint p.1 (List.mem_map_of_mem hp) f List.mem_cons_self (eq_of_beq heq)
    have hretrieve : b.retrieve f slots = (⟨f, slots.size⟩, { b with
        selection.fields := b.selection.fields ++ [(f, ⟨f, slots.size⟩)] },
        slots.push ⟨none, none⟩) := by
      rw [retrieve, hnone]
      rfl
    have hfields : (b.selection.fields ++ [(f, (⟨f, slots.size⟩ : ColumnHandle))]).map Prod.fst =
        b.selection.fields.map Prod.fst ++ [f] := List.map_append
    obtain ⟨fields, hbuilt, hmap, hfield⟩ := @ih
      { b with selection.fields := b.selection.fields ++ [(f, ⟨f, slots.size⟩)] }
      (slots.push ⟨none, none⟩)
      (by rw [hfields, List.append_assoc]; exact hnew)
      (fun p hp => by
        rcases List.mem_append.1 hp with hp | hp
        · exact hhandles p hp
        · rw [List.mem_singleton.1 hp])
    refine ⟨fields, ?_, ?_, hfield⟩
    · rw [selectFields, hretrieve]
      exact hbuilt
    · rw [hmap, hfields, List.append_assoc]
      rfl

end SelectBuilder

end EntityQuery
