import EntityQuery.Entity
import EntityQuery.Error

/-!
# Accessors

An `Accessor` is where the value of an operand or assignment comes from: a literal, a cell that the
caller feeds, or a result column.

A result column is read through a `ColumnHandle`. The handle names a slot, and handles of one slot
share what is known of it:

* the index of the result column, which is assigned once and never moves (`Slots.assign`);
* the cursor whose rows it reads, which each execution sets anew (`Slots.attach`).
-/

namespace EntityQuery

/-- The field, if its values are of kind `k`. -/
def Field.ofKind (f : Field) (k : Kind) : Except QueryError Field :=
  if f.hasKind k then .ok f else .error (.kindMismatch f.fullName k.name f.kind.name)

/-- The name of a fed cell. -/
structure CellId where
  /-- the number -/
  number : Nat
  deriving DecidableEq, Repr

/-- The name of a cursor. -/
structure CursorId where
  /-- the number -/
  number : Nat
  deriving DecidableEq, Repr

/-- A handle on a result column. -/
structure ColumnHandle where
  /-- the field it reads -/
  field : Field
  /-- the slot it shares -/
  slot : Nat
  deriving DecidableEq

/-- Where a value comes from. -/
inductive Accessor where
  /-- a fixed value -/
  | literal (v : Value)
  /-- the cell that the caller feeds -/
  | fed (cell : CellId)
  /-- the current row of a cursor -/
  | column (handle : ColumnHandle)
  deriving DecidableEq

/-- What the handles of one result column share. -/
structure Slot where
  /-- the result column, from 1, once it is assigned -/
  index : Option Nat
  /-- the cursor of the latest execution -/
  cursor : Option CursorId
  deriving DecidableEq, Repr

/-- All slots, by their numbers. -/
abbrev Slots := Array Slot

namespace Slots

/-- The result column of a handle. -/
def index? (slots : Slots) (h : ColumnHandle) : Option Nat := slots[h.slot]?.bind (·.index)

/-- The cursor of a handle. -/
def cursor? (slots : Slots) (h : ColumnHandle) : Option CursorId := slots[h.slot]?.bind (·.cursor)

/-- A new slot for a field. -/
def alloc (slots : Slots) (f : Field) : ColumnHandle × Slots :=
  (⟨f, slots.size⟩, slots.push ⟨none, none⟩)

/-- Refuses a handle that has another result column. -/
def check (slots : Slots) (h : ColumnHandle) (index : Nat) : Except QueryError Unit :=
  match slots.index? h with
  | none => .ok ()
  | some assigned =>
    if assigned = index then .ok ()
    else .error (.accessorRebound h.field.fullName assigned index)

/-- Assigns a result column to a handle without one. -/
def assign (h : ColumnHandle) (index : Nat) : ExceptT QueryError (StateM Slots) Unit := fun slots =>
  match slots.index? h with
  | none => (.ok (), slots.modify h.slot fun slot => { slot with index := some index })
  | some _ => (slots.check h index, slots)

/-- Lets a handle read the rows of a cursor. -/
def attach (slots : Slots) (cursor : CursorId) (h : ColumnHandle) : Slots :=
  slots.modify h.slot fun slot => { slot with cursor := some cursor }

/-- How messages show a handle. -/
def describe (slots : Slots) (h : ColumnHandle) : String :=
  match slots.index? h with
  | some index => "Column(" ++ h.field.fullName ++ " @ " ++ toString index ++ ")"
  | none => "Column(" ++ h.field.fullName ++ " unbound)"

end Slots

end EntityQuery
