import EntityQuery.Entity

/-!
# Records

A `Record` is one row as fields with their values, in the order in which the fields were first set.
-/

namespace EntityQuery

/-- Fields with their values. -/
structure Record where
  /-- the pairs, each field at most once -/
  values : List (Field × Value)
  deriving DecidableEq

namespace Record

/-- The record without fields. -/
def empty : Record := ⟨[]⟩

/-- Sets a field in a list of pairs: in its place if it is there, else at the end. -/
def setIn (f : Field) (v : Value) : List (Field × Value) → List (Field × Value)
  | [] => [(f, v)]
  | (g, w) :: rest => if g = f then (g, v) :: rest else (g, w) :: setIn f v rest

/-- Sets a field. -/
def set (r : Record) (f : Field) (v : Value) : Record := ⟨setIn f v r.values⟩

/-- The value of a field. -/
def get? (r : Record) (f : Field) : Option Value := (r.values.find? (·.1 == f)).map (·.2)

/-- Whether the field is set. -/
def contains (r : Record) (f : Field) : Bool := (r.get? f).isSome

/-- Whether the field is `null` or not set. -/
def isNull (r : Record) (f : Field) : Bool := (r.get? f).all (·.isNull)

/-- Whether no field is set. -/
def isEmpty (r : Record) : Bool := r.values.isEmpty

/-- The number of fields that are set. -/
def size (r : Record) : Nat := r.values.length

/-- The value of a field that is set to one of the kind. A long may be set as an integer. -/
def getNative? (r : Record) (k : Kind) (f : Field) : Option k.Native :=
  match k, r.get? f with
  | .long, some (.integer i) => some i.toInt64
  | k, some v => Kind.Native.ofValue? k v
  | _, none => none

theorem find?_setIn_self (f : Field) (v : Value) (ps : List (Field × Value)) :
    (setIn f v ps).find? (·.1 == f) = some (f, v) := by
  induction ps with
  | nil => simp [setIn]
  | cons p ps ih =>
    obtain ⟨g, w⟩ := p
    by_cases h : g = f
    · simp [setIn, h]
    · simp [setIn, h, ih]

theorem find?_setIn_ne {f g : Field} (h : g ≠ f) (v : Value) (ps : List (Field × Value)) :
    (setIn f v ps).find? (·.1 == g) = ps.find? (·.1 == g) := by
  induction ps with
  | nil => simp [setIn, Ne.symm h]
  | cons p ps ih =>
    obtain ⟨k, w⟩ := p
    by_cases hk : k = f
    · subst hk
      simp [setIn, Ne.symm h]
    · simp [setIn, hk, List.find?_cons, ih]

/-- A field that was set has the value it was set to. -/
@[simp] theorem get?_set_self (r : Record) (f : Field) (v : Value) :
    (r.set f v).get? f = some v := by
  simp [get?, set, find?_setIn_self]

/-- Setting a field leaves the others alone. -/
theorem get?_set_ne (r : Record) {f g : Field} (h : g ≠ f) (v : Value) :
    (r.set f v).get? g = r.get? g := by
  simp [get?, set, find?_setIn_ne h]

end Record

end EntityQuery
