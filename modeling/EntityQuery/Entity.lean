import EntityQuery.Value.Basic

/-!
# Entities and their fields

An entity is a named table schema: an ordered list of declared fields, and a table name if the
entity fixes one.

* Entities are told apart by their `identity`, so two of the same name are different entities;
* a `Field` is an entity with a position in it, and two fields are equal when both are;
* `Entity.declare` appends a field; a later declaration of a name replaces the earlier one;
* `Field.hasKind` is the check behind the handles whose kind is known.
-/

namespace EntityQuery

/-- One declared field. -/
structure FieldDecl where
  /-- the name within the entity -/
  name : String
  /-- the kind of its values -/
  kind : Kind
  /-- whether it is part of the key -/
  isKey : Bool
  /-- the column name, where the declaration fixes one -/
  column : Option String
  deriving DecidableEq, Repr

/-- A named table schema. -/
structure Entity where
  /-- tells entities apart that are declared alike -/
  identity : Nat
  /-- the name -/
  name : String
  /-- the table name, where the declaration fixes one -/
  table : Option String
  /-- the declared fields, in order -/
  decls : List FieldDecl
  deriving DecidableEq, Repr

/-- A field of an entity. -/
structure Field where
  /-- the owner -/
  entity : Entity
  /-- the position within the owner -/
  index : Nat
  /-- the position exists -/
  index_lt : index < entity.decls.length
  deriving DecidableEq

namespace Field

/-- The declaration of the field. -/
def decl (f : Field) : FieldDecl := f.entity.decls.get ⟨f.index, f.index_lt⟩

/-- The name within the entity. -/
def name (f : Field) : String := f.decl.name

/-- The kind of the field's values. -/
def kind (f : Field) : Kind := f.decl.kind

/-- Whether the field is part of the key. -/
def isKey (f : Field) : Bool := f.decl.isKey

/-- The column name, where the declaration fixes one. -/
def column (f : Field) : Option String := f.decl.column

/-- `Entity.field`, as messages name the field. -/
def fullName (f : Field) : String := f.entity.name ++ "." ++ f.name

/-- The full name with the kind. -/
def description (f : Field) : String := f.fullName ++ ":" ++ f.kind.name

/-- Whether the field's values are of kind `k`. -/
def hasKind (f : Field) (k : Kind) : Bool := f.kind == k

end Field

namespace Entity

/-- A schema without fields. -/
def empty (identity : Nat) (name : String) (table : Option String) : Entity :=
  ⟨identity, name, table, []⟩

/-- Appends a field; an earlier field of the same name is dropped. -/
def declare (e : Entity) (d : FieldDecl) : Entity :=
  { e with decls := e.decls.filter (·.name != d.name) ++ [d] }

/-- How messages show an entity. -/
def description (e : Entity) : String := "EntityType(" ++ e.name ++ ")"

/-- The fields in declaration order. -/
def fields (e : Entity) : List Field :=
  List.ofFn fun i : Fin e.decls.length => ⟨e, i, i.isLt⟩

/-- The key fields in declaration order. -/
def keyFields (e : Entity) : List Field := e.fields.filter Field.isKey

/-- The field of a name. -/
def field? (e : Entity) (name : String) : Option Field := e.fields.find? (·.name == name)

/-- The field of a name and kind. -/
def fieldOfKind? (e : Entity) (k : Kind) (name : String) : Option Field :=
  (e.field? name).filter (·.hasKind k)

@[simp] theorem length_fields (e : Entity) : e.fields.length = e.decls.length := by
  simp [fields]

/-- Every listed field belongs to its entity. -/
theorem entity_of_mem_fields {e : Entity} {f : Field} (h : f ∈ e.fields) : f.entity = e := by
  obtain ⟨i, rfl⟩ := List.mem_ofFn.1 h
  rfl

/-- Every field is listed by its entity. -/
theorem mem_fields (f : Field) : f ∈ f.entity.fields := by
  exact List.mem_ofFn.2 ⟨⟨f.index, f.index_lt⟩, rfl⟩

end Entity

end EntityQuery
