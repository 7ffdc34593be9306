import EntityQuery.Proofs.Request.Mutating
import EntityQuery.Proofs.Request.Rebinding

/-!
# Fields that are skipped

Where a naming is not strict, a selected field, a sort key or an assignment without column is skipped.
It leaves nothing behind: no column, table, placeholder or number, and it does not make the rows
distinct. Within a condition every field must have a column, strict or not.

* `Selection.compile_permissive`, `compileInsert_permissive`, `compileUpdate_permissive`: a request
  compiles as its mapped part does under a strict naming, with the same result or the same error.
* `Predicate.ofConstraint_of_unmapped`: a condition is refused for its first field without column.
* `permissive_compiles_mapped_part` is both of them for all requests.
-/

namespace EntityQuery

/-! ## Gathering -/

section Gathered

variable {ε α β : Type}

/-- What items come to, as far as they come to something. -/
def gathered (f : α → Except ε (Option β)) (xs : List α) : Except ε (List β) := do
  return (← xs.mapM f).filterMap id

theorem gathered_cons (f : α → Except ε (Option β)) (x : α) (xs : List α) :
    gathered f (x :: xs) = do return (← f x).toList ++ (← gathered f xs) := by
  rw [gathered, gathered, List.mapM_cons]
  cases f x with
  | error e => rfl
  | ok y =>
    cases xs.mapM f with
    | error e => rfl
    | ok ys => cases y <;> rfl

/-- Items that come to nothing may as well be left out. -/
theorem gathered_filter {f g : α → Except ε (Option β)} {p : α → Bool}
    (hkept : ∀ x, p x = true → f x = g x) (hskipped : ∀ x, p x = false → f x = .ok none)
    (xs : List α) : gathered f xs = gathered g (xs.filter p) := by
  induction xs with
  | nil => rfl
  | cons x xs ih =>
    cases hp : p x with
    | false =>
      rw [gathered_cons, hskipped x hp, ih, List.filter_cons_of_neg (by simp [hp])]
      cases gathered g (xs.filter p) <;> rfl
    | true => rw [List.filter_cons_of_pos hp, gathered_cons, gathered_cons, hkept x hp, ih]

/-- Each item has come to something or nothing. -/
theorem each_of_gathered {f : α → Except ε (Option β)} {xs : List α} {ys : List β}
    (h : gathered f xs = .ok ys) : ∀ x ∈ xs, ∃ y, f x = .ok y := by
  induction xs generalizing ys with
  | nil => exact fun x hx => absurd hx List.not_mem_nil
  | cons x xs ih =>
    rw [gathered_cons] at h
    obtain ⟨y, hy, h⟩ := ok_of_bind h
    obtain ⟨rest, hrest, -⟩ := ok_of_bind h
    exact List.forall_mem_cons.2 ⟨⟨y, hy⟩, ih hrest⟩

end Gathered

/-! ## Resolving -/

section Resolve

variable {naming : Naming} {f : Field}

/-- A field that has a column is resolved to it, strict or not. -/
theorem resolveColumn_of_mapped (h : (naming.columnName f).isSome = true) (strict : Bool) :
    resolveColumn naming strict f = .ok (naming.columnName f) := resolveColumn_ok fun _ => h

/-- A field without column is skipped where that is not refused. -/
theorem resolveColumn_of_unmapped (h : (naming.columnName f).isSome = false) :
    resolveColumn naming false f = .ok none := by
  have hnone : naming.columnName f = none := by simpa using h
  rw [resolveColumn, hnone]
  rfl

/-- A strict naming resolves only what has a column. -/
theorem mapped_of_resolveColumn {column : Option String}
    (h : resolveColumn naming true f = .ok column) : (naming.columnName f).isSome := by
  rw [resolveColumn] at h
  split at h
  · next hcolumn => rw [hcolumn, Option.isSome_some]
  · cases h

end Resolve

/-! ## Requests -/

section Permissive

variable {naming : Naming}

/-- The selected columns are those of the mapped fields, with the same numbers. -/
theorem Selection.columnsFrom_permissive (slots : Slots) (index : Nat)
    (fields : List (Field × ColumnHandle)) :
    columnsFrom naming false slots index fields =
      columnsFrom naming true slots index
        (fields.filter fun p => (naming.columnName p.1).isSome) := by
  -- a skipped field does not count, so the next number is general
  induction fields generalizing index with
  | nil => rfl
  | cons p fields ih =>
    rcases p with ⟨f, handle⟩
    cases hf : (naming.columnName f).isSome with
    | false =>
      rw [List.filter_cons_of_neg (by simp [hf]), ← ih, columnsFrom, resolveColumn_of_unmapped hf]
      rfl
    | true =>
      obtain ⟨column, hcolumn⟩ := Option.isSome_iff_exists.1 hf
      have hkept : ((f, handle) :: fields).filter (fun p => (naming.columnName p.1).isSome) =
          (f, handle) :: fields.filter fun p => (naming.columnName p.1).isSome :=
        List.filter_cons_of_pos hf
      rw [hkept, columnsFrom, columnsFrom, resolveColumn_of_mapped hf, resolveColumn_of_mapped hf,
        hcolumn]
      change (slots.check handle index >>= fun _ =>
        columnsFrom naming false slots (index + 1) fields >>= _) = _
      rw [ih]
      rfl

/-- The sort keys are the mapped ones. -/
theorem Selection.orderTexts_permissive (orders : List (Field × Direction)) :
    orderTexts naming false orders =
      orderTexts naming true (orders.filter fun p => (naming.columnName p.1).isSome) := by
  refine gathered_filter (fun p hp => ?_) (fun p hp => ?_) orders
  · dsimp only
    rw [resolveColumn_of_mapped hp, resolveColumn_of_mapped hp]
  · dsimp only
    rw [resolveColumn_of_unmapped hp]
    rfl

/-- Assignments are gathered, and there must be one. -/
theorem assignedColumns_eq (strict : Bool) (values : Assignments) :
    assignedColumns naming strict values = (do
      let columns ← gathered (fun p : Field × Accessor => do
        return (← resolveColumn naming strict p.1).map (⟨·, p.1, p.2⟩)) values
      if columns.isEmpty then throw .emptySelection
      return columns) := by
  rw [assignedColumns, gathered, bind_assoc]
  rfl

/-- The assignments are the mapped ones. -/
theorem assignedColumns_permissive (values : Assignments) :
    assignedColumns naming false values = assignedColumns naming true (naming.columned values) := by
  rw [assignedColumns_eq, assignedColumns_eq, Naming.columned]
  congr 1
  refine gathered_filter (fun p hp => ?_) (fun p hp => ?_) values
  · rw [resolveColumn_of_mapped hp, resolveColumn_of_mapped hp]
  · rw [resolveColumn_of_unmapped hp]
    rfl

/-- A selection is planned as its mapped part is under a strict naming. -/
theorem Selection.plan_permissive (slots : Slots) (s : Selection) :
    s.plan naming false slots = (s.trimmed naming).plan naming true slots := by
  rw [plan, plan, columnsFrom_permissive, orderTexts_permissive, trimmed]
  dsimp only
  cases hfields : s.fields with
  | nil => rfl
  | cons p fields =>
    -- if no field is left, none is selected either
    cases hkept : (p :: fields).filter fun p => (naming.columnName p.1).isSome with
    | nil => rfl
    | cons q kept => rfl

theorem Selection.compile_permissive (s : Selection) :
    s.compile naming false = (s.trimmed naming).compile naming true := by
  funext slots
  rw [compile, compile]
  simp only [plan_permissive]

theorem compileInsert_permissive (e : Entity) (values : Assignments) :
    compileInsert naming false e values =
      compileInsert naming true e (naming.columned values) := by
  rw [compileInsert, compileInsert, assignedColumns_permissive]

theorem compileUpdate_permissive (e : Entity) (values : Assignments)
    (condition : Option Constraint) :
    compileUpdate naming false e values condition =
      compileUpdate naming true e (naming.columned values) condition := by
  rw [compileUpdate, compileUpdate, assignedColumns_permissive]

end Permissive

/-! ## Requests without fields to skip -/

section Strict

variable {naming : Naming}

theorem Selection.maps_of_columnsFrom {slots : Slots} {index : Nat}
    {fields : List (Field × ColumnHandle)} {columns : List SelectedColumn}
    (h : columnsFrom naming true slots index fields = .ok columns) :
    naming.Maps (fields.map Prod.fst) := by
  induction fields generalizing index columns with
  | nil => exact fun f hf => absurd hf List.not_mem_nil
  | cons p fields ih =>
    rcases p with ⟨f, handle⟩
    rw [columnsFrom] at h
    obtain ⟨column, hcolumn, h⟩ := ok_of_bind h
    have hf := mapped_of_resolveColumn hcolumn
    rw [resolveColumn_eq_ok hcolumn] at h
    obtain ⟨name, hname⟩ := Option.isSome_iff_exists.1 hf
    rw [hname] at h
    obtain ⟨-, -, h⟩ := ok_of_bind h
    obtain ⟨others, hothers, -⟩ := ok_of_bind h
    exact List.forall_mem_cons.2 ⟨hf, ih hothers⟩

theorem Selection.maps_of_orderTexts {orders : List (Field × Direction)} {texts : List String}
    (h : orderTexts naming true orders = .ok texts) : naming.Maps (orders.map Prod.fst) := by
  intro f hf
  obtain ⟨key, hkey, rfl⟩ := List.mem_map.1 hf
  obtain ⟨text, htext⟩ := each_of_gathered h key hkey
  obtain ⟨column, hcolumn, -⟩ := ok_of_bind htext
  exact mapped_of_resolveColumn hcolumn

theorem maps_of_assignedColumns {values : Assignments} {columns : List AssignedColumn}
    (h : assignedColumns naming true values = .ok columns) :
    naming.Maps (values.map Prod.fst) := by
  intro f hf
  obtain ⟨value, hvalue, rfl⟩ := List.mem_map.1 hf
  rw [assignedColumns_eq] at h
  obtain ⟨resolved, hresolved, -⟩ := ok_of_bind h
  obtain ⟨assigned, hassigned⟩ := each_of_gathered hresolved value hvalue
  obtain ⟨column, hcolumn, -⟩ := ok_of_bind hassigned
  exact mapped_of_resolveColumn hcolumn

/-- Nothing is left out of a selection that a strict naming plans. -/
theorem Selection.trimmed_of_plan {slots : Slots} {s : Selection} {compiled : CompiledSelect}
    (h : s.plan naming true slots = .ok compiled) : s.trimmed naming = s := by
  obtain ⟨hcondition, hne, -⟩ := plan_eq_ok h
  rw [plan] at h
  dsimp only at h
  split at h
  · cases h
  · obtain ⟨columns, hcolumns, h⟩ := ok_of_bind h
    split at h
    · cases h
    · obtain ⟨predicate, -, h⟩ := ok_of_bind h
      obtain ⟨texts, htexts, -⟩ := ok_of_bind h
      refine Mapped.trimmed_eq ⟨fun hnil => hne (by rw [hnil]; rfl), ?_⟩
      exact Naming.maps_append.2
        ⟨Naming.maps_append.2 ⟨maps_of_columnsFrom hcolumns, hcondition⟩, maps_of_orderTexts htexts⟩

/-- What compiles under a strict naming compiles to the same if fields may be skipped. -/
theorem Selection.compile_of_strict {slots slots' : Slots} {s : Selection}
    {compiled : CompiledSelect} (h : s.compile naming true slots = (.ok compiled, slots')) :
    s.compile naming false slots = (.ok compiled, slots') := by
  cases hplan : s.plan naming true slots with
  | error e =>
    rw [compile_of_plan_error hplan] at h
    cases h
  | ok planned => rw [compile_permissive, trimmed_of_plan hplan, h]

theorem compileInsert_of_strict {e : Entity} {values : Assignments} {m : CompiledMutation}
    (h : compileInsert naming true e values = .ok m) : compileInsert naming false e values = .ok m := by
  obtain ⟨columns, hcolumns, -⟩ := ok_of_bind h
  rw [compileInsert_permissive, Naming.columned_of_maps (maps_of_assignedColumns hcolumns), h]

theorem compileUpdate_of_strict {e : Entity} {values : Assignments} {condition : Option Constraint}
    {m : CompiledMutation} (h : compileUpdate naming true e values condition = .ok m) :
    compileUpdate naming false e values condition = .ok m := by
  obtain ⟨columns, hcolumns, -⟩ := ok_of_bind h
  rw [compileUpdate_permissive, Naming.columned_of_maps (maps_of_assignedColumns hcolumns), h]

end Strict

/-! ## Conditions -/

/-- The first of some fields that has no column. -/
def Naming.firstUnmapped (naming : Naming) (fields : List Field) : Option Field :=
  fields.find? fun f => (naming.columnName f).isNone

section Condition

variable {naming : Naming}

theorem Naming.firstUnmapped_eq_none_iff {fields : List Field} :
    naming.firstUnmapped fields = none ↔ naming.Maps fields := by
  simp [firstUnmapped, Maps, Option.isSome_iff_ne_none]

/-- The first of two lists of fields without column is in the first list, or all of that are
mapped. -/
theorem Naming.firstUnmapped_append_eq_some {fs gs : List Field} {f : Field}
    (h : naming.firstUnmapped (fs ++ gs) = some f) :
    naming.firstUnmapped fs = some f ∨ naming.Maps fs ∧ naming.firstUnmapped gs = some f := by
  rw [firstUnmapped, List.find?_append] at h
  cases hfs : naming.firstUnmapped fs with
  | none =>
    rw [show fs.find? _ = none from hfs, Option.none_or] at h
    exact .inr ⟨firstUnmapped_eq_none_iff.1 hfs, h⟩
  | some g =>
    rw [show fs.find? _ = some g from hfs, Option.some_or] at h
    exact .inl h

theorem Naming.firstUnmapped_singleton_eq_some {f g : Field}
    (h : naming.firstUnmapped [g] = some f) : f = g ∧ ¬ (naming.columnName f).isSome := by
  have hmem := List.mem_of_find?_eq_some h
  have hnone := List.find?_some h
  exact ⟨List.mem_singleton.1 hmem, by simpa using hnone⟩

namespace Predicate

theorem operand_of_unmapped {o : Operand} {f : Field} (h : naming.firstUnmapped o.columns = some f)
    (next : Nat) (p : Predicate) :
    ∃ p', operand naming next o p = (.error (.unresolvedColumn f.fullName), p') := by
  cases o with
  | field g =>
    obtain ⟨rfl, hf⟩ := Naming.firstUnmapped_singleton_eq_some h
    exact ⟨p, bind_of_error (column_of_none hf p)⟩
  | value g v => cases h
  | accessor g a => cases h

/-- Writing ends at the first field without column. -/
theorem write_of_unmapped {c : Constraint} {f : Field}
    (h : naming.firstUnmapped c.referencedFields = some f) (next : Nat) (p : Predicate) :
    ∃ p', write naming next c p = (.error (.unresolvedColumn f.fullName), p') := by
  induction c generalizing next p with
  | compare op left right =>
    rw [write]
    rcases Naming.firstUnmapped_append_eq_some h with hl | ⟨hl, hr⟩
    · obtain ⟨p', hp'⟩ := operand_of_unmapped hl next p
      exact ⟨p', bind_of_error hp'⟩
    · rw [bind_of_ok (operand_of_mapped hl _ _), bind_of_ok (emit_apply _ _)]
      exact operand_of_unmapped hr _ _
  | and left right ihl ihr | or left right ihl ihr =>
    rw [write, bind_of_ok (emit_apply _ _)]
    rcases Naming.firstUnmapped_append_eq_some h with hl | ⟨hl, hr⟩
    · obtain ⟨p', hp'⟩ := ihl hl next _
      exact ⟨p', bind_of_error hp'⟩
    · rw [bind_of_ok (write_of_mapped hl _ _), bind_of_ok (emit_apply _ _)]
      obtain ⟨p', hp'⟩ := ihr hr _ _
      exact ⟨p', bind_of_error hp'⟩
  | inList negated g values =>
    obtain ⟨rfl, hf⟩ := Naming.firstUnmapped_singleton_eq_some h
    exact ⟨p, bind_of_error (column_of_none hf p)⟩
  | isNull negated g | contains negated g text =>
    obtain ⟨rfl, hf⟩ := Naming.firstUnmapped_singleton_eq_some h
    exact ⟨p, bind_of_error (column_of_none hf p)⟩

/-- A condition is refused for its first field without column. -/
theorem ofConstraint_of_unmapped {c : Constraint} {f : Field}
    (h : naming.firstUnmapped c.referencedFields = some f) (next : Nat) :
    ofConstraint naming next c = .error (.unresolvedColumn f.fullName) := by
  obtain ⟨p', hp'⟩ := write_of_unmapped h next empty
  rw [ofConstraint]
  split
  · next m q hq => cases hp'.symm.trans hq
  · next e q hq =>
    cases hp'.symm.trans hq
    rfl

end Predicate

/-- The selection of the same columns, without condition and sort keys. -/
def Selection.unconditional (s : Selection) : Selection :=
  { s with
    constraint := none
    orders := [] }

variable {c : Constraint} {f : Field} (h : naming.firstUnmapped c.referencedFields = some f)
include h

theorem mapM_ofConstraint_of_unmapped (next : Nat) :
    (some c).mapM (Predicate.ofConstraint naming next) = .error (.unresolvedColumn f.fullName) := by
  rw [Option.mapM_some, Predicate.ofConstraint_of_unmapped h]
  rfl

/-- A selection with such a condition is refused for it, if not for its columns. -/
theorem Selection.plan_of_unmapped (strict : Bool) (slots : Slots) (s : Selection) :
    ({ s with constraint := some c } : Selection).plan naming strict slots =
      (s.unconditional.plan naming strict slots >>= fun _ => .error (.unresolvedColumn f.fullName)) := by
  rw [plan, plan, unconditional]
  dsimp only
  rw [mapM_ofConstraint_of_unmapped h]
  cases s.fields.isEmpty with
  | true => rfl
  | false =>
    cases columnsFrom naming strict slots 1 s.fields with
    | error e => rfl
    | ok columns => cases columns <;> rfl

theorem Selection.compile_of_unmapped (strict : Bool) (slots : Slots) (s : Selection) :
    ({ s with constraint := some c } : Selection).compile naming strict slots =
      (s.unconditional.plan naming strict slots >>= fun _ => .error (.unresolvedColumn f.fullName),
        slots) := by
  have hplan := plan_of_unmapped h strict slots s
  cases hcolumns : s.unconditional.plan naming strict slots with
  | error e =>
    rw [hcolumns] at hplan
    exact compile_of_plan_error hplan
  | ok compiled =>
    rw [hcolumns] at hplan
    exact compile_of_plan_error hplan

/-- So is an update. -/
theorem compileUpdate_of_unmapped (strict : Bool) (e : Entity) (values : Assignments) :
    compileUpdate naming strict e values (some c) =
      (compileUpdate naming strict e values none >>= fun _ =>
        .error (.unresolvedColumn f.fullName)) := by
  rw [compileUpdate, compileUpdate]
  cases assignedColumns naming strict values with
  | error e => rfl
  | ok columns =>
    change ((some c).mapM (Predicate.ofConstraint naming (columns.length + 1)) >>= _) = _
    rw [mapM_ofConstraint_of_unmapped h]
    rfl

theorem compileDelete_of_unmapped (e : Entity) :
    compileDelete naming e (some c) = .error (.unresolvedColumn f.fullName) :=
  except_bind_of_error (mapM_ofConstraint_of_unmapped h 1)

end Condition

/-! ## All requests -/

/-- Where fields may be skipped, a request compiles as its mapped part does under a strict naming, with
the same result and the same slots afterwards, or the same error; so a request that a strict naming
compiles gives the same result. A condition over a field without column is refused either way, for the
first such field, unless the selected or assigned fields are refused before. -/
theorem permissive_compiles_mapped_part (naming : Naming) (s : Selection) (slots : Slots) (e : Entity)
    (values : Assignments) (condition : Option Constraint) :
    (s.compile naming false slots = (s.trimmed naming).compile naming true slots ∧
      compileInsert naming false e values = compileInsert naming true e (naming.columned values) ∧
      compileUpdate naming false e values condition =
        compileUpdate naming true e (naming.columned values) condition) ∧
    ((∀ compiled slots', s.compile naming true slots = (.ok compiled, slots') →
        s.compile naming false slots = (.ok compiled, slots')) ∧
      (∀ m, compileInsert naming true e values = .ok m → compileInsert naming false e values = .ok m) ∧
      ∀ m, compileUpdate naming true e values condition = .ok m →
        compileUpdate naming false e values condition = .ok m) ∧
    ∀ c : Constraint, ∀ g ∈ c.referencedFields, naming.columnName g = none →
      ∃ f, naming.firstUnmapped c.referencedFields = some f ∧ ∀ strict : Bool,
        ({ s with constraint := some c } : Selection).compile naming strict slots =
          (s.unconditional.plan naming strict slots >>= fun _ =>
            .error (.unresolvedColumn f.fullName), slots) ∧
        compileUpdate naming strict e values (some c) =
          (compileUpdate naming strict e values none >>= fun _ =>
            .error (.unresolvedColumn f.fullName)) ∧
        compileDelete naming e (some c) = .error (.unresolvedColumn f.fullName) := by
  refine ⟨⟨?_, compileInsert_permissive e values, compileUpdate_permissive e values condition⟩,
    ⟨fun _ _ => Selection.compile_of_strict, fun _ => compileInsert_of_strict,
      fun _ => compileUpdate_of_strict⟩, fun c g hg hnone => ?_⟩
  · rw [Selection.compile_permissive]
  · cases hfirst : naming.firstUnmapped c.referencedFields with
    | none =>
      have hmapped := Naming.firstUnmapped_eq_none_iff.1 hfirst g hg
      rw [hnone] at hmapped
      cases hmapped
    | some f =>
      exact ⟨f, rfl, fun strict => ⟨Selection.compile_of_unmapped hfirst strict slots s,
        compileUpdate_of_unmapped hfirst strict e values, compileDelete_of_unmapped hfirst e⟩⟩

/-- The entity's own name as table, and a column for each field but the name of a person. -/
def Naming.nameless : Naming := ⟨(·.name), fun f => if f = .personName then none else some f.name⟩

/-- The name and the number of persons, in the order of both. -/
def Selection.named : Selection :=
  { fields := [(.personName, ⟨.personName, 0⟩), (.personId, ⟨.personId, 1⟩)]
    constraint := none
    orders := [(.personName, .asc), (.personId, .desc)]
    top := some 2
    distinct := [.personName] }

/-- A person's name and number. -/
def Assignments.named : Assignments :=
  [(.personName, .literal (.string "Ada")), (.personId, .literal (.integer 7))]

/-- The first of two persons, or one without name. -/
def Constraint.firstOrNameless : Constraint :=
  .or (.compareValue .equal .personId (.integer 1)) (.isNull false .personName)

/-- Where names have no column, the mapped part of each request compiles, and so does the whole if the
name may be skipped; a condition on the name is refused either way. -/
theorem permissive_compiles_mapped_part_nameless :
    let free : Slots := #[⟨none, none⟩, ⟨none, none⟩]
    let selected : Except QueryError CompiledSelect × Slots :=
      (.ok ⟨"SELECT person.id FROM person ORDER BY id DESC LIMIT 2",
        [(.personId, ⟨.personId, 1⟩)], []⟩, #[⟨none, none⟩, ⟨some 1, none⟩])
    let inserted : Except QueryError CompiledMutation :=
      .ok ⟨"INSERT INTO person (id) VALUES (?)", [(.personId, .literal (.integer 7))], none,
        [⟨1, .personId⟩]⟩
    let updated : Except QueryError CompiledMutation :=
      .ok ⟨"UPDATE person SET id = ?", [(.personId, .literal (.integer 7))], none,
        [⟨1, .personId⟩]⟩
    let mapped := Naming.nameless.columned .named
    (Selection.named.compile .nameless false free = selected ∧
      (Selection.named.trimmed .nameless).compile .nameless true free = selected ∧
      (Selection.named.trimmed .nameless).compile .nameless false free = selected) ∧
    (compileInsert .nameless true .person mapped = inserted ∧
      compileInsert .nameless false .person mapped = inserted) ∧
    (compileUpdate .nameless true .person mapped none = updated ∧
      compileUpdate .nameless false .person mapped none = updated) ∧
    (Field.personName ∈ Constraint.firstOrNameless.referencedFields ∧
      Naming.nameless.columnName .personName = none ∧
      compileDelete .nameless .person (some .firstOrNameless) =
        .error (.unresolvedColumn "person.name")) := by
  intro free selected inserted updated mapped
  have hselected : Selection.named.compile .nameless false free = selected := by cbv
  have hinserted : compileInsert .nameless true .person mapped = inserted := by cbv
  have hupdated : compileUpdate .nameless true .person mapped none = updated := by cbv
  have hmem : Field.personName ∈ Constraint.firstOrNameless.referencedFields := by decide
  obtain ⟨⟨hwhole, -, -⟩, -, hcondition⟩ :=
    permissive_compiles_mapped_part .nameless .named free .person .named none
  obtain ⟨-, ⟨hselect, hinsert, hupdate⟩, -⟩ :=
    permissive_compiles_mapped_part .nameless (Selection.named.trimmed .nameless) free .person mapped
      none
  have hstrict := hwhole.symm.trans hselected
  obtain ⟨f, hfirst, hrefused⟩ := hcondition .firstOrNameless .personName hmem rfl
  obtain rfl : Field.personName = f := Option.some.inj hfirst
  exact ⟨⟨hselected, hstrict, hselect _ _ hstrict⟩, ⟨hinserted, hinsert _ hinserted⟩,
    ⟨hupdated, hupdate _ hupdated⟩, hmem, rfl, (hrefused true).2.2⟩

end EntityQuery
