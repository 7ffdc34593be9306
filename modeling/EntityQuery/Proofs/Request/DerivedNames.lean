import EntityQuery.Proofs.Request.Mutating
import EntityQuery.Proofs.Sql.Spelling

/-!
# Derived names in statements

The usual naming derives the names of tables and columns from those of entities and fields, and wraps the
words that it is given as reserved. Unless it is told otherwise these are `COUNT`, `WHERE`, `FROM` and
`SELECT`. The grammar reserves more words; a name that becomes one of the others is read as the word, as
long as the naming is not told to wrap it.

* `Text.isIdentifier`: a name of ASCII letters, digits and underscores. Derived from it, a name is a word
  in capitals (`upperSnake_capitals`).
* `NamingRules.ofWord?_sqlName_iff`: which derived names are reserved words of the grammar;
* `Entity.Writes` are the texts that requests over an entity compile to, each with the fields it names;
* `derived_names_are_read_iff`: all of them are read if, and only if, no name of the entity becomes a
  reserved word that is not wrapped;
* `derived_names_are_not_always_read`: `order` becomes such a word.
-/

namespace EntityQuery

open Sql

/-! ## Identifiers and capitals -/

namespace Text

/-- Whether an identifier may start with `c`. -/
def startsIdentifier (c : Char) : Bool := c.isAlpha || c == '_'

/-- Whether an identifier may go on with `c`. -/
def continuesIdentifier (c : Char) : Bool := c.isAlphanum || c == '_'

/-- Whether a name is an identifier: a letter or an underscore, and then letters, digits and
underscores, all of them ASCII. -/
def isIdentifier (name : String) : Bool :=
  match name.toList with
  | [] => false
  | c :: cs => startsIdentifier c && cs.all continuesIdentifier

/-- Whether `c` is an upper-case letter, a digit or an underscore. -/
def isCapital (c : Char) : Bool := c.isUpper || c.isDigit || c == '_'

variable {c : Char}

theorem continuesIdentifier_of_starts (h : startsIdentifier c = true) : continuesIdentifier c = true := by
  rw [startsIdentifier, Bool.or_eq_true] at h
  rw [continuesIdentifier, Bool.or_eq_true, Char.isAlphanum, Bool.or_eq_true]
  exact h.imp_left .inl

/-- Identifiers are ASCII. -/
theorem ascii_of_continuesIdentifier (h : continuesIdentifier c = true) : c.val < 0x80 := by
  rw [UInt32.lt_iff_toNat_lt]
  simp only [continuesIdentifier, Char.isAlphanum, Char.isAlpha, Char.isUpper, Char.isLower,
    Char.isDigit, Bool.or_eq_true, Bool.and_eq_true, decide_eq_true_eq, ge_iff_le,
    UInt32.le_iff_toNat_le, beq_iff_eq] at h
  rcases h with ((⟨-, h⟩ | ⟨-, h⟩) | ⟨-, h⟩) | rfl
  · exact h.trans_lt (by decide)
  · exact h.trans_lt (by decide)
  · exact h.trans_lt (by decide)
  · decide

theorem isCapital_toUpper (h : continuesIdentifier c = true) : isCapital c.toUpper = true :=
  ascii_forall (P := fun c => continuesIdentifier c = true → isCapital c.toUpper = true) (by decide)
    (ascii_of_continuesIdentifier h) h

theorem startsName_toUpper (h : startsIdentifier c = true) : startsName c.toUpper = true :=
  ascii_forall (P := fun c => startsIdentifier c = true → startsName c.toUpper = true) (by decide)
    (ascii_of_continuesIdentifier (continuesIdentifier_of_starts h)) h

theorem continuesIdentifier_of_isCapital (h : isCapital c = true) : continuesIdentifier c = true := by
  simp only [isCapital, Bool.or_eq_true] at h
  simp only [continuesIdentifier, Char.isAlphanum, Char.isAlpha, Bool.or_eq_true]
  exact h.imp_left (.imp_left .inl)

/-- Capitals stand in words, and stay when they are upper-cased. -/
theorem isCapital_facts (h : isCapital c = true) :
    upper c = [c] ∧ continuesName c = true := by
  have hascii := ascii_of_continuesIdentifier (continuesIdentifier_of_isCapital h)
  rw [upper_of_ascii hascii]
  exact ascii_forall (P := fun c => isCapital c = true →
    [c.toUpper] = [c] ∧ continuesName c = true) (by decide) hascii h

end Text

/-- A word in capitals. -/
structure IsCapitals (word : String) : Prop where
  /-- the first character is one that starts a name -/
  starts : ∃ c cs, word.toList = c :: cs ∧ startsName c = true
  /-- all are capitals -/
  capital : ∀ c ∈ word.toList, Text.isCapital c = true

namespace IsCapitals

variable {word : String} (h : IsCapitals word)
include h

theorem isWord : IsWord word := by
  obtain ⟨c, cs, hword, hstart⟩ := h.starts
  refine isWord_of_shape hword hstart fun x hx => ?_
  have hmem : x ∈ word.toList := by
    rw [hword]
    exact List.mem_cons_of_mem _ hx
  exact (Text.isCapital_facts (h.capital x hmem)).2

theorem uppercased_eq : Text.uppercased word = word := by
  have hchars (cs : List Char) (hcs : ∀ c ∈ cs, Text.isCapital c = true) : cs.flatMap Text.upper = cs := by
    induction cs with
    | nil => rfl
    | cons c cs ih =>
      rw [List.flatMap_cons, (Text.isCapital_facts (hcs c List.mem_cons_self)).1,
        ih fun x hx => hcs x (List.mem_cons_of_mem _ hx)]
      rfl
  rw [Text.uppercased, hchars word.toList h.capital, String.ofList_toList]

/-- In capitals, a reserved word is its text. -/
theorem ofWord?_iff (k : Keyword) : Keyword.ofWord? word = some k ↔ word = k.text := by
  constructor
  · intro hword
    have htext := List.find?_some hword
    rw [h.uppercased_eq] at htext
    exact (beq_iff_eq.1 htext).symm
  · rintro rfl
    exact k.ofWord?_text

end IsCapitals

/-! ## Derived names -/

theorem upperSnakeFrom_capital {cs : List Char} (h : ∀ c ∈ cs, Text.continuesIdentifier c = true)
    (previous : Option Char) : ∀ c ∈ upperSnakeFrom previous cs, Text.isCapital c = true := by
  induction cs generalizing previous with
  | nil => exact fun c hc => nomatch hc
  | cons c cs ih =>
    have hc := h c List.mem_cons_self
    intro x hx
    rw [upperSnakeFrom, Text.upper_of_ascii (Text.ascii_of_continuesIdentifier hc), List.mem_append,
      List.mem_append] at hx
    rcases hx with (hx | hx) | hx
    · split at hx
      · obtain rfl := List.mem_singleton.1 hx
        rfl
      · cases hx
    · obtain rfl := List.mem_singleton.1 hx
      exact Text.isCapital_toUpper hc
    · exact ih (fun d hd => h d (List.mem_cons_of_mem _ hd)) (some c) x hx

/-- An identifier becomes a word in capitals. -/
theorem upperSnake_capitals {name : String} (h : Text.isIdentifier name = true) :
    IsCapitals (upperSnake name) := by
  rw [Text.isIdentifier] at h
  split at h
  · cases h
  · next c cs hname =>
    rw [Bool.and_eq_true] at h
    obtain ⟨hc, hcs⟩ := h
    have hall : ∀ x ∈ c :: cs, Text.continuesIdentifier x = true :=
      List.forall_mem_cons.2 ⟨Text.continuesIdentifier_of_starts hc, List.all_eq_true.1 hcs⟩
    have hlist : (upperSnake name).toList = upperSnakeFrom none (c :: cs) := by
      rw [toList_upperSnake, hname]
    refine ⟨⟨c.toUpper, upperSnakeFrom (some c) cs, ?_, Text.startsName_toUpper hc⟩, ?_⟩
    · rw [hlist, upperSnakeFrom_none_cons,
        Text.upper_of_ascii (Text.ascii_of_continuesIdentifier (hall c List.mem_cons_self))]
      rfl
    · rw [hlist]
      exact upperSnakeFrom_capital hall none

/-- A word in capitals that is wrapped is a word in capitals, and no reserved one. -/
theorem IsCapitals.wrapped {word : String} (h : IsCapitals word) :
    IsCapitals ("_" ++ word ++ "_") ∧ ∀ k : Keyword, "_" ++ word ++ "_" ≠ k.text := by
  have hlist := toList_wrapped word
  refine ⟨⟨⟨'_', _, hlist, rfl⟩, fun c hc => ?_⟩, fun k hk => ?_⟩
  · rw [hlist, List.mem_cons, List.mem_append, List.mem_singleton] at hc
    rcases hc with rfl | hc | rfl
    · rfl
    · exact h.capital c hc
    · rfl
  · have hhead : k.text.toList.head? = some '_' := by rw [← hk, hlist]; rfl
    cases k <;> exact absurd hhead (by decide)

namespace NamingRules

theorem sqlName_default (name : String) : ({} : NamingRules).sqlName name =
    if ({} : NamingRules).isReserved (upperSnake name) = true then "_" ++ upperSnake name ++ "_"
    else upperSnake name := rfl

variable {name : String} (h : Text.isIdentifier name = true)
include h

/-- A derived name is a word in capitals. -/
theorem sqlName_capitals : IsCapitals (({} : NamingRules).sqlName name) := by
  have hcapitals := upperSnake_capitals h
  rw [sqlName_default]
  by_cases hreserved : ({} : NamingRules).isReserved (upperSnake name) = true
  · rw [if_pos hreserved]
    exact hcapitals.wrapped.1
  · rw [if_neg hreserved]
    exact hcapitals

/-- A derived name is a reserved word of the grammar if it is one in capitals, and not one of those that
are wrapped. -/
theorem ofWord?_sqlName_iff (k : Keyword) :
    Keyword.ofWord? (({} : NamingRules).sqlName name) = some k ↔
      upperSnake name = k.text ∧ k ∉ [.SELECT, .FROM, .WHERE] := by
  have hcapitals := upperSnake_capitals h
  have hlisted (k : Keyword) : ({} : NamingRules).isReserved k.text = true ↔
      k ∈ [Keyword.SELECT, .FROM, .WHERE] := by
    cases k <;> decide
  rw [(sqlName_capitals h).ofWord?_iff, sqlName_default]
  by_cases hreserved : ({} : NamingRules).isReserved (upperSnake name) = true
  · rw [if_pos hreserved]
    refine iff_of_false (hcapitals.wrapped.2 k) ?_
    rintro ⟨hk, hfree⟩
    rw [hk] at hreserved
    exact hfree ((hlisted k).1 hreserved)
  · rw [if_neg hreserved]
    refine ⟨fun hk => ⟨hk, fun hmem => ?_⟩, And.left⟩
    rw [hk] at hreserved
    exact hreserved ((hlisted k).2 hmem)

end NamingRules

/-- No reserved word of the grammar comes of the name, but those that are wrapped. -/
def IsFree (name : String) : Prop :=
  ∀ k : Keyword, upperSnake name = k.text → k ∈ [.SELECT, .FROM, .WHERE]

/-- A name that is derived from a free one can be read. -/
theorem IsFree.isName_sqlName {name : String} (hfree : IsFree name)
    (h : Text.isIdentifier name = true) : IsName (({} : NamingRules).sqlName name) := by
  refine (isName_of_word (NamingRules.sqlName_capitals h).isWord ?_).1
  cases hword : Keyword.ofWord? (({} : NamingRules).sqlName name) with
  | none => rfl
  | some k =>
    obtain ⟨hk, hunlisted⟩ := (NamingRules.ofWord?_sqlName_iff h k).1 hword
    exact absurd (hfree k hk) hunlisted

/-- Of any other comes a reserved word. -/
theorem exists_ofWord?_of_not_isFree {name : String} (hfree : ¬ IsFree name)
    (h : Text.isIdentifier name = true) :
    ∃ k, Keyword.ofWord? (({} : NamingRules).sqlName name) = some k := by
  obtain ⟨k, hk⟩ := Classical.not_forall.1 hfree
  obtain ⟨hk, hunlisted⟩ := Classical.not_imp.1 hk
  exact ⟨k, (NamingRules.ofWord?_sqlName_iff h k).2 ⟨hk, hunlisted⟩⟩

/-! ## Entities with derived names -/

/-- The entity and its fields have identifiers for names, and fix no names for the table and columns. -/
structure Entity.Derived (e : Entity) : Prop where
  /-- the entity has an identifier -/
  name : Text.isIdentifier e.name = true
  /-- the table has no name of its own -/
  table : e.table = none
  /-- the fields have identifiers -/
  fields : ∀ d ∈ e.decls, Text.isIdentifier d.name = true
  /-- the columns have no names of their own -/
  columns : ∀ d ∈ e.decls, d.column = none

namespace Entity.Derived

variable {e : Entity} (h : e.Derived) (rules : NamingRules) (unmapped : List Field)
include h

theorem tableName_eq : (Naming.byRules rules unmapped).tableName e = rules.sqlName e.name := by
  change e.table.getD _ = _
  rw [h.table]
  rfl

variable {f : Field} (hf : f.entity = e)
include hf

theorem field_name : Text.isIdentifier f.name = true := by
  subst hf
  exact h.fields f.decl (List.get_mem _ _)

theorem columnName_eq {column : String}
    (hcolumn : (Naming.byRules rules unmapped).columnName f = some column) :
    column = rules.sqlName f.name := by
  subst hf
  have hnone : f.column = none := h.columns f.decl (List.get_mem _ _)
  rw [Naming.byRules] at hcolumn
  dsimp only at hcolumn
  rw [hnone] at hcolumn
  split at hcolumn
  · cases hcolumn
  · exact (Option.some.inj hcolumn).symm

end Entity.Derived

/-! ## Texts of requests -/

/-- The texts that requests over an entity compile to, each with the fields that it names. -/
inductive Entity.Writes (e : Entity) (naming : Naming) (strict : Bool) : List Field → String → Prop where
  /-- a select -/
  | select {s : Selection} {slots slots' : Slots} {compiled : CompiledSelect}
      (h : s.compile naming strict slots = (.ok compiled, slots'))
      (hown : ∀ f ∈ s.fieldsNamed, f.entity = e) (htop : ∀ n ∈ s.top, n < UInt64.size) :
      e.Writes naming strict s.fieldsNamed compiled.sql
  /-- an insert -/
  | insert {values : Assignments} {m : CompiledMutation}
      (h : compileInsert naming strict e values = .ok m)
      (hown : ∀ f ∈ values.map Prod.fst, f.entity = e) :
      e.Writes naming strict (values.map Prod.fst) m.sql
  /-- an update -/
  | update {values : Assignments} {condition : Option Constraint} {m : CompiledMutation}
      (h : compileUpdate naming strict e values condition = .ok m)
      (hown : ∀ f ∈ values.map Prod.fst ++ conditionFields condition, f.entity = e) :
      e.Writes naming strict (values.map Prod.fst ++ conditionFields condition) m.sql
  /-- a delete -/
  | delete {condition : Option Constraint} {m : CompiledMutation}
      (h : compileDelete naming e condition = .ok m)
      (hown : ∀ f ∈ conditionFields condition, f.entity = e) :
      e.Writes naming strict (conditionFields condition) m.sql

theorem Entity.Writes.own {e : Entity} {naming : Naming} {strict : Bool} {fields : List Field}
    {sql : String} (h : e.Writes naming strict fields sql) : ∀ f ∈ fields, f.entity = e := by
  cases h <;> assumption

/-- A text is read if its names can be. -/
theorem Entity.Writes.parses {e : Entity} {naming : Naming} {strict : Bool} {fields : List Field}
    {sql : String} (h : e.Writes naming strict fields sql) (htable : IsName (naming.tableName e))
    (hcolumns : ∀ f ∈ fields, ∀ column, naming.columnName f = some column → IsName column) :
    ∃ parsed, parse sql = .ok parsed := by
  have hreadable : naming.Readable fields := fun f hf => ⟨h.own f hf ▸ htable, hcolumns f hf⟩
  cases h with
  | select h _ htop =>
    obtain ⟨hmap, hne, rfl⟩ := Selection.compile_eq_ok h
    exact ⟨_, Selection.parse_written hne hmap hreadable htop⟩
  | insert h =>
    obtain ⟨hne, rfl⟩ := compileInsert_eq_ok h
    exact ⟨_, parse_insertWritten htable hne hreadable⟩
  | update h =>
    obtain ⟨hne, hmap, rfl⟩ := compileUpdate_eq_ok h
    exact ⟨_, parse_updateWritten htable hne hmap hreadable⟩
  | delete h =>
    obtain ⟨hmap, rfl⟩ := compileDelete_eq_ok h
    exact ⟨_, parse_deleteWritten htable hmap hreadable⟩

/-! ## Reserved words in the place of names -/

section Reserved

variable {k : Keyword} {word : String} (hword : IsWord word) (hk : Keyword.ofWord? word = some k)
include hword hk

theorem spells_reserved : Spells Stops word.toList [.keyword k] := by
  have htoken := spells_word hword fun _ (h : Stops _) _ _ hc => (stops_head h hc).1
  rwa [wordToken, hk] at htoken

/-- A delete from a reserved word is refused. -/
theorem parse_delete_reserved :
    parse ("DELETE FROM " ++ word) = .error (.expectedName (some (.keyword k))) := by
  have hopening : Spells Anything "DELETE FROM ".toList [.keyword .DELETE, .keyword .FROM] :=
    spells_opening .DELETE [.FROM]
  have hspells := hopening.append_closed (spells_reserved hword hk)
  rw [← String.toList_append] at hspells
  rw [parse, hspells.tokenize_eq]
  rfl

/-- An update of a reserved word is refused. -/
theorem parse_update_reserved {table : String} (htable : IsName table) :
    parse ("UPDATE " ++ table ++ " SET " ++ (word ++ " = ?")) =
      .error (.expectedName (some (.keyword k))) := by
  have hopening : Spells Anything "UPDATE ".toList [.keyword .UPDATE] := spells_opening .UPDATE []
  have hset : Spells Anything " SET ".toList [.keyword .SET] := spells_spaced [.SET]
  have hmark : Spells Stops " = ?".toList [.symbol .equal, .symbol .placeholder] :=
    (spells_comparison .equal).append_closed spells_placeholder.stops
  have hspells := ((hopening.append_closed (spells_nameTokens htable)).append_phrase hset
    rfl).append_closed ((spells_reserved hword hk).append_phrase hmark rfl)
  simp only [← String.toList_append] at hspells
  rw [parse, hspells.tokenize_eq]
  rfl

end Reserved

/-- A delete of all rows is refused if the table has a reserved word for its name. -/
theorem Entity.writes_delete_reserved {e : Entity} {naming : Naming} {k : Keyword} (strict : Bool)
    (hword : IsWord (naming.tableName e)) (hk : Keyword.ofWord? (naming.tableName e) = some k) :
    ∃ fields sql, e.Writes naming strict fields sql ∧
      parse sql = .error (.expectedName (some (.keyword k))) := by
  have hnone : naming.Maps (conditionFields none) := fun _ hf => nomatch hf
  have hcompile := compileDelete_ok hnone e
  refine ⟨_, _, .delete hcompile (fun _ hf => nomatch hf), ?_⟩
  have hsql : (deleteWritten naming e none).sql = "DELETE FROM " ++ naming.tableName e :=
    String.append_empty
  rw [hsql]
  exact parse_delete_reserved hword hk

/-- An update of a column is refused if the column has a reserved word for its name. -/
theorem Field.writes_update_reserved {f : Field} {naming : Naming} {k : Keyword} {column : String}
    (strict : Bool) (htable : IsName (naming.tableName f.entity))
    (hcolumn : naming.columnName f = some column) (hword : IsWord column)
    (hk : Keyword.ofWord? column = some k) :
    ∃ fields sql, f.entity.Writes naming strict fields sql ∧
      parse sql = .error (.expectedName (some (.keyword k))) := by
  have hsome : (naming.columnName f).isSome := by rw [hcolumn]; rfl
  let values : Assignments := [(f, .literal .null)]
  have hmaps : naming.Maps (values.map Prod.fst) := by
    intro g hg
    obtain rfl := List.mem_singleton.1 hg
    exact hsome
  have hne : naming.columned values ≠ [] := by
    rw [Naming.columned_of_maps hmaps]
    exact List.cons_ne_nil _ _
  have hnone : naming.Maps (conditionFields none) := fun _ hf => nomatch hf
  have hcompile : compileUpdate naming strict f.entity values none =
      .ok (updateWritten naming f.entity values none) :=
    compileUpdate_ok (fun _ => hmaps) hne hnone f.entity
  refine ⟨_, _, .update hcompile fun g hg => ?_, ?_⟩
  · obtain rfl := List.mem_singleton.1 hg
    rfl
  · have hsql : (updateWritten naming f.entity values none).sql =
        "UPDATE " ++ naming.tableName f.entity ++ " SET " ++ (column ++ " = ?") := by
      have htext : naming.columnText f = column := by rw [Naming.columnText, hcolumn]; rfl
      rw [updateWritten, assignedOnes_of_maps hmaps, ← htext]
      exact String.append_empty
    rw [hsql]
    exact parse_update_reserved hword hk htable

/-- When all requests over an entity are read.

Under the usual naming, take an entity whose names are derived from identifiers. A request over it is
read as a statement if the names of the entity and of the fields that it names are free, so that no
reserved word of the grammar comes of them but `SELECT`, `FROM` and `WHERE`, which are wrapped. As soon as
another one comes of a name of the entity or of a field that has a column, some request is not read. -/
theorem derived_names_are_read_iff (unmapped : List Field) (strict : Bool) {e : Entity} (h : e.Derived) :
    let naming := Naming.byRules {} unmapped
    (∀ fields sql, e.Writes naming strict fields sql → IsFree e.name →
      (∀ f ∈ fields, (naming.columnName f).isSome → IsFree f.name) → ∃ parsed, parse sql = .ok parsed) ∧
    ((∀ fields sql, e.Writes naming strict fields sql → ∃ parsed, parse sql = .ok parsed) ↔
      ∀ name ∈ e.name :: (naming.mappedFields e).map Field.name, IsFree name) := by
  intro naming
  have htable : naming.tableName e = ({} : NamingRules).sqlName e.name := h.tableName_eq _ _
  have hread : ∀ fields sql, e.Writes naming strict fields sql → IsFree e.name →
      (∀ f ∈ fields, (naming.columnName f).isSome → IsFree f.name) →
      ∃ parsed, parse sql = .ok parsed := by
    intro fields sql hwrites hname hfields
    refine hwrites.parses (htable ▸ hname.isName_sqlName h.name) fun f hf column hcolumn => ?_
    have hown := hwrites.own f hf
    rw [h.columnName_eq _ _ hown hcolumn]
    exact (hfields f hf (by rw [hcolumn]; rfl)).isName_sqlName (h.field_name hown)
  refine ⟨hread, fun hall => ?_, fun hfree fields sql hwrites => ?_⟩
  · have hrefused : ∀ k, ¬ ∃ fields sql, e.Writes naming strict fields sql ∧
        parse sql = .error (.expectedName (some (.keyword k))) := by
      rintro k ⟨fields, sql, hwrites, herror⟩
      obtain ⟨parsed, hparse⟩ := hall fields sql hwrites
      cases herror.symm.trans hparse
    have hname : IsFree e.name := by
      by_contra hfree
      obtain ⟨k, hk⟩ := exists_ofWord?_of_not_isFree hfree h.name
      have hword := (NamingRules.sqlName_capitals h.name).isWord
      rw [← htable] at hk hword
      exact hrefused k (e.writes_delete_reserved strict hword hk)
    refine List.forall_mem_cons.2 ⟨hname, fun name hmem => ?_⟩
    obtain ⟨f, hf, rfl⟩ := List.mem_map.1 hmem
    obtain ⟨hf, hsome⟩ := List.mem_filter.1 hf
    obtain rfl := Entity.entity_of_mem_fields hf
    obtain ⟨column, hcolumn⟩ := Option.isSome_iff_exists.1 hsome
    -- the table can be read by now, so the column is what the update fails at
    by_contra hfree
    obtain ⟨k, hk⟩ := exists_ofWord?_of_not_isFree hfree (h.field_name rfl)
    have hword := (NamingRules.sqlName_capitals (h.field_name rfl)).isWord
    rw [← h.columnName_eq {} unmapped rfl hcolumn] at hk hword
    exact hrefused k (f.writes_update_reserved strict (htable ▸ hname.isName_sqlName h.name) hcolumn
      hword hk)
  · refine hread fields sql hwrites (hfree _ List.mem_cons_self) fun f hf hsome => ?_
    refine hfree _ (List.mem_cons_of_mem _ (List.mem_map_of_mem ?_))
    exact hwrites.own f hf ▸ Naming.mem_mappedFields hsome

/-- An entity whose name and count are wrapped. -/
def Entity.wrapped : Entity :=
  ⟨0, "from", none, [⟨"firstName", .string, false, none⟩, ⟨"count", .integer, false, none⟩]⟩

/-- All requests over it are read. -/
theorem derived_names_are_read_iff_wrapped :
    Entity.wrapped.Derived ∧
      ∀ fields sql, Entity.wrapped.Writes (.byRules {} []) true fields sql →
        ∃ parsed, parse sql = .ok parsed := by
  have hderived : Entity.wrapped.Derived := ⟨by decide, rfl, by decide, by decide⟩
  refine ⟨hderived, (derived_names_are_read_iff [] true hderived).2.2 fun name hname k => ?_⟩
  have hnames : name ∈ ["from", "firstName", "count"] := hname
  simp only [List.mem_cons, List.not_mem_nil, or_false] at hnames
  rcases hnames with rfl | rfl | rfl <;> cases k <;> decide

/-! ## A name that is not wrapped -/

/-- A person with an order. -/
def Entity.ordered : Entity := ⟨0, "person", none, [⟨"order", .integer, false, none⟩]⟩

/-- The orders of all persons. -/
def Selection.allOrders : Selection :=
  ⟨[(⟨.ordered, 0, by decide⟩, ⟨⟨.ordered, 0, by decide⟩, 0⟩)], none, [], none, []⟩

/-- The selection is compiled, and its text is not read. -/
theorem compile_allOrders :
    ∃ slots, Selection.allOrders.compile (.byRules {} []) false #[⟨none, none⟩] =
        (.ok (Selection.allOrders.written (.byRules {} [])), slots) ∧
      parse (Selection.allOrders.written (.byRules {} [])).sql =
        .error (.expectedName (some (.keyword .ORDER))) := by
  have hsql : (Selection.allOrders.written (.byRules {} [])).sql = "SELECT PERSON.ORDER FROM PERSON" := by
    decide
  refine ⟨_, Selection.compile_ok nofun nofun (List.cons_ne_nil _ _) ⟨?_, ?_, ?_⟩, ?_⟩
  · decide
  · decide
  · decide
  · rw [hsql]
    cbv

/-- So not all requests over names that are derived from identifiers are read. -/
theorem derived_names_are_not_always_read :
    ¬ ∀ (e : Entity) (strict : Bool) (fields : List Field) (sql : String), e.Derived →
      e.Writes (.byRules {} []) strict fields sql → ∃ parsed, parse sql = .ok parsed := by
  intro h
  obtain ⟨slots, hcompile, herror⟩ := compile_allOrders
  have hderived : Entity.ordered.Derived := ⟨by decide, rfl, by decide, by decide⟩
  obtain ⟨parsed, hparse⟩ := h _ _ _ _ hderived (.select hcompile (by decide) (by decide))
  cases herror.symm.trans hparse

end EntityQuery
