import EntityQuery.Proofs.Storage.Spellings

/-!
# Names that the naming rules keep

The naming rules put an underscore between a digit and an upper-case letter behind it, and they do so even
if no letter of the name is in lower case. So a name in capitals may be derived to another name, and a derived
name may be derived further.

* `Text.IsUpperSnake` are the names that are derived to themselves (`upperSnake_eq_self_iff`). What is derived
  from a name is such a one if no digit stands right before a lower-case letter in it
  (`isUpperSnake_upperSnake_iff`).
* `capitals_are_kept_iff`: the names that the rules keep, and those of tables and columns among them;
* `capitals_are_not_always_kept`: `LINE2TOTAL` is not kept.
-/

namespace EntityQuery

/-! ## Neighbours in a name -/

namespace Text

/-- No character with `p` stands right before one with `q`. -/
def NeverBefore (p q : Char → Bool) (s : String) : Prop :=
  s.toList.IsChain fun a b => ¬ (p a = true ∧ q b = true)

instance (p q : Char → Bool) (s : String) : Decidable (NeverBefore p q s) :=
  inferInstanceAs (Decidable (List.IsChain _ _))

/-- No letter of a name is in lower case, as far as ASCII goes. -/
def InCapitals (s : String) : Prop := ∀ c ∈ s.toList, c.isLower = false

instance (s : String) : Decidable (InCapitals s) :=
  decidable_of_iff (s.toList.all (fun c => !c.isLower) = true) (by simp [InCapitals])

/-- A name in upper snake case is in capitals, and keeps digits apart from letters behind them. -/
def IsUpperSnake (s : String) : Prop := InCapitals s ∧ NeverBefore Char.isDigit Char.isUpper s

instance (s : String) : Decidable (IsUpperSnake s) := inferInstanceAs (Decidable (_ ∧ _))

theorem toUpper_eq_self_iff {c : Char} : c.toUpper = c ↔ c.isLower = false := by
  constructor
  · intro h
    rw [← h, Char.isLower_toUpper_eq_false]
  · intro h
    exact Char.toUpper_eq_of_not_isLower (Bool.not_eq_true _ ▸ h)

end Text

/-! ## Where underscores go -/

theorem startsWord_some_iff {a b : Char} (ha : a.val < 0x80) (hb : b.val < 0x80) :
    startsWord (some a) b = true ↔ b.isUpper = true ∧ (a.isLower = true ∨ a.isDigit = true) := by
  rw [startsWord, Text.isUppercase, if_pos hb, Option.any_some, Text.isLowercase, if_pos ha,
    Bool.and_eq_true, Bool.or_eq_true]

/-- A derived name is not shorter. -/
theorem length_le_upperSnakeFrom (previous : Option Char) (cs : List Char) :
    cs.length ≤ (upperSnakeFrom previous cs).length := by
  induction cs generalizing previous with
  | nil => exact Nat.le_refl 0
  | cons c cs ih =>
    have hc := Text.length_upper_pos c
    have hcs := ih (some c)
    rw [upperSnakeFrom, List.length_append, List.length_append, List.length_cons]
    omega

/-- The characters of a derived name are underscores, and what its letters are in upper case. -/
theorem mem_upperSnakeFrom {previous : Option Char} {cs : List Char} {d : Char}
    (h : d ∈ upperSnakeFrom previous cs) : d = '_' ∨ ∃ c ∈ cs, d ∈ Text.upper c := by
  induction cs generalizing previous with
  | nil => cases h
  | cons c cs ih =>
    rw [upperSnakeFrom, List.mem_append, List.mem_append] at h
    rcases h with (h | h) | h
    · split at h
      · exact .inl (List.mem_singleton.1 h)
      · cases h
    · exact .inr ⟨c, List.mem_cons_self, h⟩
    · rcases ih h with hd | ⟨x, hx, hd⟩
      · exact .inl hd
      · exact .inr ⟨x, List.mem_cons_of_mem _ hx, hd⟩

theorem inCapitals_upperSnake (name : String) : Text.InCapitals (upperSnake name) := by
  intro d h
  rw [toList_upperSnake] at h
  rcases mem_upperSnakeFrom h with rfl | ⟨c, -, hd⟩
  · rfl
  · exact Text.isLower_of_mem_upper hd

/-- The rest of a name is kept if it has no lower-case letters, and no underscore goes into it. -/
theorem upperSnakeFrom_eq_self_iff {cs : List Char} (h : ∀ c ∈ cs, c.val < 0x80) (p : Char) :
    upperSnakeFrom (some p) cs = cs ↔
      (∀ c ∈ cs, c.isLower = false) ∧ (p :: cs).IsChain fun a b => ¬ startsWord (some a) b = true := by
  induction cs generalizing p with
  | nil => simp [upperSnakeFrom]
  | cons c cs ih =>
    obtain ⟨hc, hcs⟩ := List.forall_mem_cons.1 h
    rw [upperSnakeFrom, Text.upper_of_ascii hc, List.isChain_cons_cons, List.forall_mem_cons]
    by_cases hword : startsWord (some p) c = true
    · -- with an underscore, the name would grow
      rw [if_pos hword]
      refine iff_of_false (fun heq => ?_) fun hkept => hkept.2.1 hword
      have hlength := congrArg List.length heq
      have hrest := length_le_upperSnakeFrom (some c) cs
      simp only [List.length_append, List.length_cons, List.length_nil] at hlength
      omega
    · rw [if_neg hword, List.nil_append, List.singleton_append, List.cons.injEq, ih hcs,
        Text.toUpper_eq_self_iff]
      tauto

/-- A digit comes right before an upper-case letter in a derived name where it comes right before a
lower-case one in the name itself. -/
theorem isChain_upperSnakeFrom_iff {cs : List Char} (h : ∀ c ∈ cs, c.val < 0x80) {p : Char}
    (hp : p.val < 0x80) :
    (p.toUpper :: upperSnakeFrom (some p) cs).IsChain (fun a b => ¬ (a.isDigit = true ∧ b.isUpper = true)) ↔
      (p :: cs).IsChain fun a b => ¬ (a.isDigit = true ∧ b.isLower = true) := by
  induction cs generalizing p with
  | nil => simp [upperSnakeFrom]
  | cons c cs ih =>
    obtain ⟨hc, hcs⟩ := List.forall_mem_cons.1 h
    rw [upperSnakeFrom, Text.upper_of_ascii hc, List.isChain_cons_cons, ← ih hcs hc]
    by_cases hword : startsWord (some p) c = true
    · have hupper := ((startsWord_some_iff hp hc).1 hword).1
      have hlower : ¬ c.isLower = true := Char.not_isLower_of_isUpper hupper
      -- the underscore is neither a digit nor a letter
      rw [if_pos hword]
      simp [List.isChain_cons_cons, hlower]
    · have hdigit : p.toUpper.isDigit = p.isDigit :=
        Text.ascii_forall (P := fun p => p.toUpper.isDigit = p.isDigit) (by decide) hp
      rw [startsWord_some_iff hp hc] at hword
      rw [if_neg (by rwa [startsWord_some_iff hp hc]), List.nil_append, List.singleton_append,
        List.isChain_cons_cons, hdigit, Char.isUpper_toUpper_eq_isAlpha, Char.isAlpha, Bool.or_eq_true]
      tauto

/-! ## Names that are kept -/

section Ascii

variable {name : String} (h : Text.IsAscii name)
include h

theorem isAscii_upperSnake : Text.IsAscii (upperSnake name) := by
  intro d hd
  rw [toList_upperSnake] at hd
  rcases mem_upperSnakeFrom hd with rfl | ⟨c, hc, hd⟩
  · decide
  · rw [Text.upper_of_ascii (h c hc), List.mem_singleton] at hd
    rw [hd]
    exact Text.ascii_forall (P := fun c => c.toUpper.val < 0x80) (by decide) (h c hc)

/-- The names that are derived to themselves. -/
theorem upperSnake_eq_self_iff : upperSnake name = name ↔ Text.IsUpperSnake name := by
  rw [← String.toList_inj, toList_upperSnake, Text.IsUpperSnake, Text.InCapitals, Text.NeverBefore]
  rw [Text.IsAscii] at h
  cases hname : name.toList with
  | nil => simp [upperSnakeFrom]
  | cons c cs =>
    rw [hname] at h
    obtain ⟨hc, hcs⟩ := List.forall_mem_cons.1 h
    rw [upperSnakeFrom_none_cons, Text.upper_of_ascii hc, List.singleton_append, List.cons.injEq,
      upperSnakeFrom_eq_self_iff hcs, Text.toUpper_eq_self_iff, ← and_assoc]
    have hall : (c.isLower = false ∧ ∀ x ∈ cs, x.isLower = false) ↔ ∀ x ∈ c :: cs, x.isLower = false := by
      rw [List.forall_mem_cons]
    rw [hall]
    -- in capitals, only a digit has an underscore put behind it
    refine and_congr_right fun hlower => List.IsChain.iff_of_mem_imp fun a b ha hb => ?_
    rw [startsWord_some_iff (h a ha) (h b hb), hlower a ha]
    simp [and_comm]

/-- Where digits and letters behind them are apart in a derived name. -/
theorem neverBefore_upperSnake_iff :
    Text.NeverBefore Char.isDigit Char.isUpper (upperSnake name) ↔
      Text.NeverBefore Char.isDigit Char.isLower name := by
  rw [Text.NeverBefore, Text.NeverBefore, toList_upperSnake]
  rw [Text.IsAscii] at h
  cases hname : name.toList with
  | nil => simp [upperSnakeFrom]
  | cons c cs =>
    rw [hname, List.forall_mem_cons] at h
    rw [upperSnakeFrom_none_cons, Text.upper_of_ascii h.1, List.singleton_append]
    exact isChain_upperSnakeFrom_iff h.2 h.1

/-- The derived names that are in upper snake case. -/
theorem isUpperSnake_upperSnake_iff :
    Text.IsUpperSnake (upperSnake name) ↔ Text.NeverBefore Char.isDigit Char.isLower name := by
  rw [Text.IsUpperSnake, neverBefore_upperSnake_iff h]
  exact and_iff_right (inCapitals_upperSnake name)

/-- The names that are not derived further. -/
theorem upperSnake_upperSnake_iff :
    upperSnake (upperSnake name) = upperSnake name ↔ Text.NeverBefore Char.isDigit Char.isLower name := by
  rw [upperSnake_eq_self_iff (isAscii_upperSnake h), isUpperSnake_upperSnake_iff h]

end Ascii

/-- Wrapping does not matter to the case of a name. -/
theorem isUpperSnake_wrapped_iff {name : String} :
    Text.IsUpperSnake ("_" ++ name ++ "_") ↔ Text.IsUpperSnake name := by
  simp only [Text.IsUpperSnake, Text.InCapitals, Text.NeverBefore, toList_wrapped]
  refine and_congr ?_ ?_
  · have hunderscore : '_'.isLower = false := by decide
    simp [or_imp, forall_and, hunderscore]
  · rw [List.isChain_cons, List.isChain_append]
    simp

theorem isAscii_wrapped {name : String} (h : Text.IsAscii name) : Text.IsAscii ("_" ++ name ++ "_") := by
  intro c hc
  rw [toList_wrapped, List.mem_cons, List.mem_append, List.mem_singleton] at hc
  rcases hc with rfl | hc | rfl
  · decide
  · exact h c hc
  · decide

namespace NamingRules

variable (rules : NamingRules) {name : String}

theorem sqlName_of_upperCase (h : rules.upperCase = true) :
    rules.sqlName name =
      if rules.isReserved (upperSnake name) = true then "_" ++ upperSnake name ++ "_"
      else upperSnake name := by
  rw [sqlName, if_pos h]

theorem sqlName_of_not_upperCase (h : ¬ rules.upperCase = true) :
    rules.sqlName name = if rules.isReserved name = true then "_" ++ name ++ "_" else name := by
  rw [sqlName, if_neg h]

/-- A reserved name grows by its wrapping. -/
theorem wrapped_eq_iff {derived : String} (h : name.toList.length ≤ derived.toList.length) :
    (if rules.isReserved derived = true then "_" ++ derived ++ "_" else derived) = name ↔
      derived = name ∧ rules.isReserved name = false := by
  by_cases hreserved : rules.isReserved derived = true
  · rw [if_pos hreserved]
    refine iff_of_false (fun heq => ?_) ?_
    · have hlength := congrArg List.length (toList_wrapped derived)
      rw [heq, List.length_cons, List.length_append, List.length_singleton] at hlength
      omega
    · rintro ⟨rfl, hfree⟩
      exact Bool.false_ne_true (hfree.symm.trans hreserved)
  · rw [if_neg hreserved]
    refine ⟨fun heq => ⟨heq, ?_⟩, And.left⟩
    rwa [← heq, ← Bool.not_eq_true]

/-- The names that the rules keep. -/
theorem sqlName_eq_self_iff :
    rules.sqlName name = name ↔
      (rules.upperCase = true → upperSnake name = name) ∧ rules.isReserved name = false := by
  by_cases hcase : rules.upperCase = true
  · have hlength : name.toList.length ≤ (upperSnake name).toList.length := by
      rw [toList_upperSnake]
      exact length_le_upperSnakeFrom none name.toList
    rw [rules.sqlName_of_upperCase hcase, rules.wrapped_eq_iff hlength]
    simp [hcase]
  · rw [rules.sqlName_of_not_upperCase hcase, rules.wrapped_eq_iff (Nat.le_refl _)]
    simp [hcase]

/-- The derived names that the rules keep. -/
theorem sqlName_sqlName_iff (h : Text.IsAscii name) :
    rules.sqlName (rules.sqlName name) = rules.sqlName name ↔
      (rules.upperCase = true → Text.NeverBefore Char.isDigit Char.isLower name) ∧
        rules.isReserved (rules.sqlName name) = false := by
  rw [sqlName_eq_self_iff]
  refine and_congr_left fun _ => forall_congr' fun hcase => ?_
  have hascii := isAscii_upperSnake h
  rw [← isUpperSnake_upperSnake_iff h, rules.sqlName_of_upperCase hcase]
  split
  · rw [upperSnake_eq_self_iff (isAscii_wrapped hascii), isUpperSnake_wrapped_iff]
  · exact upperSnake_eq_self_iff hascii

/-- The names that the rules keep: they are not reserved, and in upper snake case if case matters. -/
def Keeps (name : String) : Prop :=
  (rules.upperCase = true → Text.IsUpperSnake name) ∧ rules.isReserved name = false

instance : Decidable (rules.Keeps name) := inferInstanceAs (Decidable (_ ∧ _))

theorem sqlName_eq_self_iff_keeps (h : Text.IsAscii name) :
    rules.sqlName name = name ↔ rules.Keeps name := by
  rw [sqlName_eq_self_iff, upperSnake_eq_self_iff h, Keeps]

end NamingRules

/-! ## Tables and columns -/

/-- Which names the usual naming keeps.

A name of ASCII characters is its own upper snake case exactly if it has no lower-case letters, and no digit
right before an upper-case letter. Its upper snake case is kept by a second derivation exactly if no digit
comes right before a lower-case letter in the name itself. By the rules, it is also needed that the name is
not reserved. Then, and only then, a table or a column gets the name of its entity or field. -/
theorem capitals_are_kept_iff (rules : NamingRules) (unmapped : List Field) {name : String}
    (h : Text.IsAscii name) :
    let naming := Naming.byRules rules unmapped
    (upperSnake name = name ↔ Text.IsUpperSnake name) ∧
    (upperSnake (upperSnake name) = upperSnake name ↔
      Text.NeverBefore Char.isDigit Char.isLower name) ∧
    (rules.sqlName name = name ↔ rules.Keeps name) ∧
    (rules.sqlName (rules.sqlName name) = rules.sqlName name ↔
      (rules.upperCase = true → Text.NeverBefore Char.isDigit Char.isLower name) ∧
        rules.isReserved (rules.sqlName name) = false) ∧
    (∀ e : Entity, e.name = name → e.table = none → (naming.tableName e = name ↔ rules.Keeps name)) ∧
    ∀ f : Field, f.name = name → f.column = none →
      (naming.columnName f = some name ↔ f ∉ unmapped ∧ rules.Keeps name) := by
  intro naming
  have hkeeps := rules.sqlName_eq_self_iff_keeps h
  refine ⟨upperSnake_eq_self_iff h, upperSnake_upperSnake_iff h, hkeeps, rules.sqlName_sqlName_iff h,
    fun e hname htable => ?_, fun f hname hcolumn => ?_⟩
  · have hderived : naming.tableName e = rules.sqlName name := by
      change e.table.getD (rules.sqlName e.name) = _
      rw [htable, hname, Option.getD_none]
    rw [hderived, hkeeps]
  · have hderived : naming.columnName f = if f ∈ unmapped then none else some (rules.sqlName name) := by
      change (if f ∈ unmapped then none else some (f.column.getD (rules.sqlName f.name))) = _
      rw [hcolumn, hname, Option.getD_none]
    rw [hderived, ← hkeeps]
    split <;> simp_all

/-- With an underscore behind the digit, a table keeps its name. -/
theorem capitals_are_kept_iff_apart :
    Text.IsAscii "LINE2_TOTAL" ∧ Text.IsUpperSnake "LINE2_TOTAL" ∧ ({} : NamingRules).Keeps "LINE2_TOTAL" ∧
      upperSnake "LINE2_TOTAL" = "LINE2_TOTAL" ∧
      (Naming.byRules {} []).tableName ⟨0, "LINE2_TOTAL", none, []⟩ = "LINE2_TOTAL" := by
  have hascii : Text.IsAscii "LINE2_TOTAL" := by decide
  have hsnake : Text.IsUpperSnake "LINE2_TOTAL" := by decide
  have hkeeps : ({} : NamingRules).Keeps "LINE2_TOTAL" := by decide
  obtain ⟨hcase, -, -, -, htable, -⟩ := capitals_are_kept_iff {} [] hascii
  exact ⟨hascii, hsnake, hkeeps, hcase.2 hsnake, (htable _ rfl rfl).2 hkeeps⟩

/-- So not all names in capitals are kept, and neither are all derived names: `LINE2TOTAL` gets an underscore,
also where it was derived from `line2total`. -/
theorem capitals_are_not_always_kept :
    (¬ ∀ name, Text.IsAscii name → Text.InCapitals name → upperSnake name = name) ∧
    (¬ ∀ name, Text.IsAscii name → upperSnake (upperSnake name) = upperSnake name) ∧
    ¬ ∀ name, Text.IsAscii name →
      ({} : NamingRules).sqlName (({} : NamingRules).sqlName name) = ({} : NamingRules).sqlName name := by
  refine ⟨fun h => ?_, fun h => ?_, fun h => ?_⟩
  · exact absurd (h "LINE2TOTAL" (by decide) (by decide)) (by decide)
  · exact absurd (h "line2total" (by decide)) (by decide)
  · exact absurd (h "line2total" (by decide)) (by decide)

end EntityQuery
