import EntityQuery.Backend.Memory
import EntityQuery.Proofs.Session.Watching

/-!
# Doubles in integer fields

A backend may hold a double where a field is declared as an integer or a long. Reading it gives the
integer that the double is, if it is one and fits into the kind, and refuses the column otherwise. There
is one exception: 2^63 itself is read as the greatest long.

* `Double.value?` is the number that a finite double stands for, by the fields of its word, and
  `Double.value?_eq_some_iff` finds the integers among these numbers.
* `Session.Shows` says what a column of a cursor's current row holds.
* `double_reads_as_integer`: reading such a column as a long and as an integer.
-/

namespace EntityQuery

/-! ## The number behind a double -/

namespace Double

/-- The number that a finite double stands for: its sign, its significand, and the power of two that its
exponent stands for. The least exponent stands for the same power as the one after it. Infinities and
NaNs stand for no number. -/
def value? (d : Double) : Option ℚ :=
  if d.isFinite then
    some ((if d.isNegative then -1 else 1) * d.significand * 2 ^ ((max d.exponent 1 : ℤ) - 1075))
  else none

/-- The exponent of the units by name, so that no step computes their number. -/
theorem unitsPerOne_eq : ∃ n : ℕ, n = 1074 ∧ unitsPerOne = Nat.pow 2 n :=
  ⟨_, rfl, by decide +kernel⟩

/-- The power of two of the exponent is the spacing, counted in units. -/
theorem zpow_mul_unitsPerOne (d : Double) :
    (2 : ℚ) ^ ((max d.exponent 1 : ℤ) - 1075) * (unitsPerOne : ℚ) = (d.spacing : ℚ) := by
  obtain ⟨n, hn, hunits⟩ := unitsPerOne_eq
  have hexponent : (max d.exponent 1 : ℤ) - 1075 + n = ((d.exponent - 1 : ℕ) : ℤ) := by omega
  rw [hunits, spacing, Nat.pow_eq, Nat.pow_eq, Nat.cast_pow, Nat.cast_pow, Nat.cast_two,
    ← zpow_natCast, ← zpow_natCast, ← zpow_add₀ two_ne_zero, hexponent]

theorem unitsPerOne_pos : 0 < unitsPerOne := by decide +kernel

/-- The units count the number in steps of 2^-1074. -/
theorem units_eq_value {d : Double} {q : ℚ} (h : d.value? = some q) :
    (d.units : ℚ) = q * (unitsPerOne : ℚ) := by
  rw [value?] at h
  split at h
  · rw [← Option.some.inj h, mul_assoc, zpow_mul_unitsPerOne, units, magnitude]
    split <;> push_cast <;> ring
  · cases h

/-- A double that stands for an integer is the whole double of this integer. -/
theorem value?_eq_some_iff {d : Double} {i : ℤ} : d.value? = some (i : ℚ) ↔ d.whole? = some i := by
  have hpos : (0 : ℤ) < (unitsPerOne : ℤ) := Int.natCast_pos.2 unitsPerOne_pos
  have hne : ((unitsPerOne : ℤ) : ℚ) ≠ 0 := Int.cast_ne_zero.2 hpos.ne'
  constructor
  · intro h
    have hfinite : d.isFinite = true := by
      rw [value?] at h
      split at h
      · assumption
      · cases h
    have hunits : d.units = i * (unitsPerOne : ℤ) := by exact_mod_cast units_eq_value h
    rw [whole?, hfinite, hunits, Int.mul_emod_left, Int.mul_ediv_cancel i hpos.ne']
    rfl
  · intro h
    have hfinite : d.isFinite = true := by
      rw [whole?] at h
      split at h
      · next hc => exact (Bool.and_eq_true_iff.1 hc).1
      · cases h
    obtain ⟨q, hq⟩ : ∃ q, d.value? = some q := ⟨_, if_pos hfinite⟩
    have hunits : (d.units : ℚ) = (i : ℚ) * (unitsPerOne : ℚ) := by
      exact_mod_cast congrArg (Int.cast : ℤ → ℚ) (units_of_whole? h)
    rw [hq, mul_right_cancel₀ hne ((units_eq_value hq).symm.trans hunits)]

end Double

/-! ## Doubles as integers -/

/-- A double is taken for the long that it stands for, and 2^63 for the greatest one. -/
theorem wholeLong?_eq_some_iff {d : Double} {n : Int64} :
    wholeLong? d = some n ↔
      d.value? = some (n.toInt : ℚ) ∨ d.value? = some (2 ^ 63) ∧ n = Int64.maxValue := by
  have hlo := n.le_toInt
  have hhi := n.toInt_lt
  have hpast : (2 : ℚ) ^ 63 = ((9223372036854775808 : ℤ) : ℚ) := by norm_num
  rw [hpast, Double.value?_eq_some_iff, Double.value?_eq_some_iff, wholeLong?]
  cases hwhole : d.whole? with
  | none => simp
  | some i =>
    simp only [Option.bind_some, Option.some.injEq]
    split
    · next hi =>
      rw [Option.some.injEq]
      constructor
      · rintro rfl
        exact .inr ⟨hi, rfl⟩
      · rintro (h | ⟨-, rfl⟩)
        · omega
        · rfl
    · next hi =>
      split
      · next hrange =>
        rw [Option.some.injEq]
        have hofInt := Int64.toInt_ofInt_of_le hrange.1 (Int.lt_add_one_of_le hrange.2)
        constructor
        · rintro rfl
          exact .inl hofInt.symm
        · rintro (h | ⟨h, -⟩)
          · rw [h, Int64.ofInt_toInt]
          · exact absurd h hi
      · next hrange =>
        simp only [reduceCtorEq, false_iff]
        omega

/-- A double in a long field. -/
theorem longOfCell_double (d : Double) :
    longOfCell (.double d) =
      match wholeLong? d with
      | some n => .ok (.long n)
      | none => .error (.noConversion (.double d)) := by
  rw [longOfCell, wholeCell]
  · cases wholeLong? d with
    | some n => exact congrArg (fun n => Except.ok (Value.long n)) (Int64.ofInt_toInt n)
    | none => rfl
  · simp

/-- A long field takes a double that stands for one of its longs, or for 2^63. -/
theorem longOfCell_double_eq_ok {d : Double} {v : Value} :
    longOfCell (.double d) = .ok v ↔ ∃ n : Int64, v = .long n ∧
      (d.value? = some (n.toInt : ℚ) ∨ d.value? = some (2 ^ 63) ∧ n = Int64.maxValue) := by
  simp only [← wholeLong?_eq_some_iff, longOfCell_double]
  cases wholeLong? d with
  | none => simp
  | some m => simp [eq_comm]

theorem cause_of_longOfCell {d : Double} {cause : CoercionCause}
    (h : longOfCell (.double d) = .error cause) : cause = .noConversion (.double d) := by
  rw [longOfCell_double] at h
  split at h
  · cases h
  · exact (Except.error.inj h).symm

/-- A double in an integer field. -/
theorem integerOfCell_double (d : Double) :
    integerOfCell (.double d) =
      match wholeLong? d with
      | some n =>
        match narrow? n.toInt with
        | some i => .ok (.integer i)
        | none => .error (.integerRange n.toInt)
      | none => .error (.noConversion (.double d)) := by
  rw [integerOfCell, wholeCell]
  · cases wholeLong? d with
    | some n => cases hn : narrow? n.toInt <;> simp only [bind, Except.bind, hn] <;> rfl
    | none => rfl
  · simp

/-- An integer field takes a double that stands for one of its integers. -/
theorem integerOfCell_double_eq_ok {d : Double} {v : Value} :
    integerOfCell (.double d) = .ok v ↔
      ∃ n : Int32, d.value? = some (n.toInt : ℚ) ∧ v = .integer n := by
  rw [integerOfCell_double]
  constructor
  · intro h
    split at h
    · next m hm =>
      split at h
      · next i hi =>
        cases h
        have hi := toInt_of_narrow? hi
        refine ⟨i, ?_, rfl⟩
        rcases wholeLong?_eq_some_iff.1 hm with hm | ⟨-, rfl⟩
        · rw [hi, hm]
        -- the greatest long is no integer
        · have := i.toInt_lt
          have hmax : Int64.maxValue.toInt = 9223372036854775807 := by decide
          omega
      · cases h
    · cases h
  · rintro ⟨n, hn, rfl⟩
    have hlong : wholeLong? d = some n.toInt64 :=
      wholeLong?_eq_some_iff.2 (.inl (by rw [hn, Int32.toInt_toInt64]))
    rw [hlong]
    dsimp only
    rw [Int32.toInt_toInt64, narrow?_toInt]

/-! ## Reading a column -/

section Reading

variable {σ : Type}

/-- A cell that the backend hands over is converted, or refuses its column. -/
theorem Backend.converted_of_get {b : Backend σ} {rows : RowSetId} {index : Nat} {s s' : σ} {v : Value}
    (h : b.get rows .object index s = (.ok v, s')) (convert : Value → Except CoercionCause Value) :
    b.converted rows index convert s =
      ((convert v).mapError (.coercion (b.columnLabel rows index s')), s') := by
  have hfetch : b.fetch rows .object index s = (.ok (.ok v), s') := by
    change (Except.ok (b.get rows .object index s).1, (b.get rows .object index s).2) = _
    rw [h]
  have hfetched : b.fetched rows .object index s = (.ok v, s') := bind_of_ok hfetch
  refine (bind_of_ok hfetched).trans ?_
  cases convert v <;> rfl

namespace Session

/-- The current row of the cursor has this value in the column. -/
def Shows (session : Session σ) (store : Store σ) (id : CursorId) (index : Nat) (v : Value) : Prop :=
  ∃ c rows, cursor? id store = some c ∧ c.rows = some rows ∧ c.phase = .onRow ∧
    (session.backend.get rows .object index store.backend).1 = .ok v

variable {session : Session σ} {store : Store σ} {id : CursorId} {index : Nat} {f : Field}
  {v : Value}

/-- A column that is read by conversion gives what the conversion of its value gives, and is refused for
the cause that the conversion has. -/
theorem readCursor_of_shows (h : session.Shows store id index v)
    (convert : Value → Except CoercionCause Value)
    (hkind : ∀ rows, session.backend.readCell rows index f.kind =
      session.backend.converted rows index convert) :
    (∀ w, (session.readCursor id index f store).1 = .ok w ↔ convert v = .ok w) ∧
      ∀ e, (session.readCursor id index f store).1 = .error e →
        ∃ column cause, convert v = .error cause ∧ e = .coercion column cause := by
  obtain ⟨c, rows, hc, hrows, hphase, hget⟩ := h
  rw [readCursor_of_row _ _ _ hc hrows hphase, hkind,
    Backend.converted_of_get (Prod.ext hget rfl)]
  dsimp only
  cases convert v with
  | ok w => simp [Except.mapError]
  | error cause =>
    simp only [Except.mapError, reduceCtorEq, implies_true, true_and]
    exact fun e he => ⟨_, cause, rfl, (Except.error.inj he).symm⟩

/-- Reading a column that holds a double. As a long it gives the long that the double stands for, or
the greatest long for 2^63; as an integer it gives the integer that the double stands for. Every other
double is refused as one that cannot be coerced. -/
theorem double_reads_as_integer {d : Double} (h : session.Shows store id index (.double d)) :
    let result := (session.readCursor id index f store).1
    (f.kind = .long →
      (∀ v, result = .ok v ↔ ∃ n : Int64, v = .long n ∧
        (d.value? = some (n.toInt : ℚ) ∨ d.value? = some (2 ^ 63) ∧ n = Int64.maxValue)) ∧
      ∀ e, result = .error e → ∃ column, e = .coercion column (.noConversion (.double d))) ∧
    (f.kind = .integer →
      (∀ v, result = .ok v ↔ ∃ n : Int32, v = .integer n ∧ d.value? = some (n.toInt : ℚ)) ∧
      ∀ e, result = .error e → ∃ column cause, e = .coercion column cause) := by
  intro result
  refine ⟨fun hkind => ?_, fun hkind => ?_⟩
  · obtain ⟨hok, herror⟩ := readCursor_of_shows h (f := f) longOfCell fun rows => by
      rw [hkind]
      rfl
    refine ⟨fun v => (hok v).trans longOfCell_double_eq_ok, fun e he => ?_⟩
    obtain ⟨column, cause, hcause, rfl⟩ := herror e he
    exact ⟨column, by rw [cause_of_longOfCell hcause]⟩
  · obtain ⟨hok, herror⟩ := readCursor_of_shows h (f := f) integerOfCell fun rows => by
      rw [hkind]
      rfl
    refine ⟨fun v => (hok v).trans ?_, fun e he => ?_⟩
    · simp only [integerOfCell_double_eq_ok, and_comm]
    · obtain ⟨column, cause, -, rfl⟩ := herror e he
      exact ⟨column, cause, rfl⟩

end Session

end Reading

/-! ## The end of the longs -/

/-- A long and an integer. -/
def Entity.counters : Entity :=
  ⟨0, "counter", none, [⟨"n", .long, false, none⟩, ⟨"i", .integer, false, none⟩]⟩

/-- The field of the longs. -/
def Field.counter : Field := ⟨.counters, 0, by decide⟩

/-- The field of the integers. -/
def Field.smallCounter : Field := ⟨.counters, 1, by decide⟩

/-- A session on memory. -/
def Session.ofMemory : Session Memory := ⟨Memory.backend, .byRules {} [], {}⟩

/-- A cursor on a row with one double. -/
def Store.counted (d : Double) : Store Memory :=
  ⟨⟨.empty, #[], #[⟨["N"], some [.double d], [], false, false⟩]⟩, #[], #[], #[],
    #[⟨some ⟨0⟩, .onRow, 1, [], ⟨0⟩, true, "SELECT N FROM COUNTER"⟩]⟩

theorem Store.shows_counted (d : Double) :
    Session.ofMemory.Shows (.counted d) ⟨0⟩ 1 (.double d) :=
  ⟨_, _, rfl, rfl, rfl, rfl⟩

/-- The double 2^63. -/
def Double.pastLongs : Double := ⟨0x43e0000000000000⟩

theorem Double.value?_pastLongs : pastLongs.value? = some (2 ^ 63) := by
  have hwhole : pastLongs.whole? = some (2 ^ 63) := by decide +kernel
  exact_mod_cast value?_eq_some_iff.2 hwhole

/-- The number of this double is no other integer. -/
theorem Double.eq_of_value?_pastLongs {i : ℤ} (h : pastLongs.value? = some (i : ℚ)) : i = 2 ^ 63 := by
  have heq : (i : ℚ) = 2 ^ 63 := Option.some.inj (h.symm.trans value?_pastLongs)
  exact_mod_cast heq

/-- 2^63 is read as the greatest long, and refused as an integer. -/
theorem Session.double_reads_as_integer_past_longs :
    ofMemory.Shows (.counted .pastLongs) ⟨0⟩ 1 (.double .pastLongs) ∧
      Field.counter.kind = .long ∧ Field.smallCounter.kind = .integer ∧
      (ofMemory.readCursor ⟨0⟩ 1 .counter (.counted .pastLongs)).1 = .ok (.long Int64.maxValue) ∧
      ∀ v, (ofMemory.readCursor ⟨0⟩ 1 .smallCounter (.counted .pastLongs)).1 ≠ .ok v := by
  have hshows := Store.shows_counted .pastLongs
  have hlong := (double_reads_as_integer (f := .counter) hshows).1 rfl
  have hinteger := (double_reads_as_integer (f := .smallCounter) hshows).2 rfl
  refine ⟨hshows, rfl, rfl, (hlong.1 _).2 ⟨_, rfl, .inr ⟨Double.value?_pastLongs, rfl⟩⟩, fun v hv => ?_⟩
  obtain ⟨n, -, hn⟩ := (hinteger.1 v).1 hv
  have heq := Double.eq_of_value?_pastLongs hn
  have hlt := n.toInt_lt
  omega

/-- Reading a double as a long does not always give the number that the double stands for. -/
theorem Session.double_is_not_read_exactly :
    ¬ ∀ (session : Session Memory) (store : Store Memory) (id : CursorId) (index : Nat) (f : Field)
        (d : Double), f.kind = .long → session.Shows store id index (.double d) →
      ∀ n : Int64, (session.readCursor id index f store).1 = .ok (.long n) →
        d.value? = some (n.toInt : ℚ) := by
  intro hexact
  have hshows := Store.shows_counted .pastLongs
  have hread := ((readCursor_of_shows hshows (f := .counter) longOfCell
    fun _ => rfl).1 (.long Int64.maxValue)).2
      (longOfCell_double_eq_ok.2 ⟨_, rfl, .inr ⟨Double.value?_pastLongs, rfl⟩⟩)
  have hvalue := hexact _ _ _ _ .counter _ rfl hshows _ hread
  exact absurd (Double.eq_of_value?_pastLongs hvalue) (by decide)

end EntityQuery
