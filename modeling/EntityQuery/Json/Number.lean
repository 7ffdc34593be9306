import EntityQuery.Json.Fault

/-!
# JSON numbers

`number` is the value of a numeral, and `skipNumber` only checks its spelling; the sign is read
before. A whole numeral that fits into 64 bits is a whole number. Any other is a double, computed in
steps that each round: the digits that fit into 64 bits make a significand, the double nearest to it
is multiplied with a power of ten or divided by one, and digits that no longer fit count as places
(`takeDigits_significand_lt`).
-/

namespace EntityQuery.Json

/-- Whether a digit comes next. -/
def startsWithDigit (cs : List Char) : Bool := cs.head?.any Char.isDigit

/-- The value of a digit. -/
def digitValue (c : Char) : Nat := c.toNat - '0'.toNat

/-- A significand with as many more digits as fit into 64 bits, their count, and the text behind
them. -/
def takeDigits (significand count : Nat) : List Char → Nat × Nat × List Char
  | [] => (significand, count, [])
  | c :: cs =>
    if c.isDigit ∧ 10 * significand + digitValue c < UInt64.size then
      takeDigits (10 * significand + digitValue c) (count + 1) cs
    else (significand, count, c :: cs)

/-- A significand fits into 64 bits. -/
theorem takeDigits_significand_lt {significand : Nat} (count : Nat) (cs : List Char)
    (h : significand < UInt64.size) : (takeDigits significand count cs).1 < UInt64.size := by
  induction cs generalizing significand count with
  | nil => exact h
  | cons c cs ih =>
    unfold takeDigits
    split
    · rename_i hc
      exact ih _ hc.2
    · exact h

/-- A double divided by 10^k; powers past 10^308 are divided by in steps. -/
def shrunk (d : Double) (k : Nat) : Double :=
  if k ≤ 308 then d.quotient (.tenTo k)
  else if d.isZero then d
  else shrunk (d.quotient (.tenTo 308)) (k - 308)
  termination_by k

/-- A double multiplied by 10^k, if that is finite. -/
def grown? (d : Double) (k : Nat) : Option Double :=
  if d.isZero then some d
  else if k ≤ 308 then some (d.product (.tenTo k)) |>.filter (·.isFinite)
  else none

/-- The double of a decimal, if it is finite. -/
def scaled? (significand : Nat) (exponent : Int) : Option Double :=
  let d := Double.ofRatio false significand 1
  if 0 ≤ exponent then grown? d exponent.toNat else some (shrunk d (-exponent).toNat)

/-- A double with a sign. -/
def signed (negative : Bool) (d : Double) : Double := .ofMagnitudeWord negative d.bits.toNat

/-- The value of a decimal with a sign. A fault shows before `rest`. -/
def decimal (negative : Bool) (significand : Nat) (exponent : Int) (rest : List Char) :
    Except Fault (Found × List Char) :=
  match scaled? significand exponent with
  | some d => .ok (.fractional (signed negative d), rest)
  | none => .error (.before .hugeNumber rest)

/-- The number of digits, the text behind them, and whether it fits into 31 bits; if it does not, the
text is the one behind the first digit too many. -/
def exponentDigits (exponent : Nat) : List Char → Nat × List Char × Bool
  | [] => (exponent, [], true)
  | c :: cs =>
    if c.isDigit then
      if 10 * exponent + digitValue c ≤ 0x7FFFFFFF then
        exponentDigits (10 * exponent + digitValue c) cs
      else (exponent, cs, false)
    else (exponent, c :: cs, true)

/-- Whether a sign is a minus, and the text behind it. -/
def exponentSign : List Char → Bool × List Char
  | '+' :: cs => (false, cs)
  | '-' :: cs => (true, cs)
  | cs => (false, cs)

/-- The value of a number up to its exponent, with that exponent if one follows. -/
def withExponent (negative : Bool) (significand : Nat) (exponent : Int) (cs : List Char) :
    Except Fault (Found × List Char) :=
  match cs with
  | [] => decimal negative significand exponent []
  | e :: cs' =>
    if e = 'e' ∨ e = 'E' then
      let (down, digits) := exponentSign cs'
      if digits.isEmpty then .error (.before .missingValue [])
      else if startsWithDigit digits then
        match exponentDigits 0 digits with
        | (n, rest, true) =>
          decimal negative significand (if down then exponent - n else exponent + n) rest
        | (_, rest, false) =>
          if significand ≠ 0 ∧ down = false then .error (.before .hugeNumber rest)
          else .ok (.fractional (signed negative .zero), rest.dropWhile Char.isDigit)
      else .error (.within .badNumber 1 digits)
    else decimal negative significand exponent cs

/-- The value of a number up to its point, with the digits behind that. -/
def withFraction (negative : Bool) (significand dropped : Nat) (cs : List Char) :
    Except Fault (Found × List Char) :=
  if cs.isEmpty then .error (.before .missingValue [])
  else if startsWithDigit cs then
    let (significand, count, rest) := takeDigits significand 0 cs
    withExponent negative significand ((dropped : Int) - count) (rest.dropWhile Char.isDigit)
  else .error (.within .badNumber 1 cs)

/-- The value of a whole number with its sign; what does not fit into 64 bits is a double, and so is
zero with a minus. -/
def wholeFound (negative : Bool) (n : Nat) : Found :=
  if negative ∧ (n = 0 ∨ 0x8000000000000000 < n) then .fractional (.ofRatio true n 1)
  else .whole (if negative then -n else n)

/-- The value of the numeral that comes next, and the text behind it. -/
def number (negative : Bool) (cs : List Char) : Except Fault (Found × List Char) :=
  if cs.isEmpty then .error (.before .missingValue [])
  else if !startsWithDigit cs then .error (.within .badNumber 1 cs)
  else if cs.head? = some '0' ∧ startsWithDigit (cs.drop 1) then
    .error (.within .badNumber 1 (cs.drop 1))
  else
    let (significand, _, rest) := takeDigits 0 0 cs
    let dropped := (rest.takeWhile Char.isDigit).length
    match rest.dropWhile Char.isDigit with
    | '.' :: rest => withFraction negative significand dropped rest
    | 'e' :: rest => withExponent negative significand dropped ('e' :: rest)
    | 'E' :: rest => withExponent negative significand dropped ('E' :: rest)
    | rest =>
      if dropped = 0 then .ok (wholeFound negative significand, rest)
      else decimal negative significand dropped rest

/-- The text behind an exponent, if one comes next. -/
def skipExponent : List Char → Except Fault (List Char)
  | [] => .ok []
  | e :: cs =>
    if e = 'e' ∨ e = 'E' then
      let digits := (exponentSign cs).2
      if startsWithDigit digits then .ok (digits.dropWhile Char.isDigit)
      else .error (.within .badNumber 1 digits)
    else .ok (e :: cs)

/-- The text behind the numeral that comes next, whose value does not matter. -/
def skipNumber (cs : List Char) : Except Fault (List Char) :=
  if !startsWithDigit cs then .error (.within .badNumber 1 cs)
  else if cs.head? = some '0' ∧ startsWithDigit (cs.drop 1) then
    .error (.within .badNumber 1 (cs.drop 1))
  else
    match cs.dropWhile Char.isDigit with
    | '.' :: rest =>
      if startsWithDigit rest then skipExponent (rest.dropWhile Char.isDigit)
      else .error (.within .badNumber 1 rest)
    | rest => skipExponent rest

end EntityQuery.Json
