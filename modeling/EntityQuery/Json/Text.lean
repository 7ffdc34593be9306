import EntityQuery.Json.Fault

/-!
# JSON strings

The readers of this module stand behind the opening quote of a string and go on behind its closing
quote:

* `string` is the content; a surrogate pair is one character, and half a pair is a fault;
* `skipString` only checks the spelling, so that it accepts half a pair.

An escape takes at least one character off the text (`length_escape_lt`), and characters that stand
for themselves are the content (`string_plain`).
-/

namespace EntityQuery.Json

/-- The value of a hexadecimal digit. -/
def hexValue? (c : Char) : Option Nat :=
  if c.isDigit then some (c.toNat - '0'.toNat)
  else if 'a' ≤ c ∧ c ≤ 'f' then some (c.toNat - 'a'.toNat + 10)
  else if 'A' ≤ c ∧ c ≤ 'F' then some (c.toNat - 'A'.toNat + 10)
  else none

/-- The value of four hexadecimal digits. -/
def hexValue4? (a b c d : Char) : Option Nat := do
  return ((← hexValue? a) * 16 + (← hexValue? b)) * 256 + (← hexValue? c) * 16 + (← hexValue? d)

/-- The character of a one-letter escape. -/
def escaped? : Char → Option Char
  | '"' => some '"'
  | '\\' => some '\\'
  | '/' => some '/'
  | 'b' => some '\x08'
  | 'f' => some '\x0c'
  | 'n' => some '\n'
  | 'r' => some '\r'
  | 't' => some '\t'
  | _ => none

/-- The code unit of the four hexadecimal digits that come next. A fault shows behind four bytes. -/
def codeUnit (cs : List Char) : Except Fault (Nat × List Char) :=
  if byteCount (cs.take 4) < 4 then .error ⟨.unclosedString, 0⟩
  else
    match cs with
    | a :: b :: c :: d :: rest =>
      match hexValue4? a b c d with
      | some code => .ok (code, rest)
      | none => .error (.within .badEscape 4 cs)
    | cs => .error (.within .badEscape 4 cs)

/-- The character of a surrogate pair whose first half, `high`, is read. -/
def lowHalf (high : Nat) : List Char → Except Fault (Char × List Char)
  | [] => .error (.before .unclosedString [])
  | '\\' :: [] => .error (.before .unclosedString [])
  | '\\' :: 'u' :: cs => do
    let (low, rest) ← codeUnit cs
    if 0xDC00 ≤ low ∧ low < 0xE000 then
      .ok (Char.ofNat (0x10000 + (high - 0xD800) * 0x400 + (low - 0xDC00)), rest)
    else .error (.before .halfPair rest)
  | '\\' :: cs => .error (.within .endOfPair 1 cs)
  | cs => .error (.within .endOfPair 1 cs)

/-- The character of an escape behind its backslash. -/
def escape : List Char → Except Fault (Char × List Char)
  | [] => .error (.before .unclosedString [])
  | 'u' :: cs => do
    let (code, rest) ← codeUnit cs
    if 0xDC00 ≤ code ∧ code < 0xE000 then .error (.before .halfPair rest)
    else if 0xD800 ≤ code ∧ code < 0xDC00 then lowHalf code rest
    else .ok (Char.ofNat code, rest)
  | c :: cs =>
    match escaped? c with
    | some e => .ok (e, cs)
    | none => .error (.within .badEscape 1 (c :: cs))

theorem length_codeUnit_le {cs rest : List Char} {code : Nat}
    (h : codeUnit cs = .ok (code, rest)) : rest.length ≤ cs.length := by
  unfold codeUnit at h
  split at h
  · simp at h
  · split at h
    · split at h
      · simp only [Except.ok.injEq, Prod.mk.injEq] at h
        simp only [← h.2, List.length_cons]
        omega
      · simp at h
    · simp at h

theorem length_lowHalf_le {high : Nat} {cs rest : List Char} {c : Char}
    (h : lowHalf high cs = .ok (c, rest)) : rest.length ≤ cs.length := by
  unfold lowHalf at h
  split at h
  · simp at h
  · simp at h
  · rename_i cs
    cases hu : codeUnit cs with
    | error e => simp [hu, bind, Except.bind] at h
    | ok found =>
      simp only [hu, bind, Except.bind] at h
      split at h
      · simp only [Except.ok.injEq, Prod.mk.injEq] at h
        have := length_codeUnit_le hu
        simp only [← h.2, List.length_cons]
        omega
      · simp at h
  · simp at h
  · simp at h

/-- An escape takes at least one character. -/
theorem length_escape_lt {cs rest : List Char} {c : Char} (h : escape cs = .ok (c, rest)) :
    rest.length < cs.length := by
  unfold escape at h
  split at h
  · simp at h
  · rename_i cs
    cases hu : codeUnit cs with
    | error e => simp [hu, bind, Except.bind] at h
    | ok found =>
      have hle := length_codeUnit_le hu
      simp only [hu, bind, Except.bind] at h
      split at h
      · simp at h
      · split at h
        · have := length_lowHalf_le h
          simp only [List.length_cons]
          omega
        · simp only [Except.ok.injEq, Prod.mk.injEq] at h
          simp only [← h.2, List.length_cons]
          omega
  · split at h
    · simp only [Except.ok.injEq, Prod.mk.injEq] at h
      simp only [← h.2, List.length_cons]
      omega
    · simp at h

/-- The content of a string, and the text behind it. -/
def string : List Char → Except Fault (List Char × List Char)
  | [] => .error (.before .unclosedString [])
  | '"' :: cs => .ok ([], cs)
  | '\\' :: cs =>
    match h : escape cs with
    | .error fault => .error fault
    | .ok (c, rest) =>
      have := length_escape_lt h
      (string rest).map fun (content, rest) => (c :: content, rest)
  | c :: cs =>
    if c.val < 0x20 then .error (.before .controlCharacter cs)
    else (string cs).map fun (content, rest) => (c :: content, rest)
  termination_by cs => cs.length
  decreasing_by all_goals simp_all; try omega

/-- The text behind a string whose content does not matter. -/
def skipString : List Char → Except Fault (List Char)
  | [] => .error (.before .unclosedString [])
  | '"' :: cs => .ok cs
  | '\\' :: [] => .error (.before .unclosedString [])
  | '\\' :: 'u' :: cs =>
    match h : codeUnit cs with
    | .error fault => .error fault
    | .ok (_, rest) =>
      have := length_codeUnit_le h
      skipString rest
  | '\\' :: c :: cs =>
    if (escaped? c).isSome then skipString cs else .error (.within .badEscape 1 (c :: cs))
  | c :: cs =>
    if c.val < 0x20 then .error (.before .controlCharacter (c :: cs)) else skipString cs
  termination_by cs => cs.length
  decreasing_by all_goals simp_all; try omega

/-- Characters that stand for themselves are the content. -/
theorem string_plain (content rest : List Char)
    (h : ∀ c ∈ content, c ≠ '"' ∧ c ≠ '\\' ∧ ¬ c.val < 0x20) :
    string (content ++ '"' :: rest) = .ok (content, rest) := by
  induction content with
  | nil => simp [string]
  | cons c content ih =>
    obtain ⟨hq, hb, hc⟩ := h c (by simp)
    have ih := ih fun d hd => h d (by simp [hd])
    rw [List.cons_append, string, if_neg hc, ih]
    · rfl
    · exact hq
    · exact hb

end EntityQuery.Json
