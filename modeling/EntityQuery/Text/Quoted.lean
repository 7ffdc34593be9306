import EntityQuery.Text.Invisible

/-!
# Quoted characters and texts

How a message shows a character or a text: between quotes, with a backslash form for the characters
that would not be readable there. A character stands between single quotes, a text between double
ones, and only the quote that ends it needs a backslash (`shownChar`).
-/

namespace EntityQuery.Text

/-- The digits of a code point in lower-case hexadecimal. -/
def hexDigits (n : Nat) : String :=
  String.ofList (Nat.toDigits 16 n)

/-- The form of `c` where `quote` ends the text. The quote, the backslash, NUL, tab, line feed and
carriage return have a form of their own; a character that does not show is written as its code
point. -/
def shownChar (quote c : Char) : String :=
  if c = '\x00' then "\\0"
  else if c = '\t' then "\\t"
  else if c = '\r' then "\\r"
  else if c = '\n' then "\\n"
  else if c = quote then "\\" ++ quote.toString
  else if c = '\\' then "\\\\"
  else if isInvisible c then "\\u\x7b" ++ hexDigits c.toNat ++ "\x7d"
  else c.toString

/-- A character between single quotes. -/
def quotedChar (c : Char) : String := "'" ++ shownChar '\'' c ++ "'"

/-- A text between double quotes. -/
def quotedText (s : String) : String :=
  "\"" ++ String.join (s.toList.map (shownChar '"')) ++ "\""

/-- A visible character that is neither quote nor backslash stands for itself. -/
theorem shownChar_of_visible {quote c : Char} (hv : isInvisible c = false) (hq : c ≠ quote)
    (hb : c ≠ '\\') : shownChar quote c = c.toString := by
  have h0 : c ≠ '\x00' := by rintro rfl; simp [isInvisible] at hv
  have ht : c ≠ '\t' := by rintro rfl; simp [isInvisible] at hv
  have hr : c ≠ '\r' := by rintro rfl; simp [isInvisible] at hv
  have hn : c ≠ '\n' := by rintro rfl; simp [isInvisible] at hv
  simp [shownChar, h0, ht, hr, hn, hq, hb, hv]

end EntityQuery.Text
