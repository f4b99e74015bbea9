import ColumnLog.Text.Hex

/-!
# Quoted text

The diagnostic form of a string: double quotes around it, and a backslash form for the quote, the
backslash and the characters that would not show.

* `Text.quoted` writes it.
-/

set_option autoImplicit false

namespace ColumnLog
namespace Text

/-- A character as it stands inside a quoted string. -/
def quotedChar (c : Char) : String :=
  if c = '"' then "\\\""
  else if c = '\\' then "\\\\"
  else if c = '\n' then "\\n"
  else if c = '\t' then "\\t"
  else if c = '\r' then "\\r"
  else if c.toNat = 0 then "\\0"
  else if c.toNat < 0x20 ∨ (0x7f ≤ c.toNat ∧ c.toNat < 0xa0) then
    "\\u\x7b" ++ hexDigits c.toNat ++ "\x7d"
  else c.toString

/-- The string between double quotes, its special characters escaped. -/
def quoted (s : String) : String := "\"" ++ String.join (s.toList.map quotedChar) ++ "\""

end Text
end ColumnLog
