import PropertyReflection.Text.Utf8
import PropertyReflection.Text.Visibility

/-!
# Quoted texts

Diagnostics show names in double quotes.  There are two forms.  `quote` is for text: the single
quote stands for itself, and characters that cannot be shown are written by code point.
`quoteBytes` is for byte strings that need not be text: both quotes are escaped, and control
characters and bytes that belong to no character are written as two hexadecimal digits each.
-/

namespace PropertyReflection

namespace Text

/-- A hexadecimal digit. -/
def hexDigit (n : Nat) : Char :=
  if n < 10 then Char.ofNat ('0'.toNat + n) else Char.ofNat ('a'.toNat + (n - 10))

/-- A number in hexadecimal, without leading zeros. -/
def hex (n : Nat) : String :=
  String.ofList ((Nat.toDigits 16 n).map Char.toLower)

/-- A byte as two hexadecimal digits. -/
def hexByte (byte : UInt8) : String :=
  String.ofList [hexDigit (byte.toNat / 16), hexDigit (byte.toNat % 16)]

/-- A character by its code point. -/
def codePoint (c : Char) : String := "\\u\x7b" ++ hex c.toNat ++ "\x7d"

/-- A byte by its value. -/
def escapedByte (byte : UInt8) : String := "\\x" ++ hexByte byte

/-- A character inside a quoted text. -/
def quotedChar (c : Char) : String :=
  if c = '"' then "\\\""
  else if c = '\\' then "\\\\"
  else if c = '\t' then "\\t"
  else if c = '\r' then "\\r"
  else if c = '\n' then "\\n"
  else if c.toNat = 0 then "\\0"
  else if isShown c then c.toString
  else codePoint c

/-- A text in double quotes. -/
def quote (text : String) : String :=
  "\"" ++ String.join (text.toList.map quotedChar) ++ "\""

/-- A character inside a quoted byte string. -/
def quotedByteChar (c : Char) : String :=
  if c = '"' then "\\\""
  else if c = '\'' then "\\'"
  else if c = '\\' then "\\\\"
  else if c = '\t' then "\\t"
  else if c = '\r' then "\\r"
  else if c = '\n' then "\\n"
  else if c.toNat < 0x20 ∨ c.toNat = 0x7f then escapedByte c.toNat.toUInt8
  else if isShown c then c.toString
  else codePoint c

/-- A byte string in double quotes. -/
def quoteBytes (bytes : List UInt8) : String :=
  "\"" ++ String.join ((pieces bytes).map fun
    | .char c => quotedByteChar c
    | .invalid first rest => String.join ((first :: rest).map escapedByte)) ++ "\""

end Text

end PropertyReflection
