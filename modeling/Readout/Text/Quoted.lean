import Readout.Text.Printable

/-!
# Quoted literals

A text is quoted so that it stays on one line and shows every character: between
single quotes, or double quotes if it holds a single quote and no double one.
The backslash and the quote are escaped, and so is what has no visible form.
-/

namespace Readout
namespace Text
namespace Quoted

/-- A number in hexadecimal, with leading zeros up to a width. -/
def hexadecimal (width number : Nat) : List Char :=
  let digits := Nat.toDigits 16 number
  List.replicate (width - digits.length) '0' ++ digits

/-- The code point of a character, in the shortest of three escapes. -/
def codePoint (character : Char) : List Char :=
  let code := character.toNat
  if code < 0x100 then '\\' :: 'x' :: hexadecimal 2 code
  else if code < 0x10000 then '\\' :: 'u' :: hexadecimal 4 code
  else '\\' :: 'U' :: hexadecimal 8 code

/-- A character as it stands inside a literal. -/
def escape (quote character : Char) : List Char :=
  if character = quote ∨ character = '\\' then ['\\', character]
  else if character = '\n' then ['\\', 'n']
  else if character = '\r' then ['\\', 'r']
  else if character = '\t' then ['\\', 't']
  else if isPrintable character then [character]
  else codePoint character

/-- The quote that needs fewer escapes. -/
def quoteFor (characters : List Char) : Char :=
  if characters.contains '\'' && !characters.contains '"' then '"' else '\''

/-- The literal of a text. -/
def literal (text : String) : String :=
  let characters := text.toList
  let quote := quoteFor characters
  String.ofList (quote :: characters.flatMap (escape quote) ++ [quote])

/-- At most the first `limit` characters of a text. -/
def clip (limit : Nat) (text : String) : String :=
  String.ofList (text.toList.take limit)

/-- An octet as it stands inside a literal of octets, which shows ASCII only. -/
def escapeOctet (quote : Char) (octet : UInt8) : List Char :=
  if octet < 0x80 then escape quote (Char.ofNat octet.toNat)
  else codePoint (Char.ofNat octet.toNat)

/-- The literal of a list of octets, marked by the letter `b`. -/
def octetLiteral (octets : List UInt8) : String :=
  let quote := quoteFor (octets.map fun octet => Char.ofNat octet.toNat)
  String.ofList ('b' :: quote :: octets.flatMap (escapeOctet quote) ++ [quote])

end Quoted
end Text
end Readout
