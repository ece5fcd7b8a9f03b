import SignedHttp.Text.Hex
import SignedHttp.Text.Printable

/-!
# Quoted texts

How a message shows a text: between single quotes, or double quotes when the text has a single
one and no double one, with the quote, the backslash and the unprintable characters escaped.

* `quoteFor`: the choice of the quote.
* `escapeChar`: the written form of one character.
* `quoted`: the quoted form of a text.
-/

set_option autoImplicit false

namespace SignedHttp
namespace Text

def escapeChar (quote c : Char) : List Char :=
  if c = quote || c = '\\' then ['\\', c]
  else if c = '\n' then ['\\', 'n']
  else if c = '\r' then ['\\', 'r']
  else if c = '\t' then ['\\', 't']
  else if isPrintable c then [c]
  else if c.toNat < 0x100 then '\\' :: 'x' :: Hex.padded 2 c.toNat
  else if c.toNat < 0x10000 then '\\' :: 'u' :: Hex.padded 4 c.toNat
  else '\\' :: 'U' :: Hex.padded 8 c.toNat

/-- The quote that needs fewer escapes; the single one where both would do. -/
def quoteFor (cs : List Char) : Char :=
  if cs.contains '\'' && !cs.contains '"' then '"' else '\''

def quotedList (cs : List Char) : List Char :=
  let quote := quoteFor cs
  quote :: cs.flatMap (escapeChar quote) ++ [quote]

def quoted (s : String) : String := String.ofList (quotedList s.toList)

end Text
end SignedHttp
