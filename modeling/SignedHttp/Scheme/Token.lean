import SignedHttp.Text.Blank
import SignedHttp.Text.Case
import SignedHttp.Text.Split

/-!
# Scheme tokens

An Authorization value begins with the token of its scheme. Blanks around the value do not count,
and a space ends the token.

* `Token.first`: the token of a value.
* `Token.begins`: whether a value begins with a given one, in any letter case.
* `Token.credentials`: what follows it.
-/

set_option autoImplicit false

namespace SignedHttp
namespace Token

def first (value : String) : String :=
  String.ofList ((Text.trim value.toList).takeWhile (· != ' '))

/-- An empty value has no token. -/
def begins (token value : String) : Bool :=
  !value.isEmpty && Text.lower (first value) == Text.lower token

/-- What stands after the space that ends the token. -/
def credentials (value : String) : List Char :=
  ((Text.trim value.toList).dropWhile (· != ' ')).drop 1

end Token
end SignedHttp
