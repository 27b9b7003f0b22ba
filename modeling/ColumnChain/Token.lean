/-!
# Random tokens

A token is a fixed number of random characters out of thirty-six. What a random source
yields is a parameter of the functions that need it: a family of tokens by address, so
that independent parts of a computation draw at different addresses.
-/

namespace ColumnChain

/-- The characters of tokens: the lower-case letters and the digits. -/
def tokenChars : List Char :=
  "abcdefghijklmnopqrstuvwxyz0123456789".toList

instance neZero_thirtySix : @NeZero Nat Zero.ofOfNat0 36 where
  out := by decide

/-- So many draws out of thirty-six. -/
abbrev Token (length : Nat) := Fin length → Fin 36

/-- The characters of a token. -/
def Token.chars {length : Nat} (token : Token length) : List Char :=
  (List.finRange length).map fun i => tokenChars.getD (token i) 'a'

theorem Token.length_chars {length : Nat} (token : Token length) :
    token.chars.length = length := by
  simp [Token.chars]

/-- What the random source yields at each address. -/
abbrev Draws := List Nat → Token 8

/-- The draws below an address. -/
def Draws.under (draws : Draws) (place : Nat) : Draws :=
  fun address => draws (place :: address)

end ColumnChain
