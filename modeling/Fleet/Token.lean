import Fleet.Text.Decimal

/-!
# Tokens

Names that must not clash carry a token of 32 hexadecimal digits. A supply gives out tokens in a
fixed sequence; its label stands in the upper half of every token, so supplies with different labels
never give out the same one.
-/

namespace Fleet

/-- A source of tokens. -/
structure TokenSupply where
  /-- The number that sets this supply apart. -/
  label : Nat
  /-- How many tokens have been given out. -/
  drawn : Nat := 0
  deriving DecidableEq, Repr

namespace TokenSupply

/-- The next token. -/
def next (supply : TokenSupply) : String :=
  Text.paddedHex 32 (supply.label * (Text.largest64 + 1) + supply.drawn)

/-- The next token, and the supply without it. -/
def draw (supply : TokenSupply) : String × TokenSupply :=
  (supply.next, { supply with drawn := supply.drawn + 1 })

end TokenSupply

end Fleet
