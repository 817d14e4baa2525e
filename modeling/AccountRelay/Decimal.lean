import AccountRelay.Text
/-!
# Decimal fractions

A decimal is a signed number of digits before and after a point that may lie outside them. Zero has
a sign too. Decimals are written with at least one digit on either side of the point as long as it
lies close to the digits, and with an exponent otherwise.
-/

namespace AccountRelay

/-- The number `digits * 10 ^ exponent`, or its opposite. -/
structure Decimal where
  negative : Bool
  digits : Nat
  exponent : Int
  deriving DecidableEq, Repr

namespace Decimal

def significant (d : Decimal) : Text × Nat :=
  let reversed := (Text.decimal d.digits).reverse
  let zeros := reversed.takeWhile (· = .char '0')
  ((reversed.drop zeros.length).reverse, zeros.length)

def whole? (d : Decimal) : Option Int :=
  if d.digits = 0 then some 0
  else
    let magnitude : Option Int :=
      if 0 ≤ d.exponent then some (d.digits * Nat.pow 10 d.exponent.toNat : Nat)
      else
        let unit := Nat.pow 10 (-d.exponent).toNat
        if d.digits % unit = 0 then some (d.digits / unit) else none
    magnitude.map fun n => if d.negative then -n else n

def zeros (n : Nat) : Text := List.replicate n (.char '0')

/-- Digits with a point behind the first `n` of them; `n` may lie before or behind them all. -/
def pointed (digits : Text) (n : Int) : Text :=
  if n ≤ 0 then "0." ++ zeros (-n).toNat ++ digits
  else if digits.length ≤ n then digits ++ zeros (n.toNat - digits.length) ++ ".0"
  else digits.take n.toNat ++ "." ++ digits.drop n.toNat

def exponentText (e : Int) : Text :=
  (if e < 0 then "-" else "+")
    ++ if e.natAbs < 10 then .char '0' :: Text.decimal e.natAbs else Text.decimal e.natAbs

def scientific (digits : Text) (e : Int) : Text :=
  match digits with
  | [] => []
  | [c] => [c, .char 'e'] ++ exponentText e
  | c :: rest => [c, .char '.'] ++ rest ++ "e" ++ exponentText e

/-- Fractions below a ten thousandth and numbers from ten to the sixteenth on have an exponent. -/
def toText (d : Decimal) : Text :=
  let (digits, shift) := d.significant
  let body : Text :=
    if d.digits = 0 then "0.0"
    else
      let point := digits.length + shift + d.exponent
      if -4 < point ∧ point ≤ 16 then pointed digits point else scientific digits (point - 1)
  (if d.negative then "-" else "") ++ body

end Decimal

end AccountRelay
