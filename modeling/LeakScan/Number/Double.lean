/-!
# Binary floating-point values

A `Double` is a value of the 64-bit binary format, held as an exact dyadic number: a sign, a
mantissa below `2^53` and a power of two, or an infinity, or the value that is not a number.
Every operation is done exactly on integers and rounded once, to the nearest value and to the
even mantissa on a tie. The value that is not a number compares false with everything.
-/

set_option autoImplicit false

namespace LeakScan

/-- A 64-bit floating-point value. `finite n m e` stands for `±m·2^e`, with the sign bit `n`.
The operations below build it with `m < 2^53` and `e ≥ -1074`, and with `m ≥ 2^52` unless
`e = -1074`, so that equal values are equal terms. -/
inductive Double where
  | nan
  | inf (negative : Bool)
  | finite (negative : Bool) (mantissa : Nat) (exponent : Int)
deriving DecidableEq, Repr, Inhabited

namespace Double

/-- The least exponent of the format. -/
def minExponent : Int := -1074

/-- Zero, without a sign. -/
def zero : Double := .finite false 0 minExponent

/-- `num / den` to the nearest integer, a half going to the even one. -/
def roundQuotient (num den : Nat) : Nat :=
  let q := num / den
  let r := num % den
  if 2 * r < den then q
  else if 2 * r = den then q + q % 2
  else q + 1

/-- The quotient `num / den` with its power of two taken out: `num / den / 2^e`. -/
def scaledQuotient (num den : Nat) (e : Int) : Nat :=
  if 0 ≤ e then roundQuotient num (den * Nat.pow 2 e.toNat)
  else roundQuotient (num * Nat.pow 2 (-e).toNat) den

/-- Whether `2^k ≤ num / den`. -/
def powerAtMost (k : Int) (num den : Nat) : Bool :=
  if 0 ≤ k then den * Nat.pow 2 k.toNat ≤ num else den ≤ num * Nat.pow 2 (-k).toNat

/-- The nearest value to `±num / den`, where `den` is positive. -/
def ofQuotient (negative : Bool) (num den : Nat) : Double :=
  if num = 0 then .finite negative 0 minExponent else
  let k : Int := (num.log2 : Int) - den.log2
  let k := if powerAtMost k num den then k else k - 1
  let e := max (k - 52) minExponent
  let m := scaledQuotient num den e
  let (m, e) := if m = Nat.pow 2 53 then (Nat.pow 2 52, e + 1) else (m, e)
  if e > 971 then .inf negative else .finite negative m e

/-- The nearest value to an integer; infinite when the integer is beyond the format. -/
def ofInt (i : Int) : Double :=
  ofQuotient (i < 0) i.natAbs 1

/-- The nearest value to `±digits·10^exponent`. Exponents far beyond the format are decided
without computing the power. -/
def ofDecimal (negative : Bool) (digits : Nat) (exponent : Int) : Double :=
  if digits = 0 then .finite negative 0 minExponent
  else if 400 < exponent then .inf negative
  else if exponent + (digits.log2 : Int) < -1200 then .finite negative 0 minExponent
  else if 0 ≤ exponent then ofQuotient negative (digits * Nat.pow 10 exponent.toNat) 1
  else ofQuotient negative digits (Nat.pow 10 (-exponent).toNat)

/-- The nearest value to `i·2^e`; a zero is positive. -/
def ofDyadic (i e : Int) : Double :=
  if 0 ≤ e then ofQuotient (i < 0) (i.natAbs * Nat.pow 2 e.toNat) 1
  else ofQuotient (i < 0) i.natAbs (Nat.pow 2 (-e).toNat)

/-- The signed mantissa. -/
def signed (negative : Bool) (m : Nat) : Int :=
  if negative then -(m : Int) else m

/-- `m·2^e` as an integer multiple of `2^low`, where `low ≤ e`. -/
def shifted (m : Int) (e low : Int) : Int :=
  m * Nat.pow 2 (e - low).toNat

def neg : Double → Double
  | .nan => .nan
  | .inf n => .inf !n
  | .finite n m e => .finite (!n) m e

def add : Double → Double → Double
  | .nan, _ => .nan
  | _, .nan => .nan
  | .inf a, .inf b => if a = b then .inf a else .nan
  | .inf a, _ => .inf a
  | _, .inf b => .inf b
  | .finite n m e, .finite n' m' e' =>
    if m = 0 && m' = 0 then .finite (n && n') 0 minExponent else
    let low := min e e'
    ofDyadic (shifted (signed n m) e low + shifted (signed n' m') e' low) low

def sub (x y : Double) : Double := add x (neg y)

def mul : Double → Double → Double
  | .nan, _ => .nan
  | _, .nan => .nan
  | .inf a, .inf b => .inf (a != b)
  | .inf a, .finite n m _ => if m = 0 then .nan else .inf (a != n)
  | .finite n m _, .inf b => if m = 0 then .nan else .inf (n != b)
  | .finite n m e, .finite n' m' e' =>
    if m = 0 || m' = 0 then .finite (n != n') 0 minExponent else
    let low := e + e'
    if 0 ≤ low then ofQuotient (n != n') (m * m' * Nat.pow 2 low.toNat) 1
    else ofQuotient (n != n') (m * m') (Nat.pow 2 (-low).toNat)

instance : Neg Double := ⟨neg⟩
instance : Add Double := ⟨add⟩
instance : Sub Double := ⟨sub⟩
instance : Mul Double := ⟨mul⟩

/-- The order of the values; nothing is below or above the value that is not a number. -/
def lt : Double → Double → Bool
  | .nan, _ => false
  | _, .nan => false
  | .inf a, .inf b => a && !b
  | .inf a, .finite .. => a
  | .finite .., .inf b => !b
  | .finite n m e, .finite n' m' e' =>
    let low := min e e'
    shifted (signed n m) e low < shifted (signed n' m') e' low

/-- Whether a value is a zero of either sign. -/
def isZero : Double → Bool
  | .finite _ m _ => m = 0
  | _ => false

/-- Whether a value is below zero; a negative zero is not. -/
def isNegative : Double → Bool
  | .nan => false
  | .inf n => n
  | .finite n m _ => n && m != 0

instance : LT Double := ⟨fun x y => lt x y = true⟩

instance instDecidableLt (x y : Double) : Decidable (x < y) :=
  inferInstanceAs (Decidable (lt x y = true))

/-- Why no integer comes of a value. -/
inductive WholeFault where
  | infinite
  | undefined
deriving DecidableEq, Repr

def WholeFault.message : WholeFault → String
  | infinite => "cannot convert float infinity to integer"
  | undefined => "cannot convert float NaN to integer"

/-- The integer that a value is without its fraction. -/
def truncate : Double → Except WholeFault Int
  | .finite n m e =>
    let size := if 0 ≤ e then m * Nat.pow 2 e.toNat else m / Nat.pow 2 (-e).toNat
    .ok (signed n size)
  | .inf _ => .error .infinite
  | .nan => .error .undefined

/-- The integer that a value is without its fraction, if it has one. -/
def truncate? (d : Double) : Option Int := d.truncate.toOption

/-- Whether a value is a whole number. -/
def isWhole : Double → Bool
  | .finite _ m e => 0 ≤ e || m % Nat.pow 2 (-e).toNat == 0
  | _ => false

example : ofDecimal false 1 (-1) + ofDecimal false 2 (-1) =
    ofDecimal false 30000000000000004 (-17) := by
  decide +kernel
example : ofDecimal false 5 (-324) = .finite false 1 (-1074) := by decide +kernel
example : ofInt (Nat.pow 2 53 + 1) = ofInt (Nat.pow 2 53) := by decide +kernel

end Double
end LeakScan
