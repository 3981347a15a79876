import LeakScan.Number.Double

/-!
# The shortest text of a floating-point value

A value is written with the fewest significant digits that read back as it. Among the decimals
of that length that read back, the nearest to the value is taken, and of two equally near the
one with the even last digit. Values from `10^-4` up to `10^16` are written positionally with
a digit after the point, the others with one digit before the point and an exponent of at
least two digits.
-/

set_option autoImplicit false

namespace LeakScan.Double

/-- `m·2^e` as a quotient of naturals. -/
def quotient (m : Nat) (e : Int) : Nat × Nat :=
  if 0 ≤ e then (m * Nat.pow 2 e.toNat, 1) else (m, Nat.pow 2 (-e).toNat)

/-- The least `k` with `num / den < 10^k`, searched for upward from `k`. -/
def decimalPoint (num den : Nat) : (fuel : Nat) → (k : Int) → Int
  | 0, k => k
  | fuel + 1, k =>
    let below := if 0 ≤ k then num < den * Nat.pow 10 k.toNat else num * Nat.pow 10 (-k).toNat < den
    if below then k else decimalPoint num den fuel (k + 1)

/-- A lower bound of the decimal point of `num / den`, from the bit lengths: one decimal digit
is worth more than three bits and less than four. -/
def decimalPointFrom (num den : Nat) : Int :=
  let bits := (num.log2 : Int) - den.log2 - 1
  if 0 ≤ bits then bits * 3 / 10 - 1 else bits * 31 / 100 - 2

/-- The decimals of `n` digits next to `num / den`, as a numerator over `10^shift`: the one at
or below it, and the remainder to it. -/
def gridBelow (num den : Nat) (shift : Int) : Nat × Nat × Nat :=
  if 0 ≤ shift then
    let scaled := num * Nat.pow 10 shift.toNat
    (scaled / den, scaled % den, den)
  else
    let scaled := den * Nat.pow 10 (-shift).toNat
    (num / scaled, num % scaled, scaled)

/-- The decimal of `n` digits that reads back as `x` and is nearest to it, if one reads back. -/
def nearestOfLength? (x : Double) (num den : Nat) (point : Int) (n : Nat) : Option Nat :=
  let shift : Int := n - point
  let (below, rest, unit) := gridBelow num den shift
  let readsBack (d : Nat) : Bool := ofDecimal false d (-shift) = x
  let lower := readsBack below
  let upper := readsBack (below + 1)
  if lower && upper then
    if 2 * rest < unit then some below
    else if 2 * rest = unit then some (below + below % 2)
    else some (below + 1)
  else if lower then some below
  else if upper then some (below + 1)
  else none

/-- The first length of `ns` at which a decimal reads back, with that decimal. -/
def shortestAmong (x : Double) (num den : Nat) (point : Int) : List Nat → Nat × Nat
  | [] => (0, 1)
  | n :: ns =>
    match nearestOfLength? x num den point n with
    | some d => (d, n)
    | none => shortestAmong x num den point ns

/-- The significant digits and the position of the decimal point of a positive finite value:
`(digits, point)` stands for `0.digits · 10^point`, without trailing zeros. -/
def shortestDigits (m : Nat) (e : Int) : List Char × Int :=
  let (num, den) := quotient m e
  let point := decimalPoint num den 700 (decimalPointFrom num den)
  let (d, n) := shortestAmong (.finite false m e) num den point (List.range' 1 17)
  let cs := Nat.toDigits 10 d
  let point := point + ((cs.length : Int) - n)
  ((cs.reverse.dropWhile (· = '0')).reverse, point)

/-- Pads a text on the left with zeros. -/
def zeroPadded (width : Nat) (cs : List Char) : List Char :=
  List.replicate (width - cs.length) '0' ++ cs

/-- Lays out significant digits around the decimal point. -/
def layout (digits : List Char) (point : Int) : List Char :=
  if -4 < point ∧ point ≤ 16 then
    if point ≤ 0 then '0' :: '.' :: List.replicate (-point).toNat '0' ++ digits
    else
      let whole := point.toNat
      if digits.length ≤ whole then
        digits ++ List.replicate (whole - digits.length) '0' ++ ['.', '0']
      else digits.take whole ++ '.' :: digits.drop whole
  else
    let exponent := point - 1
    let mark := if exponent < 0 then '-' else '+'
    let mantissa := match digits with
      | d :: d' :: ds => d :: '.' :: d' :: ds
      | ds => ds
    mantissa ++ 'e' :: mark :: zeroPadded 2 (Nat.toDigits 10 exponent.natAbs)

/-- The shortest text of a value. -/
def text : Double → String
  | .nan => "nan"
  | .inf n => if n then "-inf" else "inf"
  | .finite n m e =>
    let sign := if n then ['-'] else []
    if m = 0 then String.ofList (sign ++ ['0', '.', '0'])
    else
      let (digits, point) := shortestDigits m e
      String.ofList (sign ++ layout digits point)

instance : ToString Double := ⟨text⟩

end LeakScan.Double
