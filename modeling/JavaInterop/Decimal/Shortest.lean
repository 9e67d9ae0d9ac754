/-!
# The shortest decimal of a binary floating-point number

A binary floating-point number stands for every real that rounds to it. Among the decimals in that
interval the shortest one is found on the coarsest grid of powers of ten that has a point in it;
there the point nearest to the number is taken, the upper one of two. Everything is exact
arithmetic on natural numbers, starting from the bit pattern.
-/

namespace JavaInterop.Decimal

/-- A binary format: how many bits the fraction and the exponent take. The sign is one more bit. -/
structure BinaryFormat where
  fractionBits : Nat
  exponentBits : Nat

/-- The 32-bit format. -/
def single : BinaryFormat := ⟨23, 8⟩

/-- The 64-bit format. -/
def double : BinaryFormat := ⟨52, 11⟩

/-- What a bit pattern says apart from its sign. A finite number is `significand · 2 ^ exponent`;
`narrowBelow` tells that its lower neighbour is only half as far away as the upper one. -/
inductive Magnitude where
  | nan
  | infinite
  | finite (significand : Nat) (exponent : Int) (narrowBelow : Bool)
deriving DecidableEq

/-- The sign bit of a pattern. -/
def BinaryFormat.isNegative (format : BinaryFormat) (bits : Nat) : Bool :=
  bits.testBit (format.fractionBits + format.exponentBits)

/-- The magnitude that a bit pattern stands for. -/
def BinaryFormat.magnitude (format : BinaryFormat) (bits : Nat) : Magnitude :=
  let fraction := bits % Nat.pow 2 format.fractionBits
  let biased := bits / Nat.pow 2 format.fractionBits % Nat.pow 2 format.exponentBits
  let lowest : Int := 2 - Nat.pow 2 (format.exponentBits - 1) - format.fractionBits
  if biased = Nat.pow 2 format.exponentBits - 1 then
    if fraction = 0 then .infinite else .nan
  else if biased = 0 then .finite fraction lowest false
  else .finite (Nat.pow 2 format.fractionBits + fraction) (lowest + (biased - 1 : Nat))
    (fraction = 0 ∧ 1 < biased)

/-- The reals between two ends, which are counted in quarters of the unit `2 ^ exponent`, with the
number itself at four times its significand. -/
structure Interval where
  low : Nat
  middle : Nat
  high : Nat
  exponent : Int
  closed : Bool

/-- The reals that round to `significand · 2 ^ exponent`. A tie goes to the even significand, so the
ends belong to the interval exactly if the significand is even. -/
def roundingInterval (significand : Nat) (exponent : Int) (narrowBelow : Bool) : Interval where
  low := 4 * significand - if narrowBelow then 1 else 2
  middle := 4 * significand
  high := 4 * significand + 2
  exponent := exponent - 2
  closed := significand % 2 == 0

/-- The factor that turns quarters into a common integer scale with the grid `10 ^ grid`. -/
def Interval.scale (interval : Interval) (grid : Int) : Nat :=
  Nat.pow 2 interval.exponent.toNat * Nat.pow 10 (-grid).toNat

/-- One step of the grid `10 ^ grid` on that common scale. -/
def Interval.step (interval : Interval) (grid : Int) : Nat :=
  Nat.pow 10 grid.toNat * Nat.pow 2 (-interval.exponent).toNat

/-- Whether `point · 10 ^ grid` lies in the interval. -/
def Interval.contains (interval : Interval) (grid : Int) (point : Nat) : Bool :=
  let value := point * interval.step grid
  let low := interval.low * interval.scale grid
  let high := interval.high * interval.scale grid
  if interval.closed then low ≤ value && value ≤ high else low < value && value < high

/-- The point of the grid in the interval that is nearest to the middle, if the grid has one. Of two
points that are equally near the upper one is taken. -/
def Interval.nearest? (interval : Interval) (grid : Int) : Option Nat :=
  let middle := interval.middle * interval.scale grid
  let step := interval.step grid
  let below := middle / step
  let above := below + 1
  match interval.contains grid below && below != 0, interval.contains grid above with
  | true, true => if middle - below * step < above * step - middle then some below else some above
  | true, false => some below
  | false, true => some above
  | false, false => none

/-- Searches the grids downwards from `grid`, at most `count` of them. -/
def Interval.coarsest? (interval : Interval) (grid : Int) : Nat → Option (Nat × Int)
  | 0 => none
  | count + 1 =>
    match interval.nearest? grid with
    | some point => some (point, grid)
    | none => interval.coarsest? (grid - 1) count

/-- A positive decimal `digits · 10 ^ exponent`. -/
structure Digits where
  digits : List Char
  exponent : Int

/-- The shortest digits of a positive number. Every finite number of the two formats is below
`10 ^ 309` and has a decimal on a grid no finer than `10 ^ -325`. -/
def shortest (significand : Nat) (exponent : Int) (narrowBelow : Bool) : Digits :=
  match (roundingInterval significand exponent narrowBelow).coarsest? 309 640 with
  | some (point, grid) => ⟨Nat.toDigits 10 point, grid⟩
  | none => ⟨['0'], 0⟩

/-- How a number is laid out: the decimal exponents written positionally (from `least` up to but not
including `limit`) and whether a whole number keeps one decimal. -/
structure Layout where
  least : Int
  limit : Int
  keepsDecimal : Bool

/-- Diagnostic output is positional from one ten-thousandth to below `10 ^ 16`, always with a
decimal. -/
def diagnostic : Layout := ⟨-4, 16, true⟩

/-- The text of a positive decimal. -/
def Layout.write (layout : Layout) (number : Digits) : List Char :=
  let leading : Int := number.digits.length + number.exponent - 1
  if layout.least ≤ leading ∧ leading < layout.limit then
    if 0 ≤ number.exponent then
      number.digits ++ List.replicate number.exponent.toNat '0'
        ++ if layout.keepsDecimal then ['.', '0'] else []
    else if 0 ≤ leading then
      let whole := leading.toNat + 1
      number.digits.take whole ++ '.' :: number.digits.drop whole
    else '0' :: '.' :: List.replicate (-leading - 1).toNat '0' ++ number.digits
  else
    let rest := number.digits.drop 1
    number.digits.take 1 ++ (if rest.isEmpty then [] else '.' :: rest)
      ++ 'e' :: (toString leading).toList

/-- The text of a bit pattern. -/
def Layout.ofBits (layout : Layout) (format : BinaryFormat) (bits : Nat) : String :=
  let sign := if format.isNegative bits then ['-'] else []
  match format.magnitude bits with
  | .nan => "NaN"
  | .infinite => String.ofList (sign ++ ['i', 'n', 'f'])
  | .finite 0 _ _ => String.ofList (sign ++ layout.write ⟨['0'], 0⟩)
  | .finite significand exponent narrowBelow =>
    String.ofList (sign ++ layout.write (shortest significand exponent narrowBelow))

end JavaInterop.Decimal
