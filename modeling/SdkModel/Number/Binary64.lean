/-!
# Binary64 numbers

A number of a document that is written with a point or an exponent is a binary64 number: the
decimal it is written as, rounded to the nearest value with a 53-bit significand (`nearest`, a half
goes to the even neighbour). It is held as the shortest decimal that rounds to the same value
(`shortest`), so equal numbers are equal terms and the text of a number is read off the term.
All arithmetic is exact, on natural numbers.
-/

namespace SdkModel

/-- A binary64 number. A finite one is `coefficient * 10 ^ exponent`, the shortest decimal that
rounds to it; zero has exponent 0. -/
inductive Binary64 where
  | finite (negative : Bool) (coefficient : Nat) (exponent : Int)
  | infinite (negative : Bool)
  | undefined
deriving DecidableEq, Repr, Inhabited

namespace Binary64

/-- `base ^ e` as a fraction of natural numbers. -/
def powerFraction (base : Nat) (e : Int) : Nat × Nat :=
  if 0 ≤ e then (Nat.pow base e.toNat, 1) else (1, Nat.pow base (-e).toNat)

/-- The quotient rounded to the nearest number, a half to the even one. -/
def divNearest (num den : Nat) : Nat :=
  let k := num / den
  let r := num % den
  if den < 2 * r ∨ (den = 2 * r ∧ k % 2 = 1) then k + 1 else k

/-- The least binary exponent. -/
def leastExponent : Int := -1074

/-- The significand and binary exponent nearest to a positive fraction; none beyond the range. -/
def nearest (num den : Nat) : Option (Nat × Int) :=
  let guess : Int := (num.log2 : Int) - den.log2 - 53
  let scaled (q : Int) : Nat × Nat :=
    let (a, b) := powerFraction 2 q
    (num * b, den * a)
  let fits (q : Int) : Bool := let (a, b) := scaled q; a / b < Nat.pow 2 53
  let q := max leastExponent (if fits guess then guess else guess + 1)
  let (a, b) := scaled q
  let m := divNearest a b
  let (m, q) := if m = Nat.pow 2 53 then (Nat.pow 2 52, q + 1) else (m, q)
  if 971 < q then none else some (m, q)

/-- The shortest decimal that rounds to `m * 2 ^ q`, searched on ever finer decimal grids from
`10 ^ g` down; of two hits on one grid the nearer, on a tie the even one. -/
def shortestFrom (m : Nat) (q : Int) : Nat → Int → Nat × Int
  | 0, g => (m, g)
  | fuel + 1, g =>
    let (unit, unitDen) := powerFraction 2 (q - 2)
    let (grid, gridDen) := powerFraction 10 g
    let low := if m = Nat.pow 2 52 ∧ leastExponent < q then 4 * m - 1 else 4 * m - 2
    let value := 4 * m * unit * gridDen
    let step := grid * unitDen
    let hits (d : Nat) : Bool :=
      if m % 2 = 0 then low * unit * gridDen ≤ d * step && d * step ≤ (4 * m + 2) * unit * gridDen
      else low * unit * gridDen < d * step && d * step < (4 * m + 2) * unit * gridDen
    let d := value / step
    match hits d, hits (d + 1) with
    | true, false => (d, g)
    | false, true => (d + 1, g)
    | true, true =>
      let below := value - d * step
      let above := (d + 1) * step - value
      if below < above ∨ (below = above ∧ d % 2 = 0) then (d, g) else (d + 1, g)
    | false, false => shortestFrom m q fuel (g - 1)

/-- The shortest decimal that rounds to `m * 2 ^ q`; 17 digits always suffice. -/
def shortest (m : Nat) (q : Int) : Nat × Int :=
  shortestFrom m q 24 (((m.log2 : Int) + q) * 30103 / 100000 + 2)

/-- The binary64 number nearest to `coefficient * 10 ^ exponent`. -/
def ofDecimal (negative : Bool) (coefficient : Nat) (exponent : Int) : Binary64 :=
  let size : Int := (coefficient.log2 : Int) / 3 + exponent
  if coefficient = 0 ∨ size < -400 then .finite negative 0 0
  else if 400 < exponent then .infinite negative
  else
    let (a, b) := powerFraction 10 exponent
    match nearest (coefficient * a) b with
    | none => .infinite negative
    | some (0, _) => .finite negative 0 0
    | some (m, q) =>
      let (c, e) := shortest m q
      .finite negative c e

def isZero : Binary64 → Bool
  | .finite _ 0 _ => true
  | _ => false

/-- The number as an integer, when it is one. -/
def toInt? : Binary64 → Option Int
  | .finite _ 0 _ => some 0
  | .finite negative c e =>
    let (a, b) := powerFraction 10 e
    match nearest (c * a) b with
    | none => none
    | some (m, q) =>
      let (a, b) := powerFraction 2 q
      if m * a % b = 0 then
        let n : Int := (m * a / b : Nat)
        some (if negative then -n else n)
      else none
  | _ => none

/-- The number as a fraction with a positive denominator, when it is finite. -/
def fraction? : Binary64 → Option (Int × Nat)
  | .finite negative c e =>
    let (a, b) := powerFraction 10 e
    match nearest (c * a) b with
    | none => none
    | some (m, q) =>
      let (a, b) := powerFraction 2 q
      let n : Int := (m * a : Nat)
      some (if negative then -n else n, b)
  | _ => none

/-- The binary64 number nearest to a fraction with a positive denominator. -/
def ofFraction (num : Int) (den : Nat) : Binary64 :=
  if num = 0 then .finite false 0 0
  else match nearest num.natAbs den with
    | none => .infinite (num < 0)
    | some (0, _) => .finite (num < 0) 0 0
    | some (m, q) =>
      let (c, e) := shortest m q
      .finite (num < 0) c e

/-- The number times a natural number, rounded; what is not finite stays as it is. -/
def times (x : Binary64) (n : Nat) : Binary64 :=
  match x.fraction? with
  | some (num, den) => ofFraction (num * n) den
  | none => x

/-- The rounded sum of two numbers, one that is not finite being the sum. -/
def plus (x y : Binary64) : Binary64 :=
  match x.fraction?, y.fraction? with
  | some (a, b), some (c, d) => ofFraction (a * d + c * b) (b * d)
  | some _, none => y
  | none, _ => x

/-- Zeros in front of a digit text up to a width. -/
def padLeft (width : Nat) (s : String) : String :=
  String.ofList (List.replicate (width - s.length) '0') ++ s

/-- The text of a number: positional from `10 ^ -4` up to below `10 ^ 16` and with an exponent of
two digits or more elsewhere; a positional number has at least one decimal. -/
def render : Binary64 → String
  | .undefined => "nan"
  | .infinite negative => if negative then "-inf" else "inf"
  | .finite negative c e =>
    let digits := toString c
    let lead : Int := e + digits.length - 1
    let sign := if negative then "-" else ""
    let body :=
      if lead < -4 ∨ 16 ≤ lead then
        let mantissa := match digits.toList with
          | [] => ""
          | [d] => String.singleton d
          | d :: ds => String.ofList (d :: '.' :: ds)
        let mark := if lead < 0 then "e-" else "e+"
        mantissa ++ mark ++ padLeft 2 (toString lead.natAbs)
      else if 0 ≤ e then
        digits ++ String.ofList (List.replicate e.toNat '0') ++ ".0"
      else
        let places := (-e).toNat
        let padded := (padLeft (places + 1) digits).toList
        let whole := padded.length - places
        String.ofList (padded.take whole ++ '.' :: padded.drop whole)
    sign ++ body

end Binary64

end SdkModel
