/-!
Double precision numbers as exact values. A finite number is a signed whole significand times a
power of two, every operation is the exact rational result rounded once to the nearest number
(ties to the even significand), and no machine arithmetic is involved.
-/

namespace FlagDecision

/-- A double precision number. `finite s m e` stands for `±m · 2^e`; zero keeps its sign. -/
inductive Binary64 where
  | finite (negative : Bool) (significand : Nat) (exponent : Int)
  | infinity (negative : Bool)
  | nan
  deriving DecidableEq, Repr, Inhabited

namespace Binary64

/-- The significand of a finite number is below `2 ^ precision`. -/
def precision : Nat := 53

/-- The exponent of zero and of the numbers closest to it. -/
def leastExponent : Int := -1074

/-- The exponent of the largest finite numbers. -/
def greatestExponent : Int := 971

/-- `2 ^ e` as a fraction: the power above the line and the power below it. -/
def powerOfTwo (e : Int) : Nat × Nat := (Nat.pow 2 e.toNat, Nat.pow 2 (-e).toNat)

/-- `num / den` rounded to the nearest whole number, a half going to the even neighbour. -/
def divideToEven (num den : Nat) : Nat :=
  let q := num / den
  let r := num % den
  if 2 * r < den then q
  else if den < 2 * r then q + 1
  else if q % 2 = 0 then q
  else q + 1

/-- The exponent that leaves `precision` binary digits before the point of `num / den`. -/
def normalExponent (num den : Nat) : Int :=
  let guess : Int := (Nat.log2 num : Int) - (Nat.log2 den : Int) - (precision - 1 : Nat)
  let (up, down) := powerOfTwo guess
  if num * down < Nat.pow 2 (precision - 1) * (den * up) then guess - 1 else guess

/-- The number nearest to `num / den`, with the given sign. Quotients that round above the largest
finite number are infinite. -/
def ofRatio (negative : Bool) (num den : Nat) : Binary64 :=
  let e := max leastExponent (if num = 0 then leastExponent else normalExponent num den)
  let (up, down) := powerOfTwo e
  let m := divideToEven (num * down) (den * up)
  let (m, e) := if m = Nat.pow 2 precision then (Nat.pow 2 (precision - 1), e + 1) else (m, e)
  if greatestExponent < e then infinity negative else finite negative m e

/-- The number nearest to `x`; `negativeZero` is the sign of a result that rounds to zero from an
exact zero. -/
def ofRat (x : Rat) (negativeZero : Bool) : Binary64 :=
  ofRatio (if x.num = 0 then negativeZero else decide (x.num < 0)) x.num.natAbs x.den

/-- The number nearest to a natural number. -/
def ofNat (n : Nat) : Binary64 := ofRatio false n 1

/-- The number nearest to an integer. -/
def ofInt (n : Int) : Binary64 := ofRatio (decide (n < 0)) n.natAbs 1

instance (n : Nat) : OfNat Binary64 n := ⟨ofNat n⟩

/-- The exact value of a finite number; zero for the others, which have none. -/
def toRat : Binary64 → Rat
  | finite negative m e =>
    let (up, down) := powerOfTwo e
    mkRat (if negative then -(m * up : Int) else (m * up : Int)) down
  | _ => 0

def isNegative : Binary64 → Bool
  | finite negative _ _ => negative
  | infinity negative => negative
  | nan => false

/-- Neither infinite nor `nan`. -/
def isFinite : Binary64 → Bool
  | finite .. => true
  | _ => false

/-- A zero of either sign. -/
def isZero : Binary64 → Bool
  | finite _ m _ => m == 0
  | _ => false

def neg : Binary64 → Binary64
  | finite negative m e => finite (!negative) m e
  | infinity negative => infinity (!negative)
  | nan => nan

/-- The sum, rounded once. Opposite infinities have none. -/
def add : Binary64 → Binary64 → Binary64
  | nan, _ | _, nan => nan
  | infinity s, infinity t => if s = t then infinity s else nan
  | infinity s, _ | _, infinity s => infinity s
  | x@(finite s _ _), y@(finite t _ _) => ofRat (x.toRat + y.toRat) (s && t)

/-- The product, rounded once. A zero times an infinity has none. -/
def mul (x y : Binary64) : Binary64 :=
  let sign := x.isNegative != y.isNegative
  match x, y with
  | nan, _ | _, nan => nan
  | infinity _, y => if y.isZero then nan else infinity sign
  | x, infinity _ => if x.isZero then nan else infinity sign
  | finite .., finite .. =>
    let p := x.toRat * y.toRat
    ofRatio sign p.num.natAbs p.den

/-- The quotient, rounded once. A nonzero number over a zero is infinite. -/
def div (x y : Binary64) : Binary64 :=
  let sign := x.isNegative != y.isNegative
  match x, y with
  | nan, _ | _, nan => nan
  | infinity _, infinity _ => nan
  | infinity _, finite .. => infinity sign
  | finite .., infinity _ => finite sign 0 leastExponent
  | finite .., finite .. =>
    if y.isZero then
      if x.isZero then nan else infinity sign
    else
      let q := x.toRat / y.toRat
      ofRatio sign q.num.natAbs q.den

instance : Neg Binary64 := ⟨neg⟩
instance : Add Binary64 := ⟨add⟩
instance : Mul Binary64 := ⟨mul⟩
instance : Div Binary64 := ⟨div⟩

/-- The order by value; none where one side is `nan`. Both zeros are equal. -/
def compare? : Binary64 → Binary64 → Option Ordering
  | nan, _ | _, nan => none
  | infinity s, infinity t => some (if s = t then .eq else if s then .lt else .gt)
  | infinity s, finite .. => some (if s then .lt else .gt)
  | finite .., infinity s => some (if s then .gt else .lt)
  | x@(finite ..), y@(finite ..) =>
    some (if x.toRat < y.toRat then .lt else if x.toRat = y.toRat then .eq else .gt)

def sameValue (x y : Binary64) : Bool := x.compare? y == some .eq

def atMost (x y : Binary64) : Bool :=
  match x.compare? y with
  | some .lt | some .eq => true
  | _ => false

def below (x y : Binary64) : Bool := x.compare? y == some .lt

/-- The greatest whole number up to a finite value; infinities and `nan` have none. -/
def floor? (x : Binary64) : Option Int :=
  if x.isFinite then some x.toRat.floor else none

/-- The least whole number from a finite value on; infinities and `nan` have none. -/
def ceil? (x : Binary64) : Option Int :=
  if x.isFinite then some (-(-x.toRat).floor) else none

/-- Round to the nearest whole number, a half going away from zero. -/
def round (x : Binary64) : Binary64 :=
  match x with
  | finite negative _ _ =>
    let q := x.toRat
    let magnitude := ((if q < 0 then -q else q) + mkRat 1 2).floor.natAbs
    ofRatio negative magnitude 1
  | _ => x

/-- A whole number clamped into `0 ..= most`. -/
def clampNat (most : Nat) (n : Int) : Nat := min most n.toNat

/-- The interchange format: one sign bit, eleven of biased exponent, fifty-two of significand. -/
def toBits : Binary64 → UInt64
  | finite negative m e =>
    let sign := if negative then Nat.pow 2 63 else 0
    let body :=
      if m < Nat.pow 2 (precision - 1) then m
      else
        (e - leastExponent + 1).toNat * Nat.pow 2 (precision - 1) +
          (m - Nat.pow 2 (precision - 1))
    UInt64.ofNat (sign + body)
  | infinity negative => UInt64.ofNat ((if negative then Nat.pow 2 63 else 0) + 2047 * Nat.pow 2 52)
  | nan => UInt64.ofNat (2047 * Nat.pow 2 52 + Nat.pow 2 51)

end Binary64

end FlagDecision
