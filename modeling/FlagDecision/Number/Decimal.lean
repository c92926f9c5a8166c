import FlagDecision.Number.Binary64

/-!
Decimal text of double precision numbers: the nearest number to a decimal, the fewest digits that
read back, and the two layouts in use (plain digits, and the one of JSON documents).
-/

namespace FlagDecision

namespace Binary64

/-- The number nearest to `±digits · 10^exponent`. Exponents far outside the range are decided by
the position of the leading digit alone. -/
def ofDecimal (negative : Bool) (digits : Nat) (exponent : Int) : Binary64 :=
  let leading : Int := (Nat.toDigits 10 digits).length + exponent
  if digits = 0 ∨ leading < -330 then finite negative 0 leastExponent
  else if 310 < leading then infinity negative
  else ofRatio negative (digits * Nat.pow 10 exponent.toNat) (Nat.pow 10 (-exponent).toNat)

/-- Which of two equally near decimals is taken. -/
inductive Tie where
  | toEven
  | upward
  deriving DecidableEq, Repr

/-- The multiple `k · 10^p` nearest to `m · 2^e` if it reads back as that number: it lies within
half a gap on either side, ends included when `m` is even. -/
def readsBackAt? (tie : Tie) (m : Nat) (e : Int) (p : Int) : Option Nat :=
  -- everything is counted in quarters of the last place, times a common denominator
  let (up, down) := powerOfTwo (e - 2)
  let spacing := Nat.pow 10 p.toNat * down
  let scale := Nat.pow 10 (-p).toNat * up
  let value := 4 * m * scale
  let gapBelow := if m = Nat.pow 2 (precision - 1) ∧ leastExponent < e then scale else 2 * scale
  let gapAbove := 2 * scale
  let hits (k : Nat) : Bool :=
    let point := k * spacing
    if m % 2 = 0 then value ≤ point + gapBelow && point ≤ value + gapAbove
    else value < point + gapBelow && point < value + gapAbove
  let k := value / spacing
  let lower := value - k * spacing
  let upper := (k + 1) * spacing - value
  match hits k, hits (k + 1) with
  | true, true =>
    if lower < upper then some k
    else if upper < lower then some (k + 1)
    else if tie = .toEven ∧ k % 2 = 0 then some k
    else some (k + 1)
  | true, false => some k
  | false, true => some (k + 1)
  | false, false => none

/-- The fewest decimal digits that read back as `m · 2^e`, as `k · 10^p`; of several the nearest.
Seventeen digits always do, so the search from above ends within the list. -/
def shortest (tie : Tie) (m : Nat) (e : Int) : Nat × Int :=
  let top : Int := ((Nat.log2 m + 1 + e) * 30103) / 100000 + 1
  let found := (List.range 24).findSome? fun (i : Nat) =>
    let p : Int := top - (i : Int)
    (readsBackAt? tie m e p).map (·, p)
  found.getD (m, e)

end Binary64

/-- The digits of `k · 10^p` in plain notation, without a point when there is no fraction. -/
def plainDigits (k : Nat) (p : Int) : String :=
  let digits := Nat.toDigits 10 k
  if 0 ≤ p then String.ofList (digits ++ List.replicate p.toNat '0')
  else
    let places := (-p).toNat
    let padded := List.replicate (places + 1 - digits.length) '0' ++ digits
    let (whole, fraction) := padded.splitAt (padded.length - places)
    String.ofList (whole ++ '.' :: fraction)

namespace Binary64

/-- Plain decimal text with the fewest digits that read back: never an exponent, no fraction on a
whole number, and no sign on a zero. -/
def text : Binary64 → String
  | finite negative m e =>
    if m = 0 then "0"
    else
      let (k, p) := shortest .upward m e
      (if negative then "-" else "") ++ plainDigits k p
  | infinity negative => if negative then "-inf" else "inf"
  | nan => "NaN"

/-- The text of a number in a JSON document: always with a point or an exponent; an exponent with
its sign when the leading digit stands below `10^-5` or from `10^16` on. -/
def jsonText : Binary64 → String
  | finite negative m e =>
    let sign := if negative then "-" else ""
    if m = 0 then sign ++ "0.0"
    else
      let (k, p) := shortest .toEven m e
      let digits := Nat.toDigits 10 k
      let leading : Int := digits.length - 1 + p
      if -5 ≤ leading ∧ leading ≤ 15 then
        sign ++ plainDigits k p ++ (if 0 ≤ p then ".0" else "")
      else
        let fraction := digits.drop 1
        let point := if fraction.isEmpty then [] else ['.']
        let mark := if leading < 0 then "e-" else "e+"
        let body := String.ofList (digits.take 1 ++ point ++ fraction)
        sign ++ body ++ mark ++ toString leading.natAbs
  | _ => "null"

end Binary64

/-- Split off the leading decimal digits. -/
def spanDigits (s : List Char) : List Char × List Char :=
  (s.takeWhile Char.isDigit, s.dropWhile Char.isDigit)

def digitsValue (s : List Char) : Nat :=
  s.foldl (fun n c => 10 * n + (c.toNat - '0'.toNat)) 0

/-- The exponent that ends a number: nothing, or `e` with an optional sign and digits. -/
def readExponent? : List Char → Option Int
  | [] => some 0
  | c :: rest =>
    if c = 'e' ∨ c = 'E' then
      let (negative, digits) := match rest with
        | '+' :: r => (false, r)
        | '-' :: r => (true, r)
        | r => (false, r)
      if digits.isEmpty ∨ ¬ digits.all Char.isDigit then none
      else
        let n := digitsValue digits
        some (if negative then -(n : Int) else (n : Int))
    else none

/-- Read a whole text as a decimal number: an optional sign, digits with at most one point and at
least one digit, and an optional exponent. -/
def readDecimal? (s : List Char) : Option Binary64 :=
  let (negative, s) := match s with
    | '+' :: r => (false, r)
    | '-' :: r => (true, r)
    | r => (false, r)
  let (whole, s) := spanDigits s
  let (fraction, s) := match s with
    | '.' :: r => spanDigits r
    | r => ([], r)
  if whole.isEmpty ∧ fraction.isEmpty then none
  else (readExponent? s).map fun exponent =>
    Binary64.ofDecimal negative (digitsValue (whole ++ fraction)) (exponent - fraction.length)

end FlagDecision
