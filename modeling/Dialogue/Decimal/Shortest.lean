import Dialogue.Decimal.Binary
/-!
# The shortest decimal of a floating-point number

A double is written with the fewest digits that read back as the same double; of several such
decimals, the nearest. `Binary.readsBack` is the test, `Binary.shortest` the search over grids of
growing fineness.
-/

namespace Dialogue.Decimal

/-- The number `digits * 10 ^ exp`. -/
structure Dec where
  digits : Nat
  exp : Int
deriving Repr, DecidableEq

/-- Compares `a * 10 ^ i` with `n * 2 ^ j`, exactly. -/
def compareScaled (a : Nat) (i : Int) (n : Nat) (j : Int) : Ordering :=
  compare (a * Nat.pow 10 i.toNat * Nat.pow 2 (-j).toNat) (n * Nat.pow 2 j.toNat * Nat.pow 10 (-i).toNat)

/-- Whether the decimal lies among the reals that round to `x`: between the halfway points to its
two neighbours, which belong to it exactly when `m` is even. -/
def Binary.readsBack (x : Binary) (d : Dec) : Bool :=
  let lo := if x.narrowBelow then 4 * x.m - 1 else 4 * x.m - 2
  let hi := 4 * x.m + 2
  let closed := x.m % 2 == 0
  let below := compareScaled d.digits d.exp lo (x.q - 2)
  let above := compareScaled d.digits d.exp hi (x.q - 2)
  (below == .gt || (closed && below == .eq)) && (above == .lt || (closed && above == .eq))

/-- The least `k` with `x < 10 ^ k`, found next to an estimate from the binary logarithm. -/
def Binary.scale (x : Binary) : Int :=
  let estimate := ((Nat.log2 x.m : Int) + x.q) * 30103 / 100000
  let tries := [estimate - 1, estimate, estimate + 1, estimate + 2]
  (tries.find? fun k => compareScaled 1 k x.m x.q == .gt).getD (estimate + 3)

/-- The decimals next to `x` on the grid of multiples of `10 ^ g`. -/
def Binary.neighbours (x : Binary) (g : Int) : Dec × Dec :=
  let (num, den) := x.over g
  (⟨num / den, g⟩, ⟨num / den + 1, g⟩)

/-- The decimal on one grid that reads back: of two the nearer, in a tie the even one. -/
def Binary.onGrid? (x : Binary) (g : Int) : Option Dec :=
  let (lo, hi) := x.neighbours g
  match x.readsBack lo, x.readsBack hi with
  | true, false => some lo
  | false, true => some hi
  | false, false => none
  | true, true =>
    let (num, den) := x.over g
    match compare (2 * (num % den)) den with
    | .lt => some lo
    | .gt => some hi
    | .eq => some (if lo.digits % 2 == 0 then lo else hi)

/-- Moves trailing zeros of the digits into the exponent; `fuel` bounds their number. -/
def Dec.strip : Nat → Dec → Dec
  | 0, d => d
  | fuel + 1, d =>
    if d.digits != 0 && d.digits % 10 == 0 then Dec.strip fuel ⟨d.digits / 10, d.exp + 1⟩ else d

/-- The exact value, for want of a shorter one. -/
def Binary.exact (x : Binary) : Dec :=
  ⟨x.m * Nat.pow 2 x.q.toNat * Nat.pow 5 (-x.q).toNat, if x.q < 0 then x.q else 0⟩

/-- The shortest decimal that reads back as `x`, which is not zero. -/
def Binary.shortest (x : Binary) : Dec :=
  let k := x.scale
  let found := (List.range 17).findSome? fun n => x.onGrid? (k - (n + 1 : Nat))
  Dec.strip 400 (found.getD x.exact)

/-- Left-pads with zeros to at least `width` characters. -/
def padLeft (width : Nat) (s : String) : String :=
  String.ofList (List.replicate (width - s.length) '0') ++ s

/-- A decimal as text: positional while its leading digit stands for `10 ^ -4` up to `10 ^ 15`, else
with an exponent of a sign and at least two digits. Integral values keep a point and a zero. -/
def Dec.text (d : Dec) : String :=
  let digits := toString d.digits
  let e := d.exp + digits.length - 1
  if -4 ≤ e && e < 16 then
    if 0 ≤ d.exp then digits ++ String.ofList (List.replicate d.exp.toNat '0') ++ ".0"
    else if 0 ≤ e then
      (digits.take (e.toNat + 1)).toString ++ "." ++ (digits.drop (e.toNat + 1)).toString
    else "0." ++ String.ofList (List.replicate (-e - 1).toNat '0') ++ digits
  else
    let rest := (digits.drop 1).toString
    let fraction := if rest.isEmpty then "" else "." ++ rest
    let sign := if e < 0 then "-" else "+"
    (digits.take 1).toString ++ fraction ++ "e" ++ sign ++ padLeft 2 (toString e.natAbs)

/-- A floating-point number as text. -/
def floatText (x : Float) : String :=
  if x.isNaN then "nan"
  else
    let sign := if hasMinus x then "-" else ""
    if x.isInf then sign ++ "inf"
    else
      let b := Binary.ofFloat x
      if b.m == 0 then sign ++ "0.0" else sign ++ b.shortest.text

/-- A floating-point number with a fixed number of places, rounded from its exact value. -/
def fixedText (places : Nat) (x : Float) : String :=
  if x.isNaN then "nan"
  else
    let sign := if hasMinus x then "-" else ""
    if x.isInf then sign ++ "inf"
    else
      let (num, den) := (Binary.ofFloat x).over (-(places : Int))
      let digits := padLeft (places + 1) (toString (roundDiv num den))
      let whole := digits.length - places
      sign ++ (digits.take whole).toString ++ (if places == 0 then "" else ".") ++ (digits.drop whole).toString

end Dialogue.Decimal
