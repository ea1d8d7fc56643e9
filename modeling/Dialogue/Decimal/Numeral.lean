import Dialogue.Text.Digit
import Dialogue.Text.Space
/-!
# Reading numerals

Integers and reals as settings and patterns spell them: blanks around, a sign, decimal digits of any
script, single underscores between digits; a real may have a point, an exponent, or be a word for
infinity or for no number.
-/

namespace Dialogue.Decimal

/-- Drops blanks at both ends. -/
def trimBlanks (cs : List Char) : List Char :=
  let drop := List.dropWhile fun c => Text.isBlankAround c.toNat
  (drop (drop cs).reverse).reverse

/-- Characters with every decimal digit replaced by the ASCII digit of its value. -/
def plainDigits (cs : List Char) : List Char :=
  cs.map fun c => match Text.digitValue? c.toNat with
    | some d => Char.ofNat (48 + d)
    | none => c

def isAsciiDigit (c : Char) : Bool := '0' ≤ c && c ≤ '9'

/-- Removes underscores, each of which must stand between two digits; `prev` is what came before. -/
def dropUnderscores (prev : Char) : List Char → Option (List Char)
  | [] => if prev == '_' then none else some []
  | c :: cs =>
    if c == '_' then if isAsciiDigit prev then dropUnderscores c cs else none
    else if prev == '_' && !isAsciiDigit c then none
    else (dropUnderscores c cs).map (c :: ·)

/-- The value of a run of ASCII digits. -/
def digitsValue (cs : List Char) : Nat :=
  cs.foldl (fun n c => 10 * n + (c.toNat - 48)) 0

/-- Splits off a sign; true for minus. -/
def takeSign : List Char → Bool × List Char
  | '-' :: cs => (true, cs)
  | '+' :: cs => (false, cs)
  | cs => (false, cs)

/-- An integer numeral. -/
def readInt? (text : String) : Option Int := do
  let (minus, cs) := takeSign (plainDigits (trimBlanks text.toList))
  let cs ← dropUnderscores ' ' cs
  guard (!cs.isEmpty && cs.all isAsciiDigit)
  return if minus then -(digitsValue cs : Int) else digitsValue cs

/-- The double nearest to `digits * 10 ^ exp`. Exponents out of every range are cut short. -/
def nearestFloat (digits : Nat) (exp : Int) : Float :=
  let size : Int := (toString digits).length
  if digits == 0 then 0
  else if 400 < exp + size then 1 / 0
  else if exp + size < -400 then 0
  else Float.ofScientific digits (exp < 0) exp.natAbs

/-- The exponent part of a real numeral, if any; `none` if what follows is not one. -/
def readExponent? : List Char → Option Int
  | [] => some 0
  | c :: cs => do
    guard (c == 'e' || c == 'E')
    let (minus, cs) := takeSign cs
    guard (!cs.isEmpty && cs.all isAsciiDigit)
    return if minus then -(digitsValue cs : Int) else digitsValue cs

/-- A real numeral without sign. -/
def readMagnitude? (cs : List Char) : Option Float :=
  let word := String.ofList (cs.map Char.toLower)
  if word == "inf" || word == "infinity" then some (1 / 0)
  else if word == "nan" then some (0 / 0)
  else
    let (whole, rest) := cs.span isAsciiDigit
    let (places, rest) := match rest with
      | '.' :: rest => rest.span isAsciiDigit
      | rest => ([], rest)
    if whole.isEmpty && places.isEmpty then none
    else (readExponent? rest).map fun e =>
      nearestFloat (digitsValue (whole ++ places)) (e - (places.length : Nat))

/-- A real numeral. -/
def readFloat? (text : String) : Option Float := do
  let cs ← dropUnderscores ' ' (plainDigits (trimBlanks text.toList))
  let (minus, cs) := takeSign cs
  let x ← readMagnitude? cs
  return if minus then -x else x

end Dialogue.Decimal
