import Dialogue.Number
import Dialogue.Pattern.Flags
import Dialogue.Text.Quoted
/-!
# Values in messages

Errors and records carry values that nobody interprets: they are only shown and compared. `Value`
is what they can be, `Value.shown` the form with quotes, `Value.plain` the form without.
-/

namespace Dialogue

inductive Value where
  | none
  | bool (b : Bool)
  | number (n : Number)
  | text (s : String)
  | bytes (bs : List UInt8)
  | list (vs : List Value)
  | tuple (vs : List Value)
  | dict (entries : List (String × Value))
  | pattern (source : String) (flags : Pattern.Flags)
deriving Inhabited

/-- A compiled pattern as messages show it: at most two hundred characters of its source, and the
flags if there are any. -/
def patternText (source : String) (flags : Pattern.Flags) : String :=
  let shown := ((Text.quote source.toList).take 200).toString
  let flags := flags.text
  "re.compile(" ++ shown ++ (if flags.isEmpty then "" else ", " ++ flags) ++ ")"

namespace Value

mutual
/-- The form with quotes around text. -/
def shown : Value → String
  | none => "None"
  | bool true => "True"
  | bool false => "False"
  | number n => n.text
  | text s => Text.quote s.toList
  | bytes bs => Text.quoteBytes bs
  | list vs => "[" ++ ", ".intercalate (shownAll vs) ++ "]"
  | tuple [] => "()"
  | tuple [v] => "(" ++ v.shown ++ ",)"
  | tuple (v :: w :: vs) => "(" ++ ", ".intercalate (v.shown :: w.shown :: shownAll vs) ++ ")"
  | dict entries => "\x7b" ++ ", ".intercalate (shownEntries entries) ++ "\x7d"
  | pattern source flags => patternText source flags

def shownAll : List Value → List String
  | [] => []
  | v :: vs => v.shown :: shownAll vs

def shownEntries : List (String × Value) → List String
  | [] => []
  | (k, v) :: es => (Text.quote k.toList ++ ": " ++ v.shown) :: shownEntries es
end

/-- The form in running text: text stands for itself. -/
def plain : Value → String
  | text s => s
  | v => v.shown

/-- What counts as true: everything but nothing, zero and what is empty. -/
def truthy : Value → Bool
  | none => false
  | bool b => b
  | number n => !n.same (.whole 0)
  | text s => !s.isEmpty
  | bytes bs => !bs.isEmpty
  | list vs | tuple vs => !vs.isEmpty
  | dict entries => !entries.isEmpty
  | pattern .. => true

/-- A truth value as the number it equals, and any number. -/
def toNumber? : Value → Option Number
  | bool b => some (.whole (if b then 1 else 0))
  | number n => some n
  | _ => .none

mutual
/-- Equality: numbers and truth values by value, the rest by kind and content. -/
def same : Value → Value → Bool
  | none, none => true
  | bool a, w => (w.toNumber?.map (Number.same (.whole (if a then 1 else 0)))).getD false
  | number m, w => (w.toNumber?.map (Number.same m)).getD false
  | text s, text t => s == t
  | bytes s, bytes t => s == t
  | list vs, list ws => sameAll vs ws
  | tuple vs, tuple ws => sameAll vs ws
  | dict es, dict fs => es.length == fs.length && sameEntries es fs
  | pattern s f, pattern t g => s == t && f == g
  | _, _ => false

def sameAll : List Value → List Value → Bool
  | [], [] => true
  | v :: vs, w :: ws => same v w && sameAll vs ws
  | _, _ => false

/-- Every entry of the first has an equal one under its key in the second. -/
def sameEntries : List (String × Value) → List (String × Value) → Bool
  | [], _ => true
  | (k, v) :: es, fs =>
    (match fs.lookup k with
      | some w => same v w
      | .none => false) && sameEntries es fs
end

end Value

end Dialogue
