import TableExchange.Config.Value
import TableExchange.Config.Yaml.Flow
import TableExchange.Config.Yaml.Token

/-!
The values of scalars. A plain scalar without a tag is whatever it looks like; every other one is a
text unless its tag says otherwise.
-/

namespace TableExchange.Yaml

def fitting (n : Int) : Option Int :=
  if Int64.minValue.toInt ≤ n ∧ n ≤ Int64.maxValue.toInt then some n else none

def signedIn? (base : Nat) (cs : List Char) : Option Int :=
  match cs with
  | '+' :: ds => ((digitsIn? base ds).map Int.ofNat).bind fitting
  | '-' :: ds => ((digitsIn? base ds).map fun n => -Int.ofNat n).bind fitting
  | ds => ((digitsIn? base ds).map Int.ofNat).bind fitting

/-- Reads an integer: decimal, or after a mark hexadecimal or octal. A plus sign may stand before
a decimal one and its own sign. -/
def integer? (cs : List Char) : Option Int :=
  (match cs with
    | '0' :: 'x' :: ds => signedIn? 16 ds
    | '0' :: 'o' :: ds => signedIn? 8 ds
    | '+' :: ds => signedIn? 10 ds
    | _ => none).or (signedIn? 10 cs)

def exponent? : List Char → Option Int
  | [] => some 0
  | mark :: cs =>
    if mark ≠ 'e' ∧ mark ≠ 'E' then none
    else match cs with
      | '+' :: ds => (digitsIn? 10 ds).map Int.ofNat
      | '-' :: ds => (digitsIn? 10 ds).map fun n => -Int.ofNat n
      | ds => (digitsIn? 10 ds).map Int.ofNat

/-- The float of decimal digits with a decimal exponent; beyond these bounds it is infinite or
zero. -/
def floatOf (mantissa : Nat) (digits : Nat) (e : Int) : Float :=
  if mantissa = 0 ∨ e + digits < -400 then 0.0
  else if 400 < e + digits then 1.0 / 0.0
  else if 0 ≤ e then Float.ofScientific mantissa false e.toNat
  else Float.ofScientific mantissa true (-e).toNat

/-- Reads a number with a fraction or an exponent, or a word for what is no finite number, without
the sign. -/
def magnitude? (cs : List Char) : Option Float := do
  let word := String.ofList (cs.map Char.toLower)
  if word = "inf" ∨ word = "infinity" then return 1.0 / 0.0
  if word = "nan" then return 0.0 / 0.0
  let whole := cs.takeWhile Char.isDigit
  let rest := cs.dropWhile Char.isDigit
  let (fraction, rest) := match rest with
    | '.' :: more => (more.takeWhile Char.isDigit, more.dropWhile Char.isDigit)
    | _ => ([], rest)
  let digits := (whole ++ fraction).dropWhile (· = '0')
  if whole.isEmpty ∧ fraction.isEmpty then none
  let mantissa ← if digits.isEmpty then some 0 else digitsIn? 10 digits
  let e ← exponent? rest
  return floatOf mantissa digits.length (e - fraction.length)

def real? : List Char → Option Float
  | '-' :: cs => (magnitude? cs).map fun f => -f
  | '+' :: cs => magnitude? cs
  | cs => magnitude? cs

/-- The spellings that count as floats but have no value. -/
def valuelessReals : List String :=
  [".inf", ".Inf", ".INF", "+.inf", "+.Inf", "+.INF", "-.inf", "-.Inf", "-.INF", ".nan", ".NAN"]

def plainValue? (s : String) : Option ConfigValue :=
  if s = "" ∨ s = "~" ∨ s = "null" then some .nil
  else if s = "true" then some (.bool true)
  else if s = "false" then some (.bool false)
  else match integer? s.toList, real? s.toList with
    | some n, _ => some (.integer n)
    | none, some f => some (.real f)
    | none, none => if valuelessReals.contains s then none else some (.text s)

def coreHandle : String := "tag:yaml.org,2002:"

/-- The value of a plain scalar with a tag. The inner option is empty if the text does not fit. -/
def taggedValue? (handle suffix s : String) : Option (Option ConfigValue) :=
  if handle ≠ coreHandle then some (some (.text s))
  else match suffix with
    | "bool" =>
      some (if s = "true" then some (.bool true) else if s = "false" then some (.bool false)
        else none)
    | "int" => some ((signedIn? 10 s.toList).map .integer)
    | "float" => if valuelessReals.contains s then none else some ((real? s.toList).map .real)
    | "null" => some (if s = "~" ∨ s = "null" then some .nil else none)
    | _ => some (some (.text s))

def scalarValue? (style : ScalarStyle) (tag : Option (String × String)) (s : String) :
    Option (Option ConfigValue) :=
  match style, tag with
  | .quoted, _ => some (some (.text s))
  | .plain, some (handle, suffix) => taggedValue? handle suffix s
  | .plain, none => (plainValue? s).map some

@[simp] theorem scalarValue?_quoted (tag : Option (String × String)) (s : String) :
    scalarValue? .quoted tag s = some (some (.text s)) := rfl

end TableExchange.Yaml
