import SignalGraph.Number.Paired

/-! The written forms of reals: with so many places behind the point, with an exponent, or the
shorter of both for so many digits.
-/

set_option autoImplicit false

namespace SignalGraph.Database

inductive RealForm where
  | fixed
  | scientific
  | general
  deriving DecidableEq

structure RealStyle where
  form : RealForm
  /-- Places behind the point, or for a general form digits in all. -/
  places : Nat
  /-- The point stays where nothing follows it, and so do zeros of a general form. -/
  complete : Bool := false
  /-- All digits that are known may be shown, and one at least stands behind the point. -/
  precise : Bool := false
  /-- Commas stand between thousands. -/
  grouped : Bool := false
  capital : Bool := false
  /-- What stands in front of a number that is not negative. -/
  sign : Option Char := none
  /-- An infinite number is written as a very large one. -/
  noInfinity : Bool := false

namespace RealStyle

/-- The digits that the style shows of a number without its sign. -/
def digitsOf (style : RealStyle) (x : Binary64) : Digits :=
  match x with
  | .infinite _ => ⟨['9'], 1000⟩
  | x =>
    if x == .zero false then ⟨['0'], 1⟩
    else
      let extent : Digits.Extent := match style.form with
        | .fixed => .behindPoint style.places
        | .scientific => .inAll (style.places + 1)
        | .general => .inAll (max 1 style.places)
      .ofPositive x.absolute extent (if style.precise then 26 else 16)

/-- Digits with commas in between, so that three stand behind each. -/
def group : List Char → List Char
  | [] => []
  | c :: rest => if rest.length % 3 = 0 ∧ rest ≠ [] then c :: ',' :: group rest else c :: group rest

def exponentText (capital : Bool) (exponent : Int) : List Char :=
  let size := Nat.toDigits 10 exponent.natAbs
  [if capital then 'E' else 'e', if exponent < 0 then '-' else '+'] ++
    List.replicate (2 - size.length) '0' ++ size

/-- The digits around the point, where the point stands behind so many digits. -/
def aroundPoint (style : RealStyle) (dropsZeros : Bool) (places : Nat) (digits : List Char)
    (point : Int) : List Char :=
  let count := point.toNat
  let whole := if point ≤ 0 then ['0']
    else digits.take count ++ List.replicate (count - digits.length) '0'
  let whole := if style.grouped then group whole else whole
  let rest := if point ≤ 0 then List.replicate (min places (-point).toNat) '0' ++ digits
    else digits.drop count
  let fraction := rest.take places
  let fraction := if dropsZeros then (fraction.reverse.dropWhile (· = '0')).reverse
    else fraction ++ List.replicate (places - fraction.length) '0'
  if !dropsZeros then
    whole ++ if 0 < places ∨ style.complete ∨ style.precise then '.' :: fraction else []
  else if fraction ≠ [] then whole ++ '.' :: fraction
  else if style.precise then whole ++ ['.', '0']
  else whole

/-- The sign of a number, and its text without it. -/
def write (style : RealStyle) (x : Binary64) : List Char × List Char :=
  match x, style.noInfinity with
  | .nan, _ => ([], ['N', 'a', 'N'])
  | .infinite negative, false => (if negative then ['-'] else style.sign.toList, ['I', 'n', 'f'])
  | x, _ =>
    let number := style.digitsOf x
    let hidden := style.complete && style.sign.isNone && style.form = .fixed &&
      number.point ≤ -style.places
    let sign := if x.isNegative then if hidden then [] else ['-'] else style.sign.toList
    let exponent := number.point - 1
    let body := match style.form with
      | .fixed => style.aroundPoint style.precise style.places number.digits number.point
      | .scientific => style.aroundPoint style.precise style.places number.digits 1 ++
          exponentText style.capital exponent
      | .general =>
        let places := max 1 style.places - 1
        if exponent < -4 ∨ places < exponent then
          style.aroundPoint (!style.complete) places number.digits 1 ++
            exponentText style.capital exponent
        else
          style.aroundPoint (!style.complete) (places - exponent).toNat number.digits number.point
    (sign, body)

def text (style : RealStyle) (x : Binary64) : String :=
  let (sign, body) := style.write x
  String.ofList (sign ++ body)

/-- Fifteen digits at most, and one behind the point in any case. -/
def plain : RealStyle := { form := .general, places := 15, precise := true }

/-- The plain style where a number has to be finite. -/
def finite : RealStyle := { plain with noInfinity := true }

/-- All digits that are known, with an exponent. -/
def full : RealStyle := { form := .scientific, places := 20, precise := true }

end RealStyle

end SignalGraph.Database
