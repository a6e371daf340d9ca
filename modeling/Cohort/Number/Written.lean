import Cohort.Number.Shortest

/-! Doubles as text: which of them are written with an exponent, and how. -/
namespace Cohort.Number
open Float.Model (UnpackedFloat)

/-- How a double is written, given its shortest digits. -/
structure Style where
  /-- The leading digit's power of ten must lie in `[from, below)` for positional notation; without
  limits every number is positional. -/
  positional : Option (Int × Int)
  /-- What follows a whole number in positional notation. -/
  wholeMark : String
  /-- What introduces an exponent that is not negative. -/
  exponentMark : String

/-- Every digit is written out and a whole number has no point. -/
def Style.plain : Style := ⟨none, "", "e"⟩

/-- Small and large numbers take an exponent, and every other number has a point. -/
def Style.detailed : Style := ⟨some (-4, 16), ".0", "e"⟩

/-- The numbers of JSON text that keep a fraction or an exponent, so that they read back as
doubles. -/
def Style.json : Style := ⟨some (-5, 16), ".0", "e+"⟩

/-- The numbers of canonical text, where a whole number has no fraction. -/
def Style.canonical : Style := ⟨some (-6, 21), "", "e+"⟩

def zeros (n : Nat) : String := String.ofList (List.replicate n '0')

/-- Positional notation of `d`, with `wholeMark` after a number without a fraction. -/
def Decimal.positional (d : Decimal) (wholeMark : String) : String :=
  let text := toString d.digits
  if 0 ≤ d.exponent then text ++ zeros d.exponent.toNat ++ wholeMark
  else
    let places := (-d.exponent).toNat
    if places < text.length then
      String.ofList (text.toList.take (text.length - places)) ++ "."
        ++ String.ofList (text.toList.drop (text.length - places))
    else "0." ++ zeros (places - text.length) ++ text

/-- One digit, the others after a point, and the power of ten. -/
def Decimal.scientific (d : Decimal) (exponentMark : String) : String :=
  let text := toString d.digits
  let power := d.exponent + text.length - 1
  let fraction := if text.length ≤ 1 then "" else "." ++ String.ofList (text.toList.drop 1)
  String.ofList (text.toList.take 1) ++ fraction
    ++ (if power < 0 then "e" else exponentMark) ++ toString power

/-- The text of a positive decimal. -/
def Style.decimal (style : Style) (d : Decimal) : String :=
  let power := d.exponent + (toString d.digits).length - 1
  match style.positional with
  | none => d.positional style.wholeMark
  | some (least, bound) =>
    if least ≤ power ∧ power < bound then d.positional style.wholeMark
    else d.scientific style.exponentMark

/-- The text of a double: the fewest digits that read back, the nearest of these. -/
def Style.text (style : Style) (x : Float) : String :=
  let signed (sign : UnpackedFloat.Sign) (text : String) :=
    if negativeSign sign then "-" ++ text else text
  match x.toModel.unpack with
  | .notANumber => "NaN"
  | .infinity sign => signed sign "inf"
  | .zero sign => signed sign ("0" ++ style.wholeMark)
  | .finite sign m e _ => signed sign (style.decimal (shortest m e))

end Cohort.Number
