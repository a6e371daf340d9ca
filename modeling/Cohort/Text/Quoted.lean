import Cohort.Text.Character

/-! Text between double quotes in which every character can be told from every other. -/
namespace Cohort.Text

/-- How one character is shown: by itself when it is printable and stands alone, by a letter when
it is a common control character, and by its number otherwise. -/
def shown (c : Char) : List Char :=
  match c with
  | '\x00' => ['\\', '0']
  | '\t' => ['\\', 't']
  | '\r' => ['\\', 'r']
  | '\n' => ['\\', 'n']
  | '\\' => ['\\', '\\']
  | '"' => ['\\', '"']
  | _ =>
    if isGraphemeExtend c || !isPrintable c then
      ['\\', 'u', '\x7b'] ++ hexText c.toNat ++ ['\x7d']
    else [c]

def quoted (text : String) : String :=
  String.ofList ('"' :: text.toList.flatMap shown ++ ['"'])

end Cohort.Text
