import Cohort.Grammar.Operators
import Cohort.Grammar.Transforms
import Cohort.Text.Quoted

/-! The standard grammar, and grammars as text. -/
namespace Cohort
namespace Grammar

/-- The grammar with the standard operators and transforms. -/
def standard : Grammar := empty.addOperators.addStandardTransforms

/-- Names between brackets. -/
def namesText (names : List String) : String :=
  "[" ++ ", ".intercalate (names.map Text.quoted) ++ "]"

/-- The symbols and transforms of a grammar, both in increasing order. -/
def describe (g : Grammar) : String :=
  "Engine \x7b registry: Registry \x7b operators: " ++ namesText g.symbols ++ ", transforms: "
    ++ namesText (increasing g.transforms.names) ++ " \x7d \x7d"

end Grammar

end Cohort
