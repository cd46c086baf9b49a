import Mathlib.Data.List.TakeWhile
import DrawingCode.Proofs.Markup.Reading

/-! # Reading names

Every reader of names leaves an end of its text. The numbers of a version directive are the only
names that can be at fault without breaking a rule, by being too long.
-/

namespace DrawingCode.Markup.Name

variable (breach : Option Fault) (text : List Char)

end DrawingCode.Markup.Name
