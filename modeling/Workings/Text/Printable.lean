import Workings.Text.Category

/-!
# Characters that can be shown

Controls, format characters, private and unassigned code points, and every separator but the plain
space have no shape of their own.
-/

namespace Workings.Text

/-- A character that has a shape of its own on paper, or is the plain space. -/
def isPrintable (char : Char) : Bool :=
  match category char with
  | .cc | .cf | .cn | .co | .zl | .zp => false
  | .zs => char = ' '
  | _ => true

end Workings.Text
