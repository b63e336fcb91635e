import Stencil.Position
import Stencil.Text.Columns

/-!
# Excerpts

A message shown under the line of the source that it is about, with a mark under the place. The
mark is as wide as the first line of the span, and at least one column.

How wide a text is depends on where it is shown, and so does how far a text can be padded; both
are said by a screen. An excerpt only exists if the span lies within the source and between
characters, and if nothing has to be padded further than the screen allows.
-/

set_option autoImplicit false

namespace Stencil

namespace Screen

end Screen

end Stencil
