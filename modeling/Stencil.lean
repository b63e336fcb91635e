import Stencil.Compile
import Stencil.Datum
import Stencil.Node.Outline
import Stencil.Render.Script
import Stencil.Proofs.Code.Brackets
import Stencil.Proofs.Code.PlainText
import Stencil.Proofs.Code.Stub
import Stencil.Proofs.Document.Acceptance
import Stencil.Proofs.Document.Conservation
import Stencil.Proofs.Document.Grammar
import Stencil.Proofs.Document.Nesting
import Stencil.Proofs.Document.Terminal
import Stencil.Proofs.Document.Transition
import Stencil.Proofs.Document.Wording
import Stencil.Proofs.Text.Bracket
import Stencil.Proofs.Text.Line
import Stencil.Proofs.Text.StringLiteral
import Stencil.Proofs.Token.Coverage
import Stencil.Proofs.Token.Form
import Stencil.Proofs.Token.Spelling
import Stencil.Proofs.Token.Tiling
import Stencil.Proofs.Render.Delivery
import Stencil.Proofs.Document.Declaration
import Stencil.Proofs.Document.Excerpt
import Stencil.Proofs.Document.Descent
import Stencil.Proofs.Template.FileName
import Stencil.Proofs.Document.Report
import Stencil.Proofs.Document.Order
import Stencil.Proofs.Document.Shape
import Stencil.Proofs.Render.Escaping
import Stencil.Proofs.Token.Verbatim
import Stencil.Proofs.Text.LineEnd
import Stencil.Proofs.Token.LineEnd
import Stencil.Proofs.Document.LineEnd
import Stencil.Proofs.Render.Scope
import Stencil.Proofs.Code.Walk
import Stencil.Proofs.Code.Note
import Stencil.Proofs.Render.ErrorList
import Stencil.Proofs.Render.Machine
import Stencil.Proofs.Render.Recovery
import Stencil.Proofs.Code.Fragment
import Stencil.Proofs.Code.LayerName
import Stencil.Proofs.Code.EscaperUse
import Stencil.Proofs.Code.ImportSection
import Stencil.Proofs.Document.ContextLine
import Stencil.Proofs.Naming.FunctionPath
import Stencil.Proofs.Document.Origin
import Stencil.Proofs.Document.Outline
import Stencil.Proofs.Token.Restart
