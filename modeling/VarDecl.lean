import VarDecl.Bytewise
import VarDecl.Call
import VarDecl.CommandLine.Item
import VarDecl.Diagnostic.Outline
import VarDecl.Grammar
import VarDecl.Main
import VarDecl.Proofs.Acceptance
import VarDecl.Proofs.Caret
import VarDecl.Proofs.Causes
import VarDecl.Proofs.CommandLine
import VarDecl.Proofs.Concatenation
import VarDecl.Proofs.Continuation
import VarDecl.Proofs.Coordinates
import VarDecl.Proofs.Decimal
import VarDecl.Proofs.Demands
import VarDecl.Proofs.Drawing
import VarDecl.Proofs.Grammar
import VarDecl.Proofs.Labels
import VarDecl.Proofs.Lengths
import VarDecl.Proofs.Message
import VarDecl.Proofs.Numeral
import VarDecl.Proofs.Outcomes
import VarDecl.Proofs.Outlines
import VarDecl.Proofs.Overflow
import VarDecl.Proofs.Pieces
import VarDecl.Proofs.Quoting
import VarDecl.Proofs.Reading
import VarDecl.Proofs.Respacing
import VarDecl.Proofs.Session
import VarDecl.Proofs.Splitting
import VarDecl.Proofs.Tiling
import VarDecl.Proofs.WrittenForm
import VarDecl.Sketch
import VarDecl.Tree.Moved
