import BasicLex.Main
import BasicLex.Session
import BasicLex.Proofs.Scan
import BasicLex.Proofs.Strictness
import BasicLex.Proofs.LineTable
import BasicLex.Proofs.Caret
import BasicLex.Proofs.Progress
import BasicLex.Proofs.LineNumber
import BasicLex.Proofs.Slices
import BasicLex.Proofs.Concatenation
import BasicLex.Proofs.Reachable
import BasicLex.Proofs.Dump
import BasicLex.Proofs.StrictFlag
import BasicLex.Proofs.Lookahead
import BasicLex.Proofs.Readback
import BasicLex.Proofs.ExitStatus
import BasicLex.Proofs.ListCursor
import BasicLex.Proofs.Interleaving
import BasicLex.Proofs.LineEnding
import BasicLex.Proofs.LineEndingDiagnostic
import BasicLex.Proofs.LetterCase
import BasicLex.Proofs.Isolation
import BasicLex.Proofs.Spacing
import BasicLex.Proofs.Records
import BasicLex.Proofs.ByteLoop
import BasicLex.Proofs.Locating
import BasicLex.Proofs.Columns
import BasicLex.Proofs.CheckedRendering
import BasicLex.Proofs.Indentation
import BasicLex.Proofs.ReservedWord
import BasicLex.Proofs.QuoteParity
import BasicLex.Proofs.Arguments
import BasicLex.Proofs.Resolution
import BasicLex.Proofs.EscapeStyles
