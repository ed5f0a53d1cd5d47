import LoxLex.Command.Folder
import LoxLex.Diagnostic.Inspect
import LoxLex.Lexer.Query
import LoxLex.Main
import LoxLex.Token.Inspect
import LoxLex.Proofs.Shape
import LoxLex.Proofs.Round
import LoxLex.Proofs.Cut
import LoxLex.Proofs.Harvest
import LoxLex.Proofs.Munch
import LoxLex.Proofs.Relex
import LoxLex.Proofs.Sieve
import LoxLex.Proofs.Playback
import LoxLex.Proofs.Line
import LoxLex.Proofs.Front
import LoxLex.Proofs.Segment
import LoxLex.Proofs.Layout
import LoxLex.Proofs.Output
import LoxLex.Proofs.Session
import LoxLex.Proofs.Script
import LoxLex.Proofs.Ledger
import LoxLex.Proofs.Flags
import LoxLex.Proofs.Rounding
import LoxLex.Proofs.Literal
import LoxLex.Proofs.Listing
import LoxLex.Proofs.Lookahead
import LoxLex.Proofs.Legible
import LoxLex.Proofs.Grid
import LoxLex.Proofs.Shortest
import LoxLex.Proofs.Printed
import LoxLex.Proofs.Breaks
import LoxLex.Proofs.Spelling
import LoxLex.Proofs.Words
import LoxLex.Proofs.Account
import LoxLex.Proofs.Reader
import LoxLex.Proofs.Offsets
