import FirstMatch.Declarations.Language
import FirstMatch.Lexing.Script
import FirstMatch.Main
import FirstMatch.Parsing.Script
import FirstMatch.Session.Transcript
import FirstMatch.Proofs.Source.Index
import FirstMatch.Proofs.Source.Walk
import FirstMatch.Proofs.Source.History
import FirstMatch.Proofs.Source.Slicing
import FirstMatch.Proofs.Source.Advance
import FirstMatch.Proofs.Source.Shadow
import FirstMatch.Proofs.Lexing.Bracket
import FirstMatch.Proofs.Lexing.Tracking
import FirstMatch.Proofs.Lexing.Progress
import FirstMatch.Proofs.Lexing.Builtin
import FirstMatch.Proofs.Lexing.Lossless
import FirstMatch.Proofs.Lexing.Cancellation
import FirstMatch.Proofs.Lexing.Relabelling
import FirstMatch.Proofs.Lexing.Peeking
import FirstMatch.Proofs.Lexing.Grammar
import FirstMatch.Proofs.Token.Symbols
import FirstMatch.Proofs.Lexing.Forms
import FirstMatch.Proofs.Lexing.Reading
import FirstMatch.Proofs.Lexing.Standard
import FirstMatch.Proofs.Parsing.Fallthrough
import FirstMatch.Proofs.Parsing.Partition
import FirstMatch.Proofs.Parsing.Lookaround
import FirstMatch.Proofs.Declarations.Acceptance
import FirstMatch.Proofs.Declarations.Faults
import FirstMatch.Proofs.Declarations.Spelling
import FirstMatch.Proofs.Declarations.Spans
import FirstMatch.Proofs.Extension
import FirstMatch.Proofs.Lexing.Printing
import FirstMatch.Proofs.Lexing.Displaced
import FirstMatch.Proofs.Lexing.Separation
import FirstMatch.Proofs.Session.Prompt
import FirstMatch.Proofs.Lexing.Operators
import FirstMatch.Proofs.Lexing.Quotes
import FirstMatch.Proofs.Lexing.Declined
import FirstMatch.Proofs.Lexing.Cutting
import FirstMatch.Proofs.Watch.Detection
