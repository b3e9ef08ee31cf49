import ConsoleLab.Main
import ConsoleLab.Session.Screen
import ConsoleLab.Run.Engine
import ConsoleLab.Proofs.Program.Acceptance
import ConsoleLab.Proofs.Run.Ending
import ConsoleLab.Proofs.Run.Termination
import ConsoleLab.Proofs.Run.Indifference
import ConsoleLab.Proofs.CommandLine.PlainSession
import ConsoleLab.Proofs.Lexeme.Words
import ConsoleLab.Proofs.Loop.Written
import ConsoleLab.Proofs.Program.Chunked
import ConsoleLab.Proofs.Program.Written
import ConsoleLab.Proofs.Session.Keyboard
import ConsoleLab.Proofs.Lexeme.Places
import ConsoleLab.Proofs.Program.Places
import ConsoleLab.Proofs.Lexeme.Layout
import ConsoleLab.Proofs.Program.Layout
import ConsoleLab.Proofs.Program.Surroundings
import ConsoleLab.Proofs.Program.PlainBlocks
import ConsoleLab.Proofs.Program.PrintOrder
import ConsoleLab.Proofs.Loop.Derivation
import ConsoleLab.Proofs.Statement.Scan
import ConsoleLab.Proofs.Run.Muted
import ConsoleLab.Proofs.Run.PartialAnswers
import ConsoleLab.Proofs.Run.CountingLoop
import ConsoleLab.Proofs.Run.Display
import ConsoleLab.Proofs.Lexeme.Spelling
import ConsoleLab.Proofs.Lexeme.Scanning
import ConsoleLab.Proofs.Lexeme.Reading
import ConsoleLab.Proofs.Lexeme.LineEnds
import ConsoleLab.Proofs.Text.Bytes
import ConsoleLab.Proofs.Program.Rendering
import ConsoleLab.Proofs.Session.Scrolling
import ConsoleLab.Proofs.Pane.ByteCuts
import ConsoleLab.Proofs.Pane.Coloring
import ConsoleLab.Proofs.Lexeme.Display
import ConsoleLab.Proofs.Run.Separation
import ConsoleLab.Proofs.Run.Assignments
import ConsoleLab.Proofs.Statement.FormatHints
import ConsoleLab.Proofs.Pane.Cursor
