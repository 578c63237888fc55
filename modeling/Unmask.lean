import Unmask.CommandLine.Arguments
import Unmask.CommandLine.Run
import Unmask.Descriptor.Basic
import Unmask.Descriptor.Fault
import Unmask.Descriptor.Offsets
import Unmask.Descriptor.Reader
import Unmask.Directory
import Unmask.Frame
import Unmask.Main
import Unmask.Mapping.Entry
import Unmask.Mapping.Event
import Unmask.Mapping.Line
import Unmask.Mapping.Load
import Unmask.Mapping.Member
import Unmask.Mapping.Nesting
import Unmask.Name
import Unmask.Note
import Unmask.Proofs.CommandLine.Method
import Unmask.Proofs.CommandLine.Trace
import Unmask.Proofs.CommandLine.Unmapped
import Unmask.Proofs.Descriptor.Fault
import Unmask.Proofs.Descriptor.Offsets
import Unmask.Proofs.Descriptor.Renamed
import Unmask.Proofs.Descriptor.ReturnType
import Unmask.Proofs.Descriptor.RoundTrip
import Unmask.Proofs.Descriptor.Scan
import Unmask.Proofs.Frame.Reading
import Unmask.Proofs.Frame.RoundTrip
import Unmask.Proofs.Frame.Spelling
import Unmask.Proofs.Mapping.Account
import Unmask.Proofs.Mapping.Answers
import Unmask.Proofs.Mapping.Block
import Unmask.Proofs.Mapping.Calls
import Unmask.Proofs.Mapping.Duplicate
import Unmask.Proofs.Mapping.Fault
import Unmask.Proofs.Mapping.File
import Unmask.Proofs.Mapping.Line
import Unmask.Proofs.Mapping.Meaning
import Unmask.Proofs.Mapping.Nameless
import Unmask.Proofs.Mapping.Nesting
import Unmask.Proofs.Mapping.Numbered
import Unmask.Proofs.Mapping.Order
import Unmask.Proofs.Mapping.Outcome
import Unmask.Proofs.Mapping.Packages
import Unmask.Proofs.Mapping.Presentation
import Unmask.Proofs.Mapping.Progress
import Unmask.Proofs.Mapping.Reading
import Unmask.Proofs.Mapping.Renumber
import Unmask.Proofs.Mapping.Reports
import Unmask.Proofs.Mapping.Skipped
import Unmask.Proofs.Mapping.Spelling
import Unmask.Proofs.Mapping.Trailing
import Unmask.Proofs.Render.Renamed
import Unmask.Proofs.Render.Simple
import Unmask.Proofs.Render.Spelling
import Unmask.Proofs.Render.Trace
import Unmask.Proofs.Render.Unmapped
import Unmask.Proofs.Render.Unrelated
import Unmask.Proofs.Table.Constant
import Unmask.Proofs.Table.History
import Unmask.Proofs.Table.Lookup
import Unmask.Proofs.Table.Reachable
import Unmask.Proofs.Table.Spelling
import Unmask.Proofs.Text.Cut
import Unmask.Proofs.Text.Octets
import Unmask.Proofs.Text.Padded
import Unmask.Proofs.Text.Pieces
import Unmask.Proofs.Text.Replace
import Unmask.Proofs.Text.Utf8
import Unmask.Proofs.Text.Words
import Unmask.Renaming
import Unmask.Render.Layout
import Unmask.Render.Method
import Unmask.Render.Package
import Unmask.Render.Trace
import Unmask.Source
import Unmask.Table.Basic
import Unmask.Table.Lookup
import Unmask.Text.Basic
import Unmask.Text.Blank
import Unmask.Text.Hidden
import Unmask.Text.Lines
import Unmask.Text.Quoted
import Unmask.Text.Utf8
