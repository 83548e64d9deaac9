import TrigramGrep.Text.Utf8
import TrigramGrep.Trigram.Bitmap
import TrigramGrep.View
import TrigramGrep.Codec.LittleEndian
import TrigramGrep.Codec.Gaps
import TrigramGrep.Index.Record
import TrigramGrep.Index.Run
import TrigramGrep.Query.Text
import TrigramGrep.Posting
import TrigramGrep.Grep
import TrigramGrep.Grep.Files
import TrigramGrep.Unicode.Property
import TrigramGrep.Unicode.CaseFolding
import TrigramGrep.Regex.Build
import TrigramGrep.Regex.Room
import TrigramGrep.Query.OfRegex
import TrigramGrep.Pattern
import TrigramGrep.FileSystem
import TrigramGrep.FileSystem.Walk
import TrigramGrep.Log.Filter
import TrigramGrep.CommandLine.Run
import TrigramGrep.Main
import TrigramGrep.Index.Build
import TrigramGrep.Settings
import TrigramGrep.Index.Execute
import TrigramGrep.Proofs.Bytes
import TrigramGrep.Proofs.Codec.Gaps
import TrigramGrep.Proofs.Codec.LittleEndian
import TrigramGrep.Proofs.Index.Execute
import TrigramGrep.Proofs.Index.Layout
import TrigramGrep.Proofs.Index.Merge
import TrigramGrep.Proofs.Index.Operations
import TrigramGrep.Proofs.Query.Soundness
import TrigramGrep.Proofs.Text.Utf8
import TrigramGrep.Proofs.FileSystem.Resolve
import TrigramGrep.Proofs.FileSystem.Temporary
import TrigramGrep.Proofs.Index.Flush
import TrigramGrep.Proofs.Index.ReadBack
import TrigramGrep.Proofs.Index.RoundTrip
import TrigramGrep.Proofs.Grep.Candidates
import TrigramGrep.Proofs.Grep.Files
import TrigramGrep.Proofs.Index.Canonical
import TrigramGrep.Proofs.Query.Composition
import TrigramGrep.Proofs.Grep.Lines
import TrigramGrep.Proofs.Codec.Guarded
import TrigramGrep.Proofs.Index.Guarded
import TrigramGrep.Proofs.Index.Safety
import TrigramGrep.Proofs.FileSystem.Trail
import TrigramGrep.Proofs.Index.Batches
import TrigramGrep.Proofs.FileSystem.Growth
import TrigramGrep.Proofs.Index.Atomic
import TrigramGrep.Proofs.Index.Verification
import TrigramGrep.Proofs.Query.Limits
import TrigramGrep.Proofs.Index.Spill
import TrigramGrep.Proofs.Query.Fragments
import TrigramGrep.Proofs.Query.Fixpoints
import TrigramGrep.Proofs.Query.Transparency
import TrigramGrep.Proofs.View
import TrigramGrep.Proofs.Query.Normal
import TrigramGrep.Proofs.Grep.Switches
import TrigramGrep.Proofs.Grep.Spans
import TrigramGrep.Proofs.Output.Calls
import TrigramGrep.Proofs.FileSystem.Walk
import TrigramGrep.Proofs.Index.Truncation
import TrigramGrep.Proofs.Codec.Overflow
import TrigramGrep.Proofs.Query.Trimmed
import TrigramGrep.Proofs.Query.Text
import TrigramGrep.Proofs.Posting.Lattice
import TrigramGrep.Proofs.Index.PostingTable
