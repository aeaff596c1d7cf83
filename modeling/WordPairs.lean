import WordPairs.CommandLine.Program
import WordPairs.Files.Session
import WordPairs.Main
import WordPairs.Proofs.Files.Staged
import WordPairs.Proofs.Generation.Blocks
import WordPairs.Proofs.Generation.Streaming
import WordPairs.Record.Text
import WordPairs.Writer.Device
import WordPairs.Text.Alphanumeric
import WordPairs.Text.Combining
import WordPairs.Text.Composition
import WordPairs.Text.Normal
import WordPairs.Web.Domain.Direction
import WordPairs.Web.Domain.Joining
import WordPairs.Web.Domain.Label
import WordPairs.Web.Domain.Name
import WordPairs.Proofs.Job
import WordPairs.Proofs.Files.History
import WordPairs.Proofs.Files.Isolation
import WordPairs.Proofs.Files.Session
import WordPairs.Proofs.Draw.Unbiased
import WordPairs.Proofs.WordList.Cursor
import WordPairs.Proofs.Record.Content
import WordPairs.Proofs.Draw.Orbit
import WordPairs.Proofs.Generation.Possible
import WordPairs.Proofs.Draw.Interval
import WordPairs.Proofs.Draw.Lockstep
import WordPairs.Proofs.Draw.Requests
import WordPairs.Proofs.Draw.Endings
import WordPairs.Proofs.Generation.Replaying
import WordPairs.Proofs.Generation.Safety
import WordPairs.Proofs.CommandLine.Arguments
import WordPairs.Proofs.CommandLine.Filter
import WordPairs.Proofs.WordList.Origin
import WordPairs.Proofs.CommandLine.Program
import WordPairs.Proofs.Draw.Members
import WordPairs.Proofs.Draw.Plain
import WordPairs.Proofs.Record.Splitting
import WordPairs.Proofs.Generation.Limited
import WordPairs.Proofs.Generation.Attempts
import WordPairs.Proofs.Generation.Parts
import WordPairs.Proofs.Generation.Refusal
import WordPairs.Proofs.Generation.Tails
import WordPairs.Proofs.Generation.Selection
import WordPairs.Proofs.Writer.Records
import WordPairs.Proofs.Job.Stages
import WordPairs.Proofs.Web.LastResponse
import WordPairs.Proofs.Text.Cut
import WordPairs.Proofs.Record.Shown
import WordPairs.Proofs.Record.Padding
import WordPairs.Proofs.WordList.Seams
import WordPairs.Proofs.Draw.Zone
import WordPairs.Proofs.Draw.Copies
