import BlockReader.Main
import BlockReader.Proofs.Base58
import BlockReader.Proofs.Text.Utf8
import BlockReader.Proofs.Digest
import BlockReader.Proofs.Json.Access
import BlockReader.Proofs.Json.Fault
import BlockReader.Proofs.Block.Decode
import BlockReader.Proofs.Block.Fault
import BlockReader.Proofs.Block.Rendering
import BlockReader.Proofs.Block.Summary
import BlockReader.Proofs.Numeral.Double
import BlockReader.Proofs.Transport.Reply
import BlockReader.Proofs.Fetch
import BlockReader.Proofs.Transport.Session
import BlockReader.Proofs.Transport.Numbering
import BlockReader.Proofs.Options
import BlockReader.Proofs.Level
import BlockReader.Proofs.Unconfirmed
import BlockReader.Proofs.Retry
import BlockReader.Proofs.Scan
import BlockReader.Proofs.Scan.Append
import BlockReader.Proofs.Round
import BlockReader.Proofs.Backoff
import BlockReader.Proofs.Scan.Traffic
import BlockReader.Proofs.Json.Compact
import BlockReader.Proofs.Api.Response
import BlockReader.Proofs.Api.Site
import BlockReader.Proofs.Validation
import BlockReader.Proofs.Transport.Sharing
import BlockReader.Proofs.Api.Lifetime
import BlockReader.Proofs.Survey
import BlockReader.Proofs.Survey.Window
import BlockReader.Proofs.Numeral.Written
import BlockReader.Proofs.Json.Reader
import BlockReader.Proofs.Transport.Verdict
import BlockReader.Proofs.Json.Shape
import BlockReader.Proofs.Api.Transparency
import BlockReader.Proofs.Block.Matching
import BlockReader.Proofs.Block.Shielding
import BlockReader.Proofs.Options.Normal
import BlockReader.Proofs.Json.Kept
import BlockReader.Proofs.Api.Strict
