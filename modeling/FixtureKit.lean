import FixtureKit.Archive.Builder
import FixtureKit.Archive.Directory
import FixtureKit.Archive.EndRecord
import FixtureKit.Archive.Entry
import FixtureKit.Archive.Error
import FixtureKit.Archive.ExtraField
import FixtureKit.Archive.Read
import FixtureKit.Archive.Record
import FixtureKit.Archive.Write
import FixtureKit.Bytes
import FixtureKit.Checksum
import FixtureKit.CommandLine.Arguments
import FixtureKit.CommandLine.Failure
import FixtureKit.CommandLine.Filter
import FixtureKit.CommandLine.Flag
import FixtureKit.CommandLine.Log
import FixtureKit.CommandLine.Markup
import FixtureKit.CommandLine.Pattern
import FixtureKit.CommandLine.Plain
import FixtureKit.CommandLine.Run
import FixtureKit.CommandLine.Similarity
import FixtureKit.CommandLine.Usage
import FixtureKit.Deflate.Bits
import FixtureKit.Deflate.Code
import FixtureKit.Deflate.Compress
import FixtureKit.Deflate.Encoder
import FixtureKit.Deflate.Inflate
import FixtureKit.Deflate.Match
import FixtureKit.Deflate.Token
import FixtureKit.Directory
import FixtureKit.FileSystem.Buffer
import FixtureKit.FileSystem.IoError
import FixtureKit.FileSystem.Listing
import FixtureKit.FileSystem.Operations
import FixtureKit.FileSystem.Path
import FixtureKit.FileSystem.Store
import FixtureKit.FileSystem.Walk
import FixtureKit.Fixtures.Error
import FixtureKit.Fixtures.Event
import FixtureKit.Fixtures.Generate
import FixtureKit.Fixtures.Layout
import FixtureKit.Fixtures.Report
import FixtureKit.Fixtures.Verify
import FixtureKit.Generator
import FixtureKit.Main
import FixtureKit.Proofs.Archive.Admitted
import FixtureKit.Proofs.Archive.Agreement
import FixtureKit.Proofs.Archive.Boundary
import FixtureKit.Proofs.Archive.Completed
import FixtureKit.Proofs.Archive.Consistency
import FixtureKit.Proofs.Archive.Contents
import FixtureKit.Proofs.Archive.Damage
import FixtureKit.Proofs.Archive.DeclaredSizes
import FixtureKit.Proofs.Archive.Dependence
import FixtureKit.Proofs.Archive.Headers
import FixtureKit.Proofs.Archive.Image
import FixtureKit.Proofs.Archive.Index
import FixtureKit.Proofs.Archive.Interrupted
import FixtureKit.Proofs.Archive.ListingSize
import FixtureKit.Proofs.Archive.OwnContent
import FixtureKit.Proofs.Archive.Packing
import FixtureKit.Proofs.Archive.RoundTrip
import FixtureKit.Proofs.Archive.Scripts
import FixtureKit.Proofs.Archive.SelfSource
import FixtureKit.Proofs.Archive.Sizes
import FixtureKit.Proofs.Bytes.Placement
import FixtureKit.Proofs.Checksum.Burst
import FixtureKit.Proofs.CommandLine.Pipeline
import FixtureKit.Proofs.Deflate.BitPlacement
import FixtureKit.Proofs.Deflate.Cover
import FixtureKit.Proofs.Deflate.Encoder
import FixtureKit.Proofs.Deflate.FixedCode
import FixtureKit.Proofs.Deflate.RoundTrip
import FixtureKit.Proofs.FileSystem.Changes
import FixtureKit.Proofs.FileSystem.Denoting
import FixtureKit.Proofs.FileSystem.Destination
import FixtureKit.Proofs.FileSystem.Ensured
import FixtureKit.Proofs.FileSystem.Filling
import FixtureKit.Proofs.FileSystem.Joined
import FixtureKit.Proofs.FileSystem.MissingPrefixes
import FixtureKit.Proofs.FileSystem.Names
import FixtureKit.Proofs.FileSystem.OnTheWay
import FixtureKit.Proofs.FileSystem.PathText
import FixtureKit.Proofs.FileSystem.Tree
import FixtureKit.Proofs.Fixtures.Frame
import FixtureKit.Proofs.Fixtures.FullDevice
import FixtureKit.Proofs.Fixtures.Outcomes
import FixtureKit.Proofs.Fixtures.Runs
import FixtureKit.Proofs.Fixtures.SharedFiles
import FixtureKit.Proofs.Fixtures.Tampering
import FixtureKit.Proofs.Fixtures.Verified
import FixtureKit.Proofs.Generator.Unfolding
import FixtureKit.Proofs.RandomFile.Chunk
import FixtureKit.Proofs.RandomFile.Laws
import FixtureKit.Proofs.RandomFile.Requests
import FixtureKit.RandomFile
import FixtureKit.Text.Blank
import FixtureKit.Text.CodePage437
import FixtureKit.Text.Description
import FixtureKit.Text.Extending
import FixtureKit.Text.Letter
import FixtureKit.Text.Quoted
import FixtureKit.Text.Unprintable
import FixtureKit.Text.Utf8
