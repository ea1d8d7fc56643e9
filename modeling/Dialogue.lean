import Dialogue.Channel
import Dialogue.Channel.Exchange
import Dialogue.Decimal.Binary
import Dialogue.Decimal.Numeral
import Dialogue.Decimal.Shortest
import Dialogue.Encoding
import Dialogue.Encoding.Decoder
import Dialogue.Encoding.SingleByte
import Dialogue.Encoding.Utf16
import Dialogue.Encoding.Utf8
import Dialogue.Failure
import Dialogue.Failure.Ambient
import Dialogue.Failure.Given
import Dialogue.Fixture
import Dialogue.Host
import Dialogue.Host.CommandLine
import Dialogue.Host.Handle
import Dialogue.Launch
import Dialogue.Launch.Program
import Dialogue.Link
import Dialogue.Moment
import Dialogue.Number
import Dialogue.Options
import Dialogue.Pattern
import Dialogue.Pattern.Backtracking
import Dialogue.Pattern.Extent
import Dialogue.Pattern.Fault
import Dialogue.Pattern.Flags
import Dialogue.Pattern.Matcher
import Dialogue.Pattern.Program
import Dialogue.Pattern.Reader
import Dialogue.Pattern.Syntax
import Dialogue.Record
import Dialogue.Rehearsal
import Dialogue.Retry
import Dialogue.Scene
import Dialogue.Session
import Dialogue.Session.Background
import Dialogue.Session.Cue
import Dialogue.Session.Expect
import Dialogue.Session.Send
import Dialogue.Session.Steps
import Dialogue.Settings
import Dialogue.StandIn
import Dialogue.Stream.Feed
import Dialogue.Stream.Input
import Dialogue.Stream.Output
import Dialogue.Text.Case
import Dialogue.Text.Digit
import Dialogue.Text.Identifier
import Dialogue.Text.Letter
import Dialogue.Text.Printable
import Dialogue.Text.Quoted
import Dialogue.Text.Ranges
import Dialogue.Text.Space
import Dialogue.Text.Word
import Dialogue.Value
import Dialogue.Proofs.Runs
import Dialogue.Proofs.Likeness
import Dialogue.Proofs.Steps
import Dialogue.Proofs.Tape
import Dialogue.Proofs.Intake
import Dialogue.Proofs.Conservation
import Dialogue.Proofs.Exact
import Dialogue.Proofs.Rehearsing
import Dialogue.Proofs.Waiting
import Dialogue.Proofs.Timeline
import Dialogue.Proofs.Resting
import Dialogue.Proofs.Calls
import Dialogue.Proofs.Decoding
import Dialogue.Proofs.Ending
import Dialogue.Proofs.EndOfOutput
import Dialogue.Proofs.Decoded
import Dialogue.Proofs.Characters
import Dialogue.Proofs.Streams
import Dialogue.Proofs.Reading
import Dialogue.Proofs.Chunking
import Dialogue.Proofs.Quiet
import Dialogue.Proofs.Bursts
import Dialogue.Proofs.Callbacks
import Dialogue.Proofs.Reached
import Dialogue.Proofs.Limit
import Dialogue.Proofs.Requests
import Dialogue.Proofs.Exits
import Dialogue.Proofs.Unattended
import Dialogue.Proofs.Descriptors
import Dialogue.Proofs.Handles
import Dialogue.Proofs.Wiring
import Dialogue.Proofs.Launches
import Dialogue.Proofs.Setbacks
import Dialogue.Proofs.Encoded
import Dialogue.Proofs.Sends
import Dialogue.Proofs.Frames
import Dialogue.Proofs.Following
import Dialogue.Proofs.Awaiting
import Dialogue.Proofs.Transcript
import Dialogue.Proofs.Echo
import Dialogue.Proofs.Forsaken
import Dialogue.Proofs.Winner
import Dialogue.Proofs.Final
import Dialogue.Proofs.Heard
import Dialogue.Proofs.Patience
import Dialogue.Proofs.Batches
import Dialogue.Proofs.Retrying
import Dialogue.Proofs.Feeding
