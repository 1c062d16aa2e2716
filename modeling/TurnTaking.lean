import TurnTaking.Text.Blank
import TurnTaking.Text.Case
import TurnTaking.Text.Quoted
import TurnTaking.Number.Numeral
import TurnTaking.Number.Shortest
import TurnTaking.Time.Clock
import TurnTaking.Time.StampReader
import TurnTaking.Json.Parse
import TurnTaking.Json.Print
import TurnTaking.Json.Choice
import TurnTaking.Settings
import TurnTaking.Event.Codec
import TurnTaking.Moderator
import TurnTaking.Tally
import TurnTaking.Journal
import TurnTaking.Inbox
import TurnTaking.Exchange
import TurnTaking.Conversation.Observer
import TurnTaking.Conversation.Sitting
import TurnTaking.Script
import TurnTaking.Replay
import TurnTaking.Main
import TurnTaking.Proofs.Floor.LatestTouch
import TurnTaking.Proofs.Floor.SpeechTimes
import TurnTaking.Proofs.Moderator.Judgement
import TurnTaking.Proofs.Inbox.Operations
import TurnTaking.Proofs.Inbox.Places
import TurnTaking.Proofs.Inbox.Bookings
import TurnTaking.Proofs.Exchange.Invariants
import TurnTaking.Proofs.Exchange.Ledger
import TurnTaking.Proofs.Exchange.Overtaking
import TurnTaking.Proofs.Crowd.Basic
import TurnTaking.Proofs.Crowd.Held
import TurnTaking.Proofs.Crowd.Delivery
import TurnTaking.Proofs.Tally.Actions
import TurnTaking.Proofs.Outbox.Willing
import TurnTaking.Proofs.Outbox.Traffic
import TurnTaking.Proofs.Conversation.Likeness
import TurnTaking.Proofs.Replay.Direct
import TurnTaking.Proofs.Replay.Tracking
import TurnTaking.Proofs.Replay.Performance
import TurnTaking.Proofs.Outbox.OwnHost
import TurnTaking.Proofs.Conversation.Course
import TurnTaking.Proofs.Conversation.Echoes
import TurnTaking.Proofs.Conversation.Counts
import TurnTaking.Proofs.Conversation.Decisions
import TurnTaking.Proofs.Conversation.OtherSettings
import TurnTaking.Proofs.Conversation.Immaterial
import TurnTaking.Proofs.Number.Digits
import TurnTaking.Proofs.Json.Quoted
import TurnTaking.Proofs.Json.RoundTrip
import TurnTaking.Proofs.Json.Members
import TurnTaking.Proofs.Time.StampText
import TurnTaking.Proofs.Event.RoundTrip
import TurnTaking.Proofs.Text.LowerTable
import TurnTaking.Proofs.Text.Pieces
import TurnTaking.Proofs.Text.LowerCase
import TurnTaking.Proofs.Wordlist.NormalForm
import TurnTaking.Proofs.Cues.SpokenWords
import TurnTaking.Proofs.Cues.Utterable
import TurnTaking.Proofs.Script.Lines
import TurnTaking.Proofs.Script.Reading
import TurnTaking.Proofs.Usage.Totals
import TurnTaking.Proofs.Json.Spacing
import TurnTaking.Proofs.Json.Written
import TurnTaking.Proofs.Json.Alike
import TurnTaking.Proofs.Json.Relaid
import TurnTaking.Proofs.Event.Layout
import TurnTaking.Proofs.Wordlist.Overrides
import TurnTaking.Proofs.Routes.Registrations
import TurnTaking.Proofs.Conversation.Handlers
import TurnTaking.Proofs.Text.Recased
import TurnTaking.Proofs.Moderator.Recased
import TurnTaking.Proofs.Number.Rounding
import TurnTaking.Proofs.Number.NearestDecimal
import TurnTaking.Proofs.Number.DecimalText
import TurnTaking.Proofs.Settings.GraceText
import TurnTaking.Proofs.Time.SplitInstant
import TurnTaking.Proofs.Time.SharedClock
import TurnTaking.Proofs.Replay.ClockRoom
