import ScrollTimeline.Main
import ScrollTimeline.Session
import ScrollTimeline.Proofs.ReferenceGraph.Order
import ScrollTimeline.Proofs.Pass.Questions
import ScrollTimeline.Proofs.Pass.Locality
import ScrollTimeline.Proofs.Pass.Outcome
import ScrollTimeline.Proofs.Pass.Pruning
import ScrollTimeline.Proofs.Axis.Lexing
import ScrollTimeline.Proofs.Axis.Reading
import ScrollTimeline.Proofs.Axis.Script
import ScrollTimeline.Proofs.Number.Lawful
import ScrollTimeline.Proofs.Record.WellFormed
import ScrollTimeline.Proofs.Pass.Acceptance
import ScrollTimeline.Proofs.Json.Scanning
import ScrollTimeline.Proofs.Record.Window
import ScrollTimeline.Proofs.Json.RoundTrip
import ScrollTimeline.Proofs.Json.Numbers
import ScrollTimeline.Proofs.Encoding.RoundTrip
import ScrollTimeline.Proofs.Render.Updates
import ScrollTimeline.Proofs.Record.Declared
import ScrollTimeline.Proofs.Record.ClauseTimes
import ScrollTimeline.Proofs.Track.Motion
import ScrollTimeline.Proofs.Axis.Numerals
import ScrollTimeline.Proofs.Track.LeadIn
import ScrollTimeline.Proofs.Script.Numerals
import ScrollTimeline.Proofs.Script.Respacing
import ScrollTimeline.Proofs.Easing.Monotone
import ScrollTimeline.Proofs.Axis.Rejections
import ScrollTimeline.Proofs.Track.Waypoints
import ScrollTimeline.Proofs.Opacity.Fade
import ScrollTimeline.Proofs.ReferenceGraph.Recursion
import ScrollTimeline.Proofs.Easing.Accuracy
import ScrollTimeline.Proofs.Opacity.OnScreen
import ScrollTimeline.Proofs.Axis.Coverage
