import LineTerminal.Act
import LineTerminal.Binary64
import LineTerminal.Document.Date
import LineTerminal.Document.Number
import LineTerminal.Document.Tree
import LineTerminal.Group
import LineTerminal.Network
import LineTerminal.Notice
import LineTerminal.Numeral
import LineTerminal.Objective
import LineTerminal.Pending.Keeper
import LineTerminal.Pending.Rehearsal
import LineTerminal.Pending.Tracker
import LineTerminal.Proofs.Act
import LineTerminal.Proofs.Binary64.Order
import LineTerminal.Proofs.Binary64.Whole
import LineTerminal.Proofs.Dataplane.AnyTag
import LineTerminal.Proofs.Dataplane.FlowTable
import LineTerminal.Proofs.Dataplane.FromSubscriber
import LineTerminal.Proofs.Dataplane.Metadata
import LineTerminal.Proofs.Dataplane.Placement
import LineTerminal.Proofs.Dataplane.ServiceStage
import LineTerminal.Proofs.Dataplane.ToSubscriber
import LineTerminal.Proofs.Group.Key
import LineTerminal.Proofs.Group.Record
import LineTerminal.Proofs.Network.Containment
import LineTerminal.Proofs.Pending.ClockOutage
import LineTerminal.Proofs.Pending.Custody
import LineTerminal.Proofs.Pending.Durations
import LineTerminal.Proofs.Pending.ExtraSweep
import LineTerminal.Proofs.Pending.Steady
import LineTerminal.Proofs.Pending.Sweep
import LineTerminal.Proofs.Pending.Sweeper
import LineTerminal.Proofs.Pending.Tracker
import LineTerminal.Proofs.Selector
import LineTerminal.Proofs.Session.Books
import LineTerminal.Proofs.Session.Completions
import LineTerminal.Proofs.Session.Confirmed
import LineTerminal.Proofs.Session.FailedRequest
import LineTerminal.Proofs.Session.FilterVerdict
import LineTerminal.Proofs.Session.ForwardVerdict
import LineTerminal.Proofs.Session.Interference
import LineTerminal.Proofs.Session.Interleaved
import LineTerminal.Proofs.Session.Listing
import LineTerminal.Proofs.Session.Lives
import LineTerminal.Proofs.Session.Move
import LineTerminal.Proofs.Session.Multicast
import LineTerminal.Proofs.Session.NextObjectives
import LineTerminal.Proofs.Session.Orderly
import LineTerminal.Proofs.Session.PipelineEffects
import LineTerminal.Proofs.Session.Reached
import LineTerminal.Proofs.Session.Refusals
import LineTerminal.Proofs.Session.Registry
import LineTerminal.Proofs.Session.Routing
import LineTerminal.Proofs.Session.Tickets
import LineTerminal.Proofs.Session.Trace
import LineTerminal.Proofs.Session.Traversal.Services
import LineTerminal.Proofs.Session.Traversal.Steps
import LineTerminal.Proofs.Session.Unanswered
import LineTerminal.Proofs.Settings.Options
import LineTerminal.Proofs.Settings.Routes
import LineTerminal.Proofs.Settings.Section
import LineTerminal.Proofs.Translation
import LineTerminal.Refusal
import LineTerminal.Rule
import LineTerminal.Rule.Translation
import LineTerminal.Selector
import LineTerminal.Session.Pipeline
import LineTerminal.Session.Run
import LineTerminal.Session.Script
import LineTerminal.Session.Services
import LineTerminal.Session.World
import LineTerminal.Settings.Basic
import LineTerminal.Settings.Options
import LineTerminal.Settings.Section
import LineTerminal.StandIn.Controller
import LineTerminal.StandIn.Yaml.Graph
import LineTerminal.StandIn.Yaml.Loader
import LineTerminal.StandIn.Yaml.Scalar
import LineTerminal.StandIn.Yaml.Text
import LineTerminal.StandIn.Yaml.Token
import LineTerminal.StandIn.Yaml.Value
import LineTerminal.Text
import LineTerminal.Text.LetterCase
import LineTerminal.Treatment
import LineTerminal.Value
