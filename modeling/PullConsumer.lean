import PullConsumer.Ack.Backoff
import PullConsumer.Ack.Entry
import PullConsumer.Ack.Flush
import PullConsumer.Ack.Intake
import PullConsumer.Ack.Queue
import PullConsumer.Ack.Request
import PullConsumer.Ack.Schedule
import PullConsumer.Ack.SendLock
import PullConsumer.Ack.Signal
import PullConsumer.Ack.Window
import PullConsumer.Assignment
import PullConsumer.Broker.Group
import PullConsumer.Broker.Registry
import PullConsumer.Client.Flushing
import PullConsumer.Client.HandBack
import PullConsumer.Client.Pulling
import PullConsumer.Client.Step
import PullConsumer.Client.Waiting
import PullConsumer.Client.World
import PullConsumer.Decimal.Binary64
import PullConsumer.Decimal.Scaled
import PullConsumer.Dictionary
import PullConsumer.Effect
import PullConsumer.Fault
import PullConsumer.Json.Codec
import PullConsumer.Json.Reader
import PullConsumer.Json.Text
import PullConsumer.Json.Value
import PullConsumer.Message
import PullConsumer.Proofs.Broker.Holds
import PullConsumer.Proofs.Broker.Registry
import PullConsumer.Proofs.Broker.Sharing
import PullConsumer.Proofs.Client.Acknowledgment
import PullConsumer.Proofs.Client.Actors
import PullConsumer.Proofs.Client.Advances
import PullConsumer.Proofs.Client.Alarms
import PullConsumer.Proofs.Client.Answers
import PullConsumer.Proofs.Client.Attempts
import PullConsumer.Proofs.Client.Awaited
import PullConsumer.Proofs.Client.Batches
import PullConsumer.Proofs.Client.Calls
import PullConsumer.Proofs.Client.Changes
import PullConsumer.Proofs.Client.Closing
import PullConsumer.Proofs.Client.Completeness
import PullConsumer.Proofs.Client.Counters
import PullConsumer.Proofs.Client.Deliveries
import PullConsumer.Proofs.Client.Drains
import PullConsumer.Proofs.Client.Endings
import PullConsumer.Proofs.Client.Failover
import PullConsumer.Proofs.Client.Fairness
import PullConsumer.Proofs.Client.FlushTasks
import PullConsumer.Proofs.Client.Frames
import PullConsumer.Proofs.Client.Gating
import PullConsumer.Proofs.Client.HandBacks
import PullConsumer.Proofs.Client.Handouts
import PullConsumer.Proofs.Client.Handover
import PullConsumer.Proofs.Client.Independence
import PullConsumer.Proofs.Client.Ledger
import PullConsumer.Proofs.Client.Lines
import PullConsumer.Proofs.Client.Lives
import PullConsumer.Proofs.Client.LoneFlushes
import PullConsumer.Proofs.Client.Pace
import PullConsumer.Proofs.Client.Pairing
import PullConsumer.Proofs.Client.Pulls
import PullConsumer.Proofs.Client.QueueMoves
import PullConsumer.Proofs.Client.QueueSteps
import PullConsumer.Proofs.Client.Queues
import PullConsumer.Proofs.Client.Recorder
import PullConsumer.Proofs.Client.Refreshes
import PullConsumer.Proofs.Client.Reports
import PullConsumer.Proofs.Client.Requests
import PullConsumer.Proofs.Client.Returns
import PullConsumer.Proofs.Client.Runs
import PullConsumer.Proofs.Client.Signals
import PullConsumer.Proofs.Client.Surroundings
import PullConsumer.Proofs.Client.Tables
import PullConsumer.Proofs.Client.Teardown
import PullConsumer.Proofs.Client.Transitions
import PullConsumer.Proofs.Client.Transmissions
import PullConsumer.Proofs.Client.Window
import PullConsumer.Proofs.Dictionary
import PullConsumer.Proofs.Json.Codec
import PullConsumer.Proofs.Json.Settings
import PullConsumer.Proofs.Message
import PullConsumer.Proofs.Pull.Filter
import PullConsumer.Proofs.Queue.Account
import PullConsumer.Proofs.Queue.Alarms
import PullConsumer.Proofs.Queue.Alone
import PullConsumer.Proofs.Queue.Attempts
import PullConsumer.Proofs.Queue.Batches
import PullConsumer.Proofs.Queue.Closing
import PullConsumer.Proofs.Queue.Counts
import PullConsumer.Proofs.Queue.Coverage
import PullConsumer.Proofs.Queue.Dispatch
import PullConsumer.Proofs.Queue.Entries
import PullConsumer.Proofs.Queue.Exchanges
import PullConsumer.Proofs.Queue.FlushSteps
import PullConsumer.Proofs.Queue.Increasing
import PullConsumer.Proofs.Queue.Lives
import PullConsumer.Proofs.Queue.Move
import PullConsumer.Proofs.Queue.Pace
import PullConsumer.Proofs.Queue.Pending
import PullConsumer.Proofs.Queue.Progress
import PullConsumer.Proofs.Queue.Returns
import PullConsumer.Proofs.Queue.Rounds
import PullConsumer.Proofs.Queue.Tiling
import PullConsumer.Proofs.Queue.Turns
import PullConsumer.Proofs.Queue.Window
import PullConsumer.Proofs.Settings.Live
import PullConsumer.Proofs.Settings.Reloads
import PullConsumer.Proofs.Text.Numeral
import PullConsumer.Pull.Debug
import PullConsumer.Pull.Filter
import PullConsumer.Pull.Request
import PullConsumer.Pull.Response
import PullConsumer.ResponseCode
import PullConsumer.Scenario.Executor
import PullConsumer.Scenario.Run
import PullConsumer.Scenario.Script
import PullConsumer.Scenario.Step
import PullConsumer.Settings.Basic
import PullConsumer.Settings.Document
import PullConsumer.Settings.Fields
import PullConsumer.Settings.Live
import PullConsumer.Settings.Source
import PullConsumer.ShapeFault
import PullConsumer.Strategy
import PullConsumer.Table
import PullConsumer.Text.Blank
import PullConsumer.Text.Invisible
import PullConsumer.Text.Numeral
import PullConsumer.Text.Quoted
import PullConsumer.Text.Radix
import PullConsumer.Yaml.BlockScalar
import PullConsumer.Yaml.Cursor
import PullConsumer.Yaml.Document
import PullConsumer.Yaml.Event
import PullConsumer.Yaml.FlowScalar
import PullConsumer.Yaml.Layout
import PullConsumer.Yaml.Meaning
import PullConsumer.Yaml.Names
import PullConsumer.Yaml.Token
