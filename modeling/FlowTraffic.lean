import FlowTraffic.Bytes
import FlowTraffic.Bytes.Fault
import FlowTraffic.Bytes.Sink
import FlowTraffic.CommandLine.Command
import FlowTraffic.CommandLine.Param
import FlowTraffic.Dashboard
import FlowTraffic.Host.Disk
import FlowTraffic.Host.Fault
import FlowTraffic.Host.Network
import FlowTraffic.Host.Transport
import FlowTraffic.Ipfix.Header
import FlowTraffic.Ipfix.Template
import FlowTraffic.Log
import FlowTraffic.Main
import FlowTraffic.Metrics
import FlowTraffic.Net.Cidr
import FlowTraffic.Net.Endpoint
import FlowTraffic.Net.Ipv4
import FlowTraffic.Net.Ipv6
import FlowTraffic.Netflow.Exporter
import FlowTraffic.Netflow.Flow
import FlowTraffic.Netflow.FlowSet
import FlowTraffic.Netflow.Generate
import FlowTraffic.Netflow.Member
import FlowTraffic.Netflow.Packet
import FlowTraffic.Netflow.Registry
import FlowTraffic.Netflow.Template
import FlowTraffic.Netflow.Timestamp
import FlowTraffic.OrderedMap
import FlowTraffic.Program
import FlowTraffic.Proofs.Bytes.Order
import FlowTraffic.Proofs.Bytes.Sinks
import FlowTraffic.Proofs.Bytes.Words
import FlowTraffic.Proofs.Bytes.Writers
import FlowTraffic.Proofs.Collecting
import FlowTraffic.Proofs.Counters
import FlowTraffic.Proofs.Host.Binding
import FlowTraffic.Proofs.Ipfix.Codec
import FlowTraffic.Proofs.Maps
import FlowTraffic.Proofs.Net.Notation
import FlowTraffic.Proofs.Net.Ranges
import FlowTraffic.Proofs.Net.Sampling
import FlowTraffic.Proofs.Netflow.Acceptance
import FlowTraffic.Proofs.Netflow.Agreement
import FlowTraffic.Proofs.Netflow.Building
import FlowTraffic.Proofs.Netflow.Codec
import FlowTraffic.Proofs.Netflow.Collector
import FlowTraffic.Proofs.Netflow.Drawing
import FlowTraffic.Proofs.Netflow.Format
import FlowTraffic.Proofs.Netflow.Layout
import FlowTraffic.Proofs.Netflow.Limits
import FlowTraffic.Proofs.Netflow.Numbering
import FlowTraffic.Proofs.Netflow.Parts
import FlowTraffic.Proofs.Netflow.Reading
import FlowTraffic.Proofs.Netflow.Reliance
import FlowTraffic.Proofs.Netflow.Reports
import FlowTraffic.Proofs.Netflow.Restamping
import FlowTraffic.Proofs.Netflow.Rewriting
import FlowTraffic.Proofs.Netflow.RoundTrip
import FlowTraffic.Proofs.Netflow.Sending
import FlowTraffic.Proofs.Netflow.Sizes
import FlowTraffic.Proofs.Netflow.Wrapping
import FlowTraffic.Proofs.Netflow.Writing
import FlowTraffic.Proofs.Netflow.Written
import FlowTraffic.Proofs.Random
import FlowTraffic.Proofs.Receiver.Closing
import FlowTraffic.Proofs.Receiver.Counting
import FlowTraffic.Proofs.Receiver.Draining
import FlowTraffic.Proofs.Receiver.Fanout
import FlowTraffic.Proofs.Receiver.Forwarding
import FlowTraffic.Proofs.Receiver.Intake
import FlowTraffic.Proofs.Receiver.Keys
import FlowTraffic.Proofs.Receiver.Moves
import FlowTraffic.Proofs.Receiver.Persisting
import FlowTraffic.Proofs.Receiver.Progress
import FlowTraffic.Proofs.Receiver.Recording
import FlowTraffic.Proofs.Receiver.Validation
import FlowTraffic.Proofs.Reproduction
import FlowTraffic.Proofs.Runs
import FlowTraffic.Proofs.Schedules
import FlowTraffic.Proofs.Sender.Barrage.Delivery
import FlowTraffic.Proofs.Sender.Barrage.Moves
import FlowTraffic.Proofs.Sender.Barrage.Outcome
import FlowTraffic.Proofs.Sender.Barrage.Progress
import FlowTraffic.Proofs.Sender.Barrage.Reports
import FlowTraffic.Proofs.Sender.Barrage.Setup
import FlowTraffic.Proofs.Sender.Replay.Delivery
import FlowTraffic.Proofs.Sender.Replay.Moves
import FlowTraffic.Proofs.Sender.Replay.Outcome
import FlowTraffic.Proofs.Sender.Replay.Pool
import FlowTraffic.Proofs.Sender.Replay.Progress
import FlowTraffic.Proofs.Sender.Replay.Reading
import FlowTraffic.Proofs.Sender.Sources
import FlowTraffic.Proofs.Sender.Streaming
import FlowTraffic.Proofs.Shutdown.Accounting
import FlowTraffic.Proofs.Shutdown.Joining
import FlowTraffic.Proofs.Shutdown.Signal
import FlowTraffic.Proofs.Shutdown.Steps
import FlowTraffic.Proofs.Shutdown.Telling
import FlowTraffic.Proofs.Shutdown.Told
import FlowTraffic.Proofs.Snapshots
import FlowTraffic.Proofs.Stepwise.Decoders
import FlowTraffic.Proofs.Stepwise.Netflow
import FlowTraffic.Proofs.Stepwise.Steps
import FlowTraffic.Proofs.Store.Durability
import FlowTraffic.Proofs.Store.OneMap
import FlowTraffic.Proofs.Store.Puts
import FlowTraffic.Proofs.Store.Reliable
import FlowTraffic.Proofs.Targets
import FlowTraffic.Proofs.Text.Dump
import FlowTraffic.Proofs.Text.Reading
import FlowTraffic.Proofs.Yaml.Records
import FlowTraffic.Queue
import FlowTraffic.Random
import FlowTraffic.Receiver.Fanout
import FlowTraffic.Receiver.Intake
import FlowTraffic.Receiver.Persister
import FlowTraffic.Receiver.Proxy
import FlowTraffic.Receiver.Record
import FlowTraffic.Receiver.Validator
import FlowTraffic.Sender.Barrage.Config
import FlowTraffic.Sender.Barrage.Run
import FlowTraffic.Sender.Barrage.Worker
import FlowTraffic.Sender.Replay.Config
import FlowTraffic.Sender.Replay.Reader
import FlowTraffic.Sender.Replay.Run
import FlowTraffic.Sender.Single
import FlowTraffic.Sender.Source
import FlowTraffic.Shutdown
import FlowTraffic.Stats
import FlowTraffic.Store.File
import FlowTraffic.Store.Interface
import FlowTraffic.Store.Table
import FlowTraffic.TargetFile
import FlowTraffic.Text.Blank
import FlowTraffic.Text.ByteCount
import FlowTraffic.Text.Digits
import FlowTraffic.Text.HexDump
import FlowTraffic.Text.Hidden
import FlowTraffic.Text.Quoted
import FlowTraffic.Total
import FlowTraffic.Yaml.Cursor
import FlowTraffic.Yaml.Layout
import FlowTraffic.Yaml.Node
import FlowTraffic.Yaml.Token
import FlowTraffic.Yaml.Value
