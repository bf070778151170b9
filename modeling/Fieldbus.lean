import Fieldbus.CommandLine.Collector
import Fieldbus.Flow.Timed
import Fieldbus.Json.Reader
import Fieldbus.Logging.Setup
import Fieldbus.Main
import Fieldbus.Plant.Session
import Fieldbus.Proofs.Delivery
import Fieldbus.Serial.Watch
import Fieldbus.Proofs.Serial.Move
import Fieldbus.Proofs.Serial.Reading
import Fieldbus.Gateway.Station
import Fieldbus.Proofs.Gateway.Registration
import Fieldbus.Proofs.Gateway.Station
import Fieldbus.Gateway.Server
import Fieldbus.Proofs.Flow.Fanout
import Fieldbus.Proofs.Gateway.Ledger
import Fieldbus.Proofs.Gateway.Server
import Fieldbus.Proofs.Gateway.Progress
import Fieldbus.Proofs.Gateway.Service
import Fieldbus.Proofs.Json.Lexing
import Fieldbus.Proofs.Json.Reading
import Fieldbus.Proofs.Descriptor.Entries
import Fieldbus.Proofs.Descriptor.Loading
import Fieldbus.Proofs.Descriptor.NormalForm
import Fieldbus.Proofs.Serial.Session
import Fieldbus.Proofs.Serial.Traffic
import Fieldbus.Proofs.Serial.Removal
import Fieldbus.Proofs.Descriptor.Reports
import Fieldbus.Proofs.Descriptor.Constraints
import Fieldbus.Proofs.Serial.Overlap
import Fieldbus.Flow.Shared
import Fieldbus.Proofs.Flow.Shared
import Fieldbus.Proofs.Forwarding
import Fieldbus.Proofs.Network
import Fieldbus.Proofs.Starting
import Fieldbus.Proofs.Ownership
import Fieldbus.Proofs.Serial.Roll
import Fieldbus.Proofs.Serial.Isolation
import Fieldbus.Proofs.Serial.Monitoring
import Fieldbus.Serial.Shared
import Fieldbus.Proofs.Serial.Shared
import Fieldbus.Serial.Journal
import Fieldbus.Proofs.Serial.Journal
import Fieldbus.Proofs.Serial.Writing
import Fieldbus.Proofs.CommandLine.SinglePort
import Fieldbus.CommandLine.SinglePort
import Fieldbus.Proofs.Descriptor.Spelling
import Fieldbus.Proofs.Descriptor.Lines
import Fieldbus.Proofs.Text.Hex
import Fieldbus.Proofs.CommandLine.Payload
import Fieldbus.Bus.Reception
import Fieldbus.Bus.Showing
import Fieldbus.Proofs.Reception
import Fieldbus.Proofs.Showing
import Fieldbus.Proofs.Text.Dump
import Fieldbus.Proofs.Topics
import Fieldbus.Proofs.Device.Uid
import Fieldbus.Proofs.Flow.Pacer
import Fieldbus.Proofs.Gateway.Pacing
import Fieldbus.Proofs.Plugin.Sniffing
import Fieldbus.Proofs.Plugin.Contract
