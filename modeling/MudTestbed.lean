import MudTestbed.Binary64.Basic
import MudTestbed.Clock
import MudTestbed.Binary64.Round
import MudTestbed.Binary64.Shortest
import MudTestbed.Binary64.Format
import MudTestbed.Binary64.Read
import MudTestbed.Text.Blank
import MudTestbed.Text.Case
import MudTestbed.Text.Escaped
import MudTestbed.Text.Quoted
import MudTestbed.Text.Numeral
import MudTestbed.Text.Split
import MudTestbed.Json.Value
import MudTestbed.Json.Read
import MudTestbed.Json.Write
import MudTestbed.Json.Decode
import MudTestbed.Error
import MudTestbed.Net.Ipv4
import MudTestbed.Net.Ipv6
import MudTestbed.Net.Socket
import MudTestbed.Address.Mac
import MudTestbed.Address.Cidr
import MudTestbed.Address.Dpid
import MudTestbed.Address.Endpoint
import MudTestbed.Text.Similar
import MudTestbed.Net.Url
import MudTestbed.Topology.Graph
import MudTestbed.Topology.Document
import MudTestbed.Plan.Basic
import MudTestbed.Plan.Commands
import MudTestbed.Plan.Document
import MudTestbed.Probe.Spec
import MudTestbed.Probe.Tools
import MudTestbed.Probe.Output
import MudTestbed.Probe.Document
import MudTestbed.Controller.Config
import MudTestbed.Toml.Scan
import MudTestbed.Toml.Number
import MudTestbed.Toml.Tree
import MudTestbed.Toml.Build
import MudTestbed.Toml.Parse
import MudTestbed.Toml.Load
import MudTestbed.Scenario.Files
import MudTestbed.Scenario.File
import MudTestbed.Scenario.Basic
import MudTestbed.Scenario.Document
import MudTestbed.Report.Basic
import MudTestbed.Report.Document
import MudTestbed.Backend.Memory
import MudTestbed.Provision.Basic
import MudTestbed.Provision.Teardown
import MudTestbed.Provision.Session
import MudTestbed.Provision.Lanes
import MudTestbed.Provision.Document
import MudTestbed.Cli.Grammar
import MudTestbed.Cli.Program
import MudTestbed.Cli.Help
import MudTestbed.Cli.Parse
import MudTestbed.Cli.Run
import MudTestbed.Main
import MudTestbed.Net.Location
import MudTestbed.Controller.Exchange
import MudTestbed.Controller.Scripted
import MudTestbed.Controller.Client
import MudTestbed.Scenario.Run
import MudTestbed.Controller.Concurrent
import MudTestbed.Proofs.Preserves
import MudTestbed.Proofs.Provision.Wait
import MudTestbed.Proofs.Provision.Steps
import MudTestbed.Proofs.Provision.Cleanup
import MudTestbed.Proofs.Provision.Probes
import MudTestbed.Proofs.Controller.Frame
import MudTestbed.Proofs.Scenario.Drive
import MudTestbed.Proofs.Scenario.Teardown
import MudTestbed.Proofs.Scenario.TimeRange
import MudTestbed.Proofs.Scenario.Trace
import MudTestbed.Proofs.Topology.Steps
import MudTestbed.Proofs.Topology.WellFormed
import MudTestbed.Proofs.Topology.Interfaces
import MudTestbed.Proofs.Provision.Build
import MudTestbed.Proofs.Provision.Configure
import MudTestbed.Proofs.Provision.Outcome
import MudTestbed.Proofs.Probe.Verdict
import MudTestbed.Proofs.Scenario.References
import MudTestbed.Proofs.Address.MacText
import MudTestbed.Proofs.Text.Numerals
import MudTestbed.Proofs.Address.MacSyntax
import MudTestbed.Proofs.Address.DpidText
import MudTestbed.Proofs.Net.DottedQuad
import MudTestbed.Proofs.Address.CidrLaws
import MudTestbed.Proofs.Json.Roundtrip
import MudTestbed.Proofs.Controller.Program
import MudTestbed.Proofs.Controller.Register
import MudTestbed.Proofs.Controller.ScriptedRegister
import MudTestbed.Proofs.Controller.Serialize
import MudTestbed.Proofs.Plan.Resolve
import MudTestbed.Proofs.Plan.Commands
import MudTestbed.Proofs.Controller.Quarantine
import MudTestbed.Proofs.Provision.Lanes
import MudTestbed.Proofs.Provision.Release
import MudTestbed.Proofs.Controller.Retry
import MudTestbed.Proofs.Controller.Poll
import MudTestbed.Proofs.Controller.Backoff
import MudTestbed.Proofs.Scenario.ControllerDefaults
import MudTestbed.Proofs.Report.Summary
import MudTestbed.Proofs.Scenario.Loader
import MudTestbed.Proofs.Controller.Collect
import MudTestbed.Proofs.Topology.Attachments
import MudTestbed.Proofs.Net.Ipv6Text
import MudTestbed.Proofs.Address.EndpointText
import MudTestbed.Proofs.Binary64.NonNeg
import MudTestbed.Proofs.Probe.Metrics
