import PluginRpc.Proofs.Stream.Traffic
import PluginRpc.Rehearsal.Record
import PluginRpc.Rehearsal.Session
import PluginRpc.Stream.Family
import PluginRpc.Proofs.Stream.Conservation
import PluginRpc.Proofs.Call.Run
import PluginRpc.Proofs.Dispatch.Registration
import PluginRpc.Proofs.Dispatch.Gates
import PluginRpc.Proofs.Call.Unbounded
import PluginRpc.Proofs.Dispatch.Streaming
import PluginRpc.Proofs.Ambient
import PluginRpc.Proofs.Plugin.Entries
import PluginRpc.Proofs.Plugin.Candidate
import PluginRpc.Proofs.Stream.Lifecycle
import PluginRpc.Proofs.Stream.Capacity
import PluginRpc.Proofs.Stream.Vigil
import PluginRpc.Proofs.Stream.Release
import PluginRpc.Proofs.Path
import PluginRpc.Proofs.Plugin.Listing
import PluginRpc.Proofs.Plugin.Course
import PluginRpc.Proofs.Plugin.Independence
import PluginRpc.Proofs.Plugin.Directory
import PluginRpc.Proofs.Plugin.Tally
import PluginRpc.Proofs.Plugin.Kin
import PluginRpc.Proofs.Plugin.Estate
import PluginRpc.Proofs.Plugin.Lifetime
import PluginRpc.Proofs.Call.Recorded
import PluginRpc.Proofs.Dispatch.Recording
import PluginRpc.Proofs.Call.Failure
import PluginRpc.Proofs.Plugin.Passage
import PluginRpc.Proofs.Context.History
import PluginRpc.Proofs.Context.Finality
import PluginRpc.Proofs.Schema.Unfolding
import PluginRpc.Proofs.Schema.Rendering
import PluginRpc.Proofs.Json.Text
import PluginRpc.Proofs.Json.Number
import PluginRpc.Proofs.Json.Reading
import PluginRpc.Proofs.Greeter.Codec
import PluginRpc.Proofs.Channel.Feeding
import PluginRpc.Proofs.Channel.Delivery
import PluginRpc.Proofs.Greeter.Table
import PluginRpc.Proofs.Greeter.Chat
import PluginRpc.Proofs.Plugin.Ledger
import PluginRpc.Proofs.Dispatch.Addressing
import PluginRpc.Proofs.Schema.Recovery
import PluginRpc.Proofs.Call.Dialling
import PluginRpc.Proofs.Greeter.Requests
import PluginRpc.Proofs.Greeter.Calls
import PluginRpc.Proofs.Greeter.Replies
import PluginRpc.Proofs.Record.Slots
import PluginRpc.Proofs.Dispatch.Attempts
import PluginRpc.Proofs.Call.Company
import PluginRpc.Proofs.Channel.Handing
import PluginRpc.Proofs.Greeter.Relay
import PluginRpc.Proofs.Schema.Layout
import PluginRpc.Proofs.Dispatch.Rows
import PluginRpc.Proofs.Dispatch.Fetches
import PluginRpc.Proofs.Stream.Draining
import PluginRpc.Proofs.Stream.Inheritance
import PluginRpc.Proofs.Dispatch.Rejection
import PluginRpc.Proofs.Dispatch.Paths
import PluginRpc.Proofs.Record.Equality
import PluginRpc.Proofs.Plugin.Companions
import PluginRpc.Proofs.Plugin.Settings
