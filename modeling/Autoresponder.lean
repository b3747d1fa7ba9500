import Autoresponder.Channel.Dedup
import Autoresponder.Channel.Gateway
import Autoresponder.Channel.Outbound
import Autoresponder.Channel.Webhook
import Autoresponder.Chatbot
import Autoresponder.Config
import Autoresponder.Conversation
import Autoresponder.Crypto.Sha256
import Autoresponder.Data.Access
import Autoresponder.Data.Compare
import Autoresponder.Data.Json
import Autoresponder.Data.Show
import Autoresponder.Data.Value
import Autoresponder.Dispatch
import Autoresponder.Fault
import Autoresponder.Flow.Call
import Autoresponder.Flow.Condition
import Autoresponder.Flow.Graph
import Autoresponder.Flow.Node
import Autoresponder.Flow.Run
import Autoresponder.Flow.Template
import Autoresponder.Flow.Walk
import Autoresponder.Generate
import Autoresponder.Inbound
import Autoresponder.Net.Idna
import Autoresponder.Net.LabelTable
import Autoresponder.Net.Punycode
import Autoresponder.Number.Binary
import Autoresponder.Number.Double
import Autoresponder.Number.Shortest
import Autoresponder.Number.Text
import Autoresponder.Pattern.Case
import Autoresponder.Pattern.Search
import Autoresponder.Pattern.Syntax
import Autoresponder.Pattern.Tree
import Autoresponder.Phone
import Autoresponder.Proofs.Effects
import Autoresponder.Proofs.Traversal
import Autoresponder.Proofs.ConversationStore
import Autoresponder.Proofs.FlowFrames
import Autoresponder.Proofs.FlowMoves
import Autoresponder.Proofs.FlowState
import Autoresponder.Proofs.InboundRouting
import Autoresponder.Proofs.MenuRoundTrip
import Autoresponder.Proofs.DispatchRecords
import Autoresponder.Proofs.FlowAtomicity
import Autoresponder.Proofs.FlowRoutes
import Autoresponder.Proofs.SerialLocks
import Autoresponder.Proofs.ProviderSend
import Autoresponder.Routing
import Autoresponder.Rule.Basic
import Autoresponder.Rule.Hours
import Autoresponder.Rule.Resolve
import Autoresponder.Rule.Service
import Autoresponder.Rule.Settings
import Autoresponder.Schema.Check
import Autoresponder.Server.Endpoint
import Autoresponder.Serial
import Autoresponder.Server.Exchange
import Autoresponder.Store.Basic
import Autoresponder.Store.Factory
import Autoresponder.Store.Url
import Autoresponder.Text.Base64
import Autoresponder.Text.Basic
import Autoresponder.Text.CaseTable
import Autoresponder.Text.CharName
import Autoresponder.Text.ClassTable
import Autoresponder.Text.DirectionTable
import Autoresponder.Text.Encode
import Autoresponder.Text.IdentTable
import Autoresponder.Text.NameTable
import Autoresponder.Text.Normal
import Autoresponder.Text.NormalTable
import Autoresponder.Text.PrintTable
import Autoresponder.Text.Span
import Autoresponder.Text.UpperTable
import Autoresponder.Text.Utf8
import Autoresponder.Text.WordTable
import Autoresponder.Time.Civil
import Autoresponder.Time.Rule
import Autoresponder.Time.Stamp
import Autoresponder.Time.Zones
import Autoresponder.Workspace
import Autoresponder.World
import Autoresponder.Yaml.Data
import Autoresponder.Yaml.Data.Build
import Autoresponder.Yaml.Data.Scalar
import Autoresponder.Yaml.Event
import Autoresponder.Yaml.Load
import Autoresponder.Yaml.Mark
import Autoresponder.Yaml.Node
import Autoresponder.Yaml.Node.Resolve
import Autoresponder.Yaml.Token
import Autoresponder.Yaml.Token.Property
import Autoresponder.Yaml.Token.Scalar
import Autoresponder.Yaml.Token.Stream
import Autoresponder.Proofs.SettingsDocument
import Autoresponder.Proofs.StoreBackends
import Autoresponder.Proofs.Processor
import Autoresponder.Proofs.OneConversation
import Autoresponder.Proofs.WalkRoute
import Autoresponder.Proofs.UnusableGraphs
import Autoresponder.Proofs.FlowExpiry
import Autoresponder.Proofs.CustomerIsolation
import Autoresponder.Proofs.RuleChoice
import Autoresponder.Proofs.WorkingHours
import Autoresponder.Proofs.SettingsFaults
import Autoresponder.Proofs.DefaultSettings
import Autoresponder.Proofs.TriggerSelection
import Autoresponder.Proofs.RecentWindow
import Autoresponder.Proofs.EmissionRecords
import Autoresponder.Proofs.DoubleOrder
import Autoresponder.Proofs.RedeliveryFilter
import Autoresponder.Proofs.WalkTermination
import Autoresponder.Proofs.PhoneNormalForm
import Autoresponder.Proofs.PlaceholderFilling
import Autoresponder.Proofs.ApiRequests
import Autoresponder.Proofs.WebhookReading
