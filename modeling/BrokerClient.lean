import BrokerClient.Cli
import BrokerClient.Client.Basic
import BrokerClient.Client.Connect
import BrokerClient.Client.Dispatch
import BrokerClient.Client.Publish
import BrokerClient.Client.Subscribe
import BrokerClient.Confirm
import BrokerClient.Duration
import BrokerClient.Endpoint
import BrokerClient.Endpoint.Address
import BrokerClient.Endpoint.Domain
import BrokerClient.Endpoint.Punycode
import BrokerClient.Endpoint.Url
import BrokerClient.Entity
import BrokerClient.Error
import BrokerClient.Event
import BrokerClient.Handler
import BrokerClient.Hash.SipHash
import BrokerClient.Inbound
import BrokerClient.Main
import BrokerClient.Message
import BrokerClient.Meta
import BrokerClient.QueueMap
import BrokerClient.QueueMap.Reader
import BrokerClient.Registry
import BrokerClient.Script
import BrokerClient.Session
import BrokerClient.Session.Group
import BrokerClient.Session.Hub
import BrokerClient.Settings
import BrokerClient.Text.BidiClass
import BrokerClient.Text.Blank
import BrokerClient.Text.CombiningClass
import BrokerClient.Text.Decimal
import BrokerClient.Text.Decomposition
import BrokerClient.Text.DomainMapping
import BrokerClient.Text.Escaped
import BrokerClient.Text.JoiningType
import BrokerClient.Text.Mark
import BrokerClient.Text.Normalization
import BrokerClient.Text.Printable
import BrokerClient.Text.Runs
import BrokerClient.Text.Shortest
import BrokerClient.Text.Utf8
import BrokerClient.Topic
import BrokerClient.Proofs.Operation
import BrokerClient.Proofs.Registry
import BrokerClient.Proofs.Utf8
import BrokerClient.Proofs.ReadString
import BrokerClient.Proofs.QueueMap
import BrokerClient.Proofs.ReadMap
import BrokerClient.Proofs.Connection
import BrokerClient.Proofs.Resync
import BrokerClient.Proofs.Routing
import BrokerClient.Proofs.Replies
import BrokerClient.Proofs.HandlerReplies
import BrokerClient.Proofs.Metas
import BrokerClient.Proofs.MessageRoundTrip
import BrokerClient.Proofs.Confirmation
import BrokerClient.Proofs.Validation
import BrokerClient.Proofs.Diversion
import BrokerClient.Proofs.Transmission
import BrokerClient.Proofs.Lifecycle
import BrokerClient.Proofs.WireNames
import BrokerClient.Proofs.Namespaces
import BrokerClient.Proofs.Settlement
import BrokerClient.Proofs.SubscriptionReach
import BrokerClient.Proofs.BrokerUrls
import BrokerClient.Proofs.SettingsGrammar
import BrokerClient.Proofs.Grouping
import BrokerClient.Proofs.RoundRobin
