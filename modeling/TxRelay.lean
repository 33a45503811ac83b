import TxRelay.Account
import TxRelay.Bytes
import TxRelay.Client
import TxRelay.Client.Callback
import TxRelay.Client.Error
import TxRelay.Client.Session
import TxRelay.Command
import TxRelay.Command.Arguments
import TxRelay.Config
import TxRelay.Config.Check
import TxRelay.Config.Load
import TxRelay.Config.Read
import TxRelay.Config.SocketAddress
import TxRelay.Config.Write
import TxRelay.Crypto.Ecdsa
import TxRelay.Crypto.Keccak
import TxRelay.Crypto.Secp256k1
import TxRelay.Crypto.Sha256
import TxRelay.Decimal.Literal
import TxRelay.Decimal.Shortest
import TxRelay.Endpoint
import TxRelay.Engine
import TxRelay.Engine.Error
import TxRelay.Engine.Session
import TxRelay.Hex
import TxRelay.Json.Quote
import TxRelay.Json.Read
import TxRelay.Json.Value
import TxRelay.LogFilter
import TxRelay.Main
import TxRelay.Network
import TxRelay.Network.Outcome
import TxRelay.Network.StandIn
import TxRelay.Receipt
import TxRelay.Receipt.Json
import TxRelay.Rlp.Reader
import TxRelay.Rlp.Writer
import TxRelay.Rpc.Answer
import TxRelay.Rpc.Network
import TxRelay.Rpc.Node
import TxRelay.Shutdown
import TxRelay.Stats
import TxRelay.Text.Alphanumeric
import TxRelay.Text.Blank
import TxRelay.Text.Duration
import TxRelay.Text.Quoted
import TxRelay.Text.Symbol
import TxRelay.Text.Uuid
import TxRelay.Toml.Document
import TxRelay.Toml.Number
import TxRelay.Toml.Reader
import TxRelay.Toml.Text
import TxRelay.Toml.Value
import TxRelay.Toml.Writer
import TxRelay.Transaction
import TxRelay.Transaction.Decode
import TxRelay.Transaction.Encode
import TxRelay.Unicode.BidiClass
import TxRelay.Unicode.CombiningClass
import TxRelay.Unicode.Composition
import TxRelay.Unicode.Hidden
import TxRelay.Unicode.JoiningType
import TxRelay.Unicode.Mark
import TxRelay.Unicode.Normal
import TxRelay.Unicode.Runs
import TxRelay.Url
import TxRelay.Url.Domain
import TxRelay.Url.Error
import TxRelay.Url.Host
import TxRelay.Url.HostMapping
import TxRelay.Url.Ipv4
import TxRelay.Url.Ipv6
import TxRelay.Url.Label
import TxRelay.Url.Percent
import TxRelay.Url.Punycode
import TxRelay.Wallet
import TxRelay.Engine.Moment
import TxRelay.Log
import TxRelay.Proofs.Engine.ExactlyOnce
import TxRelay.Client.Moment
import TxRelay.Proofs.Client.Calls
import TxRelay.Proofs.Engine.Session
import TxRelay.Proofs.Client.Ledger
import TxRelay.Proofs.Client.Delivery
import TxRelay.Proofs.Client.Destruction
import TxRelay.Proofs.Client.Session
import TxRelay.Client.Threads
import TxRelay.Proofs.Client.Joining
import TxRelay.Proofs.Client.Undisturbed
import TxRelay.Proofs.Client.Owner
import TxRelay.Proofs.Client.Stopping
import TxRelay.Proofs.Engine.Accounting
import TxRelay.Proofs.Engine.Lifecycle
import TxRelay.Engine.Tasks
import TxRelay.Proofs.Shutdown
import TxRelay.Proofs.Engine.LateCalls
import TxRelay.Client.Guards
import TxRelay.Proofs.Client.OneLoop
import TxRelay.Shutdown.Moment
import TxRelay.Proofs.Shutdown.Wakeups
import TxRelay.Proofs.Toml.Number
import TxRelay.Proofs.Toml.Text
import TxRelay.Engine.Callers
import TxRelay.Proofs.Engine.OneDispatcher
import TxRelay.Proofs.Client.Unfailing
import TxRelay.Proofs.Client.LastRound
import TxRelay.Client.Schedule
import TxRelay.Proofs.Client.Schedule
import TxRelay.Proofs.Client.Panics
import TxRelay.Proofs.Client.Restarts
import TxRelay.Proofs.Config.Load
import TxRelay.Proofs.Endpoint
import TxRelay.Proofs.Client.Endpoints
import TxRelay.Proofs.Toml.RoundTrip
import TxRelay.Proofs.Config.RoundTrip
import TxRelay.Proofs.Rpc.Acknowledged
import TxRelay.Proofs.Stats
import TxRelay.Proofs.Engine.Metrics
import TxRelay.Proofs.Client.Metrics
import TxRelay.Engine.Counters
import TxRelay.Proofs.Engine.Counters
import TxRelay.Proofs.Engine.Gauge
import TxRelay.Proofs.Engine.Snapshots
import TxRelay.Proofs.Bytes
import TxRelay.Proofs.Rlp.RoundTrip
import TxRelay.Proofs.Transaction.RoundTrip
import TxRelay.Json.Grammar
import TxRelay.Proofs.Json.Strings
import TxRelay.Proofs.Json.Values
import TxRelay.Proofs.Receipt.RoundTrip
import TxRelay.Proofs.Engine.Tally
import TxRelay.Proofs.Client.Tally
import TxRelay.Proofs.Client.Refusals
import TxRelay.Command.Moment
import TxRelay.Proofs.Client.Listening
import TxRelay.Proofs.Command.Output
import TxRelay.Proofs.Command.Broadcast
import TxRelay.Proofs.Rlp.Steady
import TxRelay.Proofs.Transaction.Whole
import TxRelay.Proofs.Command.Malformed
import TxRelay.Engine.Polling
import TxRelay.Proofs.Engine.Polling
import TxRelay.Proofs.Engine.TwoPolls
import TxRelay.Proofs.Client.Asking
import TxRelay.Proofs.Client.Barred
import TxRelay.Rpc.Moment
import TxRelay.Proofs.Rpc.Cache
import TxRelay.Proofs.Config.Rules
import TxRelay.Proofs.Shutdown.Books
import TxRelay.Proofs.Shutdown.Accounts
import TxRelay.Proofs.Command.CutOff
import TxRelay.Proofs.Command.Overdue
import TxRelay.Proofs.LogFilter
import TxRelay.Proofs.Hex
import TxRelay.Proofs.Wallet.Keys
import TxRelay.Proofs.Crypto.Primes
import TxRelay.Proofs.Crypto.Curve
import TxRelay.Proofs.Crypto.Ecdsa
import TxRelay.Proofs.Wallet.Signatures
import TxRelay.Proofs.Toml.Distinct
import TxRelay.Proofs.Config.Merge
import TxRelay.Proofs.Config.Restated
