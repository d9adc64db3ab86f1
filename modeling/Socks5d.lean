import Socks5d.Library.Incremental
import Socks5d.Library.Machine
import Socks5d.Library.EraseFirst
import Socks5d.Buffer
import Socks5d.NewParser
import Socks5d.ParserBlocks
import Socks5d.RequestParser
import Socks5d.PasswordParser
import Socks5d.Sockets
import Socks5d.Selector
import Socks5d.Users
import Socks5d.PasswordCapture
import Socks5d.State
import Socks5d.Hello
import Socks5d.Authentication
import Socks5d.RequestStates
import Socks5d.RequestMessages
import Socks5d.Connecting
import Socks5d.Copy
import Socks5d.ManagementRequest
import Socks5d.Stm
import Socks5d.Services
import Socks5d.System
import Socks5d.Wiring
import Socks5d.HandshakeWiring
import Socks5d.ConnectingWiring
import Socks5d.ServiceWiring
import Socks5d.EventWiring
import Socks5d.MngWiring
import Socks5d.SharedState
import Socks5d.ServerWiring
import Socks5d.ConnRuns
import Socks5d.CopyProgress
import Socks5d.NoAbort
import Socks5d.Notifications
import Socks5d.AuthRuns
import Socks5d.MngRequests
import Socks5d.Library.Tally
import Socks5d.Counters
import Socks5d.Iteration
import Socks5d.MngClient
import Socks5d.Attribution
import Socks5d.Dissection
import Socks5d.EndOfStream
import Socks5d.Admission
import Socks5d.UserHistory
import Socks5d.ListUsers
import Socks5d.RequestLayout
import Socks5d.Rejections
import Socks5d.Replies
import Socks5d.HandlerCalls
import Socks5d.Negotiation
import Socks5d.ParserEngine
import Socks5d.AuthDecisions
import Socks5d.RequestAnswers
import Socks5d.DissectorBounds
import Socks5d.Pools
import Socks5d.ClientCredentials
import Socks5d.Arguments
import Socks5d.CredentialsFile
import Socks5d.UserStrings
import Socks5d.Library.RunningMean
import Socks5d.Transfers
import Socks5d.Averages
import Socks5d.CounterReplies
import Socks5d.ReplyDecisions
import Socks5d.AddressAttempts
import Socks5d.Fallback
import Socks5d.Blindness
import Socks5d.Intakes
import Socks5d.HandshakeCuts
import Socks5d.Slots
import Socks5d.Lifecycle
import Socks5d.Attendance
import Socks5d.Library.Component
import Socks5d.SelectorTable
import Socks5d.BufferMemory
import Socks5d.Shutdown
import Socks5d.PoolLedger
import Socks5d.Accounting
import Socks5d.Adjustments
import Socks5d.Administration
import Socks5d.Library.Precedence
import Socks5d.Targets
import Socks5d.EventParser
import Socks5d.StringCompare
import Socks5d.ClientArguments
import Socks5d.ClientSession
