import Pyronova.Execution
import Pyronova.Pipe
import Pyronova.Usize
import Pyronova.FileTree
import Pyronova.Weight
import Pyronova.Timeline
import Pyronova.Positional
import Pyronova.DecimalDigits
import Pyronova.Delimiter
import Pyronova.Inversion
import Pyronova.Json
import Pyronova.EventStream
import Pyronova.ElementList
import Pyronova.WebSocket.Slots
import Pyronova.WebSocket.Budget
import Pyronova.WebSocket.Connection
import Pyronova.WebSocket.Inbound
import Pyronova.WebSocket.Outbound
import Pyronova.Body
import Pyronova.BodyStream
import Pyronova.BodyReaders
import Pyronova.StreamedBody
import Pyronova.Response
import Pyronova.Headers
import Pyronova.PyText
import Pyronova.RequestHeaders
import Pyronova.Compression
import Pyronova.Negotiation
import Pyronova.AcceptEncoding
import Pyronova.HookChain
import Pyronova.ResponseRebuild
import Pyronova.Cookies
import Pyronova.SetCookie
import Pyronova.Uploads
import Pyronova.UploadsHeaders
import Pyronova.UploadsFraming
import Pyronova.UploadsRoundTrip
import Pyronova.Cursor
import Pyronova.StaticFs
import Pyronova.StaticContainment
import Pyronova.CacheAccounting
import Pyronova.StaticFreshness
import Pyronova.StaticSequential
import Pyronova.StaticReplacement
import Pyronova.Router
import Pyronova.RouteTemplates
import Pyronova.Registration
import Pyronova.WorkerStart
import Pyronova.Pool
import Pyronova.PoolRequests
import Pyronova.PoolSteps
import Pyronova.PoolAnswers
import Pyronova.PoolMemory
import Pyronova.Preprocess
import Pyronova.Methods
import Pyronova.Numeric
import Pyronova.NumericValue
import Pyronova.NumericCanonical
import Pyronova.BigEndian
import Pyronova.BinaryFloat
import Pyronova.Param
import Pyronova.ParamFloats
import Pyronova.Cell
import Pyronova.ParamRoundTrip
import Pyronova.Stream
import Pyronova.SharedState
import Pyronova.DbConnect
import Pyronova.Placeholders
import Pyronova.Crud
import Pyronova.CrudStatements
import Pyronova.McpSchema
import Pyronova.Mcp
import Pyronova.McpReplies
import Pyronova.McpHints
import Pyronova.AcceptSource
import Pyronova.RequestId
import Pyronova.GcSchedule
import Pyronova.QueryParams
import Pyronova.Grpc
import Pyronova.JsonLoads
import Pyronova.CachedJson
import Pyronova.OriginPolicy
import Pyronova.Custody
import Pyronova.Workforce
import Pyronova.PoolLifecycle
import Pyronova.TpcLifecycle
import Pyronova.RequestContext
import Pyronova.SingleFlight
import Pyronova.Health
import Pyronova.Failures
import Pyronova.WorkQueue
import Pyronova.Bridge
import Pyronova.Metrics
import Pyronova.TaskTracker
import Pyronova.Connections
import Pyronova.Serving
import Pyronova.MultiThread
import Pyronova.RssSampling
import Pyronova.CloneStore
import Pyronova.Rpc
import Pyronova.ByteFile
import Pyronova.DynamicStrtab
import Pyronova.AsyncResults
