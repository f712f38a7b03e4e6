import AsyncCppRpc.Wire
import AsyncCppRpc.MethodId
import AsyncCppRpc.Transport
import AsyncCppRpc.Transport.Header
import AsyncCppRpc.Transport.Tcp
import AsyncCppRpc.Transport.Pipe
import AsyncCppRpc.Transport.CopyData
import AsyncCppRpc.Codec.Types
import AsyncCppRpc.Codec.Writer
import AsyncCppRpc.Codec.Reader
import AsyncCppRpc.Codec.RoundTrip
import AsyncCppRpc.Codec.Unchecked
import AsyncCppRpc.Codec.Codable
import AsyncCppRpc.Marshal.MethodMap
import AsyncCppRpc.Marshal.Storage
import AsyncCppRpc.Connection.ErrorHook
import AsyncCppRpc.Connection.Calls
import AsyncCppRpc.Connection.State
import AsyncCppRpc.Marshal.Dispatch
import AsyncCppRpc.Connection.Step
import AsyncCppRpc.Connection.Invariant
import AsyncCppRpc.Connection.Stop
import AsyncCppRpc.Connection.Requests
import AsyncCppRpc.Connection.Replies
import AsyncCppRpc.Connection.Outbox
import AsyncCppRpc.Connection.Matching
import AsyncCppRpc.Connection.Outstanding
import AsyncCppRpc.Connection.Link
