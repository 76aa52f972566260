import ProxyProto.Wire
import ProxyProto.Tlv
import ProxyProto.Stream
import ProxyProto.V2
import ProxyProto.V2Parse
import ProxyProto.V2RoundTrip
import ProxyProto.Text
import ProxyProto.V1
import ProxyProto.HeaderRead
import ProxyProto.Conn
import ProxyProto.Latch
import ProxyProto.Platform
import ProxyProto.Delivery
import ProxyProto.Listener
import ProxyProto.ZeroCopy
import ProxyProto.Pools
import ProxyProto.V1RoundTrip
import ProxyProto.V1Reformat
import ProxyProto.V2Reformat
import ProxyProto.Proxied
import ProxyProto.AcceptLoop
