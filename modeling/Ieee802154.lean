import Ieee802154.Byte
import Ieee802154.Types
import Ieee802154.FrameCodec
import Ieee802154.HeaderCodec
import Ieee802154.FrameWrite
import Ieee802154.FrameRoundTrip
import Ieee802154.FrameParse
import Ieee802154.Security
