import Ieee802154.Byte

/-!
# The data of an IEEE 802.15.4 MAC frame

`Frame`, `FrameContent`, `FooterMode` and `DecodeError` are `mac::frame`'s own types. The
header and its parts (`Header`, `Address`, `AuxiliarySecurityHeader`, ...) belong to
`mac::frame::header` and `mac::frame::security`, which are not among the sources: they
are modelled from the spec's data model (§3), and their doc comments say so. The beacon
and MAC command bodies are outside the spec's scope, so `FrameContent` and `Frame` take
their types as parameters.
-/

namespace Ieee802154

/-! ## Frame control values -/

/-- Modelled from the spec: `header::FrameType`, the four frame types that
`FrameContent::try_read` dispatches on. -/
inductive FrameType where
  | beacon
  | data
  | acknowledgement
  | macCommand
deriving DecidableEq, Repr

/-- Modelled from the spec: `FrameVersion`, the ordered versions 2003, 2006 and 2015+. -/
inductive FrameVersion where
  | ieee802154_2003
  | ieee802154_2006
  | ieee802154
deriving DecidableEq, Repr

/-! ## Addresses -/

/-- Modelled from the spec: `PanId(u16)`. -/
structure PanId where
  val : UInt16
deriving DecidableEq, Repr

/-- Modelled from the spec: `ShortAddress(u16)`. -/
structure ShortAddress where
  val : UInt16
deriving DecidableEq, Repr

/-- Modelled from the spec: `ExtendedAddress(u64)`. -/
structure ExtendedAddress where
  val : UInt64
deriving DecidableEq, Repr

/-- Modelled from the spec: `Address`, a PAN identifier with a short or an extended
address. -/
inductive Address where
  | short (pan : PanId) (addr : ShortAddress)
  | extended (pan : PanId) (addr : ExtendedAddress)
deriving DecidableEq, Repr

/-- The PAN identifier of an address. -/
def Address.panId : Address → PanId
  | .short pan _ => pan
  | .extended pan _ => pan

/-! ## The auxiliary security header -/

/-- Modelled from the spec: `SecurityLevel`, the eight levels of the table in §4.4. -/
inductive SecurityLevel where
  | none
  | mic32
  | mic64
  | mic128
  | enc
  | encMic32
  | encMic64
  | encMic128
deriving DecidableEq, Repr

/-- Modelled from the spec: `KeyIdentifierMode`, which sets the width of the key
identifier field. -/
inductive KeyIdentifierMode where
  | none
  | keyIndex
  | keySource4
  | keySource8
deriving DecidableEq, Repr

/-- Modelled from the spec: the width of the key identifier field, 0, 1, 5 or 9 bytes. -/
def KeyIdentifierMode.octets : KeyIdentifierMode → Nat
  | .none => 0
  | .keyIndex => 1
  | .keySource4 => 5
  | .keySource8 => 9

/-- Modelled from the spec: `SecurityControl`, the first byte of the auxiliary security
header. -/
structure SecurityControl where
  securityLevel : SecurityLevel
  keyIdMode : KeyIdentifierMode
deriving DecidableEq, Repr

/-- Modelled from the spec: `AuxiliarySecurityHeader`. The frame counter is optional (a
2015 frame may suppress it) and the key identifier has the width its mode sets. -/
structure AuxiliarySecurityHeader where
  control : SecurityControl
  frameCounter : Option UInt32
  keyIdentifier : List UInt8
  keyIdentifier_length : keyIdentifier.length = control.keyIdMode.octets
deriving DecidableEq

/-- Modelled from the spec: `AuxiliarySecurityHeader::get_octet_size`, the control byte,
the frame counter if present, and the key identifier. -/
def AuxiliarySecurityHeader.getOctetSize (aux : AuxiliarySecurityHeader) : Nat :=
  1 + (if aux.frameCounter.isSome then 4 else 0) + aux.control.keyIdMode.octets

/-- The auxiliary security header takes at most 14 bytes. -/
theorem AuxiliarySecurityHeader.getOctetSize_le (aux : AuxiliarySecurityHeader) :
    aux.getOctetSize ≤ 14 := by
  unfold getOctetSize
  cases aux.control.keyIdMode <;> split <;> simp [KeyIdentifierMode.octets]

/-! ## The header -/

/-- Modelled from the spec: `Header`. Nothing ties `security` to the presence of the
auxiliary security header: a mismatch is a caller's contract violation, which
`Frame::secure_frame` meets with a panic. -/
structure Header where
  frameType : FrameType
  security : Bool
  framePending : Bool
  ackRequest : Bool
  panIdCompress : Bool
  version : FrameVersion
  seq : UInt8
  destination : Option Address
  source : Option Address
  auxiliarySecurityHeader : Option AuxiliarySecurityHeader
deriving DecidableEq

/-! ## `mac::frame` -/

/-- `DecodeError`: why bytes do not decode to a frame. -/
inductive DecodeError where
  | notEnoughBytes
  | invalidFrameType (v : UInt8)
  | securityNotSupported
  | invalidAddressMode (v : UInt8)
  | invalidFrameVersion (v : UInt8)
  | invalidSecurityLevel (v : UInt8)
  | invalidKeyIdentifierMode (v : UInt8)
  | securityNotEnabled
  | auxSecHeaderAbsent
  | invalidValue
deriving DecidableEq, Repr

/-- `impl From<DecodeError> for byte::Error`: a short buffer is `Incomplete`, everything
else is `BadInput` with the variant's name. -/
def DecodeError.into : DecodeError → Error
  | .notEnoughBytes => .incomplete
  | .invalidFrameType _ => .badInput "InvalidFrameType"
  | .securityNotSupported => .badInput "SecurityNotSupported"
  | .invalidAddressMode _ => .badInput "InvalidAddressMode"
  | .invalidFrameVersion _ => .badInput "InvalidFrameVersion"
  | .invalidValue => .badInput "InvalidValue"
  | .invalidSecurityLevel _ => .badInput "InvalidSecurityLevel"
  | .invalidKeyIdentifierMode _ => .badInput "InvalidKeyIdentifierMode"
  | .securityNotEnabled => .badInput "SecurityNotEnabled"
  | .auxSecHeaderAbsent => .badInput "AuxSecHeaderAbsent"

/-- `FooterMode`: whether the 2-byte footer is read and written with the frame. -/
inductive FooterMode where
  | none
  | explicit
deriving DecidableEq, Repr

instance : Inhabited FooterMode := ⟨.none⟩

/-- The bytes the footer takes on the wire in a footer mode. -/
def FooterMode.footerLen : FooterMode → Nat
  | .none => 0
  | .explicit => 2

/-- `FrameContent`, the body that follows the header; beacon and command bodies have the
types `B` and `C` of their (external) codecs. -/
inductive FrameContent (B C : Type) where
  | beacon (b : B)
  | data
  | acknowledgement
  | command (c : C)
deriving DecidableEq, Repr

/-- The frame type whose body a content is: `FrameContent::try_read` builds each variant
from one frame type. -/
def FrameContent.frameType {B C : Type} : FrameContent B C → FrameType
  | .beacon _ => .beacon
  | .data => .data
  | .acknowledgement => .acknowledgement
  | .command _ => .macCommand

/-- `Frame`: header, content, payload and the 2-byte footer. The payload is the slice of
the decoded buffer, kept here as its bytes. -/
structure Frame (B C : Type) where
  header : Header
  content : FrameContent B C
  payload : List UInt8
  footer : Mathlib.Vector UInt8 2
deriving DecidableEq

end Ieee802154
