import Mathlib.Data.List.Basic

/-!
# Bytes, errors and the header record

The values the codec and the connection wrapper pass around: byte strings, the
error values the package compares with `==`, the two signatures, the transport
and command bytes, the standard library's `net.IP` and `net.Addr`, and the
`Header` record itself.

## Implementation notes

Go's `[]byte` and `string` are both byte strings here; a nil and an empty slice
are the same list, since the code only ever asks for `len`. The accessors of the
transport and command bytes, the `Header` struct and its `IPs`/`Ports`/`UnixAddrs`
methods live in files of the repository that are not under `src/`; they are
modelled from the spec (§3, §4.1), each one saying so in its docstring.
-/

namespace ProxyProto

/-- Go's `[]byte` and `string`. -/
abbrev Bytes := List UInt8

/-- The error values the code returns and compares by identity. -/
inductive Error where
  /-- `io.EOF` -/
  | eof
  /-- `io.ErrUnexpectedEOF` -/
  | unexpectedEOF
  /-- `bufio.ErrBufferFull` -/
  | bufferFull
  /-- a `net.Error` whose `Timeout()` is true: a read deadline passed -/
  | timeout
  /-- `net.ErrClosed`: an operation on a closed socket -/
  | closed
  | noProxyProtocol
  | cantReadVersion1Header
  /-- `fmt.Errorf(ErrCantReadVersion1Header.Error()+": %v", err)`: a new error value -/
  | cantReadVersion1HeaderOf (cause : Error)
  | version1HeaderTooLong
  | lineMustEndWithCrlf
  | cantReadProtocolVersionAndCommand
  | cantReadAddressFamilyAndProtocol
  | unsupportedProtocolVersionAndCommand
  | unsupportedAddressFamilyAndProtocol
  | cantReadLength
  | invalidLength
  | invalidAddress
  | invalidPortNumber
  | uint16Overflow
  | superfluousProxyHeader
  | invalidUpstream
  | truncatedTLV
  /-- `JoinTLVs`'s `fmt.Errorf("proxyproto: cannot format TLV %v with length %d", ...)` -/
  | cannotFormatTLV (type : UInt8) (length : Nat)
  /-- any other error value, such as one a caller's validator returns -/
  | other (code : Nat)
  deriving DecidableEq, Repr

/-- `netErr, ok := err.(net.Error); ok && netErr.Timeout()`. -/
def Error.isTimeout : Error → Bool
  | .timeout => true
  | _ => false

/-- `SIGV1`, the five bytes `PROXY`. -/
def SIGV1 : Bytes := [0x50, 0x52, 0x4F, 0x58, 0x59]

/-- `SIGV2`, the twelve-byte binary signature. -/
def SIGV2 : Bytes := [0x0D, 0x0A, 0x0D, 0x0A, 0x00, 0x0D, 0x0A, 0x51, 0x55, 0x49, 0x54, 0x0A]

@[simp] theorem length_SIGV2 : SIGV2.length = 12 := rfl

/-- `binary.BigEndian.Uint16`. -/
def be16 (hi lo : UInt8) : Nat := hi.toNat * 256 + lo.toNat

/-- `binary.BigEndian.PutUint16(b, uint16(v))`. -/
def putUint16 (v : Nat) : Bytes := [UInt8.ofNat (v / 256), UInt8.ofNat v]

@[simp] theorem toNat_ofNat_UInt8 (n : Nat) : (UInt8.ofNat n).toNat = n % 256 := rfl

theorem toNat_lt_256 (x : UInt8) : x.toNat < 256 := x.toNat_lt_size

theorem be16_lt (hi lo : UInt8) : be16 hi lo < 65536 := by
  have := toNat_lt_256 hi; have := toNat_lt_256 lo
  simp only [be16]; omega

@[simp] theorem length_putUint16 (v : Nat) : (putUint16 v).length = 2 := rfl

/-- Writing a 16-bit value and reading it back gives the value modulo `2^16`. -/
theorem be16_putUint16 (v : Nat) :
    be16 (UInt8.ofNat (v / 256)) (UInt8.ofNat v) = v % 65536 := by
  simp only [be16, toNat_ofNat_UInt8]
  omega

/-- `AddressFamilyAndProtocol`, the transport byte: family in the high nibble,
socket type in the low one. -/
structure AddressFamilyAndProtocol where
  val : UInt8
  deriving DecidableEq, Repr

namespace AddressFamilyAndProtocol

def UNSPEC : AddressFamilyAndProtocol := ⟨0x00⟩
def TCPv4 : AddressFamilyAndProtocol := ⟨0x11⟩
def UDPv4 : AddressFamilyAndProtocol := ⟨0x12⟩
def TCPv6 : AddressFamilyAndProtocol := ⟨0x21⟩
def UDPv6 : AddressFamilyAndProtocol := ⟨0x22⟩
def UnixStream : AddressFamilyAndProtocol := ⟨0x31⟩
def UnixDatagram : AddressFamilyAndProtocol := ⟨0x32⟩

/-- Modelled from the spec: the address family, `AF` of `AF << 4 | PROTO` (§4.1). -/
def family (ap : AddressFamilyAndProtocol) : Nat := ap.val.toNat / 16

/-- Modelled from the spec: the socket type, `PROTO` of `AF << 4 | PROTO` (§4.1). -/
def protocol (ap : AddressFamilyAndProtocol) : Nat := ap.val.toNat % 16

/-- Modelled from the spec: `is_ipv4`, family `INET` (§4.1). -/
def isIPv4 (ap : AddressFamilyAndProtocol) : Bool := ap.family == 1
/-- Modelled from the spec: `is_ipv6`, family `INET6` (§4.1). -/
def isIPv6 (ap : AddressFamilyAndProtocol) : Bool := ap.family == 2
/-- Modelled from the spec: `is_unix`, family `UNIX` (§4.1). -/
def isUnix (ap : AddressFamilyAndProtocol) : Bool := ap.family == 3
/-- Modelled from the spec: `is_stream`, socket type `STREAM` (§4.1). -/
def isStream (ap : AddressFamilyAndProtocol) : Bool := ap.protocol == 1
/-- Modelled from the spec: `is_datagram`, socket type `DGRAM` (§4.1). -/
def isDatagram (ap : AddressFamilyAndProtocol) : Bool := ap.protocol == 2
/-- Modelled from the spec: `is_unspec`, an unspecified family or socket type
(glossary: "address family / protocol indicating the header carries no endpoint info"). -/
def isUnspec (ap : AddressFamilyAndProtocol) : Bool := ap.family == 0 || ap.protocol == 0

@[simp] theorem family_UNSPEC : UNSPEC.family = 0 := rfl
@[simp] theorem family_TCPv4 : TCPv4.family = 1 := rfl
@[simp] theorem family_UDPv4 : UDPv4.family = 1 := rfl
@[simp] theorem family_TCPv6 : TCPv6.family = 2 := rfl
@[simp] theorem family_UDPv6 : UDPv6.family = 2 := rfl
@[simp] theorem family_UnixStream : UnixStream.family = 3 := rfl
@[simp] theorem family_UnixDatagram : UnixDatagram.family = 3 := rfl
@[simp] theorem protocol_UNSPEC : UNSPEC.protocol = 0 := rfl
@[simp] theorem protocol_TCPv4 : TCPv4.protocol = 1 := rfl
@[simp] theorem protocol_UDPv4 : UDPv4.protocol = 2 := rfl
@[simp] theorem protocol_TCPv6 : TCPv6.protocol = 1 := rfl
@[simp] theorem protocol_UDPv6 : UDPv6.protocol = 2 := rfl
@[simp] theorem protocol_UnixStream : UnixStream.protocol = 1 := rfl
@[simp] theorem protocol_UnixDatagram : UnixDatagram.protocol = 2 := rfl

/-- `toByte` (header.go, not under src/): the transport byte written on the wire,
each address-carrying transport as itself and every other byte as `UNSPEC`. -/
def toByte (ap : AddressFamilyAndProtocol) : UInt8 :=
  if ap.isIPv4 && ap.isStream then TCPv4.val
  else if ap.isIPv4 && ap.isDatagram then UDPv4.val
  else if ap.isIPv6 && ap.isStream then TCPv6.val
  else if ap.isIPv6 && ap.isDatagram then UDPv6.val
  else if ap.isUnix && ap.isStream then UnixStream.val
  else if ap.isUnix && ap.isDatagram then UnixDatagram.val
  else UNSPEC.val

@[simp] theorem mk_val (ap : AddressFamilyAndProtocol) : (⟨ap.val⟩ : AddressFamilyAndProtocol) = ap := rfl

/-- The six transports that carry addresses. -/
def AddressCarrying (ap : AddressFamilyAndProtocol) : Prop :=
  ap = TCPv4 ∨ ap = UDPv4 ∨ ap = TCPv6 ∨ ap = UDPv6 ∨ ap = UnixStream ∨ ap = UnixDatagram

instance (ap : AddressFamilyAndProtocol) : Decidable ap.AddressCarrying :=
  inferInstanceAs (Decidable (_ ∨ _))

/-- The transports `toByte` writes as they are: the address-carrying ones and `UNSPEC`. -/
theorem toByte_eq_val_iff (ap : AddressFamilyAndProtocol) :
    ap.toByte = ap.val ↔ ap.AddressCarrying ∨ ap = UNSPEC := by
  constructor
  · intro h
    rw [← mk_val ap, ← h]
    unfold toByte
    -- the written byte depends only on the six transport tests
    cases ap.isIPv4 && ap.isStream <;> cases ap.isIPv4 && ap.isDatagram <;> cases ap.isIPv6 && ap.isStream <;>
      cases ap.isIPv6 && ap.isDatagram <;> cases ap.isUnix && ap.isStream <;> cases ap.isUnix && ap.isDatagram <;>
      decide
  · rintro ((h | h | h | h | h | h) | h) <;> rw [h] <;> rfl

end AddressFamilyAndProtocol

/-- `ProtocolVersionAndCommand`, the version-and-command byte. -/
structure ProtocolVersionAndCommand where
  val : UInt8
  deriving DecidableEq, Repr

namespace ProtocolVersionAndCommand

def LOCAL : ProtocolVersionAndCommand := ⟨0x20⟩
def PROXY : ProtocolVersionAndCommand := ⟨0x21⟩

/-- Modelled from the spec: the table `supportedCommand`, commands `LOCAL` and `PROXY` (§4.4). -/
def supported (c : ProtocolVersionAndCommand) : Bool := c == LOCAL || c == PROXY

/-- Modelled from the spec: `IsLocal` (§4.7, "unless command is `LOCAL`"). -/
def isLocal (c : ProtocolVersionAndCommand) : Bool := c == LOCAL

@[simp] theorem mk_val (c : ProtocolVersionAndCommand) : (⟨c.val⟩ : ProtocolVersionAndCommand) = c := rfl

/-- Modelled from the spec: `toByte`, `(version << 4) | command` with version 2 (§4.4). -/
def toByte (c : ProtocolVersionAndCommand) : UInt8 := 0x20 ||| (c.val &&& 0x0F)

end ProtocolVersionAndCommand

/-- `net.IP`; `none` stands for a nil slice where the code can produce one. -/
structure IP where
  bytes : Bytes
  deriving DecidableEq, Repr

namespace IP

/-- `v4InV6Prefix`. -/
def v4InV6Prefix : Bytes := [0, 0, 0, 0, 0, 0, 0, 0, 0, 0, 0xff, 0xff]

/-- `net.IP.To4`. -/
def to4 (ip : IP) : Option IP :=
  if ip.bytes.length = 4 then some ip
  else if ip.bytes.length = 16 ∧ ip.bytes.take 12 = v4InV6Prefix then some ⟨ip.bytes.drop 12⟩
  else none

/-- `net.IP.To16`. -/
def to16 (ip : IP) : Option IP :=
  if ip.bytes.length = 4 then some ⟨v4InV6Prefix ++ ip.bytes⟩
  else if ip.bytes.length = 16 then some ip
  else none

/-- `net.IP.Equal`: equal as addresses, a four-byte form equal to its mapped sixteen-byte form. -/
def equal (ip x : IP) : Bool :=
  if ip.bytes.length = x.bytes.length then ip.bytes == x.bytes
  else if ip.bytes.length = 4 ∧ x.bytes.length = 16 then
    x.bytes.take 12 == v4InV6Prefix && ip.bytes == x.bytes.drop 12
  else if ip.bytes.length = 16 ∧ x.bytes.length = 4 then
    ip.bytes.take 12 == v4InV6Prefix && ip.bytes.drop 12 == x.bytes
  else false

@[simp] theorem mk_bytes (ip : IP) : (⟨ip.bytes⟩ : IP) = ip := rfl

theorem equal_refl (ip : IP) : ip.equal ip = true := by simp [equal]

end IP

/-- `net.Addr` as the package builds and reads it: `*net.TCPAddr`, `*net.UDPAddr`
and `*net.UnixAddr`. -/
inductive Addr where
  | tcp (ip : IP) (port : Int)
  | udp (ip : IP) (port : Int)
  | unix (net : String) (name : Bytes)
  deriving DecidableEq, Repr

/-- Modelled from the spec: the header record (§3). -/
structure Header where
  version : UInt8
  command : ProtocolVersionAndCommand
  transportProtocol : AddressFamilyAndProtocol
  sourceAddr : Option Addr
  destinationAddr : Option Addr
  rawTLVs : Bytes
  deriving DecidableEq, Repr

namespace Header

/-- `IPs` (header.go, not under src/): the IPs of two TCP endpoints under a
stream transport (`TCPAddrs`) or of two UDP endpoints under a datagram one
(`UDPAddrs`). -/
def ips (h : Header) : Option (IP × IP) :=
  match h.sourceAddr, h.destinationAddr with
  | some (.tcp s _), some (.tcp d _) => if h.transportProtocol.isStream then some (s, d) else none
  | some (.udp s _), some (.udp d _) => if h.transportProtocol.isDatagram then some (s, d) else none
  | _, _ => none

/-- `Ports` (header.go, not under src/): the ports of the same endpoints as `IPs`. -/
def ports (h : Header) : Option (Int × Int) :=
  match h.sourceAddr, h.destinationAddr with
  | some (.tcp _ s), some (.tcp _ d) => if h.transportProtocol.isStream then some (s, d) else none
  | some (.udp _ s), some (.udp _ d) => if h.transportProtocol.isDatagram then some (s, d) else none
  | _, _ => none

/-- `UnixAddrs` (header.go, not under src/): the two Unix endpoints under a Unix transport. -/
def unixAddrs (h : Header) : Option ((String × Bytes) × (String × Bytes)) :=
  if h.transportProtocol.isUnix then
    match h.sourceAddr, h.destinationAddr with
    | some (.unix sn s), some (.unix dn d) => some ((sn, s), (dn, d))
    | _, _ => none
  else none

end Header

end ProxyProto
