import ProxyProto.Stream

/-!
# The binary header of version 2

`parseVersion2` reads the twelve signature bytes, the command, the transport,
the big-endian payload length, checks the length against the transport's
fixed address block, makes sure the whole payload is buffered with `Peek`, and
reads the addresses and the TLV bytes through a reader limited to the payload.
`formatVersion2` writes the same layout back.

## Implementation notes

`binary.Read` of `_addr4`, `_addr6` and `_addrUnix` is `io.ReadFull` of the
struct's size followed by a big-endian decode of its fields; `addr4`, `addr6`
and `addrUnix` are that decode. The `Header` under construction is built at
the end, from the fields read; `validateLength` reads only its transport.
-/

namespace ProxyProto

open AddressFamilyAndProtocol ProtocolVersionAndCommand

def lengthUnspec : Nat := 0
def lengthV4 : Nat := 12
def lengthV6 : Nat := 36
def lengthUnix : Nat := 216

/-- `binary.BigEndian.Uint16(b[i:])`. -/
def be16At (b : Bytes) (i : Nat) : Nat := be16 (b.getD i 0) (b.getD (i + 1) 0)

/-- `b[i:j]`. -/
def slice (b : Bytes) (i j : Nat) : Bytes := (b.drop i).take (j - i)

/-- `uint16(port)` of a Go `int`. -/
def uint16 (v : Int) : Nat := (v % 65536).toNat

/-- `newIPAddr`: a TCP address for a stream transport, a UDP one for a datagram
transport, and nil for any other. -/
def newIPAddr (transport : AddressFamilyAndProtocol) (ip : IP) (port : Nat) : Option Addr :=
  if transport.isStream then some (.tcp ip port)
  else if transport.isDatagram then some (.udp ip port)
  else none

/-- `parseUnixName`: the bytes before the first NUL, all of them if there is none. -/
def parseUnixName (b : Bytes) : Bytes := b.takeWhile (· != 0)

/-- `Header.validateLength`: at least the transport's fixed address block. -/
def validateLength (tp : AddressFamilyAndProtocol) (length : Nat) : Bool :=
  if tp.isIPv4 then lengthV4 ≤ length
  else if tp.isIPv6 then lengthV6 ≤ length
  else if tp.isUnix then lengthUnix ≤ length
  else if tp.isUnspec then lengthUnspec ≤ length
  else false

/-- `io.LimitedReader` over the buffered reader, with `N` bytes left. -/
def limitedRead (k : Nat) (st : Nat × BufReader × Socket) :
    (Bytes × Option Error) × (Nat × BufReader × Socket) :=
  if st.1 = 0 then (([], some .eof), st)
  else ((st.2.1.read (min k st.1) st.2.2).1,
    (st.1 - (st.2.1.read (min k st.1) st.2.2).1.1.length, (st.2.1.read (min k st.1) st.2.2).2))

/-- The loop over the signature: `n` calls of `ReadByte`. -/
def skipBytes : Nat → BufReader → Socket → Except Error Unit × BufReader × Socket
  | 0, b, s => (.ok (), b, s)
  | n + 1, b, s =>
    match b.readByte s with
    | (.error e, b, s) => (.error e, b, s)
    | (.ok _, b, s) => skipBytes n b s

/-- `_addr4` decoded: source and destination addresses and ports. -/
def addr4 (transport : AddressFamilyAndProtocol) (a : Bytes) : Option Addr × Option Addr :=
  (newIPAddr transport ⟨slice a 0 4⟩ (be16At a 8), newIPAddr transport ⟨slice a 4 8⟩ (be16At a 10))

/-- `_addr6` decoded. -/
def addr6 (transport : AddressFamilyAndProtocol) (a : Bytes) : Option Addr × Option Addr :=
  (newIPAddr transport ⟨slice a 0 16⟩ (be16At a 32), newIPAddr transport ⟨slice a 16 32⟩ (be16At a 34))

/-- `_addrUnix` decoded, with network `unixgram` for a datagram transport and `unix` otherwise. -/
def addrUnix (transport : AddressFamilyAndProtocol) (a : Bytes) : Option Addr × Option Addr :=
  let network := if transport.isDatagram then "unixgram" else "unix"
  (some (.unix network (parseUnixName (slice a 0 108))),
    some (.unix network (parseUnixName (slice a 108 216))))

/-- The address block of `parseVersion2`, read through the payload reader. -/
def readAddresses (tp : AddressFamilyAndProtocol) (st : Nat × BufReader × Socket) :
    Except Error (Option Addr × Option Addr) × (Nat × BufReader × Socket) :=
  if tp = UNSPEC then (.ok (none, none), st)
  else if tp.isIPv4 then
    match readFull limitedRead 12 st with
    | (.error _, st) => (.error .invalidAddress, st)
    | (.ok a, st) => (.ok (addr4 tp a), st)
  else if tp.isIPv6 then
    match readFull limitedRead 36 st with
    | (.error _, st) => (.error .invalidAddress, st)
    | (.ok a, st) => (.ok (addr6 tp a), st)
  else if tp.isUnix then
    match readFull limitedRead 216 st with
    | (.error _, st) => (.error .invalidAddress, st)
    | (.ok a, st) => (.ok (addrUnix tp a), st)
  else (.ok (none, none), st)

/-- The optional TLV vector: whatever the payload reader has left. A read of
nothing at all ends in `io.EOF`, which the code ignores, keeping the zeroed slice. -/
def readTLVs (st : Nat × BufReader × Socket) : Except Error Bytes × (Nat × BufReader × Socket) :=
  if 0 < st.1 then
    match readFull limitedRead st.1 st with
    | (.ok tlvs, st') => (.ok tlvs, st')
    | (.error .eof, st') => (.ok (List.replicate st.1 0), st')
    | (.error e, st') => (.error e, st')
  else (.ok [], st)

/-- The part of `parseVersion2` after the length: the length check, the `Peek`
that makes sure the whole payload is there, and the payload reads. -/
def readPayload (b13 b14 : UInt8) (length : Nat) (b : BufReader) (s : Socket) :
    Except Error Header × BufReader × Socket :=
  if !validateLength ⟨b14⟩ length then (.error .invalidLength, b, s) else
  if length = 0 then (.ok ⟨2, ⟨b13⟩, ⟨b14⟩, none, none, []⟩, b, s) else
  match b.peek length s with
  | ((_, some _), b, s) => (.error .invalidLength, b, s)
  | ((_, none), b, s) =>
  match readAddresses ⟨b14⟩ (length, b, s) with
  | (.error e, _, b, s) => (.error e, b, s)
  | (.ok (src, dst), st) =>
  match readTLVs st with
  | (.error e, _, b, s) => (.error e, b, s)
  | (.ok tlvs, _, b, s) => (.ok ⟨2, ⟨b13⟩, ⟨b14⟩, src, dst, tlvs⟩, b, s)

/-- `parseVersion2`. -/
def parseVersion2 (b : BufReader) (s : Socket) : Except Error Header × BufReader × Socket :=
  match skipBytes 12 b s with
  | (.error _, b, s) => (.error .cantReadProtocolVersionAndCommand, b, s)
  | (.ok (), b, s) =>
  match b.readByte s with
  | (.error _, b, s) => (.error .cantReadProtocolVersionAndCommand, b, s)
  | (.ok b13, b, s) =>
  if !(⟨b13⟩ : ProtocolVersionAndCommand).supported then
    (.error .unsupportedProtocolVersionAndCommand, b, s) else
  match b.readByte s with
  | (.error _, b, s) => (.error .cantReadAddressFamilyAndProtocol, b, s)
  | (.ok b14, b, s) =>
  if (⟨b14⟩ : AddressFamilyAndProtocol) = UNSPEC ∧ (⟨b13⟩ : ProtocolVersionAndCommand) ≠ LOCAL then
    (.error .unsupportedAddressFamilyAndProtocol, b, s) else
  match readFull BufReader.reader 2 (b, s) with
  | (.error _, b, s) => (.error .cantReadLength, b, s)
  | (.ok lengthBytes, b, s) => readPayload b13 b14 (be16At lengthBytes 0) b s

/-- `formatUnixNameZeroCopy`: the name copied into a 108-byte slice, the rest zeroed. -/
def formatUnixNameZeroCopy (name : Bytes) : Bytes :=
  name.take 108 ++ List.replicate (108 - name.length) 0

/-- The length field of an address-carrying family: the fixed block, plus the
TLVs when there are any, refused past `math.MaxUint16`. -/
def familyLength (base tlvLen : Nat) : Except Error Nat :=
  if 0 < tlvLen then
    if 65535 < base + tlvLen then .error .uint16Overflow else .ok (base + tlvLen)
  else .ok base

/-- The two ports, when `Ports()` finds them. -/
def portBytes (header : Header) : Bytes :=
  match header.ports with
  | some (sp, dp) => putUint16 (uint16 sp) ++ putUint16 (uint16 dp)
  | none => []

/-- `Header.formatVersion2`. -/
def formatVersion2 (header : Header) : Except Error Bytes :=
  let tp := header.transportProtocol
  let pre := SIGV2 ++ [header.command.toByte, tp.toByte]
  let tlvs := header.rawTLVs
  if tp.isIPv4 then
    match familyLength lengthV4 tlvs.length, header.ips.bind (fun p => p.1.to4),
      header.ips.bind (fun p => p.2.to4) with
    | .error e, _, _ => .error e
    | .ok _, none, _ | .ok _, _, none => .error .invalidAddress
    | .ok len, some src, some dst =>
      .ok (pre ++ putUint16 len ++ src.bytes ++ dst.bytes ++ portBytes header ++ tlvs)
  else if tp.isIPv6 then
    match familyLength lengthV6 tlvs.length, header.ips.bind (fun p => p.1.to16),
      header.ips.bind (fun p => p.2.to16) with
    | .error e, _, _ => .error e
    | .ok _, none, _ | .ok _, _, none => .error .invalidAddress
    | .ok len, some src, some dst =>
      .ok (pre ++ putUint16 len ++ src.bytes ++ dst.bytes ++ portBytes header ++ tlvs)
  else if tp.isUnix then
    match header.unixAddrs with
    | none => .error .invalidAddress
    | some ((_, src), (_, dst)) =>
      match familyLength lengthUnix tlvs.length with
      | .error e => .error e
      | .ok len =>
        .ok (pre ++ putUint16 len ++ formatUnixNameZeroCopy src ++ formatUnixNameZeroCopy dst ++
          portBytes header ++ tlvs)
  else
    .ok (pre ++ putUint16 (tlvs.length % 65536) ++ tlvs)

end ProxyProto
