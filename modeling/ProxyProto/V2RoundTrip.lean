import ProxyProto.V2Parse

/-!
# Formatting a version-2 header and parsing it back

`formatVersion2` lays a header out as the signature, the command and transport
bytes, the big-endian length and a payload; `parseVersion2` reads that layout.
For every header of the protocol's data model (`Header.WellFormedV2`), the
parse of the formatted bytes followed by anything gives the header back, with
its IPs compared as addresses, and leaves what followed unread.

## Implementation notes

`formatVersion2_ok` says once what the formatter writes for a well-formed header:
the fixed prefix and a payload whose `v2Header` equals the header. The round trip
is then the parser's characterisation applied to that prefix.
-/

namespace ProxyProto

open AddressFamilyAndProtocol ProtocolVersionAndCommand

/-! ### Comparing headers -/

/-- Two addresses naming the same endpoint, IPs compared with `net.IP.Equal`. -/
def Addr.equal : Addr → Addr → Bool
  | .tcp a p, .tcp b q => a.equal b && p == q
  | .udp a p, .udp b q => a.equal b && p == q
  | .unix n a, .unix m b => n == m && a == b
  | _, _ => false

/-- Two optional addresses, both absent or naming the same endpoint. -/
def Addr.optEqual : Option Addr → Option Addr → Bool
  | none, none => true
  | some a, some b => a.equal b
  | _, _ => false

/-- Two headers with the same fields, addresses compared as endpoints. -/
def Header.equal (h h' : Header) : Bool :=
  h.version == h'.version && h.command == h'.command &&
    h.transportProtocol == h'.transportProtocol &&
    Addr.optEqual h.sourceAddr h'.sourceAddr && Addr.optEqual h.destinationAddr h'.destinationAddr &&
    h.rawTLVs == h'.rawTLVs

/-! ### The data model of a version-2 header -/

/-- The endpoints each transport carries: none for `UNSPEC`, a TCP or UDP
address (by socket type) with an IPv4 address for the IPv4 families and any
IP for the IPv6 ones, and NUL-free Unix names of at most 108 bytes. -/
inductive V2Endpoints : AddressFamilyAndProtocol → Option Addr → Option Addr → Prop
  | unspec : V2Endpoints UNSPEC none none
  | ipv4 {tp : AddressFamilyAndProtocol} {src dst : IP} {sp dp : Nat}
      (htp : tp = TCPv4 ∨ tp = UDPv4) (hsrc : src.to4.isSome) (hdst : dst.to4.isSome)
      (hsp : sp < 65536) (hdp : dp < 65536) :
      V2Endpoints tp (newIPAddr tp src sp) (newIPAddr tp dst dp)
  | ipv6 {tp : AddressFamilyAndProtocol} {src dst : IP} {sp dp : Nat}
      (htp : tp = TCPv6 ∨ tp = UDPv6) (hsrc : src.to16.isSome) (hdst : dst.to16.isSome)
      (hsp : sp < 65536) (hdp : dp < 65536) :
      V2Endpoints tp (newIPAddr tp src sp) (newIPAddr tp dst dp)
  | unix {tp : AddressFamilyAndProtocol} {net : String} {src dst : Bytes}
      (htp : tp = UnixStream ∧ net = "unix" ∨ tp = UnixDatagram ∧ net = "unixgram")
      (hsrc : src.length ≤ 108) (hdst : dst.length ≤ 108) (hsrc0 : 0 ∉ src) (hdst0 : 0 ∉ dst) :
      V2Endpoints tp (some (.unix net src)) (some (.unix net dst))

/-- A version-2 header of the data model whose length fits the 16-bit field. -/
def Header.WellFormedV2 (h : Header) : Prop :=
  h.version = 2 ∧ (h.command = LOCAL ∨ h.command = PROXY) ∧
    (h.transportProtocol = UNSPEC → h.command = LOCAL) ∧
    V2Endpoints h.transportProtocol h.sourceAddr h.destinationAddr ∧
    addressBlockSize h.transportProtocol + h.rawTLVs.length ≤ 65535

/-! ### The pieces the formatter writes -/

theorem be16At_append {a b : Bytes} {i : Nat} (h : a.length ≤ i) :
    be16At (a ++ b) i = be16At b (i - a.length) := by
  simp only [be16At, List.getD_eq_getElem?_getD, List.getElem?_append_right h,
    List.getElem?_append_right (show a.length ≤ i + 1 by omega)]
  congr 3; omega

theorem be16At_putUint16 (v : Nat) (r : Bytes) : be16At (putUint16 v ++ r) 0 = v % 65536 :=
  be16_putUint16 v

theorem IP.to4_length {ip x : IP} (h : ip.to4 = some x) : x.bytes.length = 4 := by
  unfold IP.to4 at h
  split_ifs at h with h4 h16 <;> cases h
  · exact h4
  · simp [h16.1]

theorem IP.to16_length {ip x : IP} (h : ip.to16 = some x) : x.bytes.length = 16 := by
  unfold IP.to16 at h
  split_ifs at h with h4 h16 <;> cases h
  · simp [h4, IP.v4InV6Prefix]
  · exact h16

/-- `To4` keeps the address: its result is `Equal` to the IP it came from. -/
theorem IP.equal_of_to4 {ip x : IP} (h : ip.to4 = some x) : x.equal ip := by
  unfold IP.to4 at h
  split_ifs at h with h4 h16 <;> cases h
  · exact IP.equal_refl ip
  · have : (ip.bytes.drop 12).length = 4 := by simp [h16.1]
    simp [IP.equal, this, h16.1, h16.2]

/-- `To16` keeps the address. -/
theorem IP.equal_of_to16 {ip x : IP} (h : ip.to16 = some x) : x.equal ip := by
  unfold IP.to16 at h
  split_ifs at h with h4 h16 <;> cases h
  · simp [IP.equal, h4, IP.v4InV6Prefix]
  · exact IP.equal_refl ip

theorem length_formatUnixNameZeroCopy (name : Bytes) :
    (formatUnixNameZeroCopy name).length = 108 := by
  simp [formatUnixNameZeroCopy]; omega

/-- A NUL-free name of at most 108 bytes survives the zero-padded field. -/
theorem parseUnixName_formatUnixNameZeroCopy {name : Bytes} (h : name.length ≤ 108) (h0 : 0 ∉ name) :
    parseUnixName (formatUnixNameZeroCopy name) = name := by
  have hne : ∀ a ∈ name, (a != 0) = true := fun a ha => by
    simpa using fun (h : a = 0) => h0 (h ▸ ha)
  rw [parseUnixName, formatUnixNameZeroCopy, List.take_of_length_le h, List.takeWhile_append_of_pos hne]
  cases 108 - name.length <;> simp [List.replicate_succ]

/-- The length an address-carrying family writes, or the overflow it refuses. -/
theorem familyLength_eq {base n : Nat} (hb : base ≤ 65535) :
    familyLength base n = if 65535 < base + n then .error .uint16Overflow else .ok (base + n) := by
  unfold familyLength
  split_ifs <;> first | rfl | omega | simp [show n = 0 by omega]

theorem familyLength_ok {base n : Nat} (h : base + n ≤ 65535) : familyLength base n = .ok (base + n) := by
  rw [familyLength_eq (by omega), if_neg (by omega)]

theorem toByte_of_supported {c : ProtocolVersionAndCommand} (h : c = LOCAL ∨ c = PROXY) :
    c.toByte = c.val := by
  rcases h with rfl | rfl <;> rfl

theorem ips_ports_newIPAddr {tp : AddressFamilyAndProtocol} (htp : tp.isStream ∨ tp.isDatagram)
    (v : UInt8) (c : ProtocolVersionAndCommand) (src dst : IP) (sp dp : Nat) (tlvs : Bytes) :
    Header.ips ⟨v, c, tp, newIPAddr tp src sp, newIPAddr tp dst dp, tlvs⟩ = some (src, dst) ∧
    Header.ports ⟨v, c, tp, newIPAddr tp src sp, newIPAddr tp dst dp, tlvs⟩ = some ((sp : Int), (dp : Int)) := by
  unfold Header.ips Header.ports newIPAddr
  by_cases hst : tp.isStream <;> simp_all

theorem optEqual_newIPAddr {tp : AddressFamilyAndProtocol} {x ip : IP} (hx : x.equal ip) (p : Nat) :
    Addr.optEqual (newIPAddr tp x p) (newIPAddr tp ip p) := by
  unfold newIPAddr
  split_ifs <;> simp [Addr.optEqual, Addr.equal, hx]

theorem uint16_natCast {n : Nat} (h : n < 65536) : uint16 n = n := by
  simp only [uint16]; omega

/-- What the formatter writes for a header of the data model: the fixed prefix,
then a payload whose header is the one formatted. -/
theorem formatVersion2_ok {h : Header} (hwf : h.WellFormedV2) :
    ∃ payload : Bytes,
      formatVersion2 h =
        .ok (SIGV2 ++ [h.command.val, h.transportProtocol.val] ++ putUint16 payload.length ++ payload) ∧
      payload.length = addressBlockSize h.transportProtocol + h.rawTLVs.length ∧
      (v2Header h.command.val h.transportProtocol.val payload).equal h := by
  obtain ⟨v, c, tp, src, dst, tlvs⟩ := h
  obtain ⟨hv, hc, hun, hep, hlen⟩ := hwf
  dsimp only at hv hc hun hep hlen ⊢
  subst hv
  cases hep with
  | unspec =>
    refine ⟨tlvs, ?_, by simp [addressBlockSize], ?_⟩
    · simp [formatVersion2, toByte_of_supported hc, isIPv4, isIPv6, isUnix, show UNSPEC.toByte = UNSPEC.val from rfl,
        Nat.mod_eq_of_lt (show tlvs.length < 65536 by simp [addressBlockSize] at hlen; omega)]
    · simp [v2Header, v2Addresses, addressBlockSize, Header.equal, Addr.optEqual]
  | @ipv4 _ src dst sp dp htp hsrc hdst hsp hdp =>
    obtain ⟨s4, hs4⟩ := Option.isSome_iff_exists.mp hsrc
    obtain ⟨d4, hd4⟩ := Option.isSome_iff_exists.mp hdst
    have hl := IP.to4_length hs4
    have hl' := IP.to4_length hd4
    have htp' : tp.isIPv4 ∧ (tp.isStream ∨ tp.isDatagram) ∧ tp ≠ UNSPEC := by
      rcases htp with rfl | rfl <;> decide
    have hipp := ips_ports_newIPAddr htp'.2.1
    have htb : tp.toByte = tp.val := by rcases htp with rfl | rfl <;> rfl
    have hfix : addressBlockSize tp = 12 := by simp [addressBlockSize, htp'.1, htp'.2.2, lengthV4]
    refine ⟨s4.bytes ++ d4.bytes ++ putUint16 sp ++ putUint16 dp ++ tlvs, ?_, ?_, ?_⟩
    · simp [formatVersion2, toByte_of_supported hc, htb, htp'.1, hipp, hs4, hd4, portBytes,
        familyLength_ok (show lengthV4 + tlvs.length ≤ 65535 by simp [hfix, lengthV4] at hlen ⊢; omega),
        uint16_natCast hsp, uint16_natCast hdp, hl, hl']
      congr 1; simp only [lengthV4]; omega
    · simp [hfix, hl, hl']; omega
    · simp [v2Header, v2Addresses, addr4, hfix, htp'.1, htp'.2.2, slice, be16At_append,
        List.drop_append_eq_append_drop, List.take_append_eq_append_take, hl, hl',
        List.take_of_length_le, be16At_putUint16, Nat.mod_eq_of_lt hsp, Nat.mod_eq_of_lt hdp,
        List.drop_eq_nil_of_le, Header.equal, optEqual_newIPAddr (IP.equal_of_to4 hs4),
        optEqual_newIPAddr (IP.equal_of_to4 hd4)]
  | @ipv6 _ src dst sp dp htp hsrc hdst hsp hdp =>
    obtain ⟨s16, hs16⟩ := Option.isSome_iff_exists.mp hsrc
    obtain ⟨d16, hd16⟩ := Option.isSome_iff_exists.mp hdst
    have hl := IP.to16_length hs16
    have hl' := IP.to16_length hd16
    have htp' : tp.isIPv6 ∧ ¬ tp.isIPv4 ∧ (tp.isStream ∨ tp.isDatagram) ∧ tp ≠ UNSPEC := by
      rcases htp with rfl | rfl <;> decide
    have hipp := ips_ports_newIPAddr htp'.2.2.1
    have htb : tp.toByte = tp.val := by rcases htp with rfl | rfl <;> rfl
    have hfix : addressBlockSize tp = 36 := by
      simp [addressBlockSize, htp'.1, htp'.2.1, htp'.2.2.2, lengthV6]
    refine ⟨s16.bytes ++ d16.bytes ++ putUint16 sp ++ putUint16 dp ++ tlvs, ?_, ?_, ?_⟩
    · simp [formatVersion2, toByte_of_supported hc, htb, htp'.1, htp'.2.1, hipp, hs16, hd16, portBytes,
        familyLength_ok (show lengthV6 + tlvs.length ≤ 65535 by simp [hfix, lengthV6] at hlen ⊢; omega),
        uint16_natCast hsp, uint16_natCast hdp, hl, hl']
      congr 1; simp only [lengthV6]; omega
    · simp [hfix, hl, hl']; omega
    · simp [v2Header, v2Addresses, addr6, hfix, htp'.1, htp'.2.1, htp'.2.2.2, slice, be16At_append,
        List.drop_append_eq_append_drop, List.take_append_eq_append_take, hl, hl',
        List.take_of_length_le, be16At_putUint16, Nat.mod_eq_of_lt hsp, Nat.mod_eq_of_lt hdp,
        List.drop_eq_nil_of_le, Header.equal, optEqual_newIPAddr (IP.equal_of_to16 hs16),
        optEqual_newIPAddr (IP.equal_of_to16 hd16)]
  | @unix _ net src dst htp hsrc hdst hsrc0 hdst0 =>
    have htp' : tp.isUnix ∧ ¬ tp.isIPv4 ∧ ¬ tp.isIPv6 ∧ tp ≠ UNSPEC ∧
        net = (if tp.isDatagram then "unixgram" else "unix") := by
      rcases htp with ⟨rfl, rfl⟩ | ⟨rfl, rfl⟩ <;> decide
    have hfix : addressBlockSize tp = 216 := by
      simp [addressBlockSize, htp'.1, htp'.2.1, htp'.2.2.1, htp'.2.2.2.1, lengthUnix]
    have hl := length_formatUnixNameZeroCopy src
    have hl' := length_formatUnixNameZeroCopy dst
    have htb : tp.toByte = tp.val := by rcases htp with ⟨rfl, -⟩ | ⟨rfl, -⟩ <;> rfl
    refine ⟨formatUnixNameZeroCopy src ++ formatUnixNameZeroCopy dst ++ tlvs, ?_, ?_, ?_⟩
    · simp [formatVersion2, toByte_of_supported hc, htb, htp'.1, htp'.2.1, htp'.2.2.1, Header.unixAddrs,
        portBytes, Header.ports,
        familyLength_ok (show lengthUnix + tlvs.length ≤ 65535 by simp [hfix, lengthUnix] at hlen ⊢; omega),
        hl, hl']
      congr 1; simp only [lengthUnix]; omega
    · simp [hfix, hl, hl']; omega
    · simp [v2Header, v2Addresses, addrUnix, hfix, htp'.1, htp'.2.1, htp'.2.2.1, htp'.2.2.2.1, slice,
        List.drop_append_eq_append_drop, List.take_append_eq_append_take, hl, hl',
        List.take_of_length_le, List.drop_eq_nil_of_le, Header.equal, Addr.optEqual, Addr.equal,
        parseUnixName_formatUnixNameZeroCopy hsrc hsrc0, parseUnixName_formatUnixNameZeroCopy hdst hdst0]
      exact htp'.2.2.2.2.symm

/-! ### The round trip -/

theorem validateLength_of_endpoints {tp : AddressFamilyAndProtocol} {src dst : Option Addr} {L : Nat}
    (hep : V2Endpoints tp src dst) (h : addressBlockSize tp ≤ L) : validateLength tp L := by
  cases hep with
  | unspec => simp [validateLength, isIPv4, isIPv6, isUnix, isUnspec, lengthUnspec]
  | ipv4 htp => rcases htp with rfl | rfl <;> simpa [validateLength, addressBlockSize, isIPv4] using h
  | ipv6 htp => rcases htp with rfl | rfl <;> simpa [validateLength, addressBlockSize, isIPv4, isIPv6] using h
  | unix htp =>
    rcases htp with ⟨rfl, -⟩ | ⟨rfl, -⟩ <;>
      simpa [validateLength, addressBlockSize, isIPv4, isIPv6, isUnix] using h

theorem v2Prefix_format (c t : UInt8) (payload rest : Bytes) (hL : payload.length < 65536) :
    v2Prefix (SIGV2 ++ [c, t] ++ putUint16 payload.length ++ payload ++ rest) =
      some (c, t, payload.length, payload ++ rest) := by
  simp [v2Prefix, SIGV2, putUint16, be16_putUint16, Nat.mod_eq_of_lt hL]

/-- The formatter accepts `h`, and the parser reads its bytes, followed by
anything, back as `h` and leaves what followed. -/
def RoundTripsV2 (h : Header) : Prop :=
  ∃ bytes, formatVersion2 h = .ok bytes ∧
    ∀ (rest : Bytes) (b : BufReader) (s : Socket), s.Live → b.Good → b.data s = bytes ++ rest →
      addressBlockSize h.transportProtocol + h.rawTLVs.length ≤ b.size →
      ∃ h' b' s', parseVersion2 b s = (.ok h', b', s') ∧ h'.equal h ∧ b'.data s' = rest

theorem formatVersion2_round_trip {h : Header} (hwf : h.WellFormedV2) : RoundTripsV2 h := by
  obtain ⟨payload, hfmt, hlen, heq⟩ := formatVersion2_ok hwf
  refine ⟨_, hfmt, fun rest b s hs hb hd hsize => ?_⟩
  obtain ⟨-, hc, hun, hep, hfit⟩ := hwf
  have hpre := v2Prefix_format h.command.val h.transportProtocol.val payload rest (by omega)
  rw [← hd] at hpre
  have hacc : V2Accepts (b.data s) := by
    refine ⟨_, _, _, _, hpre, ?_, ?_, ?_, by simp⟩
    · rcases hc with hc | hc <;> simp [hc] <;> rfl
    · simpa using hun
    · simpa [hlen] using validateLength_of_endpoints hep (Nat.le_add_right _ _)
  obtain ⟨h', b', s', hp⟩ := parseVersion2_live hs hb hacc (by simp [v2Length, hpre]; omega)
  obtain ⟨-, c', t', L', rest', hpre', hh, hd'⟩ := parseVersion2_ok hp
  rw [hpre] at hpre'
  obtain ⟨rfl, rfl, rfl, rfl⟩ : _ = c' ∧ _ = t' ∧ _ = L' ∧ _ = rest' := by simpa using hpre'
  refine ⟨h', b', s', hp, ?_, ?_⟩
  · rw [hh, List.take_left' rfl]; exact heq
  · rw [hd', List.drop_left' rfl]

/-- A TCP over IPv4 header carrying one TLV. -/
def tcp4Header : Header :=
  ⟨2, PROXY, TCPv4, newIPAddr TCPv4 ⟨[10, 0, 0, 1]⟩ 443, newIPAddr TCPv4 ⟨[10, 0, 0, 2]⟩ 8080,
    [0x01, 0x00, 0x01, 0x41]⟩

theorem formatVersion2_round_trip_tcp4 : tcp4Header.WellFormedV2 ∧ RoundTripsV2 tcp4Header :=
  have hwf : tcp4Header.WellFormedV2 :=
    ⟨rfl, .inr rfl, by decide, .ipv4 (.inl rfl) rfl rfl (by decide) (by decide), by decide⟩
  ⟨hwf, formatVersion2_round_trip hwf⟩

/-! ### The layout of every formatted header -/

/-- The fixed block, in the order the formatter tests the families. -/
theorem addressBlockSize_eq (tp : AddressFamilyAndProtocol) :
    addressBlockSize tp = if tp.isIPv4 then 12 else if tp.isIPv6 then 36 else if tp.isUnix then 216 else 0 := by
  by_cases h : tp = UNSPEC
  · subst h; rfl
  · simp [addressBlockSize, h, lengthV4, lengthV6, lengthUnix]

/-- Two IP endpoints come with their two ports. -/
theorem portBytes_length_of_ips {h : Header} (hip : h.ips.isSome) : (portBytes h).length = 4 := by
  obtain ⟨_, _, _, _ | (_ | _ | _), _ | (_ | _ | _), _⟩ := h <;>
    simp_all [Header.ips, Header.ports, portBytes]

/-- Two Unix endpoints come with no ports. -/
theorem portBytes_of_unixAddrs {h : Header} (hu : h.unixAddrs.isSome) : portBytes h = [] := by
  obtain ⟨_, _, _, _ | (_ | _ | _), _ | (_ | _ | _), _⟩ := h <;>
    simp_all [Header.unixAddrs, Header.ports, portBytes]

/-- Two endpoints converted to `k`-byte addresses, with their ports, fill `2 * k + 4` bytes. -/
theorem ipBlock_length {h : Header} {f : IP → Option IP} {k : Nat}
    (hf : ∀ {ip x : IP}, f ip = some x → x.bytes.length = k) {s d : IP}
    (hs : h.ips.bind (fun p => f p.1) = some s) (hd : h.ips.bind (fun p => f p.2) = some d) :
    (s.bytes ++ d.bytes ++ portBytes h).length = 2 * k + 4 := by
  obtain ⟨p, hp, hs⟩ := Option.bind_eq_some.1 hs
  obtain ⟨_, _, hd⟩ := Option.bind_eq_some.1 hd
  simp [hf hs, hf hd, portBytes_length_of_ips (show h.ips.isSome by simp [hp])]
  omega

/-- The branch of an IP family: the length fits, both endpoints convert, and the
converted addresses and the ports fill the family's block. -/
theorem formatIP_ok {base n : Nat} (hb : base ≤ 65535) {a b : Option IP} {pb pre tlvs out : Bytes}
    (h : (match familyLength base n, a, b with
      | .error e, _, _ => .error e
      | .ok _, none, _ | .ok _, _, none => .error .invalidAddress
      | .ok len, some src, some dst => .ok (pre ++ putUint16 len ++ src.bytes ++ dst.bytes ++ pb ++ tlvs) :
        Except Error Bytes) = .ok out)
    (hlen : ∀ s d, a = some s → b = some d → (s.bytes ++ d.bytes ++ pb).length = base) :
    ∃ block : Bytes, block.length = base ∧
      out = pre ++ putUint16 ((block.length + n) % 65536) ++ block ++ tlvs := by
  rw [familyLength_eq hb] at h
  split_ifs at h with ho
  rcases a with _ | s <;> rcases b with _ | d <;> cases h
  refine ⟨_, hlen s d rfl rfl, ?_⟩
  rw [hlen s d rfl rfl, Nat.mod_eq_of_lt (by omega)]
  simp

/-- What `formatVersion2` returns for every header: the prefix, a 16-bit length,
the family's fixed address block and the TLVs, with the length taken modulo
`2^16`. The address-carrying families refuse a length past 65535; the other
families write the TLV length truncated to 16 bits. -/
theorem formatVersion2_layout (h : Header) :
    (∀ out, formatVersion2 h = .ok out → ∃ block : Bytes,
      block.length = addressBlockSize h.transportProtocol ∧
      out = SIGV2 ++ [h.command.toByte, h.transportProtocol.toByte] ++
        putUint16 ((block.length + h.rawTLVs.length) % 65536) ++ block ++ h.rawTLVs) ∧
    ((h.transportProtocol.isIPv4 ∨ h.transportProtocol.isIPv6 ∨
        (h.transportProtocol.isUnix ∧ h.unixAddrs.isSome)) →
      65535 < addressBlockSize h.transportProtocol + h.rawTLVs.length →
      formatVersion2 h = .error .uint16Overflow) ∧
    (¬(h.transportProtocol.isIPv4 ∨ h.transportProtocol.isIPv6 ∨ h.transportProtocol.isUnix) →
      formatVersion2 h = .ok (SIGV2 ++ [h.command.toByte, h.transportProtocol.toByte] ++
        putUint16 (h.rawTLVs.length % 65536) ++ h.rawTLVs)) := by
  rw [addressBlockSize_eq]
  unfold formatVersion2
  cases h4 : h.transportProtocol.isIPv4
  case true =>
    simp only [h4, ↓reduceIte, true_or, forall_const, not_true_eq_false, false_imp_iff, and_true]
    refine ⟨fun out hout => formatIP_ok (by decide) hout fun _ _ => ipBlock_length (f := IP.to4) IP.to4_length, fun hov => ?_⟩
    rw [familyLength_eq (by decide), if_pos (by unfold lengthV4; omega)]
  cases h6 : h.transportProtocol.isIPv6
  case true =>
    simp only [h4, h6, ↓reduceIte, Bool.false_eq_true, true_or, or_true, forall_const,
      not_true_eq_false, false_imp_iff, and_true]
    refine ⟨fun out hout => formatIP_ok (by decide) hout fun _ _ => ipBlock_length (f := IP.to16) IP.to16_length, fun hov => ?_⟩
    rw [familyLength_eq (by decide), if_pos (by unfold lengthV6; omega)]
  cases hu : h.transportProtocol.isUnix
  case true =>
    simp only [h4, h6, hu, ↓reduceIte, Bool.false_eq_true, false_or, true_and, or_true,
      not_true_eq_false, false_imp_iff, and_true]
    rcases hua : h.unixAddrs with _ | ⟨⟨_, src⟩, ⟨_, dst⟩⟩
    · simp
    refine ⟨fun out hout => ?_, fun _ hov => ?_⟩
    · dsimp only at hout
      rw [familyLength_eq (by decide)] at hout
      split_ifs at hout with ho
      cases hout
      have hlen : (formatUnixNameZeroCopy src ++ formatUnixNameZeroCopy dst ++ portBytes h).length = 216 := by
        simp [portBytes_of_unixAddrs (show h.unixAddrs.isSome by simp [hua]), length_formatUnixNameZeroCopy]
      refine ⟨_, hlen, ?_⟩
      rw [hlen, Nat.mod_eq_of_lt (by unfold lengthUnix at ho; omega)]
      simp [lengthUnix]
    · dsimp only
      rw [familyLength_eq (by decide), if_pos (by unfold lengthUnix; omega)]
  -- a family with no address block writes the TLV length as it stands in 16 bits
  simp only [h4, h6, hu, ↓reduceIte, Bool.false_eq_true, false_or, false_and, and_false,
    false_imp_iff, not_false_eq_true, forall_const, true_and]
  refine ⟨fun out hout => ⟨[], rfl, ?_⟩, trivial⟩
  cases hout
  simp

end ProxyProto
