import ProxyProto.HeaderRead
import ProxyProto.V2RoundTrip

/-!
# Parsing a version-2 header and formatting it again

The other direction of the binary round trip: for which streams does
`formatVersion2`, given the header `Read` returned, write exactly the bytes `Read`
consumed? The parser keeps every byte of the fixed fields, the address block of
an IP family with a socket type, and the TLVs. The formatter writes the transport
byte through `toByte`, which keeps the six address-carrying transports and
`UNSPEC` and writes every other byte as `UNSPEC`; and it writes a Unix name
NUL-padded, where the parser drops the bytes after its first NUL. So the bytes
come back exactly when the transport byte is one `toByte` keeps and the Unix name
fields are NUL-padded (`V2Canonical`).

## Implementation notes

The payload is rebuilt piece by piece (`putUint16_be16At`, `slice_append_slice`,
`slice_zero_append_drop`), with one lemma per branch of `formatVersion2`.
-/

namespace ProxyProto

open AddressFamilyAndProtocol ProtocolVersionAndCommand

/-! ### Putting a payload back together -/

theorem slice_append_slice {p : Bytes} {i j k : Nat} (hij : i ≤ j) (hjk : j ≤ k) :
    slice p i j ++ slice p j k = slice p i k := by
  rw [slice, slice, slice, show k - i = (j - i) + (k - j) by omega, List.take_add, List.drop_drop,
    Nat.add_sub_cancel' hij]

theorem slice_zero_append_drop (p : Bytes) (n : Nat) : slice p 0 n ++ p.drop n = p := by
  simp [slice]

theorem putUint16_be16At {p : Bytes} {i : Nat} (h : i + 2 ≤ p.length) :
    putUint16 (be16At p i) = slice p i (i + 2) := by
  match hd : p.drop i, (show 2 ≤ (p.drop i).length by simp; omega) with
  | x :: y :: r, _ =>
    have hx : p.getD i 0 = x := by
      simpa [List.getD_eq_getElem?_getD, List.getElem?_drop] using congrArg (·.getD 0 0) hd
    have hy : p.getD (i + 1) 0 = y := by
      simpa [List.getD_eq_getElem?_getD, List.getElem?_drop] using congrArg (·.getD 1 0) hd
    rw [be16At, hx, hy, be16, putUint16_be16, slice, hd, Nat.add_sub_cancel_left]
    rfl

/-- The address block of an IP family, put back together from what the parser
reads out of it: two `k`-byte addresses and two big-endian ports. -/
theorem ipBlock_reassemble {p : Bytes} {k : Nat} (hp : 2 * k + 4 ≤ p.length) :
    slice p 0 k ++ slice p k (2 * k) ++ putUint16 (be16At p (2 * k)) ++ putUint16 (be16At p (2 * k + 2)) ++
      p.drop (2 * k + 4) = p := by
  rw [putUint16_be16At (by omega), putUint16_be16At (by omega), slice_append_slice (by omega) (by omega),
    slice_append_slice (by omega) (by omega), slice_append_slice (by omega) (by omega),
    show 2 * k + 2 + 2 = 2 * k + 4 by omega, slice_zero_append_drop]

/-! ### The payloads written back as read -/

/-- A Unix name field with nothing but NULs after its first NUL. -/
def NulPadded (f : Bytes) : Prop := ∀ x ∈ f.dropWhile (· != 0), x = 0

instance : DecidablePred NulPadded := fun f => inferInstanceAs (Decidable (∀ x ∈ f.dropWhile (· != 0), x = 0))

/-- The name the parser reads out of a 108-byte field, zero-padded again, is the
field exactly when the field is NUL-padded. -/
theorem formatUnixNameZeroCopy_parseUnixName {f : Bytes} (hf : f.length = 108) :
    formatUnixNameZeroCopy (parseUnixName f) = f ↔ NulPadded f := by
  have hsplit := List.takeWhile_append_dropWhile (· != 0) f
  have hlen := congrArg List.length hsplit
  rw [List.length_append, hf] at hlen
  rw [parseUnixName, formatUnixNameZeroCopy, List.take_of_length_le (by omega)]
  conv_lhs => rhs; rw [← hsplit]
  rw [List.append_cancel_left_eq, eq_comm, List.eq_replicate_iff]
  simp only [NulPadded, and_iff_right_iff_imp]
  intro; omega

example : ¬NulPadded [0x61, 0, 0x62, 0] := by decide

/-- The payloads `formatVersion2` writes back as read, with their transport: the
transport is an address-carrying one or `UNSPEC`, and each Unix name field is
NUL-padded. -/
def V2Canonical (tp : AddressFamilyAndProtocol) (payload : Bytes) : Prop :=
  (tp.AddressCarrying ∨ tp = UNSPEC) ∧
    (tp.isUnix = true → NulPadded (slice payload 0 108) ∧ NulPadded (slice payload 108 216))

instance (tp : AddressFamilyAndProtocol) (payload : Bytes) : Decidable (V2Canonical tp payload) :=
  inferInstanceAs (Decidable (_ ∧ _))

theorem be16At_lt (p : Bytes) (i : Nat) : be16At p i < 65536 := be16_lt _ _

theorem length_slice {p : Bytes} {i j : Nat} (h : j ≤ p.length) : (slice p i j).length = j - i := by
  rw [slice, List.length_take, List.length_drop]; omega

theorem IP.to4_mk {b : Bytes} (h : b.length = 4) : (⟨b⟩ : IP).to4 = some ⟨b⟩ := by
  simp [IP.to4, h]

theorem IP.to16_mk {b : Bytes} (h : b.length = 16) : (⟨b⟩ : IP).to16 = some ⟨b⟩ := by
  simp [IP.to16, h]

/-- Every output of `formatVersion2` opens with the signature, the command's byte
and the transport's byte. -/
theorem formatVersion2_head_bytes {h : Header} {out : Bytes} (hout : formatVersion2 h = .ok out) :
    ∃ rest, out = SIGV2 ++ [h.command.toByte, h.transportProtocol.toByte] ++ rest := by
  unfold formatVersion2 at hout
  dsimp only at hout
  split_ifs at hout <;> (try split at hout) <;> (try split at hout) <;> cases hout <;>
    exact ⟨_, by simp only [List.append_assoc]; rfl⟩

/-- A transport `toByte` keeps with an address family has a socket type. -/
theorem socketType_of_toByte {ap : AddressFamilyAndProtocol} (htb : ap.toByte = ap.val) (hne : ap ≠ UNSPEC) :
    ap.isStream ∨ ap.isDatagram := by
  rcases (toByte_eq_val_iff ap).1 htb with (h | h | h | h | h | h) | h <;> subst h <;> first | decide | exact absurd rfl hne

section

variable {c t : UInt8} {p : Bytes}

theorem command_of_supported (hc : (⟨c⟩ : ProtocolVersionAndCommand).supported) :
    (⟨c⟩ : ProtocolVersionAndCommand) = LOCAL ∨ (⟨c⟩ : ProtocolVersionAndCommand) = PROXY := by
  simpa [ProtocolVersionAndCommand.supported] using hc

theorem ne_unspec_of_ip (h : ((⟨t⟩ : AddressFamilyAndProtocol).isIPv4 || (⟨t⟩ : AddressFamilyAndProtocol).isIPv6 ||
    (⟨t⟩ : AddressFamilyAndProtocol).isUnix) = true) : (⟨t⟩ : AddressFamilyAndProtocol) ≠ UNSPEC := by
  rintro h0; rw [h0] at h; exact absurd h (by decide)

theorem isUnix_of_ip
    (h : ((⟨t⟩ : AddressFamilyAndProtocol).isIPv4 || (⟨t⟩ : AddressFamilyAndProtocol).isIPv6) = true) :
    (⟨t⟩ : AddressFamilyAndProtocol).isUnix = false := by
  simp only [AddressFamilyAndProtocol.isIPv4, AddressFamilyAndProtocol.isIPv6, Bool.or_eq_true, beq_iff_eq] at h
  simp only [AddressFamilyAndProtocol.isUnix, beq_eq_false_iff_ne]; omega

/-- An IPv4 payload with a transport `toByte` keeps is written back as read. -/
theorem formatVersion2_v2Header_ipv4 (hc : (⟨c⟩ : ProtocolVersionAndCommand).supported)
    (htb : (⟨t⟩ : AddressFamilyAndProtocol).toByte = t) (h4 : (⟨t⟩ : AddressFamilyAndProtocol).isIPv4)
    (hsd : (⟨t⟩ : AddressFamilyAndProtocol).isStream ∨ (⟨t⟩ : AddressFamilyAndProtocol).isDatagram)
    (hval : 12 ≤ p.length) (hL : p.length < 65536) :
    formatVersion2 (v2Header c t p) = .ok (SIGV2 ++ [c, t] ++ putUint16 p.length ++ p) := by
  obtain ⟨hips, hports⟩ := ips_ports_newIPAddr hsd 2 ⟨c⟩ ⟨slice p 0 4⟩ ⟨slice p 4 8⟩ (be16At p 8) (be16At p 10)
    (p.drop 12)
  have hblock := ipBlock_reassemble (p := p) (k := 4) (by omega)
  simp only [Nat.reduceMul, Nat.reduceAdd] at hblock
  simp only [v2Header, v2Addresses, addressBlockSize, if_neg (ne_unspec_of_ip (t := t) (by simp [h4])), h4, if_true,
    addr4, lengthV4, formatVersion2, hips, Option.bind,
    IP.to4_mk (show (slice p 0 4).length = 4 by rw [length_slice (by omega)]),
    IP.to4_mk (show (slice p 4 8).length = 4 by rw [length_slice (by omega)]),
    familyLength_ok (show 12 + (p.drop 12).length ≤ 65535 by rw [List.length_drop]; omega), portBytes, hports,
    uint16_natCast (be16At_lt p 8), uint16_natCast (be16At_lt p 10), toByte_of_supported (command_of_supported hc),
    htb]
  rw [show 12 + (p.drop 12).length = p.length by rw [List.length_drop]; omega]
  simp only [List.append_assoc] at hblock ⊢
  rw [hblock]

/-- An IPv6 payload with a transport `toByte` keeps is written back as read. -/
theorem formatVersion2_v2Header_ipv6 (hc : (⟨c⟩ : ProtocolVersionAndCommand).supported)
    (htb : (⟨t⟩ : AddressFamilyAndProtocol).toByte = t) (h6 : (⟨t⟩ : AddressFamilyAndProtocol).isIPv6)
    (hsd : (⟨t⟩ : AddressFamilyAndProtocol).isStream ∨ (⟨t⟩ : AddressFamilyAndProtocol).isDatagram)
    (hval : 36 ≤ p.length) (hL : p.length < 65536) :
    formatVersion2 (v2Header c t p) = .ok (SIGV2 ++ [c, t] ++ putUint16 p.length ++ p) := by
  have h4 : (⟨t⟩ : AddressFamilyAndProtocol).isIPv4 = false := by
    simp_all [AddressFamilyAndProtocol.isIPv4, AddressFamilyAndProtocol.isIPv6]
  obtain ⟨hips, hports⟩ := ips_ports_newIPAddr hsd 2 ⟨c⟩ ⟨slice p 0 16⟩ ⟨slice p 16 32⟩ (be16At p 32)
    (be16At p 34) (p.drop 36)
  have hblock := ipBlock_reassemble (p := p) (k := 16) (by omega)
  simp only [Nat.reduceMul, Nat.reduceAdd] at hblock
  simp only [v2Header, v2Addresses, addressBlockSize, if_neg (ne_unspec_of_ip (t := t) (by simp [h6])), h4, h6, if_true,
    if_false, Bool.false_eq_true, addr6, lengthV6, formatVersion2, hips, Option.bind,
    IP.to16_mk (show (slice p 0 16).length = 16 by rw [length_slice (by omega)]),
    IP.to16_mk (show (slice p 16 32).length = 16 by rw [length_slice (by omega)]),
    familyLength_ok (show 36 + (p.drop 36).length ≤ 65535 by rw [List.length_drop]; omega), portBytes, hports,
    uint16_natCast (be16At_lt p 32), uint16_natCast (be16At_lt p 34), toByte_of_supported (command_of_supported hc),
    htb]
  rw [show 36 + (p.drop 36).length = p.length by rw [List.length_drop]; omega]
  simp only [List.append_assoc] at hblock ⊢
  rw [hblock]


/-- A Unix payload with a transport `toByte` keeps is written back as read exactly
when both name fields are NUL-padded. -/
theorem formatVersion2_v2Header_unix (hc : (⟨c⟩ : ProtocolVersionAndCommand).supported)
    (htb : (⟨t⟩ : AddressFamilyAndProtocol).toByte = t) (hu : (⟨t⟩ : AddressFamilyAndProtocol).isUnix)
    (hval : 216 ≤ p.length) (hL : p.length < 65536) :
    formatVersion2 (v2Header c t p) = .ok (SIGV2 ++ [c, t] ++ putUint16 p.length ++ p) ↔
      NulPadded (slice p 0 108) ∧ NulPadded (slice p 108 216) := by
  have h46 : (⟨t⟩ : AddressFamilyAndProtocol).isIPv4 = false ∧ (⟨t⟩ : AddressFamilyAndProtocol).isIPv6 = false := by
    simp_all [AddressFamilyAndProtocol.isIPv4, AddressFamilyAndProtocol.isIPv6, AddressFamilyAndProtocol.isUnix]
  have hp : slice p 0 108 ++ (slice p 108 216 ++ p.drop 216) = p := by
    rw [← List.append_assoc, slice_append_slice (by omega) (by omega), slice_zero_append_drop]
  have hl1 : (slice p 0 108).length = 108 := by rw [length_slice (by omega)]
  have hl2 : (slice p 108 216).length = 108 := by rw [length_slice (by omega)]
  simp only [v2Header, v2Addresses, addressBlockSize, if_neg (ne_unspec_of_ip (t := t) (by simp [hu])), h46.1,
    h46.2, hu, if_true, Bool.false_eq_true, if_false, addrUnix, lengthUnix, formatVersion2, Header.unixAddrs,
    familyLength_ok (show 216 + (p.drop 216).length ≤ 65535 by rw [List.length_drop]; omega), portBytes, Header.ports,
    toByte_of_supported (command_of_supported hc), htb, List.append_nil, Except.ok.injEq]
  rw [show 216 + (p.drop 216).length = p.length by rw [List.length_drop]; omega]
  simp only [List.append_assoc, List.append_cancel_left_eq]
  rw [← Eq.congr_right hp]
  constructor
  · intro h
    obtain ⟨h1, h2⟩ := List.append_inj h (by rw [length_formatUnixNameZeroCopy, hl1])
    exact ⟨(formatUnixNameZeroCopy_parseUnixName hl1).1 h1,
      (formatUnixNameZeroCopy_parseUnixName hl2).1 (List.append_inj h2 (by rw [length_formatUnixNameZeroCopy, hl2])).1⟩
  · rintro ⟨h1, h2⟩
    rw [(formatUnixNameZeroCopy_parseUnixName hl1).2 h1, (formatUnixNameZeroCopy_parseUnixName hl2).2 h2]

/-- A payload of a family with no address block, with a transport `toByte` keeps,
is written back as read. -/
theorem formatVersion2_v2Header_other (hc : (⟨c⟩ : ProtocolVersionAndCommand).supported)
    (htb : (⟨t⟩ : AddressFamilyAndProtocol).toByte = t)
    (h : ¬((⟨t⟩ : AddressFamilyAndProtocol).isIPv4 || (⟨t⟩ : AddressFamilyAndProtocol).isIPv6 ||
      (⟨t⟩ : AddressFamilyAndProtocol).isUnix) = true) (hL : p.length < 65536) :
    formatVersion2 (v2Header c t p) = .ok (SIGV2 ++ [c, t] ++ putUint16 p.length ++ p) := by
  simp only [Bool.or_eq_true, not_or, Bool.not_eq_true] at h
  simp [v2Header, v2Addresses, addressBlockSize, formatVersion2, h.1.1, h.1.2, h.2, Nat.mod_eq_of_lt hL,
    toByte_of_supported (command_of_supported hc), htb]

/-- The header the parser builds from an accepted payload is written back as the
bytes the parser read exactly when the payload is canonical. -/
theorem formatVersion2_v2Header (hc : (⟨c⟩ : ProtocolVersionAndCommand).supported)
    (hval : validateLength ⟨t⟩ p.length) (hL : p.length < 65536) :
    formatVersion2 (v2Header c t p) = .ok (SIGV2 ++ [c, t] ++ putUint16 p.length ++ p) ↔
      V2Canonical ⟨t⟩ p := by
  have hsize := addressBlockSize_le hval
  rw [addressBlockSize_eq] at hsize
  by_cases htb : (⟨t⟩ : AddressFamilyAndProtocol).toByte = t
  swap
  · -- the formatter writes the transport byte as `toByte` leaves it
    refine iff_of_false (fun hout => htb ?_) fun h => htb ((toByte_eq_val_iff _).2 h.1)
    obtain ⟨rest, hrest⟩ := formatVersion2_head_bytes hout
    simp only [List.append_assoc, List.append_cancel_left_eq, List.cons_append, List.cons.injEq] at hrest
    exact hrest.2.1.symm
  have hcan : (⟨t⟩ : AddressFamilyAndProtocol).AddressCarrying ∨ (⟨t⟩ : AddressFamilyAndProtocol) = UNSPEC :=
    (toByte_eq_val_iff _).1 htb
  by_cases hip : ((⟨t⟩ : AddressFamilyAndProtocol).isIPv4 || (⟨t⟩ : AddressFamilyAndProtocol).isIPv6) = true
  · have hu := isUnix_of_ip hip
    have hsd := socketType_of_toByte htb (ne_unspec_of_ip (by simp [hip]))
    refine iff_of_true ?_ ⟨hcan, fun h => absurd h (by simp [hu])⟩
    cases h4 : (⟨t⟩ : AddressFamilyAndProtocol).isIPv4
    · have h6 : (⟨t⟩ : AddressFamilyAndProtocol).isIPv6 = true := by simpa [h4] using hip
      exact formatVersion2_v2Header_ipv6 hc htb h6 hsd (by simpa [h4, h6] using hsize) hL
    · exact formatVersion2_v2Header_ipv4 hc htb h4 hsd (by simpa [h4] using hsize) hL
  · by_cases hu : (⟨t⟩ : AddressFamilyAndProtocol).isUnix = true
    · have h46 : (⟨t⟩ : AddressFamilyAndProtocol).isIPv4 = false ∧
          (⟨t⟩ : AddressFamilyAndProtocol).isIPv6 = false := by
        simpa using hip
      rw [formatVersion2_v2Header_unix hc htb hu (by simpa [h46.1, h46.2, hu] using hsize) hL]
      exact ⟨fun h => ⟨hcan, fun _ => h⟩, fun h => h.2 hu⟩
    · exact iff_of_true (formatVersion2_v2Header_other hc htb (by simp_all) hL) ⟨hcan, fun h => absurd h hu⟩

end

/-- A version-2 header `Read` returns is written back by `formatVersion2` as exactly
the bytes `Read` consumed for it when and only when its transport is one `toByte`
writes as it is (an address-carrying transport or `UNSPEC`) and its Unix name
fields are NUL-padded. -/
theorem read_formatVersion2 {b b' : BufReader} {s s' : Socket} {h : Header}
    (hsig : (b.data s).take 12 = SIGV2) (hr : read b s = (.ok h, b', s')) :
    ∃ hdr, b.data s = hdr ++ b'.data s' ∧
      (formatVersion2 h = .ok hdr ↔ V2Canonical h.transportProtocol (hdr.drop 16)) := by
  obtain ⟨b1, s1, hd, -, ⟨e, hr'⟩ | ⟨h6, -⟩ | ⟨-, hr'⟩⟩ := read_cases b s
  · rw [hr'] at hr; cases hr
  · rw [show (b.data s).take 6 = ((b.data s).take 12).take 6 by rw [List.take_take]; rfl, hsig] at h6
    exact absurd h6 (by decide)
  rw [hr'] at hr
  obtain ⟨⟨c', t', L', rest', hpre', hsup, -, hval, hlen⟩, c, t, L, rest, hpre, rfl, hdata⟩ := parseVersion2_ok hr
  obtain ⟨rfl, rfl, rfl, rfl⟩ : c = c' ∧ t = t' ∧ L = L' ∧ rest = rest' := by simpa [hpre] using hpre'
  rw [hd] at hpre
  obtain ⟨hi, lo, hdrop, rfl⟩ := v2Prefix_eq_some.mp hpre
  have hlenP : (rest.take (be16 hi lo)).length = be16 hi lo := by simp; omega
  refine ⟨SIGV2 ++ [c, t] ++ putUint16 (rest.take (be16 hi lo)).length ++ rest.take (be16 hi lo), ?_, ?_⟩
  · rw [hdata, ← List.take_append_drop 12 (b.data s), hsig, hdrop, hlenP, be16, putUint16_be16]
    simp
  · rw [List.drop_left' (by simp)]
    exact formatVersion2_v2Header hsup (by rwa [hlenP]) (by rw [hlenP]; exact be16_lt hi lo)

/-- A connection that opens with a `PROXY` header over TCP4, from 10.0.0.1:443 to 10.0.0.2:8080. -/
def tcp4V2Socket : Socket :=
  ⟨[.data 0x0D (SIGV2.tail ++ [0x21, 0x11, 0x00, 0x0C, 10, 0, 0, 1, 10, 0, 0, 2, 0x01, 0xBB, 0x1F, 0x90])],
    0, 0, false, none, none⟩

theorem read_formatVersion2_tcp4 :
    ((BufReader.newReaderSize 4096).data tcp4V2Socket).take 12 = SIGV2 ∧
    ∃ hdr, (BufReader.newReaderSize 4096).data tcp4V2Socket = hdr ++ [] ∧
      (formatVersion2 ⟨2, PROXY, TCPv4, some (.tcp ⟨[10, 0, 0, 1]⟩ 443), some (.tcp ⟨[10, 0, 0, 2]⟩ 8080), []⟩ =
        .ok hdr ↔ V2Canonical TCPv4 (hdr.drop 16)) :=
  have hsig : ((BufReader.newReaderSize 4096).data tcp4V2Socket).take 12 = SIGV2 := by decide
  ⟨hsig, read_formatVersion2 hsig (show read _ _ = (.ok _, _, _) from rfl)⟩

end ProxyProto
