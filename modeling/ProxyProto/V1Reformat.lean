import ProxyProto.V1RoundTrip

/-!
# Parsing a text header and formatting it again

The text parser accepts a little more than the text format's data model: under
`TCP6` it takes an IPv4 address mapped into IPv6 (`::ffff:a.b.c.d`), which
`net.IP.String` then writes dotted. `V1Accepted` describes every header
`parseV1Line` returns. The formatter writes each of them, and the line it writes
reads back to an equal header exactly when no endpoint is such a mapped address,
which is exactly when the header is of the data model (`parseVersion1_reformat`).
-/

namespace ProxyProto

open AddressFamilyAndProtocol ProtocolVersionAndCommand

/-! ### What the address parsers return -/

/-- A `mapM` that succeeds returns one result per element. -/
theorem length_of_mapM_some {α β : Type} {f : α → Option β} :
    ∀ {l : List α} {r : List β}, l.mapM f = some r → r.length = l.length
  | [], _, h => by cases h; rfl
  | x :: l, r, h => by
    simp only [List.mapM_cons, Option.bind_eq_bind, Option.bind_eq_some, Option.pure_def, Option.some.injEq] at h
    obtain ⟨_, -, _, hl, rfl⟩ := h
    simp [length_of_mapM_some hl]

theorem parseIPv4_length {s b : Bytes} (h : parseIPv4 s = some b) : b.length = 4 := by
  unfold parseIPv4 at h
  split at h
  · exact length_of_mapM_some h
  · cases h

theorem parseIPv6_length {s : Bytes} {a : NetipAddr} (h : parseIPv6 s = some a) :
    a.is6 ∧ a.asSlice.length = 16 := by
  unfold parseIPv6 at h
  dsimp only at h
  split_ifs at h
  split at h
  · obtain ⟨b, -, h⟩ := Option.bind_eq_some.1 h
    split_ifs at h with h16
    cases h; exact ⟨rfl, h16⟩
  · obtain ⟨lb, -, h⟩ := Option.bind_eq_some.1 h
    obtain ⟨rb, -, h⟩ := Option.bind_eq_some.1 h
    split_ifs at h with hl
    cases h
    refine ⟨rfl, ?_⟩
    simp [NetipAddr.asSlice]; omega

theorem parseAddr_length {s : Bytes} {a : NetipAddr} (h : parseAddr s = some a) :
    a.asSlice.length = if a.is4 then 4 else 16 := by
  unfold parseAddr at h
  split at h
  · obtain ⟨b, hb, rfl⟩ := Option.map_eq_some'.1 h
    exact parseIPv4_length hb
  · obtain ⟨h6, hl⟩ := parseIPv6_length h
    rw [hl]; cases a <;> simp_all [NetipAddr.is6, NetipAddr.is4]
  · cases h

/-- The address `parseV1IPAddress` returns has the length of the family it was asked for. -/
theorem parseV1IPAddress_length {tp : AddressFamilyAndProtocol} {a : Bytes} {ip : IP}
    (h : parseV1IPAddress tp a = .ok ip) :
    tp = TCPv4 ∧ ip.bytes.length = 4 ∨ tp = TCPv6 ∧ ip.bytes.length = 16 := by
  unfold parseV1IPAddress at h
  split at h
  · cases h
  next addr ha =>
  have hl := parseAddr_length ha
  split_ifs at h with h4 h6 <;> cases h
  · rw [if_pos h4.2] at hl; exact .inl ⟨h4.1, hl⟩
  · cases addr <;> simp_all [NetipAddr.is4, NetipAddr.is6, NetipAddr.is4In6]

theorem parseV1PortNumber_range {p : Bytes} {n : Int} (h : parseV1PortNumber p = .ok n) :
    0 ≤ n ∧ n ≤ 65535 := by
  unfold parseV1PortNumber at h
  split at h
  · split_ifs at h with hr; cases h; omega
  · cases h

/-! ### The headers the parser returns -/

/-- The headers `parseV1Line` returns: `LOCAL` under `UNKNOWN`, and `PROXY` over
TCP between two addresses of the family's length, with ports in `0..65535`. -/
inductive V1Accepted : Header → Prop
  | unknown : V1Accepted ⟨1, LOCAL, UNSPEC, none, none, []⟩
  | tcp {tp : AddressFamilyAndProtocol} {src dst : IP} {sp dp : Int}
      (hfam : tp = TCPv4 ∧ src.bytes.length = 4 ∧ dst.bytes.length = 4 ∨
        tp = TCPv6 ∧ src.bytes.length = 16 ∧ dst.bytes.length = 16)
      (hsp : 0 ≤ sp ∧ sp ≤ 65535) (hdp : 0 ≤ dp ∧ dp ≤ 65535) :
      V1Accepted ⟨1, PROXY, tp, some (.tcp src sp), some (.tcp dst dp), []⟩

theorem parseV1Line_accepted {line : Bytes} {h : Header} (hp : parseV1Line line = .ok h) : V1Accepted h := by
  unfold parseV1Line at hp; dsimp only at hp
  split at hp; · cases hp
  split at hp; · cases hp
  split at hp; · cases hp
  split at hp; · cases hp
  split at hp
  next hU => cases hp; subst hU; exact .unknown
  obtain ⟨src, hs, hp⟩ := bind_eq_ok_inv hp
  obtain ⟨dst, hd, hp⟩ := bind_eq_ok_inv hp
  obtain ⟨sp, hsp, hp⟩ := bind_eq_ok_inv hp
  obtain ⟨dp, hdp, ⟨⟩⟩ := bind_eq_ok_inv hp
  refine .tcp ?_ (parseV1PortNumber_range hsp) (parseV1PortNumber_range hdp)
  rcases parseV1IPAddress_length hs with ⟨rfl, hls⟩ | ⟨rfl, hls⟩ <;>
    rcases parseV1IPAddress_length hd with ⟨h', hld⟩ | ⟨h', hld⟩
  all_goals first | exact absurd h' (by decide) | simp [hls, hld]

/-- An endpoint that is a TCP address `To4` converts: an IPv4 address, in four
bytes or mapped into sixteen, which `net.IP.String` writes dotted. -/
def Addr.mappedV4 : Option Addr → Bool
  | some (.tcp ip _) => ip.to4.isSome
  | _ => false

/-- Under `TCP6`, an endpoint with an IPv4 address mapped into IPv6. -/
def Header.carriesMappedV4 (h : Header) : Bool :=
  decide (h.transportProtocol = TCPv6) && (Addr.mappedV4 h.sourceAddr || Addr.mappedV4 h.destinationAddr)

/-! ### Formatting what was accepted -/

/-- `net.IP.String` of an IPv4 address in sixteen bytes is that of its four-byte form. -/
theorem IP.string_of_mapped {ip p : IP} (h : ip.bytes.length = 16) (h4 : ip.to4 = some p) : ip.string = p.string := by
  rw [IP.string_of_length4 (IP.to4_length h4)]
  simp [IP.string, h, h4]

theorem v1Text_string16 {ip : IP} (h : ip.bytes.length = 16) : V1Text ip.string := by
  rcases h4 : ip.to4 with _ | p
  · exact v1Text_string6 h h4
  · rw [IP.string_of_mapped h h4]; exact v1Text_string4 (IP.to4_length h4)

/-- Under `TCP6` the parser refuses what `net.IP.String` writes for a mapped address. -/
theorem parseV1IPAddress_mapped {ip p : IP} (h : ip.bytes.length = 16) (h4 : ip.to4 = some p) :
    parseV1IPAddress TCPv6 ip.string = .error .invalidAddress := by
  rw [parseV1IPAddress, IP.string_of_mapped h h4, IP.string_of_length4 (IP.to4_length h4),
    parseAddr_string4 (IP.to4_length h4)]
  rfl

/-- The line the formatter writes for an accepted TCP header: its addresses as they are. -/
theorem formatVersion1_accepted {tp : AddressFamilyAndProtocol} {src dst : IP}
    (hfam : tp = TCPv4 ∧ src.bytes.length = 4 ∧ dst.bytes.length = 4 ∨
      tp = TCPv6 ∧ src.bytes.length = 16 ∧ dst.bytes.length = 16) (sp dp : Int) :
    formatVersion1 ⟨1, PROXY, tp, some (.tcp src sp), some (.tcp dst dp), []⟩ =
      .ok (join 0x20 [SIGV1, if tp = TCPv4 then ascii "TCP4" else ascii "TCP6", src.string, dst.string,
        itoa sp, itoa dp] ++ [0x0D, 0x0A]) := by
  refine formatVersion1_tcp sp dp (hfam.imp And.left And.left) ?_ ?_ <;>
    rcases hfam with ⟨rfl, hs, hd⟩ | ⟨rfl, hs, hd⟩ <;>
      simp [IP.to4, IP.to16, hs, hd, show TCPv6 ≠ TCPv4 by decide]

namespace V1Accepted

variable {h : Header}

theorem formatVersion1_ok (ha : V1Accepted h) : ∃ line, formatVersion1 h = .ok line := by
  cases ha with
  | unknown => exact ⟨_, rfl⟩
  | tcp hfam => exact ⟨_, formatVersion1_accepted hfam _ _⟩

/-- An accepted header is of the data model exactly when it carries no mapped address. -/
theorem wellFormedV1_iff (ha : V1Accepted h) : h.WellFormedV1 ↔ h.carriesMappedV4 = false := by
  cases ha with
  | unknown => exact iff_of_true ⟨rfl, rfl, .unknown⟩ rfl
  | @tcp tp src dst sp dp hfam hsp hdp =>
    rcases hfam with ⟨rfl, hs, hd⟩ | ⟨rfl, hs, hd⟩
    · exact iff_of_true ⟨rfl, rfl, .tcp4 (by simp [IP.to4, hs]) (by simp [IP.to4, hd]) hsp hdp⟩ rfl
    · simp only [Header.carriesMappedV4, Addr.mappedV4, decide_True, Bool.true_and, Bool.or_eq_false_iff,
        Option.not_isSome, Option.isNone_iff_eq_none]
      constructor
      · rintro ⟨-, -, hep⟩
        cases hep with
        | tcp6 hs hd => exact ⟨hs.2, hd.2⟩
      · rintro ⟨hs4, hd4⟩
        exact ⟨rfl, rfl, .tcp6 ⟨hs, hs4⟩ ⟨hd, hd4⟩ hsp hdp⟩

/-- A mapped address written dotted under `TCP6` does not read back. -/
theorem not_roundTripsV1 (ha : V1Accepted h) (hm : h.carriesMappedV4 = true) : ¬RoundTripsV1 h := by
  rintro ⟨line, hfmt, hrt⟩
  obtain ⟨h', hp, -⟩ := hrt ⟨line ++ [], max 16 line.length, none, le_max_left _ _⟩ ⟨[], 0, 0, false, none, none⟩
    [] ⟨rfl, by simp⟩ rfl
  cases ha with
  | unknown => cases hm
  | @tcp tp src dst sp dp hfam hsp hdp =>
    rcases hfam with ⟨rfl, -, -⟩ | ⟨rfl, hs, hd⟩
    · cases hm
    rw [formatVersion1_accepted (.inr ⟨rfl, hs, hd⟩), if_neg (by decide)] at hfmt
    cases hfmt
    rw [parseVersion1_join (by decide) (v1Text_string16 hs) (v1Text_string16 hd) hsp hdp rfl,
      parseV1Line_join (show v1Transport (ascii "TCP6") = some TCPv6 from rfl) (by decide)
        (by simp [show (0x20 : UInt8) ∉ ascii "TCP6" by decide, (v1Text_string16 hs).1, (v1Text_string16 hd).1,
        (itoa_v1Text hsp).1.1, (itoa_v1Text hdp).1.1, SIGV1])] at hp
    simp only [Header.carriesMappedV4, Addr.mappedV4, decide_True, Bool.true_and, Bool.or_eq_true,
      Option.isSome_iff_exists] at hm
    rcases hm with ⟨p, h4⟩ | ⟨p, h4⟩
    · rw [parseV1IPAddress_mapped hs h4] at hp; cases hp
    · rcases hs4 : src.to4 with _ | q
      · rw [parseV1IPAddress_string6 hs hs4, parseV1IPAddress_mapped hd h4] at hp; cases hp
      · rw [parseV1IPAddress_mapped hs hs4] at hp; cases hp

end V1Accepted

/-- Every header the text parser returns is formatted without error; it is of
the data model exactly when no endpoint under `TCP6` is an IPv4 address mapped
into IPv6, and exactly then the formatted line reads back to an equal header. -/
theorem parseVersion1_reformat {b b' : BufReader} {s s' : Socket} {h : Header}
    (hp : parseVersion1 b s = (.ok h, b', s')) :
    (∃ line, formatVersion1 h = .ok line) ∧ (h.WellFormedV1 ↔ h.carriesMappedV4 = false) ∧
      (RoundTripsV1 h ↔ h.WellFormedV1) := by
  obtain ⟨l, hl, -, -⟩ := parseVersion1_ok hp
  have ha := parseV1Line_accepted hl
  refine ⟨ha.formatVersion1_ok, ha.wellFormedV1_iff, fun hrt => ha.wellFormedV1_iff.2 ?_, formatVersion1_round_trip⟩
  exact Bool.eq_false_iff.2 fun hm => ha.not_roundTripsV1 hm hrt

/-- The line of a `TCP6` header between two mapped addresses, which the parser accepts. -/
theorem parseVersion1_reformat_mappedTCP6 :
    parseVersion1 ⟨ascii "PROXY TCP6 ::ffff:10.1.1.1 ::ffff:10.1.1.2 1000 2000\r\n", 4096, none, by decide⟩
        ⟨[], 0, 0, false, none, none⟩ =
      (.ok mappedTCP6Header, ⟨[], 4096, none, by decide⟩, ⟨[], 0, 0, false, none, none⟩) ∧
    (∃ line, formatVersion1 mappedTCP6Header = .ok line) ∧
      (mappedTCP6Header.WellFormedV1 ↔ mappedTCP6Header.carriesMappedV4 = false) ∧
      (RoundTripsV1 mappedTCP6Header ↔ mappedTCP6Header.WellFormedV1) :=
  have hp : parseVersion1 ⟨ascii "PROXY TCP6 ::ffff:10.1.1.1 ::ffff:10.1.1.2 1000 2000\r\n", 4096, none, by decide⟩
      ⟨[], 0, 0, false, none, none⟩ =
      (.ok mappedTCP6Header, ⟨[], 4096, none, by decide⟩, ⟨[], 0, 0, false, none, none⟩) := rfl
  ⟨hp, parseVersion1_reformat hp⟩

end ProxyProto
